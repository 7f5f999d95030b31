import Mathlib.Data.Fin.Tuple.Basic
import Mathlib.Data.List.OfFn

/-!
# Words in a byte buffer

A word of any width is written into a buffer byte by byte, with the lowest byte first (`writeLe`)
or last (`writeBe`). A `Reader` moves through a buffer and stops the program behind its end.

`Reads n r bs a` says that `r`, started at position `n` where the bytes `bs` lie, returns `a` and
stops behind them, whatever lies around them. `Reads.bind` reads a record field by field, and
`Reads.array` an array of records.
-/

namespace Dpdq.Lib

abbrev Byte := BitVec 8

abbrev Bytes := List Byte

/-! ## Words as bytes -/

/-- The low `n` bytes of a word, the lowest first. -/
def writeLe {w : Nat} : Nat → BitVec w → Bytes
  | 0, _ => []
  | n + 1, x => x.setWidth 8 :: writeLe n (x >>> 8)

/-- The low `n` bytes of a word, the lowest last. -/
def writeBe {w : Nat} (n : Nat) (x : BitVec w) : Bytes := (writeLe n x).reverse

/-- The word of bytes of which the lowest comes first. -/
def readLe (w : Nat) : Bytes → BitVec w
  | [] => 0
  | b :: bs => readLe w bs <<< 8 ||| b.setWidth w

@[simp] theorem length_writeLe {w : Nat} (n : Nat) (x : BitVec w) : (writeLe n x).length = n := by
  induction n generalizing x with
  | zero => rfl
  | succ n ih => rw [writeLe, List.length_cons, ih]

@[simp] theorem length_writeBe {w : Nat} (n : Nat) (x : BitVec w) : (writeBe n x).length = n := by
  rw [writeBe, List.length_reverse, length_writeLe]

theorem getLsbD_readLe_writeLe {w : Nat} (n : Nat) (x : BitVec w) {i : Nat} (hi : i < w) :
    (readLe w (writeLe n x)).getLsbD i = (decide (i < 8 * n) && x.getLsbD i) := by
  induction n generalizing x i with
  | zero => simp [writeLe, readLe]
  | succ n ih =>
    simp only [writeLe, readLe, BitVec.getLsbD_or, BitVec.getLsbD_shiftLeft,
      ih (x >>> 8) (Nat.sub_lt_of_lt hi), BitVec.getLsbD_setWidth, BitVec.getLsbD_ushiftRight]
    by_cases hLow : i < 8
    · have hWide : i < 8 * (n + 1) := by omega
      simp [hLow, hWide, hi]
    · have hBack : 8 + (i - 8) = i := by omega
      have hSame : i - 8 < 8 * n ↔ i < 8 * (n + 1) := by omega
      simp [hLow, hBack, hSame, hi]

theorem readLe_writeLe {w n : Nat} (x : BitVec w) (h : w ≤ 8 * n) : readLe w (writeLe n x) = x := by
  apply BitVec.eq_of_getLsbD_eq
  intro i hi
  rw [getLsbD_readLe_writeLe n x hi, decide_eq_true (hi.trans_le h), Bool.true_and]

/-! ## Readers -/

/-- A position in a buffer. -/
structure Iterator where
  bytes : Bytes
  current : Nat

/-- A program that reads from a buffer. -/
abbrev Reader := StateT Iterator Option

namespace Reader

variable {α β : Type}

def readByte : Reader Byte := fun i =>
  i.bytes[i.current]?.map fun b => (b, { i with current := i.current + 1 })

def readBytes : Nat → Reader Bytes
  | 0 => pure []
  | n + 1 => do
    let b ← readByte
    let bs ← readBytes n
    pure (b :: bs)

/-- A word of `n` bytes, the lowest first. -/
def readLeWord (w n : Nat) : Reader (BitVec w) := do
  let bs ← readBytes n
  pure (readLe w bs)

/-- A word of `n` bytes, the lowest last. -/
def readBeWord (w n : Nat) : Reader (BitVec w) := do
  let bs ← readBytes n
  pure (readLe w bs.reverse)

/-- Pass over `n` bytes. -/
def next (n : Nat) : Reader Unit := fun i =>
  if i.current + n ≤ i.bytes.length then some ((), { i with current := i.current + n }) else none

/-- Go back by one byte. -/
def prev : Reader Unit := fun i =>
  if 1 ≤ i.current then some ((), { i with current := i.current - 1 }) else none

/-- Go to position `n`. -/
def seek (n : Nat) : Reader Unit := fun i =>
  if n ≤ i.bytes.length then some ((), { i with current := n }) else none

/-- Read `n` times. -/
def readArray (r : Reader α) : (n : Nat) → Reader (Fin n → α)
  | 0 => pure Fin.elim0
  | n + 1 => do
    let a ← r
    let f ← readArray r n
    pure (Fin.cons a f)

end Reader

/-- At position `n` the reader finds the bytes `bs`, returns `a` and stops behind them. -/
def Reads {α : Type} (n : Nat) (r : Reader α) (bs : Bytes) (a : α) : Prop :=
  ∀ front back : Bytes, front.length = n →
    r ⟨front ++ bs ++ back, n⟩ = some (a, ⟨front ++ bs ++ back, n + bs.length⟩)

namespace Reads

variable {α β : Type} {n : Nat}

theorem pure (a : α) : Reads n (pure a) [] a := fun _ _ _ => rfl

theorem bind {r : Reader α} {f : α → Reader β} {bs cs : Bytes} {a : α} {b : β}
    (hr : Reads n r bs a) (hf : Reads (n + bs.length) (f a) cs b) :
    Reads n (r >>= f) (bs ++ cs) b := by
  intro front back hFront
  have hFirst := hr front (cs ++ back) hFront
  have hSecond := hf (front ++ bs) back (by rw [List.length_append, hFront])
  simp only [List.append_assoc] at hFirst hSecond ⊢
  show (r ⟨_, n⟩).bind (fun p => f p.1 p.2) = _
  rw [hFirst, Option.bind_some, hSecond, List.length_append, Nat.add_assoc]

/-- The last step of a reader. -/
theorem done {r : Reader α} {f : α → β} {bs : Bytes} {a : α} (hr : Reads n r bs a) :
    Reads n (r >>= fun x => Pure.pure (f x)) bs (f a) := by
  have hBind := hr.bind (f := fun x => Pure.pure (f x)) (pure (f a))
  rwa [List.append_nil] at hBind

theorem readByte (b : Byte) : Reads n Reader.readByte [b] b := by
  intro front back hFront
  subst hFront
  simp [Reader.readByte]

theorem readBytes (bs : Bytes) : Reads n (Reader.readBytes bs.length) bs bs := by
  induction bs generalizing n with
  | nil => exact pure []
  | cons b bs ih => exact (readByte b).bind ih.done

theorem readLeWord {w k : Nat} (x : BitVec w) (h : w ≤ 8 * k) :
    Reads n (Reader.readLeWord w k) (writeLe k x) x := by
  have hBytes := readBytes (n := n) (writeLe k x)
  rw [length_writeLe] at hBytes
  have hWord := hBytes.done (f := readLe w)
  rwa [readLe_writeLe x h] at hWord

theorem readBeWord {w k : Nat} (x : BitVec w) (h : w ≤ 8 * k) :
    Reads n (Reader.readBeWord w k) (writeBe k x) x := by
  have hBytes := readBytes (n := n) (writeBe k x)
  rw [length_writeBe] at hBytes
  have hWord := hBytes.done (f := fun bs => readLe w bs.reverse)
  rwa [writeBe, List.reverse_reverse, readLe_writeLe x h] at hWord

theorem map {r : Reader α} {bs : Bytes} {a : α} (hr : Reads n r bs a) (f : α → β) :
    Reads n (f <$> r) bs (f a) := by
  intro front back hFront
  show (r ⟨_, n⟩).bind (fun p => some (f p.1, p.2)) = _
  rw [hr front back hFront, Option.bind_some]

theorem next {bs : Bytes} {k : Nat} (h : bs.length = k) : Reads n (Reader.next k) bs () := by
  intro front back hFront
  subst h hFront
  simp [Reader.next]

/-- A position that was reached already. -/
theorem seek {m : Nat} (h : m = n) : Reads n (Reader.seek m) [] () := by
  intro front back hFront
  subst h hFront
  simp [Reader.seek]

/-- A byte that is read twice. -/
theorem reread {f : Byte → Byte → Reader α} {b : Byte} {bs : Bytes} {a : α}
    (hf : Reads (n + 1) (f b b) bs a) :
    Reads n (do
      let x ← Reader.readByte
      Reader.prev
      let y ← Reader.readByte
      f x y) (b :: bs) a := by
  intro front back hFront
  have hRest := hf (front ++ [b]) back (by rw [List.length_append, hFront, List.length_singleton])
  subst hFront
  have hAgain := readByte b front (bs ++ back) rfl
  simp only [List.append_assoc, List.cons_append, List.nil_append] at hRest hAgain ⊢
  show (Reader.readByte ⟨_, front.length⟩).bind (fun p => (Reader.prev p.2).bind fun q =>
    (Reader.readByte q.2).bind fun s => f p.1 s.1 s.2) = _
  rw [hAgain]
  show (Reader.readByte ⟨_, front.length⟩).bind (fun s => f b s.1 s.2) = _
  have hEnd : front.length + (b :: bs).length = front.length + 1 + bs.length := by
    rw [List.length_cons]
    omega
  rw [hAgain, hEnd]
  exact hRest

theorem array {r : Reader α} {w : α → Bytes} (hr : ∀ n a, Reads n r (w a) a) {k : Nat}
    (f : Fin k → α) : Reads n (Reader.readArray r k) ((List.ofFn f).flatMap w) f := by
  induction k generalizing n with
  | zero =>
    rw [Subsingleton.elim f Fin.elim0]
    exact pure _
  | succ k ih =>
    rw [List.ofFn_succ, List.flatMap_cons]
    have hRest := (ih (n := n + (w (f 0)).length) fun i => f i.succ).done
      (f := fun g => (Fin.cons (f 0) g : Fin (k + 1) → α))
    rw [show (Fin.cons (f 0) fun i => f i.succ : Fin (k + 1) → α) = f from Fin.cons_self_tail f]
      at hRest
    exact (hr n (f 0)).bind hRest

end Reads

end Dpdq.Lib
