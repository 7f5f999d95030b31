import Mathlib.Data.List.Basic
import Mathlib.Logic.Equiv.Prod

/-!
# Self-delimiting bit codecs

A `Codec α` writes a value as a string of bits and reads it back from the front of a
longer string. Both laws are fields, so a codec cannot be built without them:

* `decode_encode`: what was written is read back, and the rest is left untouched;
* `encode_decode`: only what could have been written is read.

`Codec.bits` is the big-endian codec of a `w`-bit word, and `Codec.prod` and `Codec.map`
build the codec of a record from those of its fields. `Codec.Sized` says how many bits a codec
takes.
-/

namespace Dpdq.Lib

/-- A bit string, first bit on the wire first. -/
abbrev Bits := List Bool

/-- A prefix codec: an encoder and a decoder that invert each other. -/
structure Codec (α : Type) where
  encode : α → Bits
  decode : Bits → Option (α × Bits)
  decode_encode : ∀ a rest, decode (encode a ++ rest) = some (a, rest)
  encode_decode : ∀ bs a rest, decode bs = some (a, rest) → bs = encode a ++ rest

namespace Codec

variable {α β : Type}

/-! ## Words -/

/-- The bits of a word, most significant first. -/
def encodeWord : (w : Nat) → BitVec w → Bits
  | 0, _ => []
  | w + 1, x => x.msb :: encodeWord w (x.setWidth w)

/-- Read a word of `w` bits, most significant first. -/
def decodeWord : (w : Nat) → Bits → Option (BitVec w × Bits)
  | 0, bs => some (0#0, bs)
  | _ + 1, [] => none
  | w + 1, b :: bs => (decodeWord w bs).map fun p => (BitVec.cons b p.1, p.2)

@[simp] theorem length_encodeWord (w : Nat) (x : BitVec w) : (encodeWord w x).length = w := by
  induction w with
  | zero => rfl
  | succ w ih => simp [encodeWord, ih]

theorem decodeWord_encodeWord (w : Nat) (x : BitVec w) (rest : Bits) :
    decodeWord w (encodeWord w x ++ rest) = some (x, rest) := by
  induction w with
  | zero => simp [encodeWord, decodeWord, BitVec.eq_nil x]
  | succ w ih =>
    simp only [encodeWord, List.cons_append, decodeWord, ih, Option.map_some]
    rw [BitVec.cons_msb_setWidth]

theorem encodeWord_cons (w : Nat) (b : Bool) (x : BitVec w) :
    encodeWord (w + 1) (BitVec.cons b x) = b :: encodeWord w x := by
  simp [encodeWord, BitVec.msb_cons, BitVec.setWidth_cons]

theorem encodeWord_decodeWord (w : Nat) (bs : Bits) (x : BitVec w) (rest : Bits)
    (h : decodeWord w bs = some (x, rest)) : bs = encodeWord w x ++ rest := by
  induction w generalizing bs with
  | zero => simp_all [encodeWord, decodeWord]
  | succ w ih =>
    cases bs with
    | nil => cases h
    | cons b bs =>
      simp only [decodeWord, Option.map_eq_some_iff, Prod.mk.injEq] at h
      obtain ⟨⟨y, tail⟩, hy, rfl, rfl⟩ := h
      rw [encodeWord_cons, List.cons_append, ← ih bs y hy]

/-- A word is read whenever there are enough bits. -/
theorem decodeWord_isSome {w : Nat} {bs : Bits} (h : w ≤ bs.length) : (decodeWord w bs).isSome := by
  induction w generalizing bs with
  | zero => rfl
  | succ w ih =>
    cases bs with
    | nil => simp at h
    | cons b bs =>
      simp only [decodeWord, Option.isSome_map]
      exact ih (by simpa using h)

/-- The big-endian codec of a `w`-bit word. -/
def bits (w : Nat) : Codec (BitVec w) where
  encode := encodeWord w
  decode := decodeWord w
  decode_encode := decodeWord_encodeWord w
  encode_decode := encodeWord_decodeWord w

/-! ## Records -/

/-- The codec of a pair: the first component, then the second. -/
def prod (c : Codec α) (d : Codec β) : Codec (α × β) where
  encode p := c.encode p.1 ++ d.encode p.2
  decode bs := (c.decode bs).bind fun p =>
    (d.decode p.2).map fun q => ((p.1, q.1), q.2)
  decode_encode p rest := by
    simp [List.append_assoc, c.decode_encode, d.decode_encode]
  encode_decode bs p rest h := by
    simp only [Option.bind_eq_some_iff, Option.map_eq_some_iff, Prod.mk.injEq] at h
    obtain ⟨⟨a, middle⟩, ha, ⟨b, tail⟩, hb, rfl, rfl⟩ := h
    rw [c.encode_decode bs a middle ha, d.encode_decode middle b tail hb, List.append_assoc]

/-- Transport a codec along a bijection, such as that between a record and its fields. -/
def map (c : Codec α) (e : α ≃ β) : Codec β where
  encode b := c.encode (e.symm b)
  decode bs := (c.decode bs).map fun p => (e p.1, p.2)
  decode_encode b rest := by simp [c.decode_encode]
  encode_decode bs b rest h := by
    simp only [Option.map_eq_some_iff, Prod.mk.injEq] at h
    obtain ⟨⟨a, tail⟩, ha, rfl, rfl⟩ := h
    simpa using c.encode_decode bs a tail ha

@[simp] theorem encode_prod (c : Codec α) (d : Codec β) (p : α × β) :
    (c.prod d).encode p = c.encode p.1 ++ d.encode p.2 := rfl

@[simp] theorem encode_map (c : Codec α) (e : α ≃ β) (b : β) :
    (c.map e).encode b = c.encode (e.symm b) := rfl

/-! ## Sizes -/

/-- A codec of `w` bits: every value takes that many, and any that many make a value. -/
structure Sized (c : Codec α) (w : Nat) : Prop where
  length_encode : ∀ a, (c.encode a).length = w
  decode_isSome : ∀ bs, w ≤ bs.length → (c.decode bs).isSome

theorem sized_bits (w : Nat) : (bits w).Sized w where
  length_encode := length_encodeWord w
  decode_isSome _ h := decodeWord_isSome h

theorem Sized.prod {c : Codec α} {d : Codec β} {v w : Nat} (hc : c.Sized v) (hd : d.Sized w) :
    (c.prod d).Sized (v + w) where
  length_encode p := by
    rw [encode_prod, List.length_append, hc.length_encode, hd.length_encode]
  decode_isSome bs h := by
    obtain ⟨⟨a, middle⟩, ha⟩ := Option.isSome_iff_exists.mp (hc.decode_isSome bs (by omega))
    have hMiddle : w ≤ middle.length := by
      rw [c.encode_decode bs a middle ha, List.length_append, hc.length_encode] at h
      omega
    obtain ⟨⟨b, rest⟩, hb⟩ := Option.isSome_iff_exists.mp (hd.decode_isSome middle hMiddle)
    simp [Codec.prod, ha, hb]

theorem Sized.map {c : Codec α} {w : Nat} (hc : c.Sized w) (e : α ≃ β) : (c.map e).Sized w where
  length_encode b := hc.length_encode (e.symm b)
  decode_isSome bs h := by
    simpa [Codec.map] using hc.decode_isSome bs h

/-- What follows enough bits does not matter. -/
theorem Sized.decode_append {c : Codec α} {w : Nat} (hc : c.Sized w) {bs : Bits}
    (h : w ≤ bs.length) (tail : Bits) :
    c.decode (bs ++ tail) = (c.decode bs).map fun p => (p.1, p.2 ++ tail) := by
  obtain ⟨⟨a, rest⟩, ha⟩ := Option.isSome_iff_exists.mp (hc.decode_isSome bs h)
  rw [ha, c.encode_decode bs a rest ha, List.append_assoc, c.decode_encode]
  rfl

/-- Reading fails exactly on what is too short. -/
theorem Sized.decode_eq_none_iff {c : Codec α} {w : Nat} (hc : c.Sized w) {bs : Bits} :
    c.decode bs = none ↔ bs.length < w := by
  constructor
  · intro h
    by_contra hLong
    have hSome := hc.decode_isSome bs (Nat.le_of_not_lt hLong)
    rw [h] at hSome
    cases hSome
  · intro hShort
    cases h : c.decode bs with
    | none => rfl
    | some p =>
      have hBits := c.encode_decode bs p.1 p.2 h
      have hLength := hc.length_encode p.1
      rw [hBits, List.length_append] at hShort
      omega

end Codec

end Dpdq.Lib
