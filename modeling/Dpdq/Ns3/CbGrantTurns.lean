import Dpdq.Lib.RoundRobin
import Dpdq.Ns3.CbReceiverListed
import Dpdq.Ns3.CbReceiverTick

/-!
# Turns of the grant scheduler

Under the round-robin policy a tick visits the candidates from the cursor on and grants the first one
that passes the budget tests, which makes it a round of `Dpdq.Lib.Round`. The cursor is a position in
a vector that is built anew for every tick. Where the vector is the same, the visit goes on behind the
message granted last (`turn_follows_of_unchanged`); where messages appear or disappear, it need not.

* `grants_pass_over_nobody`: the runs in which nobody is passed over.
* `newCandidate_passes_over`: a run in which a message is granted twice in a row because a new sender
  has come before it.
-/

namespace Dpdq.Ns3

open Dpdq.Lib

/-- The message that a GRANT packet is for. -/
def CbPacket.grantedKey (p : CbPacket) : RxKey := ⟨p.ch.dip, p.ch.pg, p.ch.dport⟩

variable {cfg : CbConfig}

namespace CbReceiver

/-- The position where the visit begins. -/
def rrStart (s : CbReceiver) (total : Nat) : Nat :=
  if s.grantRrCursor ≥ total then 0 else s.grantRrCursor

/-- The candidates in the order of the visit. -/
def visitOrder (s : CbReceiver) (order : List Nat) : List RxKey :=
  ((s.candidates order).map GrantCandidate.key).rotate (s.rrStart (s.candidates order).length)

def passesBudgets (cfg : CbConfig) (s : CbReceiver) (order : List Nat) (k : RxKey) : Bool :=
  (s.candidates order).any fun c => decide (c.key = k) && (s.trySelectCandidate cfg c).isSome

/-- A grant tick as a round. -/
def turn (cfg : CbConfig) (s : CbReceiver) (order : List Nat) : Round RxKey where
  order := s.visitOrder order
  passes := s.passesBudgets cfg order
  served := (s.creditGrantTick cfg order).2.map CbPacket.grantedKey

/-! ## The selection as a visit -/

variable {s : CbReceiver} {order : List Nat}

theorem rrStart_lt {total : Nat} (h : 0 < total) : s.rrStart total < total := by
  unfold rrStart
  split
  · exact h
  · omega

theorem rotate_getElem? {cs : List GrantCandidate} {start offset : Nat} (h : offset < cs.length) :
    (cs.rotate start)[offset]? = cs[(start + offset) % cs.length]? := by
  rw [List.getElem?_rotate h, Nat.add_comm]

/-- What the round-robin policy finds at a position of the visit. -/
def visited (cfg : CbConfig) (s : CbReceiver) (cs : List GrantCandidate) (start offset : Nat) :
    Option ((GrantCandidate × Nat × Nat) × Nat) :=
  ((cs.rotate start)[offset]?.bind (s.trySelectCandidate cfg)).map fun selected =>
    (selected, (start + offset + 1) % cs.length)

theorem findSome?_congr {α β : Type} {f g : α → Option β} {l : List α}
    (h : ∀ a ∈ l, f a = g a) : l.findSome? f = l.findSome? g := by
  induction l with
  | nil => rfl
  | cons a l ih =>
    have hTail := ih fun b hb => h b (List.mem_cons_of_mem a hb)
    rw [List.findSome?_cons, List.findSome?_cons, h a List.mem_cons_self, hTail]

theorem selectCandidate_rr (hRr : cfg.grantSchedPolicy = .rr) (cs : List GrantCandidate) :
    s.selectCandidate cfg cs =
      match (List.range cs.length).findSome? (s.visited cfg cs (s.rrStart cs.length)) with
      | none => (none, s.rrStart cs.length)
      | some (selected, next) => (some selected, next) := by
  have hFound : ((List.range cs.length).map fun offset =>
      (s.rrStart cs.length + offset) % cs.length).findSome? (fun i => do
        let selected ← s.trySelectCandidate cfg (← cs[i]?)
        return (selected, (i + 1) % cs.length)) =
      (List.range cs.length).findSome? (s.visited cfg cs (s.rrStart cs.length)) := by
    rw [List.findSome?_map]
    apply findSome?_congr
    intro offset hOffset
    have hBound := List.mem_range.mp hOffset
    unfold visited
    rw [rotate_getElem? hBound]
    dsimp only [Function.comp]
    cases hAt : cs[(s.rrStart cs.length + offset) % cs.length]? with
    | none => rfl
    | some c =>
      cases hTry : s.trySelectCandidate cfg c with
      | none => simp [hTry]
      | some selected => simp [hTry, Nat.mod_add_mod]
  rw [← hFound]
  unfold selectCandidate rrStart
  cases hPolicy : cfg.grantSchedPolicy with
  | srpt =>
    rw [hPolicy] at hRr
    cases hRr
  | rr => rfl

/-- The visit finds the first candidate that passes, and the cursor goes behind it. -/
theorem selectCandidate_visit (hRr : cfg.grantSchedPolicy = .rr) (cs : List GrantCandidate) :
    (s.selectCandidate cfg cs = (none, s.rrStart cs.length) ∧
        ∀ c ∈ cs, s.trySelectCandidate cfg c = none) ∨
      ∃ front c rest data wire, cs.rotate (s.rrStart cs.length) = front ++ c :: rest ∧
        (∀ d ∈ front, s.trySelectCandidate cfg d = none) ∧
        s.trySelectCandidate cfg c = some (c, data, wire) ∧
        s.selectCandidate cfg cs =
          (some (c, data, wire), (s.rrStart cs.length + front.length + 1) % cs.length) := by
  rw [selectCandidate_rr hRr]
  cases hFound : (List.range cs.length).findSome? (s.visited cfg cs (s.rrStart cs.length)) with
  | none =>
    refine Or.inl ⟨rfl, ?_⟩
    intro c hc
    obtain ⟨offset, hAt⟩ :=
      List.mem_iff_getElem?.mp (List.mem_rotate.mpr hc : c ∈ cs.rotate (s.rrStart cs.length))
    have hNone := List.findSome?_eq_none_iff.mp hFound offset
      (List.mem_range.mpr (by simpa using (List.getElem?_eq_some_iff.mp hAt).1))
    unfold visited at hNone
    rw [hAt] at hNone
    exact Option.map_eq_none_iff.mp hNone
  | some found =>
    obtain ⟨before, offset, behind, hRange, hAt, hBefore⟩ :=
      List.findSome?_eq_some_iff.mp hFound
    obtain ⟨selected, hSelected, rfl⟩ := Option.map_eq_some_iff.mp hAt
    obtain ⟨c, hc, hTry⟩ := Option.bind_eq_some_iff.mp hSelected
    obtain ⟨d, data, wire⟩ := selected
    have hSame : d = c := (trySelectCandidate_spec hTry).1
    rw [hSame] at hTry
    have hOffset : offset = before.length := by
      have hPosition := congrArg (fun l => l[before.length]?) hRange
      have hLength := congrArg List.length hRange
      simp only [List.length_range, List.length_append, List.length_cons] at hLength
      rw [List.getElem?_range (by omega), List.getElem?_append_right (Nat.le_refl _),
        Nat.sub_self, List.getElem?_cons_zero] at hPosition
      exact (Option.some.inj hPosition).symm
    obtain ⟨hBound, hGet⟩ := List.getElem?_eq_some_iff.mp hc
    have hSplit : cs.rotate (s.rrStart cs.length) =
        (cs.rotate (s.rrStart cs.length)).take offset ++
          c :: (cs.rotate (s.rrStart cs.length)).drop (offset + 1) := by
      rw [← hGet, List.getElem_cons_drop, List.take_append_drop]
    refine Or.inr ⟨_, c, _, data, wire, hSplit, ?_, hTry, ?_⟩
    · intro e he
      obtain ⟨j, hj, hAtJ⟩ := List.mem_iff_getElem.mp he
      have hjOffset : j < offset := by
        rw [List.length_take] at hj
        omega
      have hMem : j ∈ before := by
        have hPosition := congrArg (fun l => l[j]?) hRange
        have hLength : j < cs.length := by
          rw [List.length_rotate] at hBound
          omega
        rw [List.getElem?_range hLength, List.getElem?_append_left (by omega)] at hPosition
        exact List.mem_of_getElem? hPosition.symm
      have hNone := hBefore j hMem
      unfold visited at hNone
      rw [List.getElem_take] at hAtJ
      rw [List.getElem?_eq_getElem (by omega), hAtJ] at hNone
      exact Option.map_eq_none_iff.mp hNone
    · rw [hSame, List.length_take, Nat.min_eq_left hBound.le]

/-! ## A tick as a round -/

/-- A grant is for the candidate that was selected. -/
theorem tryIssueCreditGrant_granted (cfg : CbConfig) (s : CbReceiver) (order : List Nat) :
    (s.tryIssueCreditGrant cfg order).2.map CbPacket.grantedKey =
        (s.selectCandidate cfg (s.candidates order)).1.map (fun selected => selected.1.key) ∧
      (s.candidates order ≠ [] → (s.tryIssueCreditGrant cfg order).1.grantRrCursor =
        (s.selectCandidate cfg (s.candidates order)).2) := by
  unfold tryIssueCreditGrant
  by_cases hNone : s.candidates order = []
  · have hEmpty : (s.selectCandidate cfg []).1 = none := by
      unfold selectCandidate
      cases cfg.grantSchedPolicy with
      | rr => rfl
      | srpt => simp
    rw [if_pos hNone, hNone, hEmpty]
    exact ⟨rfl, fun hOther => absurd rfl hOther⟩
  rw [if_neg hNone]
  cases hSelected : (s.selectCandidate cfg (s.candidates order)).1 with
  | none =>
    simp only [hSelected]
    exact ⟨rfl, fun _ => trivial⟩
  | some selection =>
    obtain ⟨c, data, wire⟩ := selection
    obtain ⟨hMem, -⟩ := selectCandidate_spec hSelected
    obtain ⟨st, q, hst, -, hq, -⟩ := mem_candidates hMem
    simp only [hSelected, hst, hq]
    exact ⟨rfl, fun _ => trivial⟩

/-- In a list of messages the key tells who passes. -/
theorem Listed.passesBudgets_key (h : s.Listed) {c : GrantCandidate} (hc : c ∈ s.candidates order) :
    s.passesBudgets cfg order c.key = (s.trySelectCandidate cfg c).isSome := by
  rw [Bool.eq_iff_iff]
  unfold passesBudgets
  simp only [List.any_eq_true, Bool.and_eq_true, decide_eq_true_eq]
  constructor
  · rintro ⟨d, hd, hKey, hPasses⟩
    obtain ⟨⟨e, data, wire⟩, hTry⟩ := Option.isSome_iff_exists.mp hPasses
    obtain ⟨rfl, st, hst, hData, hWire, hTests⟩ := trySelectCandidate_eq_some_iff.mp hTry
    have hAddr : c.senderAddr = e.senderAddr := by
      rw [← (h.candidate hc).1, ← (h.candidate hd).1, hKey]
    have hPending : c.msgPendingDataBytes = e.msgPendingDataBytes := by
      obtain ⟨-, q, -, -, hq, hcPending, -⟩ := mem_candidates hc
      obtain ⟨-, r, -, -, hr, hePending, -⟩ := mem_candidates hd
      rw [hKey, hq] at hr
      rw [hcPending, hePending, Option.some.inj hr]
    exact Option.isSome_iff_exists.mpr ⟨(c, data, wire), trySelectCandidate_eq_some_iff.mpr
      ⟨rfl, st, hAddr ▸ hst, hPending ▸ hData, hWire, hPending ▸ hTests⟩⟩
  · intro hPasses
    exact ⟨c, hc, rfl, hPasses⟩

theorem creditGrantTick_eq (cfg : CbConfig) (s : CbReceiver) (order : List Nat) :
    (s.creditGrantTick cfg order).2 =
        (CbReceiver.tryIssueCreditGrant cfg { s with grantTickRunning := false } order).2 ∧
      (s.creditGrantTick cfg order).1.grantRrCursor =
        (CbReceiver.tryIssueCreditGrant cfg { s with grantTickRunning := false }
          order).1.grantRrCursor := by
  unfold creditGrantTick
  dsimp only
  refine ⟨rfl, ?_⟩
  obtain ⟨running, hSchedule⟩ := scheduleGrantTick_eq
    (CbReceiver.tryIssueCreditGrant cfg { s with grantTickRunning := false } order).1
  rw [hSchedule]

/-- A tick grants the first candidate of its visit that passes, and the visit goes on behind it. -/
theorem Listed.tick_visit (h : s.Listed) (hRr : cfg.grantSchedPolicy = .rr) (order : List Nat) :
    (s.turn cfg order).Regular ∧ ((s.candidates order).map GrantCandidate.key).rotate
      (s.creditGrantTick cfg order).1.grantRrCursor = (s.turn cfg order).behind := by
  obtain ⟨hGrant, hCursor⟩ := creditGrantTick_eq cfg s order
  obtain ⟨hKey, hNext⟩ :=
    tryIssueCreditGrant_granted cfg { s with grantTickRunning := false } order
  have hServed : (s.turn cfg order).served =
      (CbReceiver.selectCandidate cfg { s with grantTickRunning := false }
        (s.candidates order)).1.map (fun selected => selected.1.key) := by
    unfold turn
    dsimp only
    rw [hGrant]
    exact hKey
  have hOrder : (s.turn cfg order).order =
      ((s.candidates order).rotate (s.rrStart (s.candidates order).length)).map
        GrantCandidate.key := (List.map_rotate _ _ _).symm
  have hPasses (c : GrantCandidate) (hc : c ∈ s.candidates order) :
      (s.turn cfg order).passes c.key = (s.trySelectCandidate cfg c).isSome :=
    h.passesBudgets_key hc
  rcases @selectCandidate_visit cfg { s with grantTickRunning := false } hRr
    (s.candidates order) with
    ⟨hSelect, hNone⟩ | ⟨front, c, rest, data, wire, hSplit, hFront, hTry, hSelect⟩
  · have hNobody : (s.turn cfg order).served = none := by
      rw [hServed, hSelect]
      rfl
    refine ⟨?_, ?_⟩
    · unfold Round.Regular
      rw [hNobody, hOrder]
      symm
      rw [List.find?_eq_none]
      intro k hk
      obtain ⟨c, hc, rfl⟩ := List.mem_map.mp hk
      rw [hPasses c (List.mem_rotate.mp hc)]
      have hFails : s.trySelectCandidate cfg c = none := hNone c (List.mem_rotate.mp hc)
      simp [hFails]
    · unfold Round.behind
      rw [hNobody]
      by_cases hEmpty : s.candidates order = []
      · unfold turn visitOrder
        simp [hEmpty]
      · rw [hCursor, hNext hEmpty]
        exact congrArg _ (congrArg Prod.snd hSelect)
  · have hIn (d : GrantCandidate) (hd : d ∈ front ++ c :: rest) : d ∈ s.candidates order := by
      rw [← hSplit] at hd
      exact List.mem_rotate.mp hd
    have hChosen : (s.turn cfg order).served = some c.key := by
      rw [hServed, hSelect]
      rfl
    have hSplitKeys : (s.turn cfg order).order =
        front.map GrantCandidate.key ++ c.key :: rest.map GrantCandidate.key := by
      rw [hOrder]
      exact (congrArg (List.map GrantCandidate.key) hSplit).trans (by simp)
    have hPassesChosen : (s.turn cfg order).passes c.key = true := by
      rw [hPasses c (hIn c (by simp))]
      exact Option.isSome_iff_exists.mpr ⟨_, hTry⟩
    have hFails (k : RxKey) (hk : k ∈ front.map GrantCandidate.key) :
        (s.turn cfg order).passes k = false := by
      obtain ⟨d, hd, rfl⟩ := List.mem_map.mp hk
      have hNone : s.trySelectCandidate cfg d = none := hFront d hd
      rw [hPasses d (hIn d (by simp [hd])), hNone]
      rfl
    refine ⟨?_, ?_⟩
    · unfold Round.Regular
      rw [hChosen]
      exact (List.find?_eq_some_iff_append.mpr ⟨hPassesChosen, _, _, hSplitKeys, fun k hk => by
        rw [hFails k hk]
        rfl⟩).symm
    · have hNotFront : c.key ∉ front.map GrantCandidate.key := by
        intro hk
        rw [hFails _ hk] at hPassesChosen
        cases hPassesChosen
      have hIdx : (s.turn cfg order).order.idxOf c.key = front.length := by
        rw [hSplitKeys, List.idxOf_append_of_notMem hNotFront, List.idxOf_cons_self,
          Nat.add_zero, List.length_map]
      have hNonempty : s.candidates order ≠ [] := List.ne_nil_of_mem (hIn c (by simp))
      have hBehind : (s.creditGrantTick cfg order).1.grantRrCursor =
          (s.rrStart (s.candidates order).length + front.length + 1) %
            ((s.candidates order).map GrantCandidate.key).length := by
        rw [hCursor, hNext hNonempty, List.length_map]
        exact congrArg Prod.snd hSelect
      unfold Round.behind
      rw [hChosen]
      dsimp only
      rw [hIdx, hBehind, List.rotate_mod]
      unfold turn visitOrder
      dsimp only
      rw [List.rotate_rotate, Nat.add_assoc]

/-! ## The order of the next visit -/

theorem candidates_eq_flatMap (s : CbReceiver) (order : List Nat) :
    (s.candidates order).map GrantCandidate.key =
      order.flatMap fun addr => (s.candidates [addr]).map GrantCandidate.key := by
  unfold candidates
  rw [List.map_flatMap]
  simp

/-- The candidates of a sender are among its messages, in their order. -/
theorem candidates_sublist (s : CbReceiver) (addr : Nat) :
    ((s.candidates [addr]).map GrantCandidate.key).Sublist (s.msgsOf addr) := by
  unfold candidates msgsOf
  rw [List.flatMap_cons, List.flatMap_nil, List.append_nil]
  cases s.senderStates.get? addr with
  | none => exact List.Sublist.refl _
  | some st =>
    dsimp only
    split
    · exact List.nil_sublist _
    · show List.Sublist _ st.msgStates
      induction st.msgStates with
      | nil => exact List.Sublist.refl _
      | cons k ks ih =>
        rw [List.filterMap_cons]
        split
        · exact ih.cons k
        · rename_i c hc
          have hKey : c.key = k := by
            split at hc
            · cases hc
            · split at hc
              · cases hc
              · exact (Option.some.inj hc) ▸ rfl
          rw [List.map_cons, hKey]
          exact ih.cons_cons k

/-- No message is a candidate twice. -/
theorem Listed.candidates_nodup (h : s.Listed) (hOrder : order.Nodup) :
    ((s.candidates order).map GrantCandidate.key).Nodup := by
  rw [candidates_eq_flatMap, List.nodup_flatMap]
  refine ⟨fun addr _ => (h.nodup addr).sublist (candidates_sublist s addr), ?_⟩
  refine hOrder.imp ?_
  intro addr addr' hNe k hk hk'
  have hDip := (h.known addr k ((candidates_sublist s addr).subset hk)).1
  have hDip' := (h.known addr' k ((candidates_sublist s addr').subset hk')).1
  exact hNe (hDip.symm.trans hDip')

theorem tick_cursor_lt (hRr : cfg.grantSchedPolicy = .rr) (hSome : s.candidates order ≠ []) :
    (s.creditGrantTick cfg order).1.grantRrCursor < (s.candidates order).length := by
  have hLength : 0 < (s.candidates order).length := List.length_pos_iff.mpr hSome
  obtain ⟨-, hNext⟩ := tryIssueCreditGrant_granted cfg { s with grantTickRunning := false } order
  rw [(creditGrantTick_eq cfg s order).2, hNext hSome]
  rcases @selectCandidate_visit cfg { s with grantTickRunning := false } hRr
    (s.candidates order) with ⟨hSelect, -⟩ | ⟨front, c, rest, data, wire, -, -, -, hSelect⟩
  · have hCursor : (CbReceiver.selectCandidate cfg { s with grantTickRunning := false }
        (s.candidates order)).2 = _ := congrArg Prod.snd hSelect
    exact hCursor.trans_lt (rrStart_lt hLength)
  · have hCursor : (CbReceiver.selectCandidate cfg { s with grantTickRunning := false }
        (s.candidates order)).2 = _ := congrArg Prod.snd hSelect
    exact hCursor.trans_lt (Nat.mod_lt _ hLength)

/-- Where the vector is the same, the next visit begins behind the message granted last. -/
theorem turn_follows_of_unchanged (hRr : cfg.grantSchedPolicy = .rr) (h : s.Listed)
    (hOrder : order.Nodup) {u : CbReceiver} {order' : List Nat} (history : List (Round RxKey))
    (hCursor : u.grantRrCursor = (s.creditGrantTick cfg order).1.grantRrCursor)
    (hSame : (u.candidates order').map GrantCandidate.key =
      (s.candidates order).map GrantCandidate.key) :
    Round.Follows (s.turn cfg order) history (u.turn cfg order') := by
  obtain ⟨hRegular, hBehind⟩ := h.tick_visit hRr order
  refine Round.follows_of_behind hRegular ?_ ?_
  · exact List.nodup_rotate.mpr (h.candidates_nodup hOrder)
  · rw [← hBehind, ← hCursor, ← hSame]
    unfold turn visitOrder rrStart
    dsimp only
    have hLength : (u.candidates order').length = (s.candidates order).length := by
      simpa using congrArg List.length hSame
    by_cases hSome : s.candidates order = []
    · have hNone : u.candidates order' = [] := by
        rw [← List.length_eq_zero_iff, hLength, hSome, List.length_nil]
      rw [hNone, List.map_nil, List.rotate_nil, List.rotate_nil]
    · have hBound := tick_cursor_lt hRr hSome
      rw [if_neg (by omega)]

end CbReceiver

/-! ## Runs -/

/-- A receiver and its grant ticks so far, the last one first. -/
structure GrantWatch where
  receiver : CbReceiver := {}
  turns : List (Round RxKey) := []

namespace GrantWatch

def step (cfg : CbConfig) (w : GrantWatch) (e : CbReceiver.Event) : Option GrantWatch :=
  (w.receiver.step cfg e).map fun receiver => {
    receiver
    turns :=
      match e with
      | .grantTick order => w.receiver.turn cfg order :: w.turns
      | _ => w.turns }

/-- The condition on a tick. -/
def Follows (cfg : CbConfig) (w : GrantWatch) : CbReceiver.Event → Prop
  | .grantTick order =>
    ∀ prev ∈ w.turns.head?, Round.Follows prev w.turns (w.receiver.turn cfg order)
  | _ => True

instance (w : GrantWatch) (e : CbReceiver.Event) : Decidable (w.Follows cfg e) :=
  match e with
  | .grantTick _ => inferInstanceAs (Decidable (∀ prev ∈ w.turns.head?, _))
  | .arrive _ => inferInstanceAs (Decidable True)
  | .resendTimeout _ => inferInstanceAs (Decidable True)

/-- The ticks are rounds that follow one another. -/
structure Fair (w : GrantWatch) : Prop where
  listed : w.receiver.Listed
  regular : ∀ r ∈ w.turns, r.Regular
  fair : Round.Fair w.turns

theorem Fair.step (hRr : cfg.grantSchedPolicy = .rr) {w v : GrantWatch} (h : w.Fair)
    {e : CbReceiver.Event} (hFollows : w.Follows cfg e) (hStep : w.step cfg e = some v) :
    v.Fair := by
  obtain ⟨receiver, hReceiver, rfl⟩ := Option.map_eq_some_iff.mp hStep
  have hListed := h.listed.step hReceiver
  cases e with
  | arrive p => exact ⟨hListed, h.regular, h.fair⟩
  | resendTimeout k => exact ⟨hListed, h.regular, h.fair⟩
  | grantTick order =>
    refine ⟨hListed, ?_, hFollows, h.fair⟩
    intro r hr
    rcases List.mem_cons.mp hr with rfl | hOld
    · exact (h.listed.tick_visit hRr order).1
    · exact h.regular r hOld

end GrantWatch

/-- The receiver of a host with its grant ticks. -/
def grantWatch (cfg : CbConfig) : Machine GrantWatch CbReceiver.Event where
  init := {}
  step := GrantWatch.step cfg

/-- Under the round-robin policy, every run whose ticks meet the condition passes over nobody: between
two grants to a message, every other one that is a candidate and passes the budget tests at every tick
is granted, too. -/
theorem grants_pass_over_nobody (cfg : CbConfig) (hRr : cfg.grantSchedPolicy = .rr)
    {es : List CbReceiver.Event} {w : GrantWatch}
    (hGuard : (grantWatch cfg).Guarded (GrantWatch.Follows cfg) (grantWatch cfg).init es)
    (hRun : (grantWatch cfg).run (grantWatch cfg).init es = some w) :
    Round.NobodyPassedOver w.turns := by
  have hFair : w.Fair := by
    refine Machine.guarded_induction ⟨CbReceiver.listed_init, nofun, trivial⟩ ?_ hGuard hRun
    intro u e v hFair hFollows hStep
    exact hFair.step hRr hFollows hStep
  exact Round.nobodyPassedOver hFair.fair hFair.regular

/-- Two senders with a message of four chunks each, three ticks. -/
def equalMessages : List CbReceiver.Event :=
  [.grantReq 2 7 5864, .grantReq 3 7 5864, .grantTick [2, 3], .grantTick [2, 3], .grantTick [2, 3]]

theorem grants_pass_over_nobody_equalMessages : ∃ w,
    (grantWatch {}).run (grantWatch {}).init equalMessages = some w ∧
      w.turns.map Round.served = [some ⟨2, 3, 7⟩, some ⟨3, 3, 7⟩, some ⟨2, 3, 7⟩] ∧
      Round.NobodyPassedOver w.turns := by
  have hServed : ((grantWatch {}).run (grantWatch {}).init equalMessages).map
      (fun w => w.turns.map Round.served) =
        some [some ⟨2, 3, 7⟩, some ⟨3, 3, 7⟩, some ⟨2, 3, 7⟩] := by
    decide +kernel
  obtain ⟨w, hRun, hTurns⟩ := Option.map_eq_some_iff.mp hServed
  have hGuard : (grantWatch {}).Guarded (GrantWatch.Follows {}) (grantWatch {}).init equalMessages := by
    decide +kernel
  exact ⟨w, hRun, hTurns, grants_pass_over_nobody {} rfl hGuard hRun⟩

/-- A third sender announces a message between two ticks and comes first in the map. -/
def newSenderFirst : List CbReceiver.Event :=
  [.grantReq 2 7 5864, .grantReq 3 7 5864, .grantTick [2, 3], .grantReq 1 7 5864,
    .grantTick [1, 2, 3]]

/-- The message of the first sender is granted twice in a row, and the one of the other sender, which
passes all along, not at all. -/
theorem newCandidate_passes_over : ∃ w,
    (grantWatch {}).run (grantWatch {}).init newSenderFirst = some w ∧
      ¬Round.NobodyPassedOver w.turns := by
  have hTurns : ((grantWatch {}).run (grantWatch {}).init newSenderFirst).map
      (fun w => w.turns.map fun r =>
        (r.served, decide (⟨3, 3, 7⟩ ∈ r.order), r.passes ⟨3, 3, 7⟩)) =
      some [(some ⟨2, 3, 7⟩, true, true), (some ⟨2, 3, 7⟩, true, true)] := by
    decide +kernel
  obtain ⟨w, hRun, hTurns⟩ := Option.map_eq_some_iff.mp hTurns
  refine ⟨w, hRun, ?_⟩
  intro hNobody
  obtain ⟨second, rest, hRounds, hSecond, hRest⟩ := List.map_eq_cons_iff.mp hTurns
  obtain ⟨first, none, rfl, hFirst, hNil⟩ := List.map_eq_cons_iff.mp hRest
  obtain rfl := List.map_eq_nil_iff.mp hNil
  simp only [Prod.mk.injEq, decide_eq_true_eq] at hSecond hFirst
  obtain ⟨r, hr, -⟩ := hNobody [] second [] first [] ⟨3, 3, 7⟩ ⟨2, 3, 7⟩ hRounds hFirst.1 hSecond.1
    nofun (by decide) (fun r hr => by
      obtain rfl := List.mem_singleton.mp hr
      exact hSecond.2)
  cases hr

end Dpdq.Ns3
