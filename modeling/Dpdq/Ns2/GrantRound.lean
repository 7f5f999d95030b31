import Dpdq.Ns2.HybridStep
import Dpdq.Ns2.MsgList

/-!
# The rounds of `send_grants`

`send_grants_ts_msg` goes around the inbound messages from the one whose turn is next;
`send_grants_srpt_msg` and `send_grants_equal_bif_msg` sort them first and start in front. Each
message is up for one call of `send_credit_policy_common`, which may delete it.

All three loops compare their counter with the size that the list has then. A deleted message makes
the list shorter: a round in turn skips the message behind a deleted one, a sorted round ends before
the last ones. Both leave out no message exactly when no message is deleted in front of another.
-/

namespace Dpdq.Ns2

open Dpdq.Lib

/-! ## The rounds -/

structure GrantConfig extends HybridConfig where
  paceGrants : Bool := true
  grantBytesDrainedPerLoop : Int

/-- A receiver with the list that gives its messages their turns. -/
structure GrantState where
  rx : Hybrid
  inbound : InboundMsgs := {}
  grantPacerBacklog : Int := 0
  grants : List Hybrid.Grant := []

/-- What `send_credit_policy_common` returns, 0 to 3. -/
inductive PolicyRet where
  | sent
  | noCredit
  | deleted
  | noBudget
deriving DecidableEq, Repr

/-- How a round ends: the counter reaches the size of the list, the pacer or the budget stops the
round, the list throws an exception, or an assertion fails. -/
inductive RoundEnd where
  | finished
  | paced
  | outOfBudget
  | emptyList
  | notPaced
  | failed (f : Failure)
  | outOfFuel
deriving DecidableEq, Repr

/-- A round: the messages that it was the turn of, and how it ended. -/
structure Round where
  considered : List UniqReqId
  ended : RoundEnd
  state : GrantState

def Round.cons (id : UniqReqId) (r : Round) : Round := { r with considered := id :: r.considered }

def GrantConfig.pacerStops (cfg : GrantConfig) (s : GrantState) : Prop :=
  cfg.paceGrants = true ∧ 3 * cfg.grantBytesDrainedPerLoop < 2 * s.grantPacerBacklog

instance (cfg : GrantConfig) (s : GrantState) : Decidable (cfg.pacerStops s) :=
  inferInstanceAs (Decidable (_ ∧ _))

/-- The value that `send_credit_policy_common` returns for a message. -/
def policyRet (cfg : HybridConfig) (h : Hybrid) (m : InboundMsgState) : PolicyRet :=
  if m.isComplete then .deleted
  else
    let uncreditdData := toInt32 ((m.dataBytesExpected : Int) - m.dataBytesGranted)
    if uncreditdData = 0 then .noCredit
    else
      let creditNeeded := wireBytes (min maxR2p2Payload uncreditdData.toNat)
      let s := (h.senderState.get? m.remoteAddr).getD default
      if creditNeeded ≤ min h.budgetBytes s.srpbBytes ∧
          cfg.maxSrpb - s.srpbBytes ≤ s.maxSrpbBytes then .sent
      else if h.budgetBytes < creditNeeded then .noBudget
      else .sent

namespace GrantState

/-- What the rounds do with a message whose turn it is. A message of unknown size is passed over,
and `ret` stays what it was. -/
def considerMsg (cfg : GrantConfig) (s : GrantState) (ret : Option PolicyRet) (id : UniqReqId) :
    Except RoundEnd (Option PolicyRet × GrantState) :=
  match s.rx.sendGrant cfg.toHybridConfig id with
  | .error f => .error (.failed f)
  | .ok (rx, g) =>
    let next : GrantState :=
      { s with
        rx
        grantPacerBacklog := s.grantPacerBacklog + g.elim 0 Hybrid.Grant.credit
        grants := s.grants ++ g.toList }
    match (s.rx.inbound.get? id).filter InboundMsgState.receivedMsgInfo with
    | none => .ok (ret, next)
    | some m =>
      if policyRet cfg.toHybridConfig s.rx m = .deleted then
        match s.inbound.remove id with
        | none => .error .emptyList
        | some inbound => .ok (some .deleted, { next with inbound })
      else .ok (policyRet cfg.toHybridConfig s.rx m, next)

/-- The loop of `send_grants_ts_msg`. -/
def tsLoop (cfg : GrantConfig) : Nat → Nat → Option PolicyRet → GrantState → Round
  | 0, _, _, s => ⟨[], .outOfFuel, s⟩
  | fuel + 1, i, ret, s =>
    if i < s.inbound.size then
      if cfg.pacerStops s then ⟨[], .paced, s⟩
      else
        match s.inbound.peekNext with
        | none => ⟨[], .emptyList, s⟩
        | some id =>
          match s.considerMsg cfg ret id with
          | .error e => ⟨[id], e, s⟩
          | .ok (ret, s) =>
            if ret = some .noBudget then ⟨[id], .outOfBudget, s⟩
            else
              match CursorList.next s.inbound with
              | none => ⟨[id], .emptyList, s⟩
              | some (_, inbound) => (tsLoop cfg fuel (i + 1) ret { s with inbound }).cons id
    else ⟨[], .finished, s⟩

def sendGrantsTsMsg (cfg : GrantConfig) (s : GrantState) : Round :=
  s.tsLoop cfg (s.inbound.size + 1) 0 none

/-- The loop of `send_grants_srpt_msg` and `send_grants_equal_bif_msg`. -/
def sortedLoop (cfg : GrantConfig) : Nat → Nat → Option PolicyRet → GrantState → Round
  | 0, _, _, s => ⟨[], .outOfFuel, s⟩
  | fuel + 1, i, ret, s =>
    if i < s.inbound.size then
      if cfg.paceGrants = false then ⟨[], .notPaced, s⟩
      else if cfg.pacerStops s then ⟨[], .paced, s⟩
      else
        match CursorList.next s.inbound with
        | none => ⟨[], .emptyList, s⟩
        | some (id, inbound) =>
          match { s with inbound }.considerMsg cfg ret id with
          | .error e => ⟨[id], e, s⟩
          | .ok (ret, s) => (sortedLoop cfg fuel (i + 1) ret s).cons id
    else ⟨[], .finished, s⟩

/-- A round over the list as `sorted` has it. -/
def sendGrantsSorted (cfg : GrantConfig) (sorted : List UniqReqId) (s : GrantState) : Round :=
  if cfg.pacerStops s then ⟨[], .paced, s⟩
  else
    let s := { s with inbound := CursorList.reset { s.inbound with items := sorted } }
    s.sortedLoop cfg (s.inbound.size + 1) 0 none

end GrantState

/-! ## The sorted rounds -/

/-- What `std::sort` may leave of `items`: no two elements stand in the wrong order. -/
structure Sorting (less : UniqReqId → UniqReqId → Prop) (items : List UniqReqId) where
  sorted : List UniqReqId
  perm : sorted.Perm items
  ordered : sorted.Pairwise fun a b => ¬ less b a

namespace Hybrid

def fewerInboundBytesRemaining (h : Hybrid) (a b : UniqReqId) : Prop :=
  let remaining (id : UniqReqId) :=
    let m := (h.inbound.get? id).getD default
    (m.dataBytesExpected + 2 ^ 64 - m.dataBytesReceived) % 2 ^ 64
  remaining a < remaining b

def fewerBif (h : Hybrid) (a b : UniqReqId) : Prop :=
  let srpbBytes (id : UniqReqId) :=
    let m := (h.inbound.get? id).getD default
    ((h.senderState.get? m.remoteAddr).getD default).srpbBytes
  srpbBytes b < srpbBytes a

instance (h : Hybrid) (a b : UniqReqId) : Decidable (h.fewerInboundBytesRemaining a b) :=
  Nat.decLt _ _

instance (h : Hybrid) (a b : UniqReqId) : Decidable (h.fewerBif a b) := Int.decLt _ _

end Hybrid

namespace GrantState

def sendGrantsSrptMsg (cfg : GrantConfig) (s : GrantState)
    (sorting : Sorting s.rx.fewerInboundBytesRemaining s.inbound.items) : Round :=
  s.sendGrantsSorted cfg sorting.sorted

def sendGrantsEqualBifMsg (cfg : GrantConfig) (s : GrantState)
    (sorting : Sorting s.rx.fewerBif s.inbound.items) : Round :=
  s.sendGrantsSorted cfg sorting.sorted

end GrantState

/-! ## Whose turn it is -/

section Visits

variable {α : Type} (p : α → Bool)

/-- The turns of a round that skips the element behind one that goes. -/
def skippingVisits : List α → List α
  | [] => []
  | [x] => [x]
  | x :: y :: rest => x :: if p x then skippingVisits rest else skippingVisits (y :: rest)

/-- The turns of a round that ends as many elements early as have gone, `gone` of them before. -/
def shortenedVisits : Nat → List α → List α
  | _, [] => []
  | gone, x :: rest =>
    if gone ≤ rest.length then x :: shortenedVisits (if p x then gone + 1 else gone) rest else []

variable {p} in
theorem skippingVisits_of_neg {x : α} (rest : List α) (hx : p x = false) :
    skippingVisits p (x :: rest) = x :: skippingVisits p rest := by
  cases rest with
  | nil => rfl
  | cons y rest => rw [skippingVisits, hx, if_neg nofun]

theorem prefix_skippingVisits (x : α) (rest : List α) : [x] <+: skippingVisits p (x :: rest) := by
  cases rest with
  | nil => exact List.prefix_refl _
  | cons y rest => exact (List.prefix_cons_inj x).mpr List.nil_prefix

theorem skippingVisits_sublist (l : List α) : (skippingVisits p l).Sublist l := by
  induction l using skippingVisits.induct with
  | case1 => exact .slnil
  | case2 x => exact .refl _
  | case3 x y rest ihSkip ihKeep =>
    unfold skippingVisits
    apply List.Sublist.cons_cons
    split
    · exact ihSkip.cons y
    · exact ihKeep

theorem shortenedVisits_sublist (gone : Nat) (l : List α) :
    (shortenedVisits p gone l).Sublist l := by
  induction l generalizing gone with
  | nil => exact .slnil
  | cons x rest ih =>
    unfold shortenedVisits
    split
    · exact (ih _).cons_cons x
    · exact List.nil_sublist _

/-- Nothing goes in front of another element. -/
def NoneInFront (l : List α) : Prop := ∀ x ∈ l.dropLast, p x = false

instance (l : List α) : Decidable (NoneInFront p l) :=
  inferInstanceAs (Decidable (∀ x ∈ l.dropLast, p x = false))

theorem noneInFront_cons (x y : α) (rest : List α) :
    NoneInFront p (x :: y :: rest) ↔ p x = false ∧ NoneInFront p (y :: rest) := by
  simp [NoneInFront]

theorem skippingVisits_eq_iff (l : List α) : skippingVisits p l = l ↔ NoneInFront p l := by
  induction l using skippingVisits.induct with
  | case1 => exact iff_of_true rfl nofun
  | case2 x => exact iff_of_true rfl nofun
  | case3 x y rest ihSkip ihKeep =>
    rw [noneInFront_cons, skippingVisits]
    cases hx : p x with
    | true =>
      refine iff_of_false ?_ nofun
      intro hEq
      have hLength := congrArg List.length hEq
      have hLe := (skippingVisits_sublist p rest).length_le
      simp at hLength
      omega
    | false => simp [ihKeep]

theorem shortenedVisits_eq_iff (gone : Nat) (l : List α) :
    shortenedVisits p gone l = l ↔ l = [] ∨ gone = 0 ∧ NoneInFront p l := by
  induction l generalizing gone with
  | nil => simp [shortenedVisits]
  | cons x rest ih =>
    unfold shortenedVisits
    split
    · rw [List.cons.injEq, ih]
      cases rest with
      | nil =>
        have hGone : gone = 0 := Nat.le_zero.mp ‹gone ≤ _›
        exact iff_of_true ⟨rfl, .inl rfl⟩ (.inr ⟨hGone, nofun⟩)
      | cons y rest =>
        rw [noneInFront_cons]
        cases hx : p x <;> simp
    · refine iff_of_false nofun ?_
      rintro (hNil | ⟨rfl, -⟩)
      · cases hNil
      · exact absurd (Nat.zero_le _) ‹_›

theorem shortenedVisits_zero_eq_iff (l : List α) : shortenedVisits p 0 l = l ↔ NoneInFront p l := by
  rw [shortenedVisits_eq_iff]
  constructor
  · rintro (rfl | ⟨-, hNone⟩)
    · nofun
    · exact hNone
  · exact fun hNone => .inr ⟨rfl, hNone⟩

/-- Some turns of a list without duplicates are those of all its elements if they are as many. -/
theorem forall_mem_iff_eq {visits l : List α} (hSub : visits.Sublist l) (hNodup : l.Nodup) :
    (∀ x ∈ l, x ∈ visits) ↔ visits = l := by
  constructor
  · intro hAll
    exact hSub.eq_of_length_le (hNodup.subperm hAll).length_le
  · rintro rfl
    exact fun x hx => hx

end Visits

/-! ## A round comes past its messages -/

/-- A round does not get stuck, and it has come past the elements of `visits` as far as it got. -/
structure Round.Follows (r : Round) (visits : List UniqReqId) : Prop where
  terminates : r.ended ≠ .outOfFuel
  nonempty : r.ended ≠ .emptyList
  front : r.considered <+: visits
  all : r.ended = .finished → r.considered = visits

namespace Round.Follows

variable {r : Round} {id : UniqReqId} {visits : List UniqReqId}

theorem cons (h : r.Follows visits) : (r.cons id).Follows (id :: visits) where
  terminates := h.terminates
  nonempty := h.nonempty
  front := (List.prefix_cons_inj id).mpr h.front
  all hEnd := congrArg (id :: ·) (h.all hEnd)

/-- A round that ends early. -/
theorem of_ended {e : RoundEnd} {considered : List UniqReqId} {s : GrantState}
    (hFuel : e ≠ .outOfFuel) (hList : e ≠ .emptyList) (hEnd : e ≠ .finished)
    (hFront : considered <+: visits) : Round.Follows ⟨considered, e, s⟩ visits :=
  ⟨hFuel, hList, hFront, fun h => absurd h hEnd⟩

theorem finished (s : GrantState) : Round.Follows ⟨[], .finished, s⟩ [] :=
  ⟨nofun, nofun, List.nil_prefix, fun _ => rfl⟩

end Round.Follows

namespace GrantState

variable {cfg : GrantConfig} {s s' : GrantState} {id : UniqReqId} {ret ret' : Option PolicyRet}

/-- `send_credit_policy_common` deletes the message. -/
def deletes (h : Hybrid) (id : UniqReqId) : Bool :=
  (h.inbound.get? id).any fun m => m.receivedMsgInfo && m.isComplete && 0 < m.dataBytesExpected

theorem deletes_eq_true {h : Hybrid} : deletes h id = true ↔ ∃ m, h.inbound.get? id = some m ∧
    m.receivedMsgInfo = true ∧ m.isComplete = true ∧ 0 < m.dataBytesExpected := by
  simp [deletes, Option.any_eq_true, and_assoc]

theorem policyRet_eq_deleted {cfg : HybridConfig} {h : Hybrid} {m : InboundMsgState} :
    policyRet cfg h m = .deleted ↔ m.isComplete = true := by
  constructor
  · intro hRet
    by_contra hOpen
    unfold policyRet at hRet
    rw [if_neg hOpen] at hRet
    dsimp only at hRet
    split_ifs at hRet
  · intro hComplete
    exact if_pos hComplete

/-- The other messages stay as they are. -/
theorem considerMsg_get? (hOk : s.considerMsg cfg ret id = .ok (ret', s')) {other : UniqReqId}
    (hOther : other ≠ id) : s'.rx.inbound.get? other = s.rx.inbound.get? other := by
  unfold considerMsg at hOk
  cases hGrant : s.rx.sendGrant cfg.toHybridConfig id with
  | error f =>
    rw [hGrant] at hOk
    cases hOk
  | ok r =>
    obtain ⟨rx, g⟩ := r
    have hState : s'.rx = rx := by
      rw [hGrant] at hOk
      dsimp only at hOk
      split at hOk
      · cases hOk
        rfl
      split at hOk
      · split at hOk
        · cases hOk
        · cases hOk
          rfl
      · cases hOk
        rfl
    rw [hState]
    rcases Hybrid.sendGrant_cases hGrant with ⟨rfl, -⟩ |
      ⟨m, -, -, ⟨-, rfl, -⟩ | ⟨-, -, -, -, rfl, -⟩⟩
    · rfl
    · exact Table.get?_erase_of_ne _ hOther
    · rw [Hybrid.setMsg_inbound, Table.get?_set_of_ne _ _ hOther]
      simp

theorem considerMsg_of_deletes (cfg : GrantConfig) (ret : Option PolicyRet)
    (front back : List UniqReqId) (hRange : s.inbound.InRange) (hIds : s.inbound.UniqueIds)
    (hCycle : s.inbound.cycle = front ++ id :: back)
    (hDeletes : deletes s.rx id = true) :
    ∃ s', s.considerMsg cfg ret id = .ok (some .deleted, s') ∧ s'.inbound.InRange ∧
      s'.inbound.cycle = front ++ back := by
  obtain ⟨m, hMsg, hInfo, hComplete, hExpected⟩ := deletes_eq_true.mp hDeletes
  have hEqual : m.dataBytesReceived = m.dataBytesExpected := by
    simp only [InboundMsgState.isComplete, Bool.decide_and, Bool.and_eq_true,
      decide_eq_true_eq] at hComplete
    exact hComplete.1
  have hGrant : s.rx.sendGrant cfg.toHybridConfig id = .ok (s.rx.removeMsg id, none) := by
    unfold Hybrid.sendGrant Hybrid.sendCreditPolicyCommon
    rw [hMsg]
    dsimp only
    rw [if_pos hInfo, check_bind_of hExpected, check_bind_of hEqual.le, if_pos hComplete,
      check_bind_of hInfo]
    rfl
  obtain ⟨inbound, hRemove, hRemoved, hRange'⟩ := CursorList.remove_of_cycle hRange hIds hCycle
  have hRemove : s.inbound.remove id = some inbound := hRemove
  unfold considerMsg
  rw [hGrant, hMsg]
  dsimp only
  rw [Option.filter_some_pos hInfo]
  dsimp only
  rw [if_pos (policyRet_eq_deleted.mpr hComplete), hRemove]
  exact ⟨_, rfl, hRange', hRemoved⟩

theorem considerMsg_of_keeps (cfg : GrantConfig) (ret : Option PolicyRet)
    (hKeeps : deletes s.rx id = false) :
    (∃ f, s.considerMsg cfg ret id = .error (.failed f)) ∨
    ∃ ret' s', s.considerMsg cfg ret id = .ok (ret', s') ∧ s'.inbound = s.inbound := by
  unfold considerMsg
  cases hGrant : s.rx.sendGrant cfg.toHybridConfig id with
  | error f => exact .inl ⟨f, rfl⟩
  | ok r =>
    right
    dsimp only
    cases hInfo : (s.rx.inbound.get? id).filter InboundMsgState.receivedMsgInfo with
    | none => exact ⟨ret, _, rfl, rfl⟩
    | some m =>
      obtain ⟨hMsg, hInfo⟩ := Option.filter_eq_some_iff.mp hInfo
      have hExpected : 0 < m.dataBytesExpected := by
        unfold Hybrid.sendGrant at hGrant
        rw [hMsg] at hGrant
        dsimp only at hGrant
        rw [if_pos hInfo, check_bind_eq_ok] at hGrant
        exact hGrant.1
      have hOpen : ¬ policyRet cfg.toHybridConfig s.rx m = .deleted := by
        intro hRet
        have hDeletes : deletes s.rx id = true :=
          deletes_eq_true.mpr ⟨m, hMsg, hInfo, policyRet_eq_deleted.mp hRet, hExpected⟩
        exact absurd hKeeps (Bool.not_eq_false _ ▸ hDeletes)
      dsimp only
      rw [if_neg hOpen]
      exact ⟨_, _, rfl, rfl⟩

theorem deletes_congr (hOk : s.considerMsg cfg ret id = .ok (ret', s')) {other : UniqReqId}
    (hOther : other ≠ id) : deletes s'.rx other = deletes s.rx other := by
  unfold deletes
  rw [considerMsg_get? hOk hOther]

theorem uniqueIds_iff_nodup {l : InboundMsgs} : l.UniqueIds ↔ l.cycle.Nodup := by
  rw [Msgs.uniqueIds_iff]
  exact iff_of_eq (congrArg List.Nodup (List.map_id _))

theorem nodup_turn {x : UniqReqId} {todo behind : List UniqReqId}
    (h : (x :: (todo ++ behind)).Nodup) : (todo ++ (behind ++ [x])).Nodup := by
  rw [← List.append_assoc]
  exact (List.perm_append_singleton x _).nodup_iff.mpr h

theorem tsLoop_finished {fuel i : Nat} (hFuel : 0 < fuel) (hSize : s.inbound.size ≤ i) :
    s.tsLoop cfg fuel i ret = ⟨[], .finished, s⟩ := by
  obtain ⟨fuel, rfl⟩ := Nat.exists_eq_succ_of_ne_zero hFuel.ne'
  exact if_neg (Nat.not_lt.mpr hSize)

/-- The round in turn, from the messages `todo` on that are still to come. Those that it came past
are behind, one for each value of the counter. -/
theorem tsLoop_follows {p : UniqReqId → Bool} (fuel i : Nat) {todo behind : List UniqReqId}
    (hRange : s.inbound.InRange) (hCycle : s.inbound.cycle = todo ++ behind)
    (hNodup : (todo ++ behind).Nodup) (hBehind : behind.length = i) (hFuel : todo.length < fuel)
    (hDeletes : ∀ id ∈ todo, deletes s.rx id = p id)
    (hSome : behind ≠ [] ∨ ∀ id, todo = [id] → p id = false) :
    (s.tsLoop cfg fuel i ret).Follows (skippingVisits p todo) := by
  induction fuel generalizing s i ret todo behind with
  | zero => exact absurd hFuel (Nat.not_lt_zero _)
  | succ fuel ih =>
    have hSize : s.inbound.size = todo.length + i := by
      rw [← CursorList.length_cycle, hCycle, List.length_append, hBehind]
    cases todo with
    | nil =>
      rw [tsLoop_finished (Nat.succ_pos _) (by rw [hSize, List.length_nil, Nat.zero_add])]
      exact .finished s
    | cons id todo =>
      rw [List.cons_append] at hCycle hNodup
      rw [List.length_cons] at hFuel hSize
      have hIds : s.inbound.UniqueIds := uniqueIds_iff_nodup.mpr (hCycle ▸ hNodup)
      obtain ⟨hFresh, hNodup⟩ := List.nodup_cons.mp hNodup
      have hOther : ∀ other ∈ todo, other ≠ id := by
        rintro other hMem rfl
        exact hFresh (List.mem_append_left _ hMem)
      unfold tsLoop
      rw [if_pos (by omega)]
      split
      · exact .of_ended nofun nofun nofun List.nil_prefix
      rw [CursorList.peekNext_eq_head? hRange, hCycle, List.head?_cons]
      dsimp only
      cases hId : p id with
      | true =>
        obtain ⟨t, hOk, hRange', hCycle'⟩ := considerMsg_of_deletes cfg ret [] (todo ++ behind)
          hRange hIds hCycle ((hDeletes id List.mem_cons_self).trans hId)
        rw [hOk]
        dsimp only
        rw [if_neg nofun]
        rw [List.nil_append] at hCycle'
        cases todo with
        | nil =>
          obtain ⟨b, bs, rfl⟩ : ∃ b bs, behind = b :: bs := by
            apply List.exists_cons_of_ne_nil
            rcases hSome with hSome | hAlone
            · exact hSome
            · exact absurd (hAlone id rfl) (by simp [hId])
          obtain ⟨l, hNext, -, hTurned, -⟩ := CursorList.next_of_cycle hRange' hCycle'
          rw [hNext]
          dsimp only
          have hEnd : l.size ≤ i + 1 := by
            rw [← CursorList.length_cycle, hTurned]
            simp at hBehind ⊢
            omega
          rw [tsLoop_finished (by omega) hEnd]
          exact (Round.Follows.finished _).cons
        | cons skipped todo =>
          rw [List.cons_append] at hCycle'
          obtain ⟨l, hNext, hRange'', hTurned, -⟩ := CursorList.next_of_cycle hRange' hCycle'
          rw [hNext]
          dsimp only
          rw [skippingVisits, if_pos hId]
          refine Round.Follows.cons (ih (i + 1) hRange'' (hTurned.trans (List.append_assoc _ _ _))
            ?_ ?_ ?_ ?_ (.inl (by simp)))
          · exact nodup_turn hNodup
          · simp [hBehind]
          · rw [List.length_cons] at hFuel
            omega
          · intro other hMem
            rw [← hDeletes other (by simp [hMem])]
            exact deletes_congr hOk (hOther other (by simp [hMem]))
      | false =>
        have hKeeps : deletes s.rx id = false := (hDeletes id List.mem_cons_self).trans hId
        rcases considerMsg_of_keeps cfg ret hKeeps with
          ⟨f, hError⟩ | ⟨ret', t, hOk, hInbound⟩
        · rw [hError]
          exact .of_ended nofun nofun nofun (prefix_skippingVisits p id todo)
        · rw [hOk]
          dsimp only
          split
          · exact .of_ended nofun nofun nofun (prefix_skippingVisits p id todo)
          rw [hInbound]
          obtain ⟨l, hNext, hRange', hTurned, -⟩ := CursorList.next_of_cycle hRange hCycle
          rw [hNext]
          dsimp only
          rw [skippingVisits_of_neg todo hId]
          refine Round.Follows.cons (ih (i + 1) hRange' (hTurned.trans (List.append_assoc _ _ _))
            ?_ ?_ (by omega) ?_ (.inl (by simp)))
          · exact nodup_turn (List.nodup_cons.mpr ⟨hFresh, hNodup⟩)
          · simp [hBehind]
          · intro other hMem
            rw [← hDeletes other (List.mem_cons_of_mem _ hMem)]
            exact deletes_congr hOk (hOther other hMem)

/-- Where the one message of the list is deleted, there is no next one. -/
theorem tsLoop_single (fuel : Nat) (hRange : s.inbound.InRange) (hCycle : s.inbound.cycle = [id])
    (hPacer : ¬ cfg.pacerStops s) (hDeletes : deletes s.rx id = true) :
    (s.tsLoop cfg (fuel + 1) 0 ret).ended = .emptyList := by
  have hSize : s.inbound.size = 1 := by
    rw [← CursorList.length_cycle, hCycle]
    rfl
  have hIds : s.inbound.UniqueIds := uniqueIds_iff_nodup.mpr (hCycle ▸ List.nodup_singleton id)
  obtain ⟨t, hOk, hRange', hCycle'⟩ := considerMsg_of_deletes cfg ret [] [] hRange hIds hCycle
    hDeletes
  unfold tsLoop
  rw [if_pos (by omega), if_neg hPacer, CursorList.peekNext_eq_head? hRange, hCycle,
    List.head?_cons]
  dsimp only
  rw [hOk]
  dsimp only
  rw [if_neg nofun, (CursorList.next_eq_none hRange').mpr hCycle']

/-- The sorted round, from the messages `todo` on that are still to come. Each value of the counter
is for a message that is behind or for one that is gone. -/
theorem sortedLoop_follows {p : UniqReqId → Bool} (fuel i gone : Nat) {todo behind : List UniqReqId}
    (hRange : s.inbound.InRange) (hCycle : s.inbound.cycle = todo ++ behind)
    (hNodup : (todo ++ behind).Nodup) (hBehind : behind.length + gone = i)
    (hFuel : todo.length < fuel) (hDeletes : ∀ id ∈ todo, deletes s.rx id = p id) :
    (s.sortedLoop cfg fuel i ret).Follows (shortenedVisits p gone todo) := by
  induction fuel generalizing s i gone ret todo behind with
  | zero => exact absurd hFuel (Nat.not_lt_zero _)
  | succ fuel ih =>
    have hSize : s.inbound.size = todo.length + behind.length := by
      rw [← CursorList.length_cycle, hCycle, List.length_append]
    unfold sortedLoop
    cases todo with
    | nil =>
      rw [if_neg (by rw [hSize, List.length_nil]; omega)]
      exact .finished s
    | cons id todo =>
      rw [List.cons_append] at hCycle hNodup
      rw [List.length_cons] at hFuel hSize
      unfold shortenedVisits
      by_cases hGone : gone ≤ todo.length
      swap
      · rw [if_neg (by omega), if_neg hGone]
        exact .finished s
      have hOther : ∀ other ∈ todo, other ≠ id := by
        rintro other hMem rfl
        exact (List.nodup_cons.mp hNodup).1 (List.mem_append_left _ hMem)
      obtain ⟨l, hNext, hRange', hTurned, -⟩ := CursorList.next_of_cycle hRange hCycle
      have hIds : Msgs.UniqueIds l := by
        rw [uniqueIds_iff_nodup, hTurned, List.append_assoc]
        exact nodup_turn hNodup
      rw [if_pos (by omega), if_pos hGone]
      split
      · exact .of_ended nofun nofun nofun List.nil_prefix
      split
      · exact .of_ended nofun nofun nofun List.nil_prefix
      rw [hNext]
      dsimp only
      cases hId : p id with
      | true =>
        obtain ⟨t, hOk, hRange'', hCycle'⟩ := considerMsg_of_deletes (s := { s with inbound := l })
          cfg ret (todo ++ behind) [] hRange' hIds hTurned
          ((hDeletes id List.mem_cons_self).trans hId)
        rw [hOk]
        dsimp only
        rw [List.append_nil] at hCycle'
        refine Round.Follows.cons (ih (i + 1) (gone + 1) hRange'' hCycle'
          (List.nodup_cons.mp hNodup).2 (by omega) (by omega) ?_)
        intro other hMem
        rw [← hDeletes other (List.mem_cons_of_mem _ hMem)]
        exact deletes_congr hOk (hOther other hMem)
      | false =>
        have hKeeps : deletes s.rx id = false := (hDeletes id List.mem_cons_self).trans hId
        rcases considerMsg_of_keeps (s := { s with inbound := l }) cfg ret hKeeps with
          ⟨f, hError⟩ | ⟨ret', t, hOk, hInbound⟩
        · rw [hError]
          exact .of_ended nofun nofun nofun ((List.prefix_cons_inj id).mpr List.nil_prefix)
        · rw [hOk]
          dsimp only
          rw [List.append_assoc] at hTurned
          refine Round.Follows.cons (ih (i + 1) gone (hInbound ▸ hRange') (hInbound ▸ hTurned)
            (nodup_turn hNodup) ?_ (by omega) ?_)
          · rw [List.length_append, List.length_singleton]
            omega
          · intro other hMem
            rw [← hDeletes other (List.mem_cons_of_mem _ hMem)]
            exact deletes_congr hOk (hOther other hMem)

end GrantState

/-! ## The result -/

/-- A round that comes past every one of `msgs`, unless something stops it. -/
structure Round.Covers (r : Round) (msgs : List UniqReqId) : Prop where
  terminates : r.ended ≠ .outOfFuel
  nonempty : r.ended ≠ .emptyList
  once : r.considered.Nodup
  listed : ∀ id ∈ r.considered, id ∈ msgs
  every : r.ended = .finished → ∀ id ∈ msgs, id ∈ r.considered

theorem Round.Follows.covers_iff {r : Round} {visits order msgs : List UniqReqId}
    (h : r.Follows visits) (hSub : visits.Sublist order) (hNodup : order.Nodup)
    (hPerm : order.Perm msgs) : r.Covers msgs ↔ (r.ended = .finished → visits = order) := by
  constructor
  · intro hCovers hEnd
    rw [← forall_mem_iff_eq hSub hNodup, ← h.all hEnd]
    exact fun id hMem => hCovers.every hEnd id (hPerm.mem_iff.mp hMem)
  · intro hAll
    have hOrder := h.front.sublist.trans hSub
    refine ⟨h.terminates, h.nonempty, hNodup.sublist hOrder,
      fun id hMem => hPerm.mem_iff.mp (hOrder.subset hMem), ?_⟩
    intro hEnd id hMem
    rw [h.all hEnd, hAll hEnd]
    exact hPerm.mem_iff.mpr hMem

namespace GrantState

variable {cfg : GrantConfig} {s : GrantState}

theorem sendGrantsTsMsg_follows (hRange : s.inbound.InRange) (hNodup : s.inbound.cycle.Nodup)
    (h : cfg.pacerStops s ∨ ∀ id, s.inbound.cycle = [id] → deletes s.rx id = false) :
    (s.sendGrantsTsMsg cfg).Follows (skippingVisits (deletes s.rx) s.inbound.cycle) := by
  unfold sendGrantsTsMsg
  by_cases hAlone : ∀ id, s.inbound.cycle = [id] → deletes s.rx id = false
  · refine tsLoop_follows _ 0 hRange (List.append_nil _).symm ?_ rfl ?_ (fun _ _ => rfl)
      (.inr hAlone)
    · rwa [List.append_nil]
    · rw [CursorList.length_cycle]
      exact Nat.lt_succ_self _
  · push Not at hAlone
    obtain ⟨id, hCycle, hDeletes⟩ := hAlone
    have hPacer : cfg.pacerStops s := h.resolve_right fun hKeeps => hDeletes (hKeeps id hCycle)
    have hSize : 0 < s.inbound.size := by
      rw [← CursorList.length_cycle, hCycle]
      exact Nat.one_pos
    unfold tsLoop
    rw [if_pos hSize, if_pos hPacer]
    exact .of_ended nofun nofun nofun List.nil_prefix

theorem sendGrantsTsMsg_covers (hRange : s.inbound.InRange) (hIds : s.inbound.UniqueIds) :
    (s.sendGrantsTsMsg cfg).Covers s.inbound.items ↔
      (cfg.pacerStops s ∨ ∀ id, s.inbound.items = [id] → deletes s.rx id = false) ∧
      ((s.sendGrantsTsMsg cfg).ended = .finished →
        NoneInFront (deletes s.rx) s.inbound.cycle) := by
  have hNodup := uniqueIds_iff_nodup.mp hIds
  have hSingle : ∀ id, s.inbound.items = [id] ↔ s.inbound.cycle = [id] := by
    intro id
    rw [← List.perm_singleton, ← List.perm_singleton]
    exact ⟨s.inbound.perm_cycle.trans, s.inbound.perm_cycle.symm.trans⟩
  by_cases hStuck : cfg.pacerStops s ∨ ∀ id, s.inbound.items = [id] → deletes s.rx id = false
  · have hFollows := sendGrantsTsMsg_follows hRange hNodup
      (hStuck.imp_right fun hAlone id hCycle => hAlone id ((hSingle id).mpr hCycle))
    rw [hFollows.covers_iff (skippingVisits_sublist _ _) hNodup s.inbound.perm_cycle,
      skippingVisits_eq_iff]
    exact (and_iff_right hStuck).symm
  · refine iff_of_false ?_ fun hBoth => hStuck hBoth.1
    rw [not_or] at hStuck
    obtain ⟨hPacer, hAlone⟩ := hStuck
    push Not at hAlone
    obtain ⟨id, hItems, hDeletes⟩ := hAlone
    intro hCovers
    exact hCovers.nonempty (tsLoop_single _ hRange ((hSingle id).mp hItems) hPacer
      (Bool.not_eq_false _ ▸ hDeletes))

theorem sendGrantsSorted_covers {sorted : List UniqReqId} (hIds : s.inbound.UniqueIds)
    (hPerm : sorted.Perm s.inbound.items) :
    (s.sendGrantsSorted cfg sorted).Covers s.inbound.items ↔
      ((s.sendGrantsSorted cfg sorted).ended = .finished →
        NoneInFront (deletes s.rx) sorted) := by
  have hNodup : sorted.Nodup := by
    have hCycle := uniqueIds_iff_nodup.mp hIds
    exact (s.inbound.perm_cycle.trans hPerm.symm).nodup_iff.mp hCycle
  have hFollows : (s.sendGrantsSorted cfg sorted).Follows
      (shortenedVisits (deletes s.rx) 0 sorted) := by
    unfold sendGrantsSorted
    split
    · exact .of_ended nofun nofun nofun List.nil_prefix
    · refine sortedLoop_follows _ 0 0 (CursorList.InRange.reset _) ?_
        (List.append_nil sorted ▸ hNodup) rfl (Nat.lt_succ_self _) fun _ _ => rfl
      rw [List.append_nil]
      exact CursorList.cycle_reset _
  rw [hFollows.covers_iff (shortenedVisits_sublist _ 0 sorted) hNodup hPerm,
    shortenedVisits_zero_eq_iff]

end GrantState

/-- The rounds cover the list exactly if no message is deleted in front of another. In the round in
turn, the pacer also has to stop it before it deletes the only message. -/
theorem grantRounds_cover (cfg : GrantConfig) {s : GrantState} (hRange : s.inbound.InRange)
    (hIds : s.inbound.UniqueIds)
    (byRemaining : Sorting s.rx.fewerInboundBytesRemaining s.inbound.items)
    (byBif : Sorting s.rx.fewerBif s.inbound.items) :
    ((s.sendGrantsTsMsg cfg).Covers s.inbound.items ↔
      (cfg.pacerStops s ∨ ∀ id, s.inbound.items = [id] → GrantState.deletes s.rx id = false) ∧
      ((s.sendGrantsTsMsg cfg).ended = .finished →
        NoneInFront (GrantState.deletes s.rx) s.inbound.cycle)) ∧
    ((s.sendGrantsSrptMsg cfg byRemaining).Covers s.inbound.items ↔
      ((s.sendGrantsSrptMsg cfg byRemaining).ended = .finished →
        NoneInFront (GrantState.deletes s.rx) byRemaining.sorted)) ∧
    ((s.sendGrantsEqualBifMsg cfg byBif).Covers s.inbound.items ↔
      ((s.sendGrantsEqualBifMsg cfg byBif).ended = .finished →
        NoneInFront (GrantState.deletes s.rx) byBif.sorted)) :=
  ⟨GrantState.sendGrantsTsMsg_covers hRange hIds,
    GrantState.sendGrantsSorted_covers hIds byRemaining.perm,
    GrantState.sendGrantsSorted_covers hIds byBif.perm⟩

/-- A message that has all its data and all its grants, and one that has just been announced. -/
def twoInbound : GrantState where
  rx :=
    { budgetBytes := 100000
      inbound := (Table.empty.set ⟨1, 0, 1⟩ ⟨1, 1000, 1000, 1000, true, [], 0⟩).set
        ⟨1, 0, 2⟩ ⟨1, 1000, 0, 0, true, [], 0⟩
      senderState := Table.empty.set 1 ⟨100000, 100000⟩
      stats := { creditDataRequestRcvd := 5000 } }
  inbound := ⟨[⟨1, 0, 1⟩, ⟨1, 0, 2⟩], 0⟩

def grantConfig : GrantConfig := ⟨⟨100000, 100000, 0, true⟩, true, 10000⟩

def twoInboundByRemaining :
    Sorting twoInbound.rx.fewerInboundBytesRemaining twoInbound.inbound.items where
  sorted := [⟨1, 0, 1⟩, ⟨1, 0, 2⟩]
  perm := .refl _
  ordered := by decide

def twoInboundByBif : Sorting twoInbound.rx.fewerBif twoInbound.inbound.items where
  sorted := [⟨1, 0, 1⟩, ⟨1, 0, 2⟩]
  perm := .refl _
  ordered := by decide

theorem twoInbound_uniqueIds : twoInbound.inbound.UniqueIds := by
  unfold Msgs.UniqueIds
  decide

/-- The message of `twoInbound` that is deleted, alone. -/
def oneInbound : GrantState := { twoInbound with inbound := ⟨[⟨1, 0, 1⟩], 0⟩ }

/-- The round in turn comes past both messages when it starts with the second one. -/
theorem grantRounds_cover_twoInbound :
    let s := { twoInbound with inbound := ⟨[⟨1, 0, 1⟩, ⟨1, 0, 2⟩], 1⟩ }
    (s.sendGrantsTsMsg grantConfig).Covers s.inbound.items := by
  intro s
  have hCover := (grantRounds_cover (s := s) grantConfig (.inl (by decide)) twoInbound_uniqueIds
    twoInboundByRemaining twoInboundByBif).1
  exact hCover.mpr ⟨.inr fun id hOne => absurd hOne nofun, fun _ => by decide +kernel⟩

/-- No round comes past the second message, and there is no next message after the only one. -/
theorem grantRounds_skip :
    ¬ (twoInbound.sendGrantsTsMsg grantConfig).Covers twoInbound.inbound.items ∧
    ¬ (twoInbound.sendGrantsSrptMsg grantConfig twoInboundByRemaining).Covers
      twoInbound.inbound.items ∧
    ¬ (twoInbound.sendGrantsEqualBifMsg grantConfig twoInboundByBif).Covers
      twoInbound.inbound.items ∧
    (oneInbound.sendGrantsTsMsg grantConfig).ended = .emptyList := by
  refine ⟨fun h => ?_, fun h => ?_, fun h => ?_, by decide +kernel⟩
  all_goals exact absurd (h.every (by decide +kernel) ⟨1, 0, 2⟩ (by decide)) (by decide +kernel)

end Dpdq.Ns2
