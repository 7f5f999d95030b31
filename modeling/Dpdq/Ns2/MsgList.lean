import Dpdq.Lib.CursorList
import Dpdq.Lib.Machine
import Dpdq.Ns2.HybridSender

/-!
# The message lists of `R2p2CCHybrid`

`InboundMsgs` and `OutboundMsgs` of `r2p2-hybrid-support.cc` are two classes with the same code:
a vector of messages and the position `current_` of the one whose turn is next. An operation that
throws an exception yields `none`.

`send_data` walks over the messages that are not yet active and takes those away that it
activates. It counts the messages before it starts, so that it comes past each of them once.
-/

namespace Dpdq.Ns2

open Dpdq.Lib

/-! ## The lists -/

/-- What a list reads of a message. -/
class GenericMsgState (μ : Type) where
  reqId : μ → UniqReqId

abbrev Msgs (μ : Type) := CursorList μ

/-- A message with the number under which `Hybrid.inbound` has its state. -/
instance : GenericMsgState UniqReqId := ⟨id⟩

abbrev InboundMsgs := Msgs UniqReqId

/-- An `OutboundMsgState` with the fields of its `GenericMsgState`. -/
structure OutboundMsg where
  reqId : UniqReqId
  remoteAddr : Int
  state : OutboundMsgState
deriving DecidableEq, Repr

instance : GenericMsgState OutboundMsg := ⟨OutboundMsg.reqId⟩

abbrev OutboundMsgs := Msgs OutboundMsg

namespace Msgs

open GenericMsgState (reqId)

variable {μ : Type} [GenericMsgState μ]

def findPos (l : Msgs μ) (id : UniqReqId) : Option Nat := CursorList.findPos reqId l id

def remove (l : Msgs μ) (id : UniqReqId) : Option (Msgs μ) :=
  (l.findPos id).map (CursorList.removeAt l)

/-- The messages have different request numbers. -/
def UniqueIds (l : Msgs μ) : Prop := (l.items.map reqId).Nodup

instance (l : Msgs μ) : Decidable l.UniqueIds := inferInstanceAs (Decidable (List.Nodup _))

/-- The calls on a list. -/
inductive Event (μ : Type)
  | add (msg : μ)
  | remove (id : UniqReqId)
  | next

def step (l : Msgs μ) : Event μ → Option (Msgs μ)
  | .add msg => some (CursorList.add l msg)
  | .remove id => l.remove id
  | .next => (CursorList.next l).map Prod.snd

def machine (μ : Type) [GenericMsgState μ] : Machine (Msgs μ) (Event μ) where
  init := {}
  step := step

/-- The list is the cyclic sequence `cycle`. -/
structure Cyclic (l : Msgs μ) : Prop where
  inRange : l.cursor < l.size ∨ l.size = 0 ∧ l.cursor = 0
  next : ∀ n, (l.visits n).map Prod.fst = (turns n l.cycle).map Prod.fst
  round : ∃ l', l.visits l.size = some (l.cycle, l') ∧ l'.cycle = l.cycle
  exactlyOnce : l.cycle.Perm l.items
  remove : ∀ id l', l.remove id = some l' → ∃ front msg back, reqId msg = id ∧
    l.cycle = front ++ msg :: back ∧ l'.cycle = front ++ back ∧
    ∀ n, (l'.visits n).map Prod.fst = (turns n (front ++ back)).map Prod.fst

theorem uniqueIds_iff {l : Msgs μ} : l.UniqueIds ↔ (l.cycle.map reqId).Nodup :=
  (l.perm_cycle.map reqId).nodup_iff.symm

theorem inRange_of_reachable {l : Msgs μ} (h : (machine μ).Reachable l) : l.InRange := by
  refine Machine.reachable_induction (I := CursorList.InRange) (CursorList.inRange_zero []) ?_ h
  intro l e l' hRange hStep
  cases e with
  | add msg =>
    cases hStep
    exact hRange.add msg
  | remove id =>
    obtain ⟨-, -, -, -, -, -, hRange'⟩ := CursorList.remove_cycle hRange hStep
    exact hRange'
  | next =>
    obtain ⟨⟨msg, l₁⟩, hNext, rfl⟩ := Option.map_eq_some_iff.mp hStep
    obtain ⟨-, -, hRange', -⟩ := CursorList.next_eq_some hRange hNext
    exact hRange'

omit [GenericMsgState μ] in
theorem visits_fst {l : Msgs μ} (h : l.InRange) (n : Nat) :
    (l.visits n).map Prod.fst = (turns n l.cycle).map Prod.fst := by
  rw [← CursorList.visits_eq_turns h n, Option.map_map]
  rfl

theorem cyclic_of_inRange {l : Msgs μ} (h : l.InRange) : l.Cyclic where
  inRange := h
  next := visits_fst h
  round := CursorList.visits_size h
  exactlyOnce := l.perm_cycle
  remove := by
    intro id l' hRemove
    obtain ⟨front, msg, back, hId, hCycle, hRemoved, hRange⟩ := CursorList.remove_cycle h hRemove
    exact ⟨front, msg, back, hId, hCycle, hRemoved, fun n => hRemoved ▸ visits_fst hRange n⟩

end Msgs

/-! ## The activation loop -/

/-- What `send_data` works on while it activates messages. -/
structure Activation where
  outboundInactive : OutboundMsgs
  outbound : List OutboundMsg := []
  forwarded : List (Packet × Int) := []
  dataPacerBacklog : Int := 0

inductive ActivationFailure where
  | noMsg
  | totalUnsent
  | unsolicitedThresh
deriving DecidableEq, Repr

/-- What becomes of a message that is activated. Only a message without credit of its own is
announced then, by a GRANT_REQ. -/
def OutboundMsg.activated (msg : OutboundMsg) : OutboundMsg :=
  { msg with state := { msg.state with
      active := true
      sentAnouncement := msg.state.sentAnouncement ∨ msg.state.isScheduled } }

namespace Activation

/-- The GRANT_REQ of a message that has no credit of its own. -/
def requestCredit (s : Activation) (msg : OutboundMsg) : Activation :=
  { s with
    forwarded := s.forwarded ++ [(msg.state.grantReq msg.reqId, msg.remoteAddr)]
    dataPacerBacklog := s.dataPacerBacklog + (4 + wireOverhead : Nat) }

/-- `add_outbound_msg`: the message is for the list of its receiver. -/
def addOutboundMsg (s : Activation) (msg : OutboundMsg) : Activation :=
  { s with outbound := s.outbound ++ [msg] }

/-- One round of the loop, for the message `msg` that `next` has returned. -/
def activateMsg (cfg : HybridConfig) (s : Activation) (msg : OutboundMsg) :
    Except ActivationFailure Activation := do
  if msg.state.sentAnouncement then return s
  else
    check (msg.state.totalBytes = msg.state.unsentBytes) .totalUnsent
    check (msg.state.isScheduled = true → cfg.unsolicitedThreshBytes ≠ -1) .unsolicitedThresh
    let s := if msg.state.isScheduled then s.requestCredit msg else s
    match s.outboundInactive.remove msg.reqId with
    | none => .error .noMsg
    | some inactive => .ok ({ s with outboundInactive := inactive }.addOutboundMsg msg.activated)

/-- `n` rounds of the loop, with the messages that they come past. -/
def activateLoop (cfg : HybridConfig) : Nat → Activation →
    Except ActivationFailure (List OutboundMsg × Activation)
  | 0, s => .ok ([], s)
  | n + 1, s =>
    match CursorList.next s.outboundInactive with
    | none => .error .noMsg
    | some (msg, inactive) => do
      let s ← activateMsg cfg { s with outboundInactive := inactive } msg
      let (msgs, s) ← activateLoop cfg n s
      return (msg :: msgs, s)

/-- The loop of `send_data` that activates messages. -/
def activateMsgs (cfg : HybridConfig) (s : Activation) :
    Except ActivationFailure (List OutboundMsg × Activation) :=
  activateLoop cfg s.outboundInactive.size s

/-- The assertions of a round hold for the message. -/
def Allows (cfg : HybridConfig) (msg : OutboundMsg) : Prop :=
  msg.state.sentAnouncement = false → msg.state.totalBytes = msg.state.unsentBytes ∧
    (msg.state.isScheduled = true → cfg.unsolicitedThreshBytes ≠ -1)

/-- `t` is the state after the loop came past `msgs`. -/
structure Passed (s t : Activation) (msgs : List OutboundMsg) : Prop where
  outbound : t.outbound = s.outbound ++
    (msgs.filter fun m => ¬ m.state.sentAnouncement).map OutboundMsg.activated
  forwarded : t.forwarded = s.forwarded ++
    (msgs.filter fun m => ¬ m.state.sentAnouncement ∧ m.state.isScheduled).map
      fun m => (m.state.grantReq m.reqId, m.remoteAddr)

variable {cfg : HybridConfig} {s t u : Activation} {msg : OutboundMsg}
  {msgs rest : List OutboundMsg}

theorem Passed.cons (h : Passed s t [msg]) (hRest : Passed t u msgs) :
    Passed s u (msg :: msgs) where
  outbound := by
    rw [hRest.outbound, h.outbound, List.append_assoc, ← List.map_append, ← List.filter_append]
    rfl
  forwarded := by
    rw [hRest.forwarded, h.forwarded, List.append_assoc, ← List.map_append, ← List.filter_append]
    rfl

/-- A round takes the message away from the list if it was not announced. -/
theorem activateMsg_cases (cfg : HybridConfig) (hRange : s.outboundInactive.InRange)
    (hIds : s.outboundInactive.UniqueIds)
    (hCycle : s.outboundInactive.cycle = rest ++ [msg]) :
    (∃ t, activateMsg cfg s msg = .ok t ∧ t.outboundInactive.InRange ∧ Passed s t [msg] ∧
      t.outboundInactive.cycle = rest ++ [msg].filter fun m => m.state.sentAnouncement) ∨
    ∃ e, activateMsg cfg s msg = .error e ∧ e ≠ .noMsg ∧ ¬ Allows cfg msg := by
  unfold activateMsg
  cases hAnnounced : msg.state.sentAnouncement with
  | true =>
    left
    refine ⟨s, rfl, hRange, ⟨?_, ?_⟩, ?_⟩ <;> simp [hAnnounced, hCycle]
  | false =>
    rw [if_neg nofun]
    by_cases hUnsent : msg.state.totalBytes = msg.state.unsentBytes
    · by_cases hThresh : msg.state.isScheduled = true → cfg.unsolicitedThreshBytes ≠ -1
      · left
        obtain ⟨inactive, hRemove, hRemoved, hRange'⟩ :=
          CursorList.remove_of_cycle hRange hIds hCycle
        have hRemove : s.outboundInactive.remove msg.reqId = some inactive := hRemove
        rw [check_bind_of hUnsent, check_bind_of hThresh]
        cases hScheduled : msg.state.isScheduled with
        | true =>
          refine ⟨_, by simp [requestCredit, hRemove]; rfl, hRange', ⟨?_, ?_⟩, ?_⟩ <;>
            simp [addOutboundMsg, hAnnounced, hScheduled, hRemoved]
        | false =>
          refine ⟨_, by simp [hRemove]; rfl, hRange', ⟨?_, ?_⟩, ?_⟩ <;>
            simp [addOutboundMsg, hAnnounced, hScheduled, hRemoved]
      · right
        refine ⟨.unsolicitedThresh, ?_, nofun, fun hAllows => hThresh (hAllows hAnnounced).2⟩
        rw [check_bind_of hUnsent, check_bind_of_not hThresh]
    · right
      refine ⟨.totalUnsent, ?_, nofun, fun hAllows => hUnsent (hAllows hAnnounced).1⟩
      rw [check_bind_of_not hUnsent]

/-- From the message whose turn is next on, the loop comes past the messages in their order. -/
theorem activateLoop_cases (cfg : HybridConfig) (todo kept : List OutboundMsg)
    (hRange : s.outboundInactive.InRange) (hIds : s.outboundInactive.UniqueIds)
    (hCycle : s.outboundInactive.cycle = todo ++ kept) :
    (∃ t, activateLoop cfg todo.length s = .ok (todo, t) ∧ Passed s t todo ∧
      t.outboundInactive.cycle = kept ++ todo.filter fun m => m.state.sentAnouncement) ∨
    ∃ e, activateLoop cfg todo.length s = .error e ∧ e ≠ .noMsg ∧ ∃ m ∈ todo, ¬ Allows cfg m := by
  induction todo generalizing s kept with
  | nil =>
    left
    refine ⟨s, rfl, ⟨?_, ?_⟩, ?_⟩ <;> simp [hCycle]
  | cons msg todo ih =>
    rw [List.cons_append] at hCycle
    obtain ⟨inactive, hNext, hRange₁, hCycle₁, hItems⟩ := CursorList.next_of_cycle hRange hCycle
    rw [List.length_cons, activateLoop, hNext]
    dsimp only
    have hIds₁ : Msgs.UniqueIds inactive := by
      unfold Msgs.UniqueIds
      rw [hItems]
      exact hIds
    rcases activateMsg_cases (s := { s with outboundInactive := inactive }) cfg
      hRange₁ hIds₁ hCycle₁ with ⟨t, hOk, hRange₂, hPassed, hCycle₂⟩ | ⟨e, hError, hMsg, hNot⟩
    · have hIds₂ : t.outboundInactive.UniqueIds := by
        have hSublist : t.outboundInactive.cycle.Sublist (todo ++ kept ++ [msg]) :=
          hCycle₂ ▸ (List.Sublist.refl _).append List.filter_sublist
        rw [Msgs.uniqueIds_iff, hCycle₁] at hIds₁
        exact Msgs.uniqueIds_iff.mpr (hIds₁.sublist (hSublist.map _))
      rw [List.append_assoc] at hCycle₂
      rw [hOk]
      rcases ih _ hRange₂ hIds₂ hCycle₂ with ⟨u, hLoop, hRest, hCycle₃⟩ |
          ⟨e, hError, hMsg, m, hm, hNot⟩
      · left
        have hAll := hPassed.cons hRest
        refine ⟨u, by simp [bind, Except.bind, hLoop, pure, Except.pure],
          ⟨hAll.outbound, hAll.forwarded⟩, ?_⟩
        rw [hCycle₃, List.append_assoc, ← List.filter_append]
        rfl
      · right
        exact ⟨e, by simp [bind, Except.bind, hError], hMsg, m, List.mem_cons_of_mem _ hm, hNot⟩
    · right
      rw [hError]
      exact ⟨e, rfl, hMsg, msg, List.mem_cons_self, hNot⟩

/-- The loop comes past every inactive message once, and activates those that it finds not
announced. It fails at an assertion of a message, never at the list. -/
def ActivatesOnce (cfg : HybridConfig) (s : Activation) : Prop :=
  match activateMsgs cfg s with
  | .ok (msgs, t) => msgs = s.outboundInactive.cycle ∧ msgs.Perm s.outboundInactive.items ∧
      Passed s t msgs ∧
      t.outboundInactive.cycle = msgs.filter fun m => m.state.sentAnouncement
  | .error e => e ≠ .noMsg ∧ ∃ m ∈ s.outboundInactive.items, ¬ Allows cfg m

theorem activatesOnce (cfg : HybridConfig) (hRange : s.outboundInactive.InRange)
    (hIds : s.outboundInactive.UniqueIds) : s.ActivatesOnce cfg := by
  have hCases := activateLoop_cases cfg s.outboundInactive.cycle [] hRange hIds
    (List.append_nil _).symm
  rw [CursorList.length_cycle] at hCases
  unfold ActivatesOnce activateMsgs
  rcases hCases with ⟨t, hLoop, hPassed, hCycle⟩ | ⟨e, hError, hMsg, m, hm, hNot⟩
  · rw [hLoop]
    exact ⟨rfl, s.outboundInactive.perm_cycle, hPassed, hCycle⟩
  · rw [hError]
    exact ⟨hMsg, m, s.outboundInactive.perm_cycle.mem_iff.mp hm, hNot⟩

end Activation

/-! ## The result -/

/-- In every run a list is a cyclic sequence, and the loop over the inactive messages comes past
each of them once. -/
theorem msgs_cyclic {μ : Type} [GenericMsgState μ] {l : Msgs μ}
    (hReach : (Msgs.machine μ).Reachable l) (cfg : HybridConfig) {s : Activation}
    (hInactive : (Msgs.machine OutboundMsg).Reachable s.outboundInactive)
    (hIds : s.outboundInactive.UniqueIds) : l.Cyclic ∧ s.ActivatesOnce cfg :=
  ⟨Msgs.cyclic_of_inRange (Msgs.inRange_of_reachable hReach),
    Activation.activatesOnce cfg (Msgs.inRange_of_reachable hInactive) hIds⟩

/-- Three messages, of which the one under the cursor goes. -/
def threeMsgs : List (Msgs.Event UniqReqId) :=
  [.add ⟨1, 0, 1⟩, .add ⟨1, 0, 2⟩, .add ⟨1, 0, 3⟩, .next, .remove ⟨1, 0, 2⟩]

def scheduledMsg (number : Nat) (announced : Bool) : OutboundMsg :=
  ⟨⟨1, 0, number⟩, 2, { OutboundMsgState.ofRequest 1 5000 with sentAnouncement := announced }⟩

/-- Three inactive messages, the second of them announced, whose turn is next. -/
def threeInactive : Activation :=
  ⟨⟨[scheduledMsg 1 false, scheduledMsg 2 true, scheduledMsg 3 false], 1⟩, [], [], 0⟩

theorem msgs_cyclic_threeMsgs :
    Msgs.Cyclic (⟨[⟨1, 0, 1⟩, ⟨1, 0, 3⟩], 1⟩ : InboundMsgs) ∧
      Activation.ActivatesOnce ⟨100000, 100000, 0, true⟩ threeInactive :=
  msgs_cyclic ⟨threeMsgs, by decide⟩ _
    ⟨[.add (scheduledMsg 1 false), .add (scheduledMsg 2 true), .add (scheduledMsg 3 false), .next],
      rfl⟩ (by decide)

end Dpdq.Ns2
