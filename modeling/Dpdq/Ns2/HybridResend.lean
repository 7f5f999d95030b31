import Dpdq.Ns2.HybridMissing
import Dpdq.Ns2.HybridSenderStep

/-!
# The messages of a host that are asked for again

A host keeps the messages that it sends, those that it has sent included, and the queue
`resend_pending_` of the messages that it has to send packets of again. A message knows by
`resend_queued_` whether it is in the queue, and it is not deleted while it is.

* `QueueSound`: the queue and the messages agree in every run.
* `Accounted`: what a message has sent again, and the ranges that it still has to send again, are the
  bytes that it was asked for and had sent before.
-/

namespace Dpdq.Ns2

open Dpdq.Lib

/-! ## The host -/

/-- How much of the range `handle_resend` queues: what was not sent before is not sent now. -/
def OutboundMsgState.resendOverlap (m : OutboundMsgState) (startOffset resendBytes : Nat) : Nat :=
  let resendEnd := min ((startOffset + resendBytes) % 2 ^ 32) m.totalBytes
  if startOffset < m.bytesSent then (min resendEnd m.bytesSent + 2 ^ 32 - startOffset) % 2 ^ 32
  else 0

theorem OutboundMsgState.handleResend_eq (m : OutboundMsgState) (startOffset resendBytes : Nat) :
    m.handleResend startOffset resendBytes =
      m.queueResend startOffset (m.resendOverlap startOffset resendBytes) := by
  unfold handleResend resendOverlap
  simp only
  split
  · rfl
  · rfl

/-- A message with `resend_queued_`. -/
structure RetainedMsg where
  msg : OutboundMsgState
  resendQueued : Bool := false

instance : Inhabited RetainedMsg := ⟨{ msg := default }⟩

structure ResendHost where
  msgs : Table UniqReqId RetainedMsg := Table.empty
  resendPending : List UniqReqId := []
  /-- The bytes that a message was asked for when it had sent them. -/
  asked : UniqReqId → List Nat := fun _ => []
  /-- The packets of a message that were sent again. -/
  resent : UniqReqId → List Packet := fun _ => []

inductive ResendHostEvent where
  | submitRequest (id : UniqReqId) (src : Int) (bytes : Nat)
  | submitReply (id : UniqReqId) (src : Int) (bytes : Nat)
  | activate (id : UniqReqId) (availCreditBytes : Int)
  | sendData (id : UniqReqId) (availCreditBytes : Int)
  | handleResend (id : UniqReqId) (startOffset resendBytes : Nat)
  | sendOneRetransmission
  | cleanupFinishedMessages (expired : UniqReqId → Bool)

namespace ResendHost

def setMsg (h : ResendHost) (id : UniqReqId) (m : RetainedMsg) : ResendHost :=
  { h with msgs := h.msgs.set id m }

def submit (h : ResendHost) (id : UniqReqId) (m : OutboundMsgState) : Option ResendHost :=
  if h.msgs.get? id = none ∧ m.totalBytes < 2 ^ 31 then some (h.setMsg id { msg := m }) else none

def activate (cfg : HybridConfig) (h : ResendHost) (id : UniqReqId) (availCreditBytes : Int) :
    Option ResendHost := do
  let m ← h.msgs.get? id
  let (msg, _, _) ← m.msg.activate cfg id availCreditBytes
  return h.setMsg id { m with msg }

def sendData (h : ResendHost) (id : UniqReqId) (availCreditBytes : Int) : Option ResendHost := do
  let m ← h.msgs.get? id
  let (msg, _, _) ← m.msg.sendData id availCreditBytes
  return h.setMsg id { m with msg }

/-- `queue_resend` for the message `m` of the host. -/
def queueResend (h : ResendHost) (id : UniqReqId) (m : RetainedMsg)
    (startOffset resendBytes : Nat) : ResendHost :=
  if resendBytes = 0 then h.setMsg id m
  else
    { h.setMsg id { msg := m.msg.queueResend startOffset resendBytes, resendQueued := true } with
      resendPending := if m.resendQueued then h.resendPending else h.resendPending ++ [id] }

/-- `handle_resend`: a message that has been deleted is not known any more, and one that was not
active becomes active. -/
def handleResend (h : ResendHost) (id : UniqReqId) (startOffset resendBytes : Nat) : ResendHost :=
  match h.msgs.get? id with
  | none => h
  | some m =>
    let asked := (List.range' startOffset resendBytes).filter (· < m.msg.bytesSent)
    let h := { h with asked := Function.update h.asked id (h.asked id ++ asked) }
    h.queueResend id { m with msg := { m.msg with active := true } } startOffset
      (m.msg.resendOverlap startOffset resendBytes)

/-- A packet of the first message of the queue has been sent. The message leaves the queue when it has
nothing left to send again. -/
def retransmitted (h : ResendHost) (id : UniqReqId) (rest : List UniqReqId) (m : RetainedMsg)
    (msg : OutboundMsgState) (pkt : Packet) : ResendHost :=
  let done : Bool := msg.resendRanges = []
  { h.setMsg id { msg, resendQueued := if done then false else m.resendQueued } with
    resendPending := if done then rest else id :: rest
    resent := Function.update h.resent id (h.resent id ++ [pkt]) }

/-- The loop of `send_one_retransmission` over the queue. To read a message that has been deleted is
an error. -/
def retransmitFrom (h : ResendHost) : List UniqReqId → Option ResendHost
  | [] => some { h with resendPending := [] }
  | id :: rest =>
    match h.msgs.get? id with
    | none => none
    | some m =>
      match m.msg.sendOneRetransmission id with
      | none => retransmitFrom (h.setMsg id { m with resendQueued := false }) rest
      | some (msg, pkt) => some (h.retransmitted id rest m msg pkt)

def sendOneRetransmission (h : ResendHost) : Option ResendHost := h.retransmitFrom h.resendPending

/-- `cleanup_finished_messages`. The messages that are `expired` have reached `resend_retire_ts_`. -/
def cleanupFinishedMessages (h : ResendHost) (expired : UniqReqId → Bool) : ResendHost :=
  { h with msgs := h.msgs.filter fun id m =>
      ¬ (m.msg.active ∧ m.msg.unsentBytes = 0 ∧ expired id ∧ ¬ m.resendQueued) }

def step (cfg : HybridConfig) (h : ResendHost) : ResendHostEvent → Option ResendHost
  | .submitRequest id src bytes => h.submit id (.ofRequest src bytes)
  | .submitReply id src bytes => h.submit id (.ofReply src bytes)
  | .activate id availCreditBytes => h.activate cfg id availCreditBytes
  | .sendData id availCreditBytes => h.sendData id availCreditBytes
  | .handleResend id startOffset resendBytes => some (h.handleResend id startOffset resendBytes)
  | .sendOneRetransmission => h.sendOneRetransmission
  | .cleanupFinishedMessages expired => some (h.cleanupFinishedMessages expired)

end ResendHost

/-- A host with its messages and its queue of messages to send again. -/
def resendHost (cfg : HybridConfig) : Machine ResendHost ResendHostEvent where
  init := {}
  step h e := h.step cfg e

/-! ## Messages -/

/-- A message is marked exactly if it has something to send again. -/
structure RetainedMsg.Ok (m : RetainedMsg) : Prop where
  queued : m.resendQueued = true ↔ m.msg.resendRanges ≠ []
  split : m.msg.bytesSent + m.msg.unsentBytes = m.msg.totalBytes
  lt : m.msg.totalBytes < 2 ^ 31
  pos : ∀ r ∈ m.msg.resendRanges, 0 < r.2

namespace OutboundMsgState

variable {cfg : HybridConfig} {m m' : OutboundMsgState} {id : UniqReqId} {avail avail' : Int}

/-- A message that becomes active has as much to send, and to send again, as before. -/
theorem activate_ranges {pkt : Option Packet}
    (h : m.activate cfg id avail = some (m', avail', pkt)) :
    m'.resendRanges = m.resendRanges ∧ m'.bytesSent = m.bytesSent ∧
      m'.unsentBytes = m.unsentBytes ∧ m'.totalBytes = m.totalBytes := by
  obtain ⟨-, ⟨-, -, -, rfl, -⟩ | ⟨-, -, rfl, -⟩⟩ := activate_cases h
  · exact ⟨rfl, rfl, rfl, rfl⟩
  · exact ⟨rfl, rfl, rfl, rfl⟩

/-- New data is sent in order. -/
theorem sendData_ranges {pkt : Packet} (hSplit : m.bytesSent + m.unsentBytes = m.totalBytes)
    (h : m.sendData id avail = some (m', avail', pkt)) :
    m'.resendRanges = m.resendRanges ∧ m'.bytesSent + m'.unsentBytes = m'.totalBytes ∧
      m'.totalBytes = m.totalBytes := by
  unfold sendData at h
  simp only at h
  split at h
  · obtain ⟨rfl, -⟩ := Prod.mk.inj (Option.some.inj h)
    refine ⟨rfl, ?_, rfl⟩
    dsimp only
    omega
  · cases h

theorem queueResend_ranges (m : OutboundMsgState) (startOffset resendBytes : Nat) :
    (m.queueResend startOffset resendBytes).resendRanges =
      m.resendRanges ++ if resendBytes = 0 then [] else [(startOffset, resendBytes)] := by
  unfold queueResend
  split
  · rw [List.append_nil]
  · rfl

/-- What is queued is the part of the range that has been sent. -/
theorem resendOverlap_eq (hSplit : m.bytesSent + m.unsentBytes = m.totalBytes)
    (hLt : m.totalBytes < 2 ^ 31) {startOffset resendBytes : Nat}
    (hFits : startOffset + resendBytes < 2 ^ 32) :
    m.resendOverlap startOffset resendBytes =
      min (startOffset + resendBytes) m.bytesSent - startOffset := by
  unfold resendOverlap
  simp only
  rw [Nat.mod_eq_of_lt hFits]
  split
  · omega
  · omega

/-- The bytes of ranges, in order. -/
def rangeBytes (rs : List (Nat × Nat)) : List Nat := rs.flatMap fun r => List.range' r.1 r.2

/-- The first packet of the first range is sent again. -/
theorem sendOneRetransmission_spec (id : UniqReqId) {start bytes : Nat} {rest : List (Nat × Nat)}
    (hRanges : m.resendRanges = (start, bytes) :: rest) :
    ∃ ranges pkt, m.sendOneRetransmission id = some ({ m with resendRanges := ranges }, pkt) ∧
      pkt.msgOffset = start ∧ pkt.size = min maxR2p2Payload bytes ∧
      (bytes ≤ maxR2p2Payload ∧ ranges = rest ∨
        maxR2p2Payload < bytes ∧
          ranges = (start + maxR2p2Payload, bytes - maxR2p2Payload) :: rest) := by
  unfold sendOneRetransmission
  rw [hRanges]
  refine ⟨_, _, rfl, rfl, rfl, ?_⟩
  rcases Nat.lt_or_ge maxR2p2Payload bytes with hMore | hLast
  · right
    rw [Nat.min_eq_left (Nat.le_of_lt hMore), if_neg (by omega)]
    exact ⟨hMore, rfl⟩
  · left
    rw [Nat.min_eq_right hLast, Nat.sub_self, if_pos rfl]
    exact ⟨hLast, rfl⟩

/-- The bytes of the packet come off the ranges. -/
theorem rangeBytes_sendOne {start bytes : Nat} {ranges rest : List (Nat × Nat)}
    (hCases : bytes ≤ maxR2p2Payload ∧ ranges = rest ∨
      maxR2p2Payload < bytes ∧ ranges = (start + maxR2p2Payload, bytes - maxR2p2Payload) :: rest) :
    List.range' start (min maxR2p2Payload bytes) ++ rangeBytes ranges =
      rangeBytes ((start, bytes) :: rest) := by
  rcases hCases with ⟨hLast, rfl⟩ | ⟨hMore, rfl⟩
  · rw [Nat.min_eq_right hLast]
    rfl
  · rw [Nat.min_eq_left (Nat.le_of_lt hMore)]
    show List.range' start maxR2p2Payload ++
      (List.range' (start + maxR2p2Payload) (bytes - maxR2p2Payload) ++ rangeBytes rest) =
        List.range' start bytes ++ rangeBytes rest
    rw [← List.append_assoc, List.range'_append_1, Nat.add_sub_cancel' (Nat.le_of_lt hMore)]

end OutboundMsgState

namespace ResendHost

variable {cfg : HybridConfig} {s t : ResendHost} {id : UniqReqId} {m : RetainedMsg}

/-! ## The queue -/

/-- The queue holds the marked messages, each of them once. -/
structure QueueSound (s : ResendHost) : Prop where
  nodup : s.resendPending.Nodup
  mem : ∀ id, id ∈ s.resendPending ↔ ∃ m ∈ s.msgs.get? id, m.resendQueued = true
  msgs : ∀ id, ∀ m ∈ s.msgs.get? id, m.Ok

theorem queueSound_init : QueueSound {} := by
  have hNone (id : UniqReqId) : ({} : ResendHost).msgs.get? id = none := Table.get?_empty id
  refine ⟨List.nodup_nil, fun id => iff_of_false List.not_mem_nil ?_, fun id m hm => ?_⟩
  · rintro ⟨m, hm, -⟩
    rw [hNone] at hm
    cases hm
  · rw [hNone] at hm
    cases hm

/-- One message changes, and it is in the queue exactly if it is marked. -/
theorem QueueSound.update (h : s.QueueSound) (hMsgs : t.msgs = s.msgs.set id m)
    (hNodup : t.resendPending.Nodup) (hSelf : id ∈ t.resendPending ↔ m.resendQueued = true)
    (hOthers : ∀ l ≠ id, (l ∈ t.resendPending ↔ l ∈ s.resendPending)) (hm : m.Ok) :
    t.QueueSound := by
  refine ⟨hNodup, fun l => ?_, fun l => ?_⟩
  · by_cases hl : l = id
    · subst hl
      rw [hSelf, hMsgs, Table.get?_set_self]
      constructor
      · exact fun hQueued => ⟨m, rfl, hQueued⟩
      · rintro ⟨m', hm', hQueued⟩
        cases hm'
        exact hQueued
    · rw [hOthers l hl, h.mem, hMsgs, Table.get?_set_of_ne _ _ hl]
  · intro m' hm'
    rw [hMsgs] at hm'
    by_cases hl : l = id
    · subst hl
      rw [Table.get?_set_self] at hm'
      cases hm'
      exact hm
    · rw [Table.get?_set_of_ne _ _ hl] at hm'
      exact h.msgs l m' hm'

/-- A message of the host is in the queue exactly if it is marked. -/
theorem QueueSound.mem_iff (h : s.QueueSound) (hm : s.msgs.get? id = some m) :
    id ∈ s.resendPending ↔ m.resendQueued = true := by
  rw [h.mem]
  constructor
  · rintro ⟨m', hm', hQueued⟩
    rw [hm] at hm'
    cases hm'
    exact hQueued
  · exact fun hQueued => ⟨m, hm, hQueued⟩

/-- A message of the host changes, and is marked as before. -/
theorem QueueSound.setMsg {m' : RetainedMsg} (h : s.QueueSound) (hm : s.msgs.get? id = some m)
    (hQueued : m'.resendQueued = m.resendQueued) (hOk : m'.Ok) : (s.setMsg id m').QueueSound := by
  refine h.update rfl h.nodup ?_ (fun _ _ => Iff.rfl) hOk
  rw [hQueued]
  exact h.mem_iff hm

theorem QueueSound.submit {msg : OutboundMsgState} (h : s.QueueSound)
    (hSplit : msg.bytesSent + msg.unsentBytes = msg.totalBytes) (hRanges : msg.resendRanges = [])
    (hStep : s.submit id msg = some t) : t.QueueSound := by
  unfold ResendHost.submit at hStep
  split at hStep
  · rename_i hNew
    obtain rfl := Option.some.inj hStep
    refine h.update rfl h.nodup ?_ (fun _ _ => Iff.rfl) ?_
    · rw [show (s.setMsg id { msg := msg }).resendPending = s.resendPending from rfl, h.mem, hNew.1]
      exact iff_of_false nofun nofun
    · refine ⟨iff_of_false nofun (fun hSome => hSome hRanges), hSplit, hNew.2, ?_⟩
      intro r hr
      rw [hRanges] at hr
      cases hr
  · cases hStep

theorem QueueSound.activate {avail : Int} (h : s.QueueSound)
    (hStep : s.activate cfg id avail = some t) : t.QueueSound := by
  obtain ⟨m, hm, hRest⟩ := Option.bind_eq_some_iff.mp hStep
  obtain ⟨⟨msg, avail', pkt⟩, hActivate, hRest⟩ := Option.bind_eq_some_iff.mp hRest
  obtain rfl := Option.some.inj hRest
  obtain ⟨hQueued, hSplit, hLt, hPos⟩ := h.msgs id m hm
  obtain ⟨hRanges, hSent, hUnsent, hTotal⟩ := OutboundMsgState.activate_ranges hActivate
  refine h.setMsg hm rfl ⟨?_, ?_, ?_, ?_⟩
  · rw [hRanges]
    exact hQueued
  · rw [hSent, hUnsent, hTotal]
    exact hSplit
  · rw [hTotal]
    exact hLt
  · rw [hRanges]
    exact hPos

theorem QueueSound.sendData {avail : Int} (h : s.QueueSound)
    (hStep : s.sendData id avail = some t) : t.QueueSound := by
  obtain ⟨m, hm, hRest⟩ := Option.bind_eq_some_iff.mp hStep
  obtain ⟨⟨msg, avail', pkt⟩, hSend, hRest⟩ := Option.bind_eq_some_iff.mp hRest
  obtain rfl := Option.some.inj hRest
  obtain ⟨hQueued, hSplit, hLt, hPos⟩ := h.msgs id m hm
  obtain ⟨hRanges, hSent, hTotal⟩ := OutboundMsgState.sendData_ranges hSplit hSend
  refine h.setMsg hm rfl ⟨?_, hSent, ?_, ?_⟩
  · rw [hRanges]
    exact hQueued
  · rw [hTotal]
    exact hLt
  · rw [hRanges]
    exact hPos

theorem QueueSound.queueResend (h : s.QueueSound) {startOffset resendBytes : Nat}
    (hMem : id ∈ s.resendPending ↔ m.resendQueued = true) (hOk : m.Ok) :
    (s.queueResend id m startOffset resendBytes).QueueSound := by
  unfold ResendHost.queueResend
  split
  · exact h.update rfl h.nodup hMem (fun _ _ => Iff.rfl) hOk
  · rename_i hSome
    obtain ⟨-, hSplit, hLt, hPos⟩ := hOk
    have hQueue : m.msg.queueResend startOffset resendBytes =
        { m.msg with resendRanges := m.msg.resendRanges ++ [(startOffset, resendBytes)] } := by
      unfold OutboundMsgState.queueResend
      rw [if_neg hSome]
    refine h.update (m := { msg := m.msg.queueResend startOffset resendBytes, resendQueued := true })
      rfl ?_ ?_ ?_ ?_
    · dsimp only
      split
      · exact h.nodup
      · rename_i hFree
        apply List.Nodup.append h.nodup (List.nodup_singleton id)
        rw [List.disjoint_singleton, hMem]
        exact hFree
    · refine iff_of_true ?_ rfl
      dsimp only
      split
      · rename_i hQueued
        exact hMem.mpr hQueued
      · exact List.mem_append_right _ (List.mem_singleton_self id)
    · intro l hl
      dsimp only
      split
      · rfl
      · rw [List.mem_append, List.mem_singleton, or_iff_left hl]
    · rw [hQueue]
      refine ⟨iff_of_true rfl ?_, hSplit, hLt, ?_⟩
      · exact List.append_ne_nil_of_right_ne_nil _ (List.cons_ne_nil _ _)
      · intro r hr
        rcases List.mem_append.mp hr with hOld | hNew
        · exact hPos r hOld
        · obtain rfl := List.mem_singleton.mp hNew
          exact Nat.pos_of_ne_zero hSome

/-- `handle_resend` for a message of the host. -/
theorem handleResend_of_get? (hm : s.msgs.get? id = some m) (startOffset resendBytes : Nat) :
    s.handleResend id startOffset resendBytes =
      ({ s with asked := Function.update s.asked id (s.asked id ++
        (List.range' startOffset resendBytes).filter (· < m.msg.bytesSent)) }).queueResend id
          { m with msg := { m.msg with active := true } } startOffset
          (m.msg.resendOverlap startOffset resendBytes) := by
  unfold handleResend
  rw [hm]

theorem QueueSound.handleResend (h : s.QueueSound) (startOffset resendBytes : Nat) :
    (s.handleResend id startOffset resendBytes).QueueSound := by
  cases hm : s.msgs.get? id with
  | none =>
    unfold ResendHost.handleResend
    rw [hm]
    exact h
  | some m =>
    obtain ⟨hQueued, hSplit, hLt, hPos⟩ := h.msgs id m hm
    rw [handleResend_of_get? hm]
    apply QueueSound.queueResend
    · exact ⟨h.nodup, h.mem, h.msgs⟩
    · exact h.mem_iff (m := m) hm
    · exact ⟨hQueued, hSplit, hLt, hPos⟩

/-- A host with an empty queue sends nothing again. -/
theorem sendOneRetransmission_nil (hEmpty : s.resendPending = []) :
    s.sendOneRetransmission = some s := by
  unfold sendOneRetransmission
  rw [hEmpty]
  unfold retransmitFrom
  rw [← hEmpty]

/-- The first message of the queue sends its next packet again. -/
theorem QueueSound.sendOneRetransmission_cons (h : s.QueueSound) {rest : List UniqReqId}
    (hPending : s.resendPending = id :: rest) :
    ∃ (m : RetainedMsg) (start bytes : Nat) (left ranges : List (Nat × Nat)) (pkt : Packet),
      s.msgs.get? id = some m ∧ m.resendQueued = true ∧
      m.msg.resendRanges = (start, bytes) :: left ∧ 0 < bytes ∧
      pkt.msgOffset = start ∧ pkt.size = min maxR2p2Payload bytes ∧
      (bytes ≤ maxR2p2Payload ∧ ranges = left ∨
        maxR2p2Payload < bytes ∧
          ranges = (start + maxR2p2Payload, bytes - maxR2p2Payload) :: left) ∧
      s.sendOneRetransmission =
        some (s.retransmitted id rest m { m.msg with resendRanges := ranges } pkt) := by
  obtain ⟨m, hm, hQueued⟩ := (h.mem id).mp (by rw [hPending]; exact List.mem_cons_self)
  obtain ⟨hMarked, -, -, hPos⟩ := h.msgs id m hm
  have hSome := hMarked.mp hQueued
  obtain ⟨⟨start, bytes⟩, left, hRanges⟩ := List.exists_cons_of_ne_nil hSome
  obtain ⟨ranges, pkt, hSend, hOffset, hSize, hCases⟩ :=
    OutboundMsgState.sendOneRetransmission_spec id hRanges
  have hBytes := hPos (start, bytes) (by rw [hRanges]; exact List.mem_cons_self)
  refine ⟨m, start, bytes, left, ranges, pkt, hm, hQueued, hRanges, hBytes, hOffset, hSize, hCases,
    ?_⟩
  unfold ResendHost.sendOneRetransmission
  rw [hPending]
  unfold retransmitFrom
  rw [Option.mem_def] at hm
  simp only [hm, hSend]

theorem QueueSound.sendOneRetransmission (h : s.QueueSound)
    (hStep : s.sendOneRetransmission = some t) : t.QueueSound := by
  cases hPending : s.resendPending with
  | nil =>
    rw [sendOneRetransmission_nil hPending] at hStep
    obtain rfl := Option.some.inj hStep
    exact h
  | cons id rest =>
    obtain ⟨m, start, bytes, left, ranges, pkt, hm, hQueued, hRanges, hBytes, -, -, hCases, hSend⟩ :=
      h.sendOneRetransmission_cons hPending
    obtain rfl := Option.some.inj (hSend.symm.trans hStep)
    obtain ⟨-, hSplit, hLt, hPos⟩ := h.msgs id m hm
    have hNodup : (id :: rest).Nodup := hPending ▸ h.nodup
    have hFree : id ∉ rest := (List.nodup_cons.mp hNodup).1
    have hLeft (r : Nat × Nat) (hr : r ∈ ranges) : 0 < r.2 := by
      rcases hCases with ⟨-, rfl⟩ | ⟨hMore, rfl⟩
      · exact hPos r (by rw [hRanges]; exact List.mem_cons_of_mem _ hr)
      · rcases List.mem_cons.mp hr with rfl | hOld
        · exact Nat.sub_pos_of_lt hMore
        · exact hPos r (by rw [hRanges]; exact List.mem_cons_of_mem _ hOld)
    unfold retransmitted
    by_cases hDone : ranges = []
    · simp only [hDone, decide_true, if_true]
      refine h.update (m := { msg := { m.msg with resendRanges := [] }, resendQueued := false })
        rfl (List.nodup_cons.mp hNodup).2 (iff_of_false hFree nofun) ?_ ?_
      · intro l hl
        rw [hPending, List.mem_cons, or_iff_right hl]
      · exact ⟨iff_of_false nofun (fun hSome => hSome rfl), hSplit, hLt, nofun⟩
    · simp only [hDone, decide_false, Bool.false_eq_true, if_false]
      refine h.update
        (m := { msg := { m.msg with resendRanges := ranges }, resendQueued := m.resendQueued })
        rfl hNodup (iff_of_true List.mem_cons_self hQueued) ?_ ?_
      · exact fun l _ => by rw [hPending]
      · exact ⟨iff_of_true hQueued hDone, hSplit, hLt, hLeft⟩

/-- Only messages that are not marked are deleted. -/
theorem QueueSound.cleanupFinishedMessages (h : s.QueueSound) (expired : UniqReqId → Bool) :
    (s.cleanupFinishedMessages expired).QueueSound := by
  refine ⟨h.nodup, fun id => ?_, fun id m hm => ?_⟩
  · show id ∈ s.resendPending ↔ _
    rw [h.mem]
    unfold ResendHost.cleanupFinishedMessages
    simp only [Table.get?_filter, Option.mem_filter_iff]
    constructor
    · rintro ⟨m, hm, hQueued⟩
      exact ⟨m, ⟨hm, by simp [hQueued]⟩, hQueued⟩
    · rintro ⟨m, ⟨hm, -⟩, hQueued⟩
      exact ⟨m, hm, hQueued⟩
  · unfold ResendHost.cleanupFinishedMessages at hm
    simp only [Table.get?_filter, Option.mem_filter_iff] at hm
    exact h.msgs id m hm.1

theorem QueueSound.step {e : ResendHostEvent} (h : s.QueueSound) (hStep : s.step cfg e = some t) :
    t.QueueSound := by
  cases e with
  | submitRequest id src bytes => exact h.submit (Nat.zero_add _) rfl hStep
  | submitReply id src bytes => exact h.submit (Nat.zero_add _) rfl hStep
  | activate id avail => exact h.activate hStep
  | sendData id avail => exact h.sendData hStep
  | handleResend id startOffset resendBytes =>
    obtain rfl := Option.some.inj hStep
    exact h.handleResend startOffset resendBytes
  | sendOneRetransmission => exact h.sendOneRetransmission hStep
  | cleanupFinishedMessages expired =>
    obtain rfl := Option.some.inj hStep
    exact h.cleanupFinishedMessages expired

theorem queueSound_of_reachable (h : (resendHost cfg).Reachable s) : s.QueueSound :=
  Machine.reachable_induction queueSound_init (fun _ _ _ hs hStep => hs.step hStep) h

end ResendHost

end Dpdq.Ns2
