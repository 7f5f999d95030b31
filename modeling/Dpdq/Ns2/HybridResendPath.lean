import Dpdq.Ns2.HybridResend
import Mathlib.Algebra.GroupWithZero.Nat

/-!
# What is sent again

A message that is asked for a range again sends the bytes of it that it has sent before, no others,
in order and in packets that lie inside one chunk each: `Accounted` and `Chunked` hold in every run,
and when the queue is empty all that was asked for has been sent. Together with the ranges that the
receiver asks for this is `resend_path`.
-/

namespace Dpdq.Ns2

open Dpdq.Lib

/-- The bytes of the message that the packet brings. -/
def Packet.dataBytes (p : Packet) : List Nat := List.range' p.msgOffset.toNat p.size

/-- All bytes of the packet are in one chunk of the message. -/
def Packet.InOneChunk (p : Packet) : Prop := ∃ i, ∀ b ∈ p.dataBytes, b / maxR2p2Payload = i

namespace ResendHostEvent

/-- The range of a RESEND. -/
def range : ResendHostEvent → Option (Nat × Nat)
  | .handleResend _ startOffset resendBytes => some (startOffset, resendBytes)
  | _ => none

/-- The end of the range that is asked for fits into 32 bits. -/
def Fits (e : ResendHostEvent) : Prop := ∀ r ∈ e.range, r.1 + r.2 < 2 ^ 32

/-- The range that is asked for starts with a chunk. -/
def StartsChunk (e : ResendHostEvent) : Prop := ∀ r ∈ e.range, r.1 % maxR2p2Payload = 0

instance (e : ResendHostEvent) : Decidable e.Fits := inferInstanceAs (Decidable (∀ r ∈ _, _))

instance (e : ResendHostEvent) : Decidable e.StartsChunk :=
  inferInstanceAs (Decidable (∀ r ∈ _, _))

theorem fits_sendOneRetransmission : sendOneRetransmission.Fits := by
  intro r hr
  cases hr

end ResendHostEvent

/-- The part of a range in front of a bound. -/
theorem filter_lt_range' (start bytes bound : Nat) :
    (List.range' start bytes).filter (· < bound) =
      List.range' start (min (start + bytes) bound - start) := by
  induction bytes generalizing start with
  | zero =>
    rw [Nat.add_zero, Nat.sub_eq_zero_of_le (Nat.min_le_left _ _)]
    rfl
  | succ bytes ih =>
    rw [List.range'_succ]
    rcases Nat.lt_or_ge start bound with hBefore | hBehind
    · have hLength : min (start + (bytes + 1)) bound - start =
          min (start + 1 + bytes) bound - (start + 1) + 1 := by omega
      rw [List.filter_cons_of_pos (by simpa using hBefore), ih, hLength, List.range'_succ]
    · have hNone : min (start + 1 + bytes) bound - (start + 1) = 0 := by omega
      have hNone' : min (start + (bytes + 1)) bound - start = 0 := by omega
      rw [List.filter_cons_of_neg (by simpa using hBehind), ih, hNone, hNone']
      rfl

namespace ResendHost

variable {cfg : HybridConfig} {s t : ResendHost} {id : UniqReqId} {m : RetainedMsg}

/-! ## Bytes -/

/-- The ranges of a message that are still to be sent again. -/
def resendRanges (s : ResendHost) (id : UniqReqId) : List (Nat × Nat) :=
  (s.msgs.get? id).elim [] fun m => m.msg.resendRanges

def queuedBytes (s : ResendHost) (id : UniqReqId) : List Nat :=
  OutboundMsgState.rangeBytes (s.resendRanges id)

def resentBytes (s : ResendHost) (id : UniqReqId) : List Nat :=
  (s.resent id).flatMap Packet.dataBytes

/-- What was sent again and what is still to be sent again is what was asked for. -/
def Accounted (s : ResendHost) : Prop := ∀ id, s.resentBytes id ++ s.queuedBytes id = s.asked id

/-- The ranges start with a chunk, and the packets do not cross the end of one. -/
structure Chunked (s : ResendHost) : Prop where
  ranges : ∀ id, ∀ r ∈ s.resendRanges id, r.1 % maxR2p2Payload = 0
  packets : ∀ id, ∀ p ∈ s.resent id, p.InOneChunk

theorem chunked_init : Chunked {} where
  ranges _ _ hr := absurd hr List.not_mem_nil
  packets _ _ hp := absurd hp List.not_mem_nil

theorem resendRanges_of_get? (hm : s.msgs.get? id = some m) :
    s.resendRanges id = m.msg.resendRanges := by
  unfold resendRanges
  rw [hm]
  rfl

theorem resendRanges_set (hMsgs : t.msgs = s.msgs.set id m) :
    t.resendRanges = Function.update s.resendRanges id m.msg.resendRanges := by
  funext l
  unfold resendRanges
  rw [hMsgs]
  by_cases hl : l = id
  · subst hl
    rw [Table.get?_set_self, Function.update_self]
    rfl
  · rw [Table.get?_set_of_ne _ _ hl, Function.update_of_ne hl]

/-! ## Steps -/

/-- What a step does to the ranges and the packets. -/
inductive ResendChange (s t : ResendHost) : ResendHostEvent → Prop
  | same (e : ResendHostEvent) (hRanges : t.resendRanges = s.resendRanges)
      (hAsked : t.asked = s.asked) (hResent : t.resent = s.resent) : ResendChange s t e
  | asked (id : UniqReqId) (m : RetainedMsg) (startOffset resendBytes len : Nat)
      (hLen : startOffset + resendBytes < 2 ^ 32 →
        len = min (startOffset + resendBytes) m.msg.bytesSent - startOffset)
      (hRanges : t.resendRanges = Function.update s.resendRanges id
        (s.resendRanges id ++ if len = 0 then [] else [(startOffset, len)]))
      (hAsked : t.asked = Function.update s.asked id (s.asked id ++
        (List.range' startOffset resendBytes).filter (· < m.msg.bytesSent)))
      (hResent : t.resent = s.resent) :
      ResendChange s t (.handleResend id startOffset resendBytes)
  | sent (id : UniqReqId) (start bytes : Nat) (left ranges : List (Nat × Nat)) (pkt : Packet)
      (hOld : s.resendRanges id = (start, bytes) :: left) (hOffset : pkt.msgOffset = start)
      (hSize : pkt.size = min maxR2p2Payload bytes)
      (hCases : bytes ≤ maxR2p2Payload ∧ ranges = left ∨
        maxR2p2Payload < bytes ∧
          ranges = (start + maxR2p2Payload, bytes - maxR2p2Payload) :: left)
      (hRanges : t.resendRanges = Function.update s.resendRanges id ranges)
      (hAsked : t.asked = s.asked)
      (hResent : t.resent = Function.update s.resent id (s.resent id ++ [pkt])) :
      ResendChange s t .sendOneRetransmission

/-- A message with unchanged ranges is written. -/
theorem resendRanges_setMsg (hOld : s.resendRanges id = m.msg.resendRanges) :
    (s.setMsg id m).resendRanges = s.resendRanges := by
  have hSet : (s.setMsg id m).resendRanges =
      Function.update s.resendRanges id m.msg.resendRanges := resendRanges_set rfl
  rw [hSet, ← hOld, Function.update_eq_self]

theorem submit_resendChange {e : ResendHostEvent} {msg : OutboundMsgState}
    (hRanges : msg.resendRanges = []) (hStep : s.submit id msg = some t) : ResendChange s t e := by
  unfold submit at hStep
  split at hStep
  · rename_i hNew
    obtain rfl := Option.some.inj hStep
    refine .same e (resendRanges_setMsg ?_) rfl rfl
    unfold resendRanges
    rw [hNew.1]
    exact hRanges.symm
  · cases hStep

theorem activate_resendChange {e : ResendHostEvent} {avail : Int}
    (hStep : s.activate cfg id avail = some t) : ResendChange s t e := by
  obtain ⟨m, hm, hRest⟩ := Option.bind_eq_some_iff.mp hStep
  obtain ⟨⟨msg, avail', pkt⟩, hActivate, hRest⟩ := Option.bind_eq_some_iff.mp hRest
  obtain rfl := Option.some.inj hRest
  obtain ⟨hRanges, -⟩ := OutboundMsgState.activate_ranges hActivate
  refine .same e (resendRanges_setMsg ?_) rfl rfl
  rw [resendRanges_of_get? hm]
  exact hRanges.symm

theorem sendData_resendChange {e : ResendHostEvent} {avail : Int} (h : s.QueueSound)
    (hStep : s.sendData id avail = some t) : ResendChange s t e := by
  obtain ⟨m, hm, hRest⟩ := Option.bind_eq_some_iff.mp hStep
  obtain ⟨⟨msg, avail', pkt⟩, hSend, hRest⟩ := Option.bind_eq_some_iff.mp hRest
  obtain rfl := Option.some.inj hRest
  obtain ⟨hRanges, -⟩ := OutboundMsgState.sendData_ranges (h.msgs id m hm).split hSend
  refine .same e (resendRanges_setMsg ?_) rfl rfl
  rw [resendRanges_of_get? hm]
  exact hRanges.symm

/-- A message of the host has the ranges that `queue_resend` leaves it. -/
theorem queueResend_resendRanges (s : ResendHost) (id : UniqReqId) (m : RetainedMsg)
    (startOffset len : Nat) : (s.queueResend id m startOffset len).resendRanges =
      Function.update s.resendRanges id (m.msg.queueResend startOffset len).resendRanges := by
  unfold queueResend
  split
  · rename_i hNone
    unfold OutboundMsgState.queueResend
    rw [if_pos hNone]
    exact resendRanges_set rfl
  · exact resendRanges_set (m := { msg := m.msg.queueResend startOffset len, resendQueued := true })
      rfl

theorem handleResend_logs (hm : s.msgs.get? id = some m) (startOffset resendBytes : Nat) :
    (s.handleResend id startOffset resendBytes).asked = Function.update s.asked id (s.asked id ++
        (List.range' startOffset resendBytes).filter (· < m.msg.bytesSent)) ∧
      (s.handleResend id startOffset resendBytes).resent = s.resent := by
  rw [handleResend_of_get? hm]
  unfold queueResend
  split
  · exact ⟨rfl, rfl⟩
  · exact ⟨rfl, rfl⟩

/-- A message of the host has the ranges that `handle_resend` leaves it. -/
theorem handleResend_resendRanges (hm : s.msgs.get? id = some m) (startOffset resendBytes : Nat) :
    (s.handleResend id startOffset resendBytes).resendRanges =
      Function.update s.resendRanges id
        (m.msg.handleResend startOffset resendBytes).resendRanges := by
  rw [handleResend_of_get? hm, queueResend_resendRanges, OutboundMsgState.handleResend_eq,
    OutboundMsgState.queueResend_ranges, OutboundMsgState.queueResend_ranges]
  rfl

theorem handleResend_resendChange (h : s.QueueSound) (id : UniqReqId)
    (startOffset resendBytes : Nat) :
    ResendChange s (s.handleResend id startOffset resendBytes)
      (.handleResend id startOffset resendBytes) := by
  cases hm : s.msgs.get? id with
  | none =>
    unfold handleResend
    rw [hm]
    exact .same _ rfl rfl rfl
  | some m =>
    obtain ⟨-, hSplit, hLt, -⟩ := h.msgs id m hm
    obtain ⟨hAsked, hResent⟩ := handleResend_logs hm startOffset resendBytes
    refine .asked id m startOffset resendBytes (m.msg.resendOverlap startOffset resendBytes)
      (OutboundMsgState.resendOverlap_eq hSplit hLt) ?_ hAsked hResent
    rw [handleResend_resendRanges hm, OutboundMsgState.handleResend_eq,
      OutboundMsgState.queueResend_ranges, resendRanges_of_get? hm]

theorem sendOneRetransmission_resendChange (h : s.QueueSound)
    (hStep : s.sendOneRetransmission = some t) : ResendChange s t .sendOneRetransmission := by
  cases hPending : s.resendPending with
  | nil =>
    rw [sendOneRetransmission_nil hPending] at hStep
    obtain rfl := Option.some.inj hStep
    exact .same _ rfl rfl rfl
  | cons id rest =>
    obtain ⟨m, start, bytes, left, ranges, pkt, hm, -, hRanges, -, hOffset, hSize, hCases, hSend⟩ :=
      h.sendOneRetransmission_cons hPending
    obtain rfl := Option.some.inj (hSend.symm.trans hStep)
    refine .sent id start bytes left ranges pkt ?_ hOffset hSize hCases ?_ rfl rfl
    · rw [resendRanges_of_get? hm]
      exact hRanges
    · exact resendRanges_set (m := ⟨{ m.msg with resendRanges := ranges }, _⟩) rfl

/-- A message that is deleted has nothing to send again. -/
theorem cleanupFinishedMessages_resendRanges (h : s.QueueSound) (expired : UniqReqId → Bool) :
    (s.cleanupFinishedMessages expired).resendRanges = s.resendRanges := by
  funext id
  unfold resendRanges cleanupFinishedMessages
  simp only [Table.get?_filter]
  cases hm : s.msgs.get? id with
  | none => rfl
  | some m =>
    rw [Option.filter_some]
    split
    · rfl
    · rename_i hDeleted
      have hUnmarked : ¬ m.resendQueued = true := by
        intro hQueued
        apply hDeleted
        simp [hQueued]
      have hNone := (h.msgs id m hm).queued.not.mp hUnmarked
      exact (not_not.mp hNone).symm

theorem resendChange_step {e : ResendHostEvent} (h : s.QueueSound)
    (hStep : s.step cfg e = some t) : ResendChange s t e := by
  cases e with
  | submitRequest id src bytes => exact submit_resendChange rfl hStep
  | submitReply id src bytes => exact submit_resendChange rfl hStep
  | activate id avail => exact activate_resendChange hStep
  | sendData id avail => exact sendData_resendChange h hStep
  | handleResend id startOffset resendBytes =>
    obtain rfl := Option.some.inj hStep
    exact handleResend_resendChange h id startOffset resendBytes
  | sendOneRetransmission => exact sendOneRetransmission_resendChange h hStep
  | cleanupFinishedMessages expired =>
    obtain rfl := Option.some.inj hStep
    exact .same _ (cleanupFinishedMessages_resendRanges h expired) rfl rfl

/-! ## Bytes -/

theorem rangeBytes_append (rs : List (Nat × Nat)) (start len : Nat) :
    OutboundMsgState.rangeBytes (rs ++ if len = 0 then [] else [(start, len)]) =
      OutboundMsgState.rangeBytes rs ++ List.range' start len := by
  unfold OutboundMsgState.rangeBytes
  rw [List.flatMap_append]
  split
  · rename_i hNone
    rw [hNone]
    rfl
  · rw [List.flatMap_singleton]

theorem Accounted.change {e : ResendHostEvent} (h : s.Accounted) (hFits : e.Fits)
    (hChange : ResendChange s t e) : t.Accounted := by
  intro id
  have hOld := h id
  cases hChange with
  | same e hRanges hAsked hResent =>
    unfold resentBytes queuedBytes at *
    rw [hRanges, hAsked, hResent]
    exact hOld
  | asked id' m startOffset resendBytes len hLen hRanges hAsked hResent =>
    have hLength := hLen (hFits (startOffset, resendBytes) rfl)
    unfold resentBytes queuedBytes at *
    rw [hRanges, hAsked, hResent]
    by_cases hid : id = id'
    · subst hid
      rw [Function.update_self, Function.update_self, rangeBytes_append, filter_lt_range', ← hLength,
        ← List.append_assoc, hOld]
    · rw [Function.update_of_ne hid, Function.update_of_ne hid]
      exact hOld
  | sent id' start bytes left ranges pkt hFirst hOffset hSize hCases hRanges hAsked hResent =>
    unfold resentBytes queuedBytes at *
    rw [hRanges, hAsked, hResent]
    by_cases hid : id = id'
    · subst hid
      have hPkt : pkt.dataBytes = List.range' start (min maxR2p2Payload bytes) := by
        unfold Packet.dataBytes
        rw [hOffset, hSize]
        rfl
      rw [Function.update_self, Function.update_self, List.flatMap_append, List.flatMap_singleton,
        hPkt, List.append_assoc, OutboundMsgState.rangeBytes_sendOne hCases, ← hFirst]
      exact hOld
    · rw [Function.update_of_ne hid, Function.update_of_ne hid]
      exact hOld

/-- A packet that starts with a chunk and is not larger than one. -/
theorem inOneChunk_of_start {p : Packet} {start : Nat} (hOffset : p.msgOffset = start)
    (hStart : start % maxR2p2Payload = 0) (hSize : p.size ≤ maxR2p2Payload) : p.InOneChunk := by
  refine ⟨start / maxR2p2Payload, fun b hb => ?_⟩
  unfold Packet.dataBytes at hb
  rw [hOffset, Int.toNat_natCast] at hb
  obtain ⟨hFirst, hLast⟩ := List.mem_range'_1.mp hb
  unfold maxR2p2Payload at *
  omega

theorem Chunked.change {e : ResendHostEvent} (h : s.Chunked) (hStarts : e.StartsChunk)
    (hChange : ResendChange s t e) : t.Chunked := by
  cases hChange with
  | same e hRanges hAsked hResent =>
    constructor
    · rw [hRanges]
      exact h.ranges
    · rw [hResent]
      exact h.packets
  | asked id m startOffset resendBytes len hLen hRanges hAsked hResent =>
    constructor
    · intro l r hr
      rw [hRanges] at hr
      by_cases hl : l = id
      · subst hl
        rw [Function.update_self] at hr
        rcases List.mem_append.mp hr with hOld | hNew
        · exact h.ranges l r hOld
        · split at hNew
          · cases hNew
          · obtain rfl := List.mem_singleton.mp hNew
            exact hStarts (startOffset, resendBytes) rfl
      · rw [Function.update_of_ne hl] at hr
        exact h.ranges l r hr
    · rw [hResent]
      exact h.packets
  | sent id start bytes left ranges pkt hFirst hOffset hSize hCases hRanges hAsked hResent =>
    have hOld (r : Nat × Nat) (hr : r ∈ (start, bytes) :: left) : r.1 % maxR2p2Payload = 0 :=
      h.ranges id r (by rw [hFirst]; exact hr)
    have hStart := hOld (start, bytes) List.mem_cons_self
    constructor
    · intro l r hr
      rw [hRanges] at hr
      by_cases hl : l = id
      · subst hl
        rw [Function.update_self] at hr
        rcases hCases with ⟨-, rfl⟩ | ⟨-, rfl⟩
        · exact hOld r (List.mem_cons_of_mem _ hr)
        · rcases List.mem_cons.mp hr with rfl | hLeft
          · rw [Nat.add_mod_right]
            exact hStart
          · exact hOld r (List.mem_cons_of_mem _ hLeft)
      · rw [Function.update_of_ne hl] at hr
        exact h.ranges l r hr
    · intro l p hp
      rw [hResent] at hp
      by_cases hl : l = id
      · subst hl
        rw [Function.update_self] at hp
        rcases List.mem_append.mp hp with hEarlier | hNew
        · exact h.packets l p hEarlier
        · obtain rfl := List.mem_singleton.mp hNew
          exact inOneChunk_of_start hOffset hStart (hSize.trans_le (Nat.min_le_left _ _))
      · rw [Function.update_of_ne hl] at hp
        exact h.packets l p hp

/-! ## Until the queue is empty -/

/-- The bytes that the messages in the queue have to send again. -/
def leftToResend (s : ResendHost) : Nat :=
  (s.resendPending.map fun id => (s.queuedBytes id).length).sum

/-- A host with messages in its queue sends something of the first one. -/
theorem sendOneRetransmission_progress (h : s.QueueSound) (hSome : s.resendPending ≠ []) :
    ∃ t, s.sendOneRetransmission = some t ∧ t.leftToResend < s.leftToResend := by
  obtain ⟨id, rest, hPending⟩ := List.exists_cons_of_ne_nil hSome
  obtain ⟨m, start, bytes, left, ranges, pkt, hm, -, hRanges, hBytes, -, -, hCases, hSend⟩ :=
    h.sendOneRetransmission_cons hPending
  refine ⟨_, hSend, ?_⟩
  generalize hNext : s.retransmitted id rest m { m.msg with resendRanges := ranges } pkt = t
  have hUpdate : t.resendRanges = Function.update s.resendRanges id ranges := by
    rw [← hNext]
    exact resendRanges_set (m := ⟨{ m.msg with resendRanges := ranges }, _⟩) rfl
  have hQueue : t.resendPending = if ranges = [] then rest else id :: rest := by
    rw [← hNext]
    unfold retransmitted
    simp only [decide_eq_true_eq]
  have hFree : id ∉ rest := by
    have hNodup := h.nodup
    rw [hPending] at hNodup
    exact (List.nodup_cons.mp hNodup).1
  -- The other messages of the queue have as much to send as before.
  have hRest : (rest.map fun l => (t.queuedBytes l).length) =
      rest.map fun l => (s.queuedBytes l).length := by
    apply List.map_congr_left
    intro l hl
    unfold queuedBytes
    rw [hUpdate, Function.update_of_ne (ne_of_mem_of_not_mem hl hFree)]
  have hFirst : (s.queuedBytes id).length =
      min maxR2p2Payload bytes + (OutboundMsgState.rangeBytes ranges).length := by
    unfold queuedBytes
    rw [resendRanges_of_get? hm, hRanges, ← OutboundMsgState.rangeBytes_sendOne hCases,
      List.length_append, List.length_range']
  have hSent : 0 < min maxR2p2Payload bytes := Nat.lt_min.mpr ⟨by decide, hBytes⟩
  unfold leftToResend
  rw [hQueue, hPending, List.map_cons, List.sum_cons, hFirst]
  split
  · rw [hRest]
    omega
  · rw [List.map_cons, List.sum_cons, hRest]
    have hSelf : t.queuedBytes id = OutboundMsgState.rangeBytes ranges := by
      unfold queuedBytes
      rw [hUpdate, Function.update_self]
    rw [hSelf]
    omega

/-- With an empty queue no message has anything to send again. -/
theorem QueueSound.queuedBytes_eq_nil (h : s.QueueSound) (hEmpty : s.resendPending = [])
    (id : UniqReqId) : s.queuedBytes id = [] := by
  unfold queuedBytes resendRanges
  cases hm : s.msgs.get? id with
  | none => rfl
  | some m =>
    have hFree := (h.mem_iff hm).not.mp (by rw [hEmpty]; exact List.not_mem_nil)
    have hNone := not_not.mp ((h.msgs id m hm).queued.not.mp hFree)
    show OutboundMsgState.rangeBytes m.msg.resendRanges = []
    rw [hNone]
    rfl

theorem sendOneRetransmission_asked (h : s.QueueSound) (hStep : s.sendOneRetransmission = some t) :
    t.asked = s.asked := by
  cases sendOneRetransmission_resendChange h hStep with
  | same _ _ hAsked _ => exact hAsked
  | sent _ _ _ _ _ _ _ _ _ _ _ hAsked _ => exact hAsked

/-- The queue becomes empty, and then all that was asked for has been sent again. -/
theorem exists_drained (cfg : HybridConfig) (h : s.QueueSound) (hBytes : s.Accounted) :
    ∃ k t, (resendHost cfg).run s (List.replicate k .sendOneRetransmission) = some t ∧
      t.resendPending = [] ∧ ∀ id, t.resentBytes id = s.asked id := by
  generalize hLeft : s.leftToResend = left
  induction left using Nat.strongRecOn generalizing s with
  | ind left ih =>
    by_cases hEmpty : s.resendPending = []
    · refine ⟨0, s, rfl, hEmpty, fun id => ?_⟩
      rw [← hBytes id, h.queuedBytes_eq_nil hEmpty, List.append_nil]
    · obtain ⟨next, hNext, hLess⟩ := sendOneRetransmission_progress h hEmpty
      obtain ⟨k, t, hRun, hDrained, hResent⟩ := ih next.leftToResend (hLeft ▸ hLess)
        (h.sendOneRetransmission hNext)
        (hBytes.change ResendHostEvent.fits_sendOneRetransmission
          (sendOneRetransmission_resendChange h hNext)) rfl
      refine ⟨k + 1, t, ?_, hDrained, fun id => ?_⟩
      · rw [List.replicate_succ]
        exact Machine.run_cons_eq_some.mpr ⟨next, hNext, hRun⟩
      · rw [hResent, sendOneRetransmission_asked h hNext]

/-! ## Runs -/

theorem accounted_of_run {es : List ResendHostEvent}
    (hFits : (resendHost cfg).Guarded (fun _ e => e.Fits) (resendHost cfg).init es)
    (hRun : (resendHost cfg).run (resendHost cfg).init es = some s) :
    s.QueueSound ∧ s.Accounted := by
  refine Machine.guarded_induction (I := fun s : ResendHost => s.QueueSound ∧ s.Accounted)
    ⟨queueSound_init, fun _ => rfl⟩ ?_ hFits hRun
  rintro s e t ⟨hQueue, hBytes⟩ hFits hStep
  exact ⟨hQueue.step hStep, hBytes.change hFits (resendChange_step hQueue hStep)⟩

theorem chunked_of_run {es : List ResendHostEvent}
    (hStarts : (resendHost cfg).Guarded (fun _ e => e.StartsChunk) (resendHost cfg).init es)
    (hRun : (resendHost cfg).run (resendHost cfg).init es = some s) :
    s.QueueSound ∧ s.Chunked := by
  refine Machine.guarded_induction (I := fun s : ResendHost => s.QueueSound ∧ s.Chunked)
    ⟨queueSound_init, chunked_init⟩ ?_ hStarts hRun
  rintro s e t ⟨hQueue, hChunked⟩ hStarts hStep
  exact ⟨hQueue.step hStep, hChunked.change hStarts (resendChange_step hQueue hStep)⟩

end ResendHost

/-! ## RESEND -/

/-- The ranges that `check_resend_timeouts` asks for are the maximal runs of missing packets among
those that the granted prefix reaches. -/
def InboundMsgState.AsksForMissing (m : InboundMsgState) : Prop :=
  ∃ runs, ListsRuns m.Missing m.grantedPkts runs ∧
    m.checkResendTimeout = runs.map (runBytes m.dataBytesExpected)

/-- When more is granted than has been received, the receiver asks for all maximal missing runs up to
the end of the granted prefix. At the sender the queue holds the marked messages in every state, so
that no message in it has been deleted. Of every range that it is asked for, a message sends exactly
the bytes that it has sent before, in packets inside one chunk each. -/
theorem resend_path (cfg : HybridConfig) :
    (∀ m : InboundMsgState,
      if m.receivedMsgInfo = true ∧ m.dataBytesReceived < m.grantedLimit then m.AsksForMissing
      else m.checkResendTimeout = []) ∧
    (∀ m : InboundMsgState, ∀ r ∈ m.checkResendTimeout,
      r.1 % maxR2p2Payload = 0 ∧ r.1 + r.2 ≤ m.dataBytesExpected) ∧
    (∀ s, (resendHost cfg).Reachable s →
      s.resendPending.Nodup ∧ (∀ id ∈ s.resendPending, s.msgs.get? id ≠ none) ∧
        (∀ id m, s.msgs.get? id = some m → (m.resendQueued = true ↔ id ∈ s.resendPending)) ∧
        s.sendOneRetransmission ≠ none) ∧
    (∀ es s, (resendHost cfg).run (resendHost cfg).init es = some s →
      (resendHost cfg).Guarded (fun _ e => e.Fits) (resendHost cfg).init es →
        (∀ id, s.resentBytes id ++ s.queuedBytes id = s.asked id) ∧
          ∃ k t, (resendHost cfg).run s (List.replicate k .sendOneRetransmission) = some t ∧
            t.resendPending = [] ∧ ∀ id, t.resentBytes id = s.asked id) ∧
    (∀ es s, (resendHost cfg).run (resendHost cfg).init es = some s →
      (resendHost cfg).Guarded (fun _ e => e.Fits ∧ e.StartsChunk) (resendHost cfg).init es →
        ∀ id, ∀ p ∈ s.resent id, p.InOneChunk) := by
  refine ⟨fun m => ?_, fun m r hr => ?_, fun s hReach => ?_, fun es s hRun hFits => ?_,
    fun es s hRun hGuard => ?_⟩
  · split
    · rename_i hOwed
      exact InboundMsgState.checkResendTimeout_eq hOwed.1 hOwed.2
    · rename_i hNothing
      exact InboundMsgState.checkResendTimeout_eq_nil hNothing
  · have hRange := InboundMsgState.isRange_checkResendTimeout r hr
    exact ⟨hRange.start, hRange.aligned.1⟩
  · have hQueue := ResendHost.queueSound_of_reachable hReach
    refine ⟨hQueue.nodup, fun id hid => ?_, fun id m hm => (hQueue.mem_iff hm).symm, ?_⟩
    · obtain ⟨m, hm, -⟩ := (hQueue.mem id).mp hid
      rw [Option.mem_def.mp hm]
      nofun
    · by_cases hEmpty : s.resendPending = []
      · rw [ResendHost.sendOneRetransmission_nil hEmpty]
        nofun
      · obtain ⟨t, hSend, -⟩ := ResendHost.sendOneRetransmission_progress hQueue hEmpty
        rw [hSend]
        nofun
  · obtain ⟨hQueue, hBytes⟩ := ResendHost.accounted_of_run hFits hRun
    exact ⟨hBytes, ResendHost.exists_drained cfg hQueue hBytes⟩
  · have hStarts := hGuard.mono fun _ _ h => h.2
    exact (ResendHost.chunked_of_run hStarts hRun).2.packets

/-- Messages start without credit of their own. -/
def grantedCredit : HybridConfig where
  maxBudgetBytes := 100000
  maxSrpb := 100000
  unsolicitedThreshBytes := 0

def longMsgId : UniqReqId := ⟨2, 0, 0⟩

def shortMsgId : UniqReqId := ⟨2, 0, 1⟩

/-- A message of two packets is asked for as a whole when it has sent one of them. -/
def askedForAll : List ResendHostEvent :=
  [.submitRequest longMsgId 2 2916, .activate longMsgId 0, .sendData longMsgId 1538,
    .handleResend longMsgId 0 2916]

/-- The host ends up with the packet sent again. -/
theorem resend_path_askedForAll : ∃ s k t,
    (resendHost grantedCredit).run (resendHost grantedCredit).init askedForAll = some s ∧
      (resendHost grantedCredit).run s (List.replicate k .sendOneRetransmission) = some t ∧
      t.resendPending = [] ∧ t.resentBytes longMsgId = s.asked longMsgId := by
  obtain ⟨s, hRun⟩ := Option.isSome_iff_exists.mp (show ((resendHost grantedCredit).run
    (resendHost grantedCredit).init askedForAll).isSome = true by decide +kernel)
  obtain ⟨-, -, -, hSent, -⟩ := resend_path grantedCredit
  obtain ⟨-, k, t, hDrain, hEmpty, hResent⟩ := hSent askedForAll s hRun (by decide +kernel)
  exact ⟨s, k, t, hRun, hDrain, hEmpty, hResent longMsgId⟩

/-- A request of two packets, which has asked for credit. -/
def longRequest : OutboundMsgState :=
  { OutboundMsgState.ofRequest 2 2916 with active := true, sentAnouncement := true }

/-- A request of one packet, which has asked for credit. -/
def shortRequest : OutboundMsgState :=
  { OutboundMsgState.ofRequest 2 1458 with active := true, sentAnouncement := true }

/-- Both requests get a grant, and the long one uses both. Its first packet is lost. -/
def firstPacketLost : List HybridNetEvent :=
  [.submitRequest longMsgId 2 2916, .activate longMsgId, .submitRequest shortMsgId 2 1458,
    .activate shortMsgId, .deliver (longRequest.grantReq longMsgId) 100000,
    .deliver (shortRequest.grantReq shortMsgId) 100000, .sendGrant longMsgId, .sendGrant shortMsgId,
    .receiveGrant ⟨2, longMsgId, 1458, 1538, 0⟩, .receiveGrant ⟨2, shortMsgId, 1458, 1538, 0⟩,
    .sendData longMsgId, .sendData longMsgId,
    .lose (longRequest.dataPacket longMsgId true 0 1458),
    .deliver (longRequest.dataPacket longMsgId false 1458 1458) 100000]

/-- The first packet is granted and missing, but as much has been received as is granted, and the
receiver does not ask for it. -/
theorem first_packet_not_asked_for : ∃ n m,
    (hybridNet grantedCredit 1).run (hybridNet grantedCredit 1).init firstPacketLost = some n ∧
      n.rx.inbound.get? longMsgId = some m ∧ m.Missing 0 ∧ m.grantedPkts = 1 ∧
      ¬ m.AsksForMissing := by
  have hRuns : ((hybridNet grantedCredit 1).run (hybridNet grantedCredit 1).init
      firstPacketLost).bind (fun n => (n.rx.inbound.get? longMsgId).map fun m =>
        decide (m.Missing 0 ∧ m.grantedPkts = 1 ∧ m.checkResendTimeout = [])) = some true := by
    decide +kernel
  obtain ⟨n, hRun, hEnd⟩ := Option.bind_eq_some_iff.mp hRuns
  obtain ⟨m, hm, hEnd⟩ := Option.map_eq_some_iff.mp hEnd
  obtain ⟨hMissing, hGranted, hNone⟩ := of_decide_eq_true hEnd
  refine ⟨n, m, hRun, hm, hMissing, hGranted, ?_⟩
  rintro ⟨runs, hRuns, hEq⟩
  rw [hNone] at hEq
  obtain rfl := List.map_eq_nil_iff.mp hEq.symm
  have hRun : MaximalRun m.Missing m.grantedPkts (0, 1) := by
    rw [hGranted]
    refine ⟨Nat.one_pos, Nat.le_refl _, fun i _ hi => ?_, nofun, nofun⟩
    obtain rfl : i = 0 := Nat.lt_one_iff.mp hi
    exact hMissing
  exact absurd ((hRuns.mem (0, 1)).mpr hRun) List.not_mem_nil

end Dpdq.Ns2
