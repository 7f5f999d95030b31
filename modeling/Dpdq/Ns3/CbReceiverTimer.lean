import Dpdq.Ns3.CbReceiverChunks

/-!
# The resend timers

Announcements, data and bounced credit leave the resend timer of an announced message running until
it completes. Only the handler of the timer itself may stop it (`Armed.step_iff`): it does when the
sender has no pending demand and no granted chunk is missing.
-/

namespace Dpdq.Ns3

open Dpdq.Lib

variable {cfg : CbConfig}

/-! ## Messages -/

namespace RxQueuePair

/-- An announced message has its timer running until it completes. -/
def Armed (q : RxQueuePair) : Prop :=
  q.announcementAccounted = true → q.completionNotified = false → q.resendRunning = true

/-- Scheduling the timer of a message with chunks starts it. -/
theorem armed_scheduleResend {q : RxQueuePair} (h : q.Tracked cfg) (hMtu : 0 < cfg.mtu) :
    q.scheduleResend.Armed := by
  unfold Armed scheduleResend
  split
  · rename_i hIdle
    intro hAccounted hOpen
    rcases hIdle with hDone | hNone
    · rw [hOpen] at hDone
      cases hDone
    · have hPos := chunkCount_pos hMtu (h.expected_pos hAccounted)
      rw [← h.chunks, hNone] at hPos
      cases hPos
  · exact fun _ _ => rfl

theorem Armed.congr {q r : RxQueuePair} (h : q.Armed)
    (hAccounted : r.announcementAccounted = q.announcementAccounted)
    (hNotified : r.completionNotified = q.completionNotified)
    (hRunning : r.resendRunning = q.resendRunning) : r.Armed := by
  unfold Armed
  rw [hAccounted, hNotified, hRunning]
  exact h

theorem armed_notifyCompletion (q : RxQueuePair) : q.notifyCompletion.Armed := nofun

end RxQueuePair

namespace CbReceiver

/-- The handler starts the timer of an incomplete message again if it has something to wait for. -/
theorem resendMsg_running_iff {q : RxQueuePair} (hLacks : q.Lacks)
    (hMtu : 0 < cfg.mtu) (hAccounted : q.announcementAccounted = true)
    (hOpen : q.completionNotified = false) (st : SenderState) :
    (resendMsg cfg st q).resendRunning = true ↔
      0 < st.pendingDemandDataBytes ∨ q.receivedChunks < grantedChunkLimit cfg q := by
  have hMissing := hLacks hAccounted hOpen
  have hWaits : ¬ (q.completionNotified = true ∨ q.expectedChunks = 0) := by
    rintro (hDone | hNone)
    · rw [hOpen] at hDone
      cases hDone
    · omega
  unfold resendMsg
  simp only
  rw [if_neg hWaits, if_neg (Nat.pos_iff_ne_zero.mp hMtu)]
  split
  · rename_i hAgain
    refine iff_of_true ?_ hAgain.2
    unfold RxQueuePair.scheduleResend
    rw [if_neg hWaits]
  · rename_i hStop
    refine iff_of_false nofun fun hAgain => hStop ⟨hMissing, hAgain⟩

/-- Every announced message has its timer running until it completes. -/
def Armed (s : CbReceiver) : Prop := ∀ k q, s.rxQpMap k = some q → q.Armed

/-- When the timer of an announced and incomplete message fires, the sender has pending demand, or
a granted chunk is missing. -/
def AwaitsChunk (cfg : CbConfig) (s : CbReceiver) : Event → Prop
  | .resendTimeout k => ∀ q, s.rxQpMap k = some q → q.announcementAccounted = true →
    q.completionNotified = false →
      0 < (s.getOrCreateSenderState k).pendingDemandDataBytes ∨
        q.receivedChunks < grantedChunkLimit cfg q
  | _ => True

/-! ## Steps -/

theorem Armed.accountOf {s : CbReceiver} (h : s.Armed) (p : CbPacket) :
    (s.accountOf cfg p).msg.Armed := by
  rcases accountOf_msg_cases cfg s p with hKnown | ⟨-, hNew⟩
  · exact h p.rxKey _ hKnown
  · rw [hNew]
    exact nofun

theorem Armed.step {s t : CbReceiver} (hMtu : 0 < cfg.mtu) (h : s.Armed) (hChunked : s.Chunked cfg)
    {e : Event} (hFits : s.FitsSize e) (hAwaits : s.AwaitsChunk cfg e)
    (hStep : s.step cfg e = some t) : t.Armed := by
  intro k q hq
  cases msgAfter_step hStep hq with
  | kept _ _ hOld => exact h k q hOld
  | completed p hData hKey hDone => exact RxQueuePair.armed_notifyCompletion _
  | data p hData hKey hOpen =>
    exact RxQueuePair.armed_scheduleResend (tracked_receiveData hMtu (hChunked p.rxKey) hFits) hMtu
  | request p hRequest hKey =>
    rcases Account.countRequest_msg_cases cfg (s.accountOf cfg p) p with
      ⟨-, hOld⟩ | ⟨hNew, pending, hAnnounced⟩
    · rw [hOld]
      exact h.accountOf p
    · rw [hAnnounced]
      apply RxQueuePair.armed_scheduleResend _ hMtu
      exact (RxQueuePair.tracked_announce hMtu (s.accountOf cfg p).msg
        (Account.pos_of_isNewAnnouncement hNew) hFits).1.congr ⟨rfl, rfl, rfl, rfl, rfl, rfl⟩
  | bounced p q' hBounced hKey hOld =>
    apply RxQueuePair.armed_scheduleResend _ hMtu
    exact (hChunked k q' hOld).1.congr ⟨rfl, rfl, rfl, rfl, rfl, rfl⟩
  | granted order c q' data wire hc hTry hKey hOld => exact (h k q' hOld).congr rfl rfl rfl
  | fired q' hOld hRunning =>
    intro hAccounted hOpen
    obtain ⟨limit, running, hEq⟩ := resendMsg_eq cfg (s.getOrCreateSenderState k) q'
    rw [hEq] at hAccounted hOpen
    obtain ⟨-, hLacks⟩ := hChunked k q' hOld
    rw [resendMsg_running_iff hLacks hMtu hAccounted hOpen]
    exact hAwaits q' hOld hAccounted hOpen

instance decidableAwaitsChunk (cfg : CbConfig) (s : CbReceiver) (e : Event) :
    Decidable (s.AwaitsChunk cfg e) :=
  match e with
  | .resendTimeout k => inferInstanceAs (Decidable (∀ q ∈ s.rxQpMap k,
      q.announcementAccounted = true → q.completionNotified = false → _ ∨ _))
  | .arrive _ => isTrue trivial
  | .grantTick _ => isTrue trivial

/-- The steps that keep the timers running are exactly those whose handlers have something to wait
for. -/
theorem Armed.step_iff {s t : CbReceiver} (hMtu : 0 < cfg.mtu) (h : s.Armed)
    (hChunked : s.Chunked cfg) {e : Event} (hFits : s.FitsSize e) (hStep : s.step cfg e = some t) :
    t.Armed ↔ s.AwaitsChunk cfg e := by
  refine ⟨fun ht => ?_, fun hAwaits => h.step hMtu hChunked hFits hAwaits hStep⟩
  cases e with
  | arrive p => trivial
  | grantTick order => trivial
  | resendTimeout k =>
    intro q hq hAccounted hOpen
    have hRunning : q.resendRunning = true := h k q hq hAccounted hOpen
    unfold CbReceiver.step at hStep
    simp only [hq, Option.bind_eq_bind, Option.bind_some, hRunning, if_true] at hStep
    obtain rfl := Option.some.inj hStep
    have hAfter : (s.handleResendTimeout cfg k q).1.rxQpMap k =
        some (resendMsg cfg (s.getOrCreateSenderState k) q) := by
      rw [handleResendTimeout_rxQpMap, Function.update_self]
    obtain ⟨limit, running, hEq⟩ := resendMsg_eq cfg (s.getOrCreateSenderState k) q
    obtain ⟨-, hLacks⟩ := hChunked k q hq
    rw [← resendMsg_running_iff hLacks hMtu hAccounted hOpen]
    apply ht k _ hAfter
    · rw [hEq]
      exact hAccounted
    · rw [hEq]
      exact hOpen

end CbReceiver

/-- The resend timer of every announced and incomplete message is running in all states of a run,
exactly if every timer that fires in the run has something to wait for. -/
theorem announced_messages_armed_iff (cfg : CbConfig) (hMtu : 0 < cfg.mtu)
    (es : List CbReceiver.Event) (hRun : ((cbReceiver cfg).run {} es).isSome)
    (hFits : (cbReceiver cfg).Guarded CbReceiver.FitsSize {} es) :
    (cbReceiver cfg).Throughout (fun s => ∀ k q, s.rxQpMap k = some q →
        q.announcementAccounted = true → q.completionNotified = false →
          q.resendRunning = true) {} es ↔
      (cbReceiver cfg).Guarded (CbReceiver.AwaitsChunk cfg) {} es := by
  apply Machine.throughout_iff_guarded (J := CbReceiver.Chunked cfg) _ _ CbReceiver.chunked_init nofun
    hFits hRun
  · intro s e t hChunked hFits hStep
    exact hChunked.step hMtu hFits hStep
  · intro s e t hChunked hs hFits hStep
    exact CbReceiver.Armed.step_iff hMtu hs hChunked hFits hStep

/-- A message is granted, and its resend timer fires before and after its first chunk arrives. -/
theorem announced_messages_armed_iff_twoChunks :
    (cbReceiver { mtu := 1000 }).Throughout
      (fun s => ∀ k q, s.rxQpMap k = some q → q.announcementAccounted = true →
        q.completionNotified = false → q.resendRunning = true) {}
      [.grantReq 11 8 2000, .grantTick [11], .resendTimeout ⟨11, 3, 8⟩,
        .scheduledData 11 8 0 1000, .resendTimeout ⟨11, 3, 8⟩] :=
  (announced_messages_armed_iff { mtu := 1000 } (by decide) _ (by decide +kernel)
    (by decide +kernel)).mpr (by decide +kernel)

/-- A message completes before it is granted, which leaves its demand on the books of its receive
QP. A second message of the sender is announced, and a late duplicate lists the first one again:
the second grant goes to it. -/
def staleDemand : List CbReceiver.Event :=
  [.grantReq 11 7 1000, .scheduledData 11 7 0 1000, .grantReq 11 8 2000,
    .scheduledData 11 7 0 1000, .grantTick [11], .grantTick [11], .scheduledData 11 8 0 1000]

/-- The timer of the second message fires: its first chunk is here, and nothing is pending for the
sender. It is not started again, and the second chunk never comes. -/
theorem announced_message_not_armed :
    ∃ s, (cbReceiver { mtu := 1000, grantGranularityBytes := 1000 }).run {}
        (staleDemand ++ [.resendTimeout ⟨11, 3, 8⟩]) = some s ∧
      ∃ q, s.rxQpMap ⟨11, 3, 8⟩ = some q ∧ q.announcementAccounted = true ∧
        q.completionNotified = false ∧ q.resendRunning = false := by
  have hMsg : ((cbReceiver { mtu := 1000, grantGranularityBytes := 1000 }).run {}
      (staleDemand ++ [.resendTimeout ⟨11, 3, 8⟩])).map (fun s =>
        (s.rxQpMap ⟨11, 3, 8⟩).map fun q =>
          (q.announcementAccounted, q.completionNotified, q.resendRunning)) =
      some (some (true, false, false)) := by
    decide +kernel
  obtain ⟨s, hRun, hSome⟩ := Option.map_eq_some_iff.mp hMsg
  obtain ⟨q, hq, hEq⟩ := Option.map_eq_some_iff.mp hSome
  simp only [Prod.mk.injEq] at hEq
  exact ⟨s, hRun, q, hq, hEq⟩

end Dpdq.Ns3
