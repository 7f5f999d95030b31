import Dpdq.Ns3.CbSender

/-!
# Self-allocated credit

What `GetNxtPacket` allocates to a message below the threshold, in numbers of 64 bits. The part of
the message is cut at chunks of one MTU, so that a message of more than one chunk gets nothing where
the cap does not cover a full packet; it then stays scheduled.

* `selfAllocation_cases`: which bound decides what is allocated.
* `selfAllocation64_eq`: nothing wraps around where the message on the wire has 64 bits.
* `classify64_selfAllocates`: what the check leaves in the message and in the credit pool.
-/

namespace Dpdq.Ns3

/-! ## Numbers of 64 bits -/

def mulU64 (a b : Nat) : Nat := a * b % 2 ^ 64

/-- `CbAddHeaderOverhead` with its 64-bit arithmetic. -/
def cbAddHeaderOverhead64 (payloadBytes maxPayloadBytes : Nat) (skipLastPktCheck : Bool := false) :
    Nat :=
  if payloadBytes = 0 ∨ maxPayloadBytes = 0 then 0
  else
    let fullPkts := payloadBytes / maxPayloadBytes
    let remBytes := payloadBytes % maxPayloadBytes
    let maxPktOnWire := addU64 (addU64 maxPayloadBytes cbDataHeadersOnWire) cbLinkOverheadOnWire
    let total := mulU64 fullPkts maxPktOnWire
    if remBytes > 0 then
      let remOnWire := addU64 (addU64 remBytes cbDataHeadersOnWire) cbLinkOverheadOnWire
      addU64 total (max remOnWire cbMinEthernetOnWire)
    else if skipLastPktCheck ∧ fullPkts > 0 then max total cbMinEthernetOnWire
    else total

/-- `CbRemoveHeaderOverhead` with its 64-bit arithmetic. -/
def cbRemoveHeaderOverhead64 (onWireBytes maxPayloadBytes : Nat) : Nat :=
  if onWireBytes = 0 ∨ maxPayloadBytes = 0 then 0
  else
    let maxPktOnWire := addU64 (addU64 maxPayloadBytes cbDataHeadersOnWire) cbLinkOverheadOnWire
    let remOnWire := onWireBytes % maxPktOnWire
    let payload := mulU64 (onWireBytes / maxPktOnWire) maxPayloadBytes
    if remOnWire ≥ cbMinEthernetOnWire then
      addU64 payload
        (min (remOnWire - cbDataHeadersOnWire - cbLinkOverheadOnWire) maxPayloadBytes)
    else payload

def selfAllocation64 (cfg : CbConfig) (availOnWire msgBytes : Nat) : Nat × Nat :=
  let msgOnWireBytes := cbAddHeaderOverhead64 msgBytes cfg.mtu
  let (toGrantData, toGrantWire) :=
    if msgOnWireBytes > cfg.maxSrpbBytes then
      let data := cbRemoveHeaderOverhead64 cfg.maxSrpbBytes cfg.mtu
      (data, cbAddHeaderOverhead64 data cfg.mtu true)
    else (msgBytes, msgOnWireBytes)
  let backlogSpaceOnWire := max (cfg.maxSrpbBytes - availOnWire)
    (cbAddHeaderOverhead64 (min msgBytes cfg.mtu) cfg.mtu true)
  let toGrantData :=
    if toGrantWire > backlogSpaceOnWire then cbRemoveHeaderOverhead64 backlogSpaceOnWire cfg.mtu
    else toGrantData
  let toGrantData := cbAlignChunkPrefixBytes (min toGrantData msgBytes) msgBytes cfg.mtu
  (toGrantData, cbAddHeaderOverhead64 toGrantData cfg.mtu true)

/-- The check that `GetNxtPacket` makes once for a message. -/
def classify64 (cfg : CbConfig) (r : ReceiverState) (q : QueuePair) : ReceiverState × QueuePair :=
  let scheduled : QueuePair := { q with
    selfAllocCreditBytes := 0
    selfAllocCreditDataBytes := 0
    remainingSelfAllocCreditDataBytes := 0
    isScheduled := true
    hasScheduledPart := true
    sentAnnouncement := false
    usnsolCheckDone := true }
  if cbAddHeaderOverhead64 q.size cfg.mtu ≤ r.unsolicitedThreshBytes then
    let (toGrantData, toGrantWire) := selfAllocation64 cfg r.availCreditBytes q.size
    if toGrantWire > 0 ∧ toGrantData > 0 then
      ({ r with
        availCreditBytes := addU64 r.availCreditBytes toGrantWire
        availCreditDataBytes := addU64 r.availCreditDataBytes toGrantData },
        { scheduled with
          selfAllocCreditBytes := toGrantWire
          selfAllocCreditDataBytes := toGrantData
          remainingSelfAllocCreditDataBytes := Int.bmod toGrantData (2 ^ 64)
          isScheduled := false
          hasScheduledPart := q.size > toGrantData })
    else (r, scheduled)
  else (r, scheduled)

theorem cbAddHeaderOverhead64_eq {payloadBytes maxPayloadBytes : Nat} {skipLastPktCheck : Bool}
    (hPacket : maxPayloadBytes + 68 < 2 ^ 64)
    (hWire : cbAddHeaderOverhead payloadBytes maxPayloadBytes skipLastPktCheck < 2 ^ 64) :
    cbAddHeaderOverhead64 payloadBytes maxPayloadBytes skipLastPktCheck =
      cbAddHeaderOverhead payloadBytes maxPayloadBytes skipLastPktCheck := by
  unfold cbAddHeaderOverhead64 cbAddHeaderOverhead addU64 mulU64 at *
  unfold cbDataHeadersOnWire cbLinkOverheadOnWire cbMinEthernetOnWire at *
  split
  · rfl
  · rename_i hSizes
    rw [if_neg hSizes] at hWire
    have hRem : payloadBytes % maxPayloadBytes < maxPayloadBytes := Nat.mod_lt _ (by omega)
    have hHeaders : (maxPayloadBytes + 48) % 2 ^ 64 = maxPayloadBytes + 48 :=
      Nat.mod_eq_of_lt (by omega)
    have hLink : (maxPayloadBytes + 48 + 20) % 2 ^ 64 = maxPayloadBytes + 48 + 20 :=
      Nat.mod_eq_of_lt (by omega)
    dsimp only at hWire ⊢
    rw [hHeaders, hLink]
    generalize payloadBytes / maxPayloadBytes * (maxPayloadBytes + 48 + 20) = total at hWire ⊢
    split
    · rename_i hRest
      rw [if_pos hRest] at hWire
      omega
    · rename_i hFull
      rw [if_neg hFull] at hWire
      split
      · rename_i hSkip
        rw [if_pos hSkip] at hWire
        omega
      · rename_i hNoSkip
        rw [if_neg hNoSkip] at hWire
        exact Nat.mod_eq_of_lt hWire

/-! ## Payload of wire bytes -/

section Remove

variable {onWireBytes maxPayloadBytes : Nat}

/-- The payload as whole packets and a rest that is less than a packet. -/
theorem cbRemoveHeaderOverhead_eq (onWireBytes maxPayloadBytes : Nat) (hPos : 0 < maxPayloadBytes) :
    ∃ rest, cbRemoveHeaderOverhead onWireBytes maxPayloadBytes =
        onWireBytes / (maxPayloadBytes + 68) * maxPayloadBytes + rest ∧ rest < maxPayloadBytes ∧
      (rest = 0 ∨ 84 ≤ onWireBytes % (maxPayloadBytes + 68) ∧
        rest + 68 = onWireBytes % (maxPayloadBytes + 68)) := by
  have hRem : onWireBytes % (maxPayloadBytes + 68) < maxPayloadBytes + 68 :=
    Nat.mod_lt _ (by omega)
  unfold cbRemoveHeaderOverhead cbDataHeadersOnWire cbLinkOverheadOnWire cbMinEthernetOnWire
  simp only [Nat.add_assoc, Nat.reduceAdd]
  split
  · rename_i hZero
    obtain rfl : onWireBytes = 0 := by omega
    exact ⟨0, by simp, hPos, .inl rfl⟩
  · split
    · rename_i hLarge
      refine ⟨onWireBytes % (maxPayloadBytes + 68) - 68, ?_, by omega, .inr ⟨hLarge, by omega⟩⟩
      congr 1
      omega
    · exact ⟨0, rfl, hPos, .inl rfl⟩

/-- The payload with its headers fits the wire bytes that it was taken from. -/
theorem cbAddHeaderOverhead_remove_le (onWireBytes : Nat) (hPacket : 16 ≤ maxPayloadBytes) :
    cbAddHeaderOverhead (cbRemoveHeaderOverhead onWireBytes maxPayloadBytes) maxPayloadBytes true ≤
      onWireBytes := by
  obtain ⟨rest, hEq, hRest, hCases⟩ :=
    cbRemoveHeaderOverhead_eq onWireBytes maxPayloadBytes (by omega)
  have hSplit := Nat.div_add_mod onWireBytes (maxPayloadBytes + 68)
  rw [Nat.mul_comm] at hSplit
  have hDiv : (onWireBytes / (maxPayloadBytes + 68) * maxPayloadBytes + rest) / maxPayloadBytes =
      onWireBytes / (maxPayloadBytes + 68) := by
    rw [Nat.add_comm, Nat.add_mul_div_right _ _ (by omega), Nat.div_eq_of_lt hRest, Nat.zero_add]
  have hMod : (onWireBytes / (maxPayloadBytes + 68) * maxPayloadBytes + rest) % maxPayloadBytes =
      rest := by
    rw [Nat.add_comm, Nat.add_mul_mod_self_right, Nat.mod_eq_of_lt hRest]
  rw [cbAddHeaderOverhead_eq hPacket, hEq, hDiv, hMod]
  split
  · omega
  · omega

/-- A full packet on the wire carries a full payload, and nothing less does. -/
theorem le_cbRemoveHeaderOverhead_iff (hPacket : 16 ≤ maxPayloadBytes) :
    maxPayloadBytes ≤ cbRemoveHeaderOverhead onWireBytes maxPayloadBytes ↔
      maxPayloadBytes + 68 ≤ onWireBytes := by
  have hFull := cbAddHeaderOverhead_of_le (by omega) (Nat.le_refl maxPayloadBytes)
  constructor
  · intro hPayload
    have hWire := cbAddHeaderOverhead_le_of_le hPacket hPayload
    have hFits := cbAddHeaderOverhead_remove_le onWireBytes hPacket
    omega
  · intro hWire
    obtain ⟨rest, hEq, -, -⟩ :=
      cbRemoveHeaderOverhead_eq onWireBytes maxPayloadBytes (by omega)
    have hPkts : 0 < onWireBytes / (maxPayloadBytes + 68) := Nat.div_pos hWire (by omega)
    have hPayload := Nat.le_mul_of_pos_left maxPayloadBytes hPkts
    omega

theorem cbRemoveHeaderOverhead_le (onWireBytes : Nat) (hPos : 0 < maxPayloadBytes) :
    cbRemoveHeaderOverhead onWireBytes maxPayloadBytes ≤ onWireBytes := by
  obtain ⟨rest, hEq, -, hCases⟩ :=
    cbRemoveHeaderOverhead_eq onWireBytes maxPayloadBytes hPos
  have hSplit := Nat.div_add_mod onWireBytes (maxPayloadBytes + 68)
  have hLe : onWireBytes / (maxPayloadBytes + 68) * maxPayloadBytes ≤
      (maxPayloadBytes + 68) * (onWireBytes / (maxPayloadBytes + 68)) := by
    rw [Nat.mul_comm]
    exact Nat.mul_le_mul_right _ (Nat.le_add_right _ _)
  omega

theorem cbRemoveHeaderOverhead64_eq (hPos : 0 < maxPayloadBytes)
    (hPacket : maxPayloadBytes + 68 < 2 ^ 64) (hWire : onWireBytes < 2 ^ 64) :
    cbRemoveHeaderOverhead64 onWireBytes maxPayloadBytes =
      cbRemoveHeaderOverhead onWireBytes maxPayloadBytes := by
  have hLe := cbRemoveHeaderOverhead_le onWireBytes hPos
  unfold cbRemoveHeaderOverhead64 cbRemoveHeaderOverhead addU64 mulU64 at *
  unfold cbDataHeadersOnWire cbLinkOverheadOnWire cbMinEthernetOnWire at *
  split
  · rfl
  · rename_i hSizes
    rw [if_neg hSizes] at hLe
    have hHeaders : (maxPayloadBytes + 48) % 2 ^ 64 = maxPayloadBytes + 48 :=
      Nat.mod_eq_of_lt (by omega)
    have hLink : (maxPayloadBytes + 48 + 20) % 2 ^ 64 = maxPayloadBytes + 48 + 20 :=
      Nat.mod_eq_of_lt (by omega)
    dsimp only at hLe ⊢
    rw [hHeaders, hLink]
    generalize onWireBytes / (maxPayloadBytes + 48 + 20) * maxPayloadBytes = payload at hLe ⊢
    split
    · rename_i hLarge
      rw [if_pos hLarge] at hLe
      omega
    · rename_i hSmall
      rw [if_neg hSmall] at hLe
      omega

end Remove

/-! ## Whole chunks -/

/-- Something is left exactly where the candidate covers the message or a chunk. -/
theorem cbAlignChunkPrefixBytes_pos_iff {candidateBytes messageBytes chunkBytes : Nat}
    (hChunk : 0 < chunkBytes) :
    0 < cbAlignChunkPrefixBytes (min candidateBytes messageBytes) messageBytes chunkBytes ↔
      0 < messageBytes ∧ (messageBytes ≤ candidateBytes ∨ chunkBytes ≤ candidateBytes) := by
  unfold cbAlignChunkPrefixBytes
  split
  · omega
  · rename_i hSizes
    split
    · omega
    · rename_i hPart
      have hPkts : 0 < min candidateBytes messageBytes / chunkBytes * chunkBytes ↔
          chunkBytes ≤ min candidateBytes messageBytes := by
        rw [Nat.mul_pos_iff_of_pos_right hChunk, Nat.div_pos_iff]
        exact ⟨fun h => h.2, fun h => ⟨hChunk, h⟩⟩
      rw [hPkts]
      omega

/-- For packets that are not padded when full the last packet needs no check. -/
theorem cbAddHeaderOverhead_skip {payloadBytes maxPayloadBytes : Nat}
    (hPacket : 16 ≤ maxPayloadBytes) :
    cbAddHeaderOverhead payloadBytes maxPayloadBytes =
      cbAddHeaderOverhead payloadBytes maxPayloadBytes true := by
  unfold cbAddHeaderOverhead cbDataHeadersOnWire cbLinkOverheadOnWire cbMinEthernetOnWire
  split
  · rfl
  · dsimp only
    split
    · rfl
    · split
      · rename_i hNo
        exact absurd hNo.1 nofun
      · split
        · rename_i hPkts
          have hLe := Nat.le_mul_of_pos_left (maxPayloadBytes + 48 + 20) hPkts.2
          omega
        · rfl

/-! ## The allocation -/

section Allocation

variable (cfg : CbConfig) (availOnWire msgBytes : Nat)

/-- The space that the credit pool has below the cap, but at least one packet. -/
def backlogSpace : Nat :=
  max (cfg.maxSrpbBytes - availOnWire) (cbAddHeaderOverhead (min msgBytes cfg.mtu) cfg.mtu true)

/-- The whole chunks of a candidate, with their wire bytes. -/
def allocate (candidateBytes : Nat) : Nat × Nat :=
  let data := cbAlignChunkPrefixBytes (min candidateBytes msgBytes) msgBytes cfg.mtu
  (data, cbAddHeaderOverhead data cfg.mtu true)

/-- The message, or what the cap covers of it. -/
def firstGrant : Nat × Nat :=
  if cfg.maxSrpbBytes < cbAddHeaderOverhead msgBytes cfg.mtu then
    (cbRemoveHeaderOverhead cfg.maxSrpbBytes cfg.mtu,
      cbAddHeaderOverhead (cbRemoveHeaderOverhead cfg.maxSrpbBytes cfg.mtu) cfg.mtu true)
  else (msgBytes, cbAddHeaderOverhead msgBytes cfg.mtu)

theorem selfAllocation_eq : selfAllocation cfg availOnWire msgBytes = allocate cfg msgBytes
    (if backlogSpace cfg availOnWire msgBytes < (firstGrant cfg msgBytes).2 then
      cbRemoveHeaderOverhead (backlogSpace cfg availOnWire msgBytes) cfg.mtu
    else (firstGrant cfg msgBytes).1) := rfl

/-- What decides the allocation: the message, the cap or the space in the pool. -/
theorem selfAllocation_cases :
    let wire := cbAddHeaderOverhead msgBytes cfg.mtu
    let data := cbRemoveHeaderOverhead cfg.maxSrpbBytes cfg.mtu
    let space := backlogSpace cfg availOnWire msgBytes
    (wire ≤ cfg.maxSrpbBytes ∧ wire ≤ space ∧
      selfAllocation cfg availOnWire msgBytes = allocate cfg msgBytes msgBytes) ∨
    (cfg.maxSrpbBytes < wire ∧ cbAddHeaderOverhead data cfg.mtu true ≤ space ∧
      selfAllocation cfg availOnWire msgBytes = allocate cfg msgBytes data) ∨
    ((wire ≤ cfg.maxSrpbBytes ∧ space < wire ∨
        cfg.maxSrpbBytes < wire ∧ space < cbAddHeaderOverhead data cfg.mtu true) ∧
      selfAllocation cfg availOnWire msgBytes =
        allocate cfg msgBytes (cbRemoveHeaderOverhead space cfg.mtu)) := by
  dsimp only
  rw [selfAllocation_eq]
  unfold firstGrant
  rcases Nat.lt_or_ge cfg.maxSrpbBytes (cbAddHeaderOverhead msgBytes cfg.mtu) with hCap | hCap
  · rw [if_pos hCap]
    dsimp only
    rcases Nat.lt_or_ge (backlogSpace cfg availOnWire msgBytes) (cbAddHeaderOverhead
      (cbRemoveHeaderOverhead cfg.maxSrpbBytes cfg.mtu) cfg.mtu true) with hSpace | hSpace
    · exact .inr (.inr ⟨.inr ⟨hCap, hSpace⟩, by rw [if_pos hSpace]⟩)
    · exact .inr (.inl ⟨hCap, hSpace, by rw [if_neg (Nat.not_lt.mpr hSpace)]⟩)
  · rw [if_neg (Nat.not_lt.mpr hCap)]
    dsimp only
    rcases Nat.lt_or_ge (backlogSpace cfg availOnWire msgBytes)
      (cbAddHeaderOverhead msgBytes cfg.mtu) with hSpace | hSpace
    · exact .inr (.inr ⟨.inl ⟨hCap, hSpace⟩, by rw [if_pos hSpace]⟩)
    · exact .inl ⟨hCap, hSpace, by rw [if_neg (Nat.not_lt.mpr hSpace)]⟩

theorem selfAllocation_snd : (selfAllocation cfg availOnWire msgBytes).2 =
    cbAddHeaderOverhead (selfAllocation cfg availOnWire msgBytes).1 cfg.mtu true := by
  rw [selfAllocation_eq]
  rfl

theorem selfAllocation_le : (selfAllocation cfg availOnWire msgBytes).1 ≤ msgBytes := by
  rw [selfAllocation_eq]
  exact cbAlignChunkPrefixBytes_le _ _ _

theorem selfAllocation_eq_or_dvd : (selfAllocation cfg availOnWire msgBytes).1 = msgBytes ∨
    cfg.mtu ∣ (selfAllocation cfg availOnWire msgBytes).1 := by
  rw [selfAllocation_eq]
  exact cbAlignChunkPrefixBytes_whole _ _ _

variable {cfg availOnWire msgBytes}

theorem allocate_snd_le (hPacket : 16 ≤ cfg.mtu) {candidateBytes : Nat} :
    (allocate cfg msgBytes candidateBytes).2 ≤ cbAddHeaderOverhead candidateBytes cfg.mtu true :=
  cbAddHeaderOverhead_le_of_le hPacket
    ((cbAlignChunkPrefixBytes_le_candidate _ _ _).trans (Nat.min_le_left _ _))

/-- What is allocated fits the space in the pool. -/
theorem selfAllocation_snd_le (hPacket : 16 ≤ cfg.mtu) :
    (selfAllocation cfg availOnWire msgBytes).2 ≤ backlogSpace cfg availOnWire msgBytes := by
  rcases selfAllocation_cases cfg availOnWire msgBytes with
    ⟨-, hSpace, hEq⟩ | ⟨-, hSpace, hEq⟩ | ⟨-, hEq⟩
  · rw [hEq]
    rw [cbAddHeaderOverhead_skip hPacket] at hSpace
    exact (allocate_snd_le hPacket).trans hSpace
  · rw [hEq]
    exact (allocate_snd_le hPacket).trans hSpace
  · rw [hEq]
    exact (allocate_snd_le hPacket).trans (cbAddHeaderOverhead_remove_le _ hPacket)

/-- The wire bytes of the first packet of a message. -/
theorem firstPacket_eq (hPacket : 16 ≤ cfg.mtu) (msgBytes : Nat) :
    msgBytes ≤ cfg.mtu ∧ cbAddHeaderOverhead (min msgBytes cfg.mtu) cfg.mtu true =
        cbAddHeaderOverhead msgBytes cfg.mtu ∨
      cfg.mtu < msgBytes ∧
        cbAddHeaderOverhead (min msgBytes cfg.mtu) cfg.mtu true = cfg.mtu + 68 := by
  rcases Nat.lt_or_ge cfg.mtu msgBytes with hLarge | hSmall
  · refine .inr ⟨hLarge, ?_⟩
    rw [Nat.min_eq_right hLarge.le, cbAddHeaderOverhead_of_le (by omega) (Nat.le_refl _)]
    omega
  · refine .inl ⟨hSmall, ?_⟩
    rw [Nat.min_eq_left hSmall, cbAddHeaderOverhead_skip hPacket]

theorem firstPacket_le (hPacket : 16 ≤ cfg.mtu) (msgBytes : Nat) :
    cbAddHeaderOverhead (min msgBytes cfg.mtu) cfg.mtu true ≤ cfg.mtu + 68 := by
  have hFull := cbAddHeaderOverhead_of_le (by omega) (Nat.le_refl cfg.mtu)
  have hMono := cbAddHeaderOverhead_mono (Nat.min_le_right msgBytes cfg.mtu) (Nat.le_refl cfg.mtu)
  omega

/-- Something is allocated exactly where the cap covers the message or a full packet. -/
theorem selfAllocation_pos_iff (hPacket : 16 ≤ cfg.mtu) :
    0 < (selfAllocation cfg availOnWire msgBytes).1 ↔ 0 < msgBytes ∧
      (cbAddHeaderOverhead msgBytes cfg.mtu ≤ cfg.maxSrpbBytes ∨
        cfg.mtu + 68 ≤ cfg.maxSrpbBytes) := by
  have hMtu : 0 < cfg.mtu := by omega
  have hFirst := firstPacket_eq hPacket msgBytes
  have hRemove : cbAddHeaderOverhead (cbRemoveHeaderOverhead cfg.maxSrpbBytes cfg.mtu) cfg.mtu
      true ≤ cfg.maxSrpbBytes := cbAddHeaderOverhead_remove_le cfg.maxSrpbBytes hPacket
  have hSpaceFirst : cbAddHeaderOverhead (min msgBytes cfg.mtu) cfg.mtu true ≤
      backlogSpace cfg availOnWire msgBytes := Nat.le_max_right _ _
  rcases selfAllocation_cases cfg availOnWire msgBytes with
    ⟨hCap, -, hEq⟩ | ⟨hCap, -, hEq⟩ | ⟨hCases, hEq⟩
  · rw [hEq]
    refine (cbAlignChunkPrefixBytes_pos_iff hMtu).trans ?_
    omega
  · rw [hEq]
    refine (cbAlignChunkPrefixBytes_pos_iff hMtu).trans ?_
    rw [le_cbRemoveHeaderOverhead_iff hPacket]
    have hPart : ¬ msgBytes ≤ cbRemoveHeaderOverhead cfg.maxSrpbBytes cfg.mtu := by
      intro hAll
      have hWire := cbAddHeaderOverhead_le_of_le hPacket hAll
      rw [cbAddHeaderOverhead_skip hPacket] at hCap
      omega
    omega
  · rw [hEq]
    refine (cbAlignChunkPrefixBytes_pos_iff hMtu).trans ?_
    rw [le_cbRemoveHeaderOverhead_iff hPacket]
    omega

/-- Nothing in the allocation wraps around where the message and the cap have 64 bits. -/
theorem selfAllocation64_eq (hPacket : 16 ≤ cfg.mtu) (hFull : cfg.mtu + 68 < 2 ^ 64)
    (hCap : cfg.maxSrpbBytes < 2 ^ 64) (hMsg : cbAddHeaderOverhead msgBytes cfg.mtu < 2 ^ 64) :
    selfAllocation64 cfg availOnWire msgBytes = selfAllocation cfg availOnWire msgBytes := by
  have hMtu : 0 < cfg.mtu := by omega
  have hWhole : cbAddHeaderOverhead msgBytes cfg.mtu true < 2 ^ 64 :=
    cbAddHeaderOverhead_skip hPacket ▸ hMsg
  have hFirst := firstPacket_le hPacket msgBytes
  have hWire := cbAddHeaderOverhead64_eq hFull hMsg
  have hCapData := cbRemoveHeaderOverhead64_eq hMtu hFull hCap
  have hCapWire := cbAddHeaderOverhead64_eq hFull
    ((cbAddHeaderOverhead_remove_le cfg.maxSrpbBytes hPacket).trans_lt hCap)
  have hFirstWire := cbAddHeaderOverhead64_eq hFull (hFirst.trans_lt hFull)
  have hSpace : backlogSpace cfg availOnWire msgBytes < 2 ^ 64 :=
    Nat.max_lt.mpr ⟨by omega, hFirst.trans_lt hFull⟩
  have hSpaceData := cbRemoveHeaderOverhead64_eq hMtu hFull hSpace
  have hAligned (candidateBytes : Nat) := cbAddHeaderOverhead64_eq hFull
    ((cbAddHeaderOverhead_le_of_le hPacket (cbAlignChunkPrefixBytes_le
      (min candidateBytes msgBytes) msgBytes cfg.mtu)).trans_lt hWhole)
  unfold backlogSpace at hSpaceData
  unfold selfAllocation64 selfAllocation
  simp only [hWire, hCapData, hCapWire, hFirstWire, hSpaceData, hAligned]

end Allocation

/-! ## The check -/

theorem le_cbAddHeaderOverhead {payloadBytes maxPayloadBytes : Nat}
    (hPacket : 16 ≤ maxPayloadBytes) :
    payloadBytes ≤ cbAddHeaderOverhead payloadBytes maxPayloadBytes true := by
  have hSplit := Nat.div_add_mod payloadBytes maxPayloadBytes
  have hPkts : maxPayloadBytes * (payloadBytes / maxPayloadBytes) ≤
      payloadBytes / maxPayloadBytes * (maxPayloadBytes + 68) := by
    rw [Nat.mul_comm]
    exact Nat.mul_le_mul_left _ (Nat.le_add_right _ _)
  rw [cbAddHeaderOverhead_eq hPacket]
  split
  · omega
  · omega

/-- What the check of a message leaves in the message and in the credit pool. -/
structure SelfAllocates (cfg : CbConfig) (r : ReceiverState) (q : QueuePair) (r' : ReceiverState)
    (q' : QueuePair) : Prop where
  pos_iff : 0 < q'.selfAllocCreditDataBytes ↔
    cbAddHeaderOverhead q.size cfg.mtu ≤ r.unsolicitedThreshBytes ∧ 0 < q.size ∧
      (cbAddHeaderOverhead q.size cfg.mtu ≤ cfg.maxSrpbBytes ∨ cfg.mtu + 68 ≤ cfg.maxSrpbBytes)
  le_size : q'.selfAllocCreditDataBytes ≤ q.size
  whole : q'.selfAllocCreditDataBytes = q.size ∨ cfg.mtu ∣ q'.selfAllocCreditDataBytes
  wire (skipLastPktCheck : Bool) : q'.selfAllocCreditBytes =
    cbAddHeaderOverhead q'.selfAllocCreditDataBytes cfg.mtu skipLastPktCheck
  charged : r'.availCreditBytes = r.availCreditBytes + q'.selfAllocCreditBytes
  bound : r'.availCreditBytes ≤ max cfg.maxSrpbBytes (r.availCreditBytes + (cfg.mtu + 68))
  chargedData : r.availCreditDataBytes ≤ r.availCreditBytes →
    r'.availCreditDataBytes = r.availCreditDataBytes + q'.selfAllocCreditDataBytes
  scheduled : q'.isScheduled = true ↔ q'.selfAllocCreditDataBytes = 0

section Check

variable {cfg : CbConfig} {r : ReceiverState} {q : QueuePair}

/-- A message that stays scheduled, without credit of its own. -/
theorem selfAllocates_none {q' : QueuePair} (hData : q'.selfAllocCreditDataBytes = 0)
    (hWire : q'.selfAllocCreditBytes = 0) (hScheduled : q'.isScheduled = true)
    (hNone : ¬ (cbAddHeaderOverhead q.size cfg.mtu ≤ r.unsolicitedThreshBytes ∧ 0 < q.size ∧
      (cbAddHeaderOverhead q.size cfg.mtu ≤ cfg.maxSrpbBytes ∨
        cfg.mtu + 68 ≤ cfg.maxSrpbBytes))) : SelfAllocates cfg r q r q' where
  pos_iff := iff_of_false (by omega) hNone
  le_size := by omega
  whole := .inr (hData ▸ Nat.dvd_zero _)
  wire := fun skip => by rw [hData, hWire, cbAddHeaderOverhead_zero]
  charged := by omega
  bound := by omega
  chargedData := by omega
  scheduled := iff_of_true hScheduled hData

/-- The check allocates whole chunks of a message, and the pool does not come above the cap by more
than a packet. -/
theorem classify64_selfAllocates (hPacket : 16 ≤ cfg.mtu)
    (hMsg : cbAddHeaderOverhead q.size cfg.mtu < 2 ^ 64)
    (hBound : max cfg.maxSrpbBytes (r.availCreditBytes + (cfg.mtu + 68)) < 2 ^ 64) :
    SelfAllocates cfg r q (classify64 cfg r q).1 (classify64 cfg r q).2 := by
  have hFull : cfg.mtu + 68 < 2 ^ 64 := by omega
  have hWire := cbAddHeaderOverhead64_eq hFull hMsg
  have hEq : selfAllocation64 cfg r.availCreditBytes q.size =
      selfAllocation cfg r.availCreditBytes q.size :=
    selfAllocation64_eq hPacket hFull (by omega) hMsg
  have hPos := @selfAllocation_pos_iff cfg r.availCreditBytes q.size hPacket
  have hSnd := selfAllocation_snd cfg r.availCreditBytes q.size
  have hFits : (selfAllocation cfg r.availCreditBytes q.size).2 ≤
      max (cfg.maxSrpbBytes - r.availCreditBytes) (cfg.mtu + 68) :=
    (selfAllocation_snd_le hPacket).trans (max_le_max_left _ (firstPacket_le hPacket q.size))
  have hData : (selfAllocation cfg r.availCreditBytes q.size).1 ≤
      (selfAllocation cfg r.availCreditBytes q.size).2 := hSnd ▸ le_cbAddHeaderOverhead hPacket
  have hLe := selfAllocation_le cfg r.availCreditBytes q.size
  have hWhole := selfAllocation_eq_or_dvd cfg r.availCreditBytes q.size
  unfold classify64
  dsimp only
  rw [hWire, hEq]
  generalize selfAllocation cfg r.availCreditBytes q.size = granted at *
  split
  · rename_i hThresh
    split
    · rename_i hSome
      have hCredit : addU64 r.availCreditBytes granted.2 = r.availCreditBytes + granted.2 :=
        addU64_of_lt (by omega)
      refine ⟨iff_of_true hSome.2 ⟨hThresh, hPos.mp hSome.2⟩, hLe, hWhole, ?_, hCredit, ?_, ?_,
        iff_of_false nofun hSome.2.ne'⟩
      · intro skip
        cases skip with
        | true => exact hSnd
        | false => exact hSnd.trans (cbAddHeaderOverhead_skip hPacket).symm
      · dsimp only
        omega
      · intro hLess
        exact addU64_of_lt (by omega)
    · rename_i hNone
      refine selfAllocates_none rfl rfl rfl ?_
      rintro ⟨-, hSome⟩
      have hPositive := hPos.mpr hSome
      exact hNone ⟨hPositive.trans_le hData, hPositive⟩
  · rename_i hThresh
    exact selfAllocates_none rfl rfl rfl fun hAll => hThresh hAll.1

end Check

/-- Two and a half packets of 1000 bytes, with room in the pool for two on the wire. -/
theorem classify64_selfAllocates_twoChunks :
    SelfAllocates { mtu := 1000, maxSrpbBytes := 5000 }
      { unsolicitedThreshBytes := 10000, availCreditBytes := 2800 }
      { sip := 1, dip := 2, dport := 3, size := 2500, flowId := 0 }
      (classify64 { mtu := 1000, maxSrpbBytes := 5000 }
        { unsolicitedThreshBytes := 10000, availCreditBytes := 2800 }
        { sip := 1, dip := 2, dport := 3, size := 2500, flowId := 0 }).1
      (classify64 { mtu := 1000, maxSrpbBytes := 5000 }
        { unsolicitedThreshBytes := 10000, availCreditBytes := 2800 }
        { sip := 1, dip := 2, dport := 3, size := 2500, flowId := 0 }).2 :=
  classify64_selfAllocates (by decide) (by decide) (by decide)

/-- A message of three chunks gets nothing from a cap of less than a packet; and a message can be
too long for its wire bytes. -/
theorem classify64_allocates_nothing :
    (classify64 { mtu := 1000, maxSrpbBytes := 1000 } { unsolicitedThreshBytes := 10000 }
        { sip := 1, dip := 2, dport := 3, size := 2500, flowId := 0 }).2.selfAllocCreditDataBytes =
      0 ∧
    cbAddHeaderOverhead64 (2 ^ 64 - 1) 1000 ≠ cbAddHeaderOverhead (2 ^ 64 - 1) 1000 := by
  decide +kernel

end Dpdq.Ns3
