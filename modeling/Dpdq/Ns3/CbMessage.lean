import Mathlib.Algebra.BigOperators.Intervals
import Dpdq.Ns3.CbReceiverMessage
import Dpdq.Ns3.CbReceiverRetired
import Dpdq.Ns3.SwitchSteps

/-!
# The grants and the scheduled data of a message

A message with its tuple and its self-allocated prefix, the GRANT that is meant for each of its
scheduled chunks and the data packet of the chunk. `grantOf_sameLink`: the two take the same
position among the next hops of any two switches. `prefix_of_ordered`: as long as all outstanding
chunks lie below the granted bytes, these bytes are the offset of the next chunk.
`bounceOrReserve_of_bounces`: what the receiver gets back of a GRANT is what a switch makes of it.
-/

namespace Dpdq.Ns3

open Dpdq.Lib

variable {cfg : CbConfig}

/-- A message as its sender announces it. The sender allocates credit to itself for whole chunks,
or for the message. -/
structure CbMessage (cfg : CbConfig) where
  key : RxKey
  dip : Nat
  dport : Nat
  size : Nat
  selfAllocCreditDataBytes : Nat
  size_lt : size < 2 ^ 32
  selfAlloc_le : selfAllocCreditDataBytes ≤ size
  selfAlloc_aligned : selfAllocCreditDataBytes % cfg.mtu = 0 ∨ selfAllocCreditDataBytes = size

theorem cbAlignChunkPrefixBytes_aligned (candidateBytes messageBytes chunkBytes : Nat) :
    cbAlignChunkPrefixBytes candidateBytes messageBytes chunkBytes % chunkBytes = 0 ∨
      cbAlignChunkPrefixBytes candidateBytes messageBytes chunkBytes = messageBytes := by
  unfold cbAlignChunkPrefixBytes
  split
  · exact Or.inl (Nat.zero_mod _)
  · split
    · exact Or.inr rfl
    · exact Or.inl (Nat.mul_mod_left _ _)

/-- The self-allocation of `GetNxtPacket`, cut to whole chunks as there. -/
def CbMessage.selfAllocate (cfg : CbConfig) (key : RxKey) (dip dport toGrantData : Nat) {size : Nat}
    (hSize : size < 2 ^ 32) : CbMessage cfg where
  key := key
  dip := dip
  dport := dport
  size := size
  selfAllocCreditDataBytes := cbAlignChunkPrefixBytes toGrantData size cfg.mtu
  size_lt := hSize
  selfAlloc_le := cbAlignChunkPrefixBytes_le _ _ _
  selfAlloc_aligned := cbAlignChunkPrefixBytes_aligned _ _ _

/-- Two packets take the same position among equally many next hops, at any two switches. -/
def SameLink (p p' : Packet) : Prop :=
  ∀ sw : SwitchConfig, sw.symmetricRouting = true →
    ∀ (s s' : SwitchNode) (env env' : Ambient) (hops hops' : List Int),
      s.rtTable p.ch.dip = some hops → s'.rtTable p'.ch.dip = some hops' →
      hops.length = hops'.length →
      ∃ i : Nat, getOutDev sw s env p = hops[i]? ∧ getOutDev sw s' env' p' = hops'[i]?

namespace CbPacket

/-- The packet at a switch. -/
def toPacket (p : CbPacket) (size : Nat) : Packet :=
  { ch := p.ch, size := size, cbTag := some p.tag }

theorem toPacket_bounced {p : CbPacket} (h : p.tag.type = .grant) (size : Nat) :
    (p.toPacket size).markAsBouncedCredit.swapDirection = p.bounced.toPacket size := by
  have hType : ¬ p.tag.type = .none := by
    rw [h]
    decide
  unfold Packet.markAsBouncedCredit toPacket
  simp only [if_neg hType]
  rfl

/-- A switch returns the grant that it bounces as `bounced`. -/
theorem bounceOrReserve_of_bounces {sw : SwitchConfig} {s : SwitchNode} {p : CbPacket}
    {size inDevHint idx : Nat} (h : s.bounces sw inDevHint idx (p.toPacket size) = some true) :
    s.bounceOrReserve sw (p.toPacket size) inDevHint idx =
      some (s, { p.bounced.toPacket size with justBounced := true }, inDevHint) := by
  obtain ⟨hProt, hType⟩ := SwitchNode.grant_of_bounces h
  have hGrant : p.tag.type = .grant := of_decide_eq_true hType
  unfold SwitchNode.bounceOrReserve
  rw [h, ← toPacket_bounced hGrant]
  simp only [Option.bind_eq_bind, Option.bind_some, if_true, if_pos hProt]
  rfl

/-- A bounced GRANT is taken for a packet of the sender. -/
theorem rxKey_bounced (p : CbPacket) : p.bounced.rxKey = p.txKey := rfl

end CbPacket

/-! ## Next hops -/

/-- The hash takes the two ends of a tuple in either order. -/
theorem buildCreditBouncerSymmetricHash_swap (sip dip sport dport pg seq : Nat) :
    buildCreditBouncerSymmetricHash dip sip dport sport pg seq =
      buildCreditBouncerSymmetricHash sip dip sport dport pg seq := by
  unfold buildCreditBouncerSymmetricHash
  rcases Nat.lt_trichotomy sip dip with hLess | rfl | hMore
  · rw [if_pos (Or.inl hLess), if_neg (by omega)]
  · rcases Nat.lt_trichotomy sport dport with hPort | rfl | hPort
    · rw [if_pos (Or.inr ⟨rfl, hPort⟩), if_neg (by omega)]
    · rfl
    · rw [if_neg (by omega), if_pos (Or.inr ⟨rfl, hPort⟩)]
  · rw [if_neg (by omega), if_pos (Or.inl hMore)]

theorem getOutDev_of_symmetric {sw : SwitchConfig} (s : SwitchNode) (env : Ambient) {p : Packet}
    {hops : List Int} (hSymmetric : usesSymmetricHash sw p = true)
    (hHops : s.rtTable p.ch.dip = some hops) :
    getOutDev sw s env p =
      hops[(buildCreditBouncerSymmetricHash p.ch.sip p.ch.dip p.ch.sport p.ch.dport p.ch.pg
        p.ch.seq).toNat % hops.length]? := by
  unfold getOutDev
  simp only [hHops, hSymmetric, if_true]

/-- Packets in opposite directions of one tuple, with one sequence number, share their links. -/
theorem sameLink_of_swapped {p p' : Packet}
    (hUses : ∀ sw : SwitchConfig, sw.symmetricRouting = true →
      usesSymmetricHash sw p = true ∧ usesSymmetricHash sw p' = true)
    (hCh : p.ch.sip = p'.ch.dip ∧ p.ch.dip = p'.ch.sip ∧ p.ch.sport = p'.ch.dport ∧
      p.ch.dport = p'.ch.sport ∧ p.ch.pg = p'.ch.pg ∧ p.ch.seq = p'.ch.seq) : SameLink p p' := by
  intro sw hRouting s s' env env' hops hops' hHops hHops' hLength
  obtain ⟨hp, hp'⟩ := hUses sw hRouting
  obtain ⟨hSip, hDip, hSport, hDport, hPg, hSeq⟩ := hCh
  refine ⟨_, getOutDev_of_symmetric s env hp hHops, ?_⟩
  rw [getOutDev_of_symmetric s' env' hp' hHops', hLength, hSip, hDip, hSport, hDport, hPg, hSeq,
    buildCreditBouncerSymmetricHash_swap]

namespace CbMessage

/-! ## Packets -/

/-- The wire bytes of a chunk. -/
def chunkWire (m : CbMessage cfg) (chunk : Nat) : Nat :=
  cbAddHeaderOverhead (chunkSize cfg m.size chunk) cfg.mtu true

/-- The GRANT for a chunk. -/
def grantOf (m : CbMessage cfg) (chunk : Nat) : CbPacket where
  ch := {
    sip := m.dip, dip := m.key.dip, l3Prot := 0xFB, sport := m.dport, dport := m.key.dport
    pg := m.key.pg, seq := chunk * cfg.mtu }
  tag := {
    type := .grant
    creditBytes := m.chunkWire chunk
    creditPad := m.chunkWire chunk -
      (chunkSize cfg m.size chunk + cbDataHeadersOnWire + cbLinkOverheadOnWire) }

/-- `BuildCreditBouncerDataPacket` for a chunk of the scheduled part. -/
def dataOf (m : CbMessage cfg) (chunk : Nat) : CbPacket where
  ch := {
    sip := m.key.dip, dip := m.dip, l3Prot := 0x11, sport := m.key.dport, dport := m.dport
    pg := m.key.pg, seq := chunk * cfg.mtu }
  tag := { type := .request, dataClass := .scheduled }
  payloadSize := chunkSize cfg m.size chunk

/-- The grant of a chunk and its data choose the same link everywhere. -/
theorem grantOf_sameLink (m : CbMessage cfg) (chunk grantSize dataSize : Nat) :
    SameLink ((m.grantOf chunk).toPacket grantSize) ((m.dataOf chunk).toPacket dataSize) := by
  apply sameLink_of_swapped
  · intro sw hRouting
    unfold usesSymmetricHash
    rw [hRouting]
    exact ⟨rfl, rfl⟩
  · exact ⟨rfl, rfl, rfl, rfl, rfl, rfl⟩

/-! ## Chunks -/

/-- The chunks behind the self-allocated prefix. -/
def scheduledChunks (m : CbMessage cfg) : Finset Nat :=
  Finset.Ico (chunkCount cfg m.selfAllocCreditDataBytes) (chunkCount cfg m.size)

theorem chunkCount_mul (hMtu : 0 < cfg.mtu) (chunk : Nat) :
    chunkCount cfg (chunk * cfg.mtu) = chunk := by
  unfold chunkCount
  rw [Nat.add_sub_assoc hMtu, Nat.mul_comm, Nat.mul_add_div hMtu, Nat.div_eq_of_lt (by omega),
    Nat.add_zero]

theorem chunkCount_le_of_le {m n : Nat} (h : m ≤ n) : chunkCount cfg m ≤ chunkCount cfg n :=
  Nat.div_le_div_right (by omega)

/-- The chunks of a prefix reach over it. -/
theorem le_chunkCount_mul (hMtu : 0 < cfg.mtu) (bytes : Nat) :
    bytes ≤ chunkCount cfg bytes * cfg.mtu := by
  have hCover := (div_lt_chunkCount_iff hMtu (chunkCount cfg bytes) bytes).not.mp (Nat.lt_irrefl _)
  omega

/-- The chunks before the scheduled ones are the self-allocated prefix. -/
theorem min_selfAlloc (hMtu : 0 < cfg.mtu) (m : CbMessage cfg) :
    min (chunkCount cfg m.selfAllocCreditDataBytes * cfg.mtu) m.size =
      m.selfAllocCreditDataBytes := by
  have hLe := m.selfAlloc_le
  rcases m.selfAlloc_aligned with hAligned | hAll
  · have hMul := Nat.div_mul_cancel (Nat.dvd_of_mod_eq_zero hAligned)
    rw [← hMul, chunkCount_mul hMtu, hMul]
    omega
  · have hCover := le_chunkCount_mul hMtu m.size
    rw [hAll]
    omega

/-- The bytes of the chunks from the first scheduled one up to another. -/
theorem selfAlloc_add_sum (hMtu : 0 < cfg.mtu) (m : CbMessage cfg) {last : Nat}
    (hLast : chunkCount cfg m.selfAllocCreditDataBytes ≤ last) :
    m.selfAllocCreditDataBytes +
        ∑ i ∈ Finset.Ico (chunkCount cfg m.selfAllocCreditDataBytes) last, chunkSize cfg m.size i =
      min (last * cfg.mtu) m.size := by
  have hHead := totalSum_chunkSize_eq_min cfg m.size (chunkCount cfg m.selfAllocCreditDataBytes)
  have hAll := totalSum_chunkSize_eq_min cfg m.size last
  rw [m.min_selfAlloc hMtu] at hHead
  unfold totalSum at hHead hAll
  rw [← Finset.sum_range_add_sum_Ico _ hLast, hHead] at hAll
  exact hAll

theorem mem_scheduledChunks (hMtu : 0 < cfg.mtu) {m : CbMessage cfg} {chunk : Nat} :
    chunk ∈ m.scheduledChunks ↔
      chunkCount cfg m.selfAllocCreditDataBytes ≤ chunk ∧ chunk * cfg.mtu < m.size := by
  unfold scheduledChunks
  rw [Finset.mem_Ico, div_lt_chunkCount_iff hMtu]

theorem chunkSize_pos_of_mem (hMtu : 0 < cfg.mtu) {m : CbMessage cfg} {chunk : Nat}
    (h : chunk ∈ m.scheduledChunks) : 0 < chunkSize cfg m.size chunk :=
  chunkSize_pos hMtu (Finset.mem_Ico.mp h).2

/-- Chunks that hold all scheduled bytes are all of them. -/
theorem eq_scheduledChunks_of_sum (hMtu : 0 < cfg.mtu) (m : CbMessage cfg) {chunks : Finset Nat}
    (hSub : chunks ⊆ m.scheduledChunks)
    (hSum : m.selfAllocCreditDataBytes + ∑ i ∈ chunks, chunkSize cfg m.size i = m.size) :
    chunks = m.scheduledChunks := by
  apply Finset.Subset.antisymm hSub
  intro i hi
  by_contra hMissing
  have hLess : ∑ j ∈ chunks, chunkSize cfg m.size j <
      ∑ j ∈ m.scheduledChunks, chunkSize cfg m.size j :=
    Finset.sum_lt_sum_of_subset hSub hi hMissing (chunkSize_pos_of_mem hMtu hi)
      fun _ _ _ => Nat.zero_le _
  have hAll := m.selfAlloc_add_sum hMtu (chunkCount_le_of_le m.selfAlloc_le)
  have hCover := le_chunkCount_mul hMtu m.size
  unfold scheduledChunks at hLess
  omega

/-- Granted bytes that end behind all outstanding chunks end at a chunk boundary. The outstanding
chunks are then exactly the scheduled ones before it. -/
theorem prefix_of_ordered (hMtu : 0 < cfg.mtu) (m : CbMessage cfg) {chunks : Finset Nat}
    {granted : Nat} (hSub : chunks ⊆ m.scheduledChunks)
    (hSum : m.selfAllocCreditDataBytes + ∑ i ∈ chunks, chunkSize cfg m.size i = granted)
    (hOpen : granted < m.size) (hOrder : ∀ i ∈ chunks, i * cfg.mtu < granted) :
    granted = chunkCount cfg granted * cfg.mtu ∧
      chunks = Finset.Ico (chunkCount cfg m.selfAllocCreditDataBytes) (chunkCount cfg granted) := by
  have hFirst : chunkCount cfg m.selfAllocCreditDataBytes ≤ chunkCount cfg granted :=
    chunkCount_le_of_le (by omega)
  have hCover := le_chunkCount_mul hMtu granted
  have hBelow : chunks ⊆
      Finset.Ico (chunkCount cfg m.selfAllocCreditDataBytes) (chunkCount cfg granted) := by
    intro i hi
    rw [Finset.mem_Ico, div_lt_chunkCount_iff hMtu]
    exact ⟨((mem_scheduledChunks hMtu).mp (hSub hi)).1, hOrder i hi⟩
  -- A chunk that is missing below the granted bytes leaves the sum short of them.
  have hChunks : chunks =
      Finset.Ico (chunkCount cfg m.selfAllocCreditDataBytes) (chunkCount cfg granted) := by
    apply Finset.Subset.antisymm hBelow
    intro i hi
    by_contra hMissing
    obtain ⟨hLow, hHigh⟩ := Finset.mem_Ico.mp hi
    have hOffset : i * cfg.mtu < granted := (div_lt_chunkCount_iff hMtu i granted).mp hHigh
    have hRest : ∑ j ∈ chunks, chunkSize cfg m.size j + chunkSize cfg m.size i ≤
        ∑ j ∈ Finset.Ico (chunkCount cfg m.selfAllocCreditDataBytes) (chunkCount cfg granted),
          chunkSize cfg m.size j := by
      rw [Nat.add_comm, ← Finset.sum_insert hMissing]
      exact Finset.sum_le_sum_of_subset (Finset.insert_subset hi hBelow)
    have hAll := m.selfAlloc_add_sum hMtu hFirst
    have hReach : chunkCount cfg granted * cfg.mtu < granted + cfg.mtu := by
      have hLast := (div_lt_chunkCount_iff hMtu (chunkCount cfg granted - 1) granted).mp (by omega)
      rw [Nat.sub_mul, Nat.one_mul] at hLast
      omega
    unfold chunkSize at hRest hAll hSum
    omega
  refine ⟨?_, hChunks⟩
  have hAll := m.selfAlloc_add_sum hMtu hFirst
  rw [← hChunks, hSum] at hAll
  omega

end CbMessage

end Dpdq.Ns3
