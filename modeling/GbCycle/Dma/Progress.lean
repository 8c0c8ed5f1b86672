import GbCycle.Dma.Controller

/-!
# How a VRAM transfer progresses

The first byte of a VRAM transfer takes as long as every other one, so the bytes copied after
some T-cycles are a quotient, cut off at the length of the transfer.  The published blocks are
the same quotient taken twelve cycles earlier, in blocks.  All that the controller compares,
byte by byte and block by block, follows from these two closed forms.
-/

namespace GbCycle

/-- A VRAM transfer of `m` blocks at the given speed. -/
structure DmaTransfer.IsVram (t : DmaTransfer) (m : Nat) (speedMode : CgbSpeedMode) : Prop where
  kind : t.kind.isVram = true
  positive : 0 < m
  bounded : m ≤ 128
  single : t.kind = .hdma → m = 1
  totalBytes : t.totalBytes = 16 * m
  blockSize : t.blockSize = 16
  timing : t.timing = vramDmaTiming (16 * m) speedMode
  stalls : t.cpuImpactPolicy = .cpuFullyStalledUntilDone ∨ t.cpuImpactPolicy = .cpuStalledPerBlock

theorem vramDmaFirstByteDelayTCycles_eq (speedMode : CgbSpeedMode) :
    vramDmaFirstByteDelayTCycles speedMode = vramDmaTCyclesPerByte speedMode := by
  cases speedMode <;> rfl

namespace DmaTransferProgress

variable {p : DmaTransferProgress} {m : Nat} {speedMode : CgbSpeedMode}

/-- The T-cycles of one block. -/
def blockTCycles (speedMode : CgbSpeedMode) : Nat := 16 * vramDmaTCyclesPerByte speedMode

theorem blockTCycles_cases (speedMode : CgbSpeedMode) :
    blockTCycles speedMode = 32 ∧ vramDmaTCyclesPerByte speedMode = 2 ∨
    blockTCycles speedMode = 64 ∧ vramDmaTCyclesPerByte speedMode = 4 := by
  cases speedMode
  · exact .inl ⟨rfl, rfl⟩
  · exact .inr ⟨rfl, rfl⟩

theorem totalTCycles_eq (h : p.transfer.IsVram m speedMode) :
    p.transfer.timing.totalTCycles = blockTCycles speedMode * m + 5 := by
  have hm := h.positive
  rw [h.timing]
  simp only [vramDmaTiming, vramDmaBodyTCycles, vramDmaFirstByteDelayTCycles_eq,
    vramDmaCpuReleaseTCycles]
  rw [if_neg (by omega), if_neg (by omega)]
  rcases blockTCycles_cases speedMode with ⟨hb, hr⟩ | ⟨hb, hr⟩ <;> rw [hb, hr] <;> omega

theorem completedBytes_eq (h : p.transfer.IsVram m speedMode) :
    p.completedBytes = min (p.elapsedTCycles / vramDmaTCyclesPerByte speedMode) (16 * m) := by
  simp only [completedBytes, h.timing, h.totalBytes, vramDmaTiming,
    vramDmaFirstByteDelayTCycles_eq]
  rcases blockTCycles_cases speedMode with ⟨-, hr⟩ | ⟨-, hr⟩
  · rw [hr]
    by_cases hlt : p.elapsedTCycles < 2
    · rw [if_pos hlt]
      omega
    · rw [if_neg hlt]
      omega
  · rw [hr]
    by_cases hlt : p.elapsedTCycles < 4
    · rw [if_pos hlt]
      omega
    · rw [if_neg hlt]
      omega

theorem completedBlocks_eq (h : p.transfer.IsVram m speedMode) :
    p.completedBlocks = min (p.elapsedTCycles / blockTCycles speedMode) m := by
  rw [completedBlocks, completedBytes_eq h, h.blockSize]
  rcases blockTCycles_cases speedMode with ⟨hb, hr⟩ | ⟨hb, hr⟩ <;> rw [hb, hr] <;> omega

theorem publishedCompletedBlocks_eq (h : p.transfer.IsVram m speedMode) :
    p.publishedCompletedBlocks = min ((p.elapsedTCycles - 12) / blockTCycles speedMode) m := by
  have hm := h.positive
  have hblocks := completedBlocks_eq h
  simp only [publishedCompletedBlocks, h.blockSize, h.timing, vramDmaTiming,
    vramDmaFirstByteDelayTCycles_eq, vramDmaPublicationTCycles]
  rcases blockTCycles_cases speedMode with ⟨hb, hr⟩ | ⟨hb, hr⟩
  · rw [hb] at hblocks ⊢
    rw [hr]
    by_cases hzero : p.completedBlocks = 0
    · rw [if_pos hzero]
      omega
    · rw [if_neg hzero]
      by_cases hdue : 2 + (p.completedBlocks * 16 - 1) * 2 + 12 ≤ p.elapsedTCycles
      · rw [if_pos hdue]
        omega
      · rw [if_neg hdue]
        omega
  · rw [hb] at hblocks ⊢
    rw [hr]
    by_cases hzero : p.completedBlocks = 0
    · rw [if_pos hzero]
      omega
    · rw [if_neg hzero]
      by_cases hdue : 4 + (p.completedBlocks * 16 - 1) * 4 + 12 ≤ p.elapsedTCycles
      · rw [if_pos hdue]
        omega
      · rw [if_neg hdue]
        omega

/-- The cycle of the last publication. -/
def publicationTCycle (m : Nat) (speedMode : CgbSpeedMode) : Nat :=
  blockTCycles speedMode * m + 12

theorem published_lt (h : p.transfer.IsVram m speedMode)
    (hlt : p.elapsedTCycles < publicationTCycle m speedMode) :
    p.publishedCompletedBlocks < m := by
  have hm := h.positive
  rw [publishedCompletedBlocks_eq h]
  unfold publicationTCycle at hlt
  rcases blockTCycles_cases speedMode with ⟨hb, -⟩ | ⟨hb, -⟩ <;> rw [hb] at hlt ⊢ <;> omega

theorem published_of_le (h : p.transfer.IsVram m speedMode)
    (hle : publicationTCycle m speedMode ≤ p.elapsedTCycles) :
    p.publishedCompletedBlocks = m ∧ p.completedBytes = 16 * m := by
  rw [publishedCompletedBlocks_eq h, completedBytes_eq h]
  unfold publicationTCycle at hle
  rcases blockTCycles_cases speedMode with ⟨hb, hr⟩ | ⟨hb, hr⟩ <;> rw [hb] at hle ⊢ <;>
    rw [hr] <;> omega

/-- What the next T-cycle does, before the counter saturates: at most one byte, at most one
block, and a block is published no earlier than its bytes are copied. -/
theorem next_spec {p' : DmaTransferProgress} (h : p.transfer.IsVram m speedMode)
    (htransfer : p'.transfer = p.transfer) (hnext : p'.elapsedTCycles = p.elapsedTCycles + 1) :
    (p'.completedBytes = p.completedBytes ∨ p'.completedBytes = p.completedBytes + 1) ∧
    (p'.publishedCompletedBlocks = p.publishedCompletedBlocks ∨
      p'.publishedCompletedBlocks = p.publishedCompletedBlocks + 1) ∧
    16 * p'.publishedCompletedBlocks ≤ p'.completedBytes ∧
    p'.completedBytes ≤ 16 * m := by
  have h' : p'.transfer.IsVram m speedMode := htransfer ▸ h
  rw [completedBytes_eq h, completedBytes_eq h', publishedCompletedBlocks_eq h,
    publishedCompletedBlocks_eq h', hnext]
  rcases blockTCycles_cases speedMode with ⟨hb, hr⟩ | ⟨hb, hr⟩ <;> rw [hb, hr] <;> omega

/-- A new transfer has done nothing yet. -/
theorem new_spec {t : DmaTransfer} (h : t.IsVram m speedMode) :
    (DmaTransferProgress.new t).publishedCompletedBlocks = 0 ∧
    (DmaTransferProgress.new t).completedBytes = 0 ∧
    (DmaTransferProgress.new t).elapsedTCycles < publicationTCycle m speedMode := by
  have h' : (DmaTransferProgress.new t).transfer.IsVram m speedMode := h
  have hzero : (DmaTransferProgress.new t).elapsedTCycles = 0 := rfl
  rw [publishedCompletedBlocks_eq h', completedBytes_eq h', hzero]
  unfold publicationTCycle
  rcases blockTCycles_cases speedMode with ⟨hb, hr⟩ | ⟨hb, hr⟩ <;> rw [hb, hr] <;> omega

/-- A transfer that has run its time has copied every byte. -/
theorem completedBytes_of_isComplete (h : p.transfer.IsVram m speedMode)
    (hcomplete : p.isComplete = true) : p.completedBytes = 16 * m := by
  rw [isComplete, totalTCycles_eq h, decide_eq_true_eq] at hcomplete
  rw [completedBytes_eq h]
  rcases blockTCycles_cases speedMode with ⟨hb, hr⟩ | ⟨hb, hr⟩ <;> rw [hb] at hcomplete <;>
    rw [hr] <;> omega

theorem isCpuBusRestrictionActive_of_isVram (h : p.transfer.IsVram m speedMode) :
    p.isCpuBusRestrictionActive = true := by
  rw [isCpuBusRestrictionActive, h.timing]
  rfl

theorem hasUnpublished_of_isComplete (h : p.transfer.IsVram m speedMode)
    (hcomplete : p.isComplete = true)
    (hlt : p.elapsedTCycles < publicationTCycle m speedMode) :
    p.hasUnpublishedCompletedBlocks = true := by
  have hpublished := published_lt h hlt
  have hbytes := completedBytes_of_isComplete h hcomplete
  rw [hasUnpublishedCompletedBlocks, decide_eq_true_eq, completedBlocks, hbytes, h.blockSize]
  omega

end DmaTransferProgress

/-! ## The transfers that the controller makes -/

theorem U16.toNat_ofBytes (high low : U8) :
    (U16.ofBytes high low).toNat = high.toNat * 256 + low.toNat := by
  have hlow : low.toNat < 2 ^ 8 := low.isLt
  have hhigh : high.toNat < 2 ^ 8 := high.isLt
  rw [U16.ofBytes, BitVec.toNat_or, BitVec.toNat_shiftLeft, U16.ofByte, U16.ofByte,
    BitVec.toNat_setWidth, BitVec.toNat_setWidth, Nat.mod_eq_of_lt (by omega),
    Nat.mod_eq_of_lt (show high.toNat < 2 ^ 16 by omega), Nat.shiftLeft_eq,
    Nat.mod_eq_of_lt (by omega), Nat.or_comm, ← Nat.shiftLeft_eq,
    ← Nat.shiftLeft_add_eq_or_of_lt hlow, Nat.shiftLeft_eq]

namespace VramDmaRegisters

theorem toNat_of_masked : ∀ high low : U8, high &&& 0xE0 = 0 → low &&& 0x0F = 0 →
    (0x80 ||| high).toNat < 0xA0 ∧ low.toNat % 16 = 0 := by
  intro high low hhigh hlow
  have hlow' : low.toNat &&& (2 ^ 4 - 1) = 0 := congrArg BitVec.toNat hlow
  have hrest : high &&& 0x1F = high := U8.and_of_and_eq_zero hhigh rfl
  have hhigh' : high.toNat &&& (2 ^ 5 - 1) = high.toNat := congrArg BitVec.toNat hrest
  rw [Nat.and_two_pow_sub_one_eq_mod] at hlow' hhigh'
  have hor : (0x80 ||| high).toNat = 1 <<< 7 ||| high.toNat := BitVec.toNat_or _ _
  refine ⟨?_, hlow'⟩
  rw [hor, ← Nat.shiftLeft_add_eq_or_of_lt (by omega)]
  omega

theorem sourceStart_eq (r : VramDmaRegisters) :
    r.sourceStart = U16.ofBytes r.sourceHigh r.sourceLow :=
  BitVec.or_comm _ _

theorem destinationStart_eq (r : VramDmaRegisters) :
    r.destinationStart = U16.ofBytes (0x80 ||| r.destinationHigh) r.destinationLow := by
  have hhigh : (0x8000 : U16) ||| (U16.ofByte r.destinationHigh <<< 8) =
      U16.ofByte (0x80 ||| r.destinationHigh) <<< 8 := by
    rw [U16.ofByte, U16.ofByte, BitVec.setWidth_or, BitVec.shiftLeft_or_distrib]
    rfl
  rw [destinationStart, hhigh, U16.ofBytes, BitVec.or_comm]

/-- The destination lies in VRAM, with room for a block. -/
theorem destinationStart_lt (r : VramDmaRegisters) : r.destinationStart.toNat + 16 ≤ 0xA000 := by
  have hlow := r.destinationLow.isLt
  obtain ⟨hhigh, haligned⟩ := toNat_of_masked _ _ r.destinationHigh_masked r.destinationLow_aligned
  rw [destinationStart_eq, U16.toNat_ofBytes]
  omega

/-- Writing the endpoints back changes nothing. -/
theorem setEndpoints_self (r : VramDmaRegisters) :
    setEndpoints r.sourceStart r.destinationStart = r := by
  have hlow (v : U8) (h : v &&& 0x0F = 0) : v &&& 0xF0 = v := U8.and_of_and_eq_zero h rfl
  have hhigh (v : U8) (h : v &&& 0xE0 = 0) : (0x80 ||| v) &&& 0x1F = v := by
    have hoff : (0x80 ||| v) &&& 0x1F = (0x80 &&& 0x1F) ||| (v &&& 0x1F) :=
      BitVec.and_or_distrib_right
    rw [hoff, U8.and_of_and_eq_zero h rfl]
    exact BitVec.zero_or
  obtain ⟨sourceHigh, sourceLow, destinationHigh, destinationLow, hsource, hdestination,
    hdestinationLow⟩ := r
  simp only [setEndpoints, sourceStart_eq, destinationStart_eq, U16.ofBytes_high,
    U16.ofBytes_low, hlow _ hsource, hlow _ hdestinationLow, hhigh _ hdestination]

end VramDmaRegisters

/-- A latched transfer has between one block and as many as were asked for. -/
theorem VramDmaTransfer.new_blocks (mode : VramDmaMode) (r : VramDmaRegisters) {blocks : Nat}
    (h : 0 < blocks) :
    0 < (VramDmaTransfer.new mode r blocks).totalBlocks ∧
    (VramDmaTransfer.new mode r blocks).totalBlocks ≤ blocks := by
  have hend := r.destinationStart_lt
  have hroom : 0 < (vramDmaDestinationEnd + 1 - r.destinationStart.toNat) / vramDmaBlockBytes := by
    unfold vramDmaDestinationEnd vramDmaBlockBytes
    omega
  show 0 < clipVramDmaBlocksForDestination r.destinationStart blocks ∧
    clipVramDmaBlocksForDestination r.destinationStart blocks ≤ blocks
  unfold clipVramDmaBlocksForDestination
  by_cases hclip :
      (vramDmaDestinationEnd + 1 - r.destinationStart.toNat) / vramDmaBlockBytes < blocks
  · rw [if_pos hclip]
    exact ⟨hroom, Nat.le_of_lt hclip⟩
  · rw [if_neg hclip]
    exact ⟨h, Nat.le_refl _⟩

theorem DmaTransfer.gdma_isVram {t : VramDmaTransfer} (speedMode : CgbSpeedMode)
    (hpositive : 0 < t.remainingBlocks) (hbounded : t.remainingBlocks ≤ 128) :
    (DmaTransfer.gdmaForSpeed t speedMode).IsVram t.remainingBlocks speedMode where
  kind := rfl
  positive := hpositive
  bounded := hbounded
  single := nofun
  totalBytes := Nat.mul_comm _ _
  blockSize := rfl
  timing := congrArg (vramDmaTiming · speedMode) (Nat.mul_comm _ _)
  stalls := .inl rfl

theorem DmaTransfer.hdma_isVram (t : VramDmaTransfer) (speedMode : CgbSpeedMode) :
    (DmaTransfer.hdmaBlockForSpeed t speedMode).IsVram 1 speedMode where
  kind := rfl
  positive := Nat.one_pos
  bounded := by decide
  single _ := rfl
  totalBytes := rfl
  blockSize := rfl
  timing := rfl
  stalls := .inr rfl

end GbCycle
