import GbCycle.Dma.Copies

/-!
# The addresses of a VRAM transfer

The source and the destination of a byte are formed with a plain addition, which fails where
the sum leaves a `u16`, while the endpoints of a published block are formed with a wrapping
one.  A block of an H-blank transfer starts at an aligned address, so its sums never leave.  A
general-purpose transfer counts its bytes from the first one: the sums of its source leave the
word exactly where the transfer runs past the top of the address space.
-/

namespace GbCycle

namespace DmaTransfer

/-- `source_address_for_byte`, where the addition is checked. -/
def sourceAddressForByteChecked (t : DmaTransfer) (byteIndex : Nat) : Option U16 :=
  (checkedAdd 16 t.sourceStart.toNat byteIndex).map fun address =>
    match t.kind with
    | .oam => normalizeOamSourceAddress (BitVec.ofNat 16 address)
    | .gdma | .hdma => BitVec.ofNat 16 address

/-- `destination_address_for_byte`, where the addition is checked. -/
def destinationAddressForByteChecked (t : DmaTransfer) (byteIndex : Nat) : Option U16 :=
  (checkedAdd 16 t.destinationStart.toNat byteIndex).map (BitVec.ofNat 16)

theorem ofNat_toNat_add (start : U16) (k : Nat) :
    BitVec.ofNat 16 (start.toNat + k) = start + BitVec.ofNat 16 k := by
  rw [BitVec.ofNat_add, BitVec.ofNat_toNat, BitVec.setWidth_eq]

/-- A checked source address is the wrapped one, where there is one. -/
theorem sourceAddressForByteChecked_eq (t : DmaTransfer) (k : Nat) :
    t.sourceAddressForByteChecked k =
      if t.sourceStart.toNat + k < 2 ^ 16 then some (t.sourceAddressForByte k) else none := by
  unfold sourceAddressForByteChecked checkedAdd sourceAddressForByte
  by_cases hfits : t.sourceStart.toNat + k < 2 ^ 16
  · have haddress := ofNat_toNat_add t.sourceStart k
    cases hkind : t.kind <;> simp only [hfits, if_true, Option.map_some, haddress]
  · rw [if_neg hfits, if_neg hfits, Option.map_none]

theorem destinationAddressForByteChecked_eq (t : DmaTransfer) (k : Nat) :
    t.destinationAddressForByteChecked k =
      if t.destinationStart.toNat + k < 2 ^ 16 then some (t.destinationAddressForByte k)
      else none := by
  unfold destinationAddressForByteChecked checkedAdd destinationAddressForByte
  by_cases hfits : t.destinationStart.toNat + k < 2 ^ 16
  · rw [if_pos hfits, if_pos hfits, Option.map_some, ofNat_toNat_add]
  · rw [if_neg hfits, if_neg hfits, Option.map_none]

end DmaTransfer

namespace VramDmaTransfer

/-- The work that copies byte `k`.  A general-purpose transfer copies all its bytes at once, an
H-blank transfer copies each block from the endpoints that the blocks before it leave. -/
def workOf (t : VramDmaTransfer) (speedMode : CgbSpeedMode) (k : Nat) : DmaTransferWork :=
  match t.mode with
  | .generalPurpose => { transfer := .gdmaForSpeed t speedMode, byteIndex := k }
  | .hBlank =>
      { transfer := .hdmaBlockForSpeed ((advanceCompletedBlocks · 1)^[k / 16] t) speedMode
        byteIndex := k % 16 }

/-- Byte `k` has both addresses.  Its source is `k` bytes above the start, around the top of the
address space; its destination is `k` bytes above the start and stays in VRAM; and both lie
`k % 16` bytes above the endpoints that are published once `k / 16` blocks are done. -/
def AddressedAt (t : VramDmaTransfer) (speedMode : CgbSpeedMode) (k : Nat) : Prop :=
  ∃ source destination,
    (t.workOf speedMode k).transfer.sourceAddressForByteChecked (t.workOf speedMode k).byteIndex =
      some source ∧
    (t.workOf speedMode k).transfer.destinationAddressForByteChecked
      (t.workOf speedMode k).byteIndex = some destination ∧
    source.toNat = (t.sourceStart.toNat + k) % 2 ^ 16 ∧
    destination.toNat = t.destinationStart.toNat + k ∧
    0x8000 ≤ destination.toNat ∧ destination.toNat ≤ 0x9FFF ∧
    source.toNat = (t.registersAfter (k / 16)).sourceStart.toNat + k % 16 ∧
    destination.toNat = (t.registersAfter (k / 16)).destinationStart.toNat + k % 16

end VramDmaTransfer

/-! ## Aligned endpoints -/

theorem U16.toNat_low (w : U16) : w.low.toNat = w.toNat % 2 ^ 8 := BitVec.toNat_setWidth _ _

theorem U16.toNat_high (w : U16) : w.high.toNat = w.toNat / 2 ^ 8 := by
  have hw := w.isLt
  rw [U16.high, BitVec.toNat_setWidth, BitVec.toNat_ushiftRight, Nat.shiftRight_eq_div_pow]
  omega

theorem U16.low_aligned {w : U16} (h : w.toNat % 16 = 0) : w.low &&& 0xF0 = w.low := by
  have hclear : w.low &&& 0x0F = 0 := by
    refine BitVec.eq_of_toNat_eq ?_
    show w.low.toNat &&& (2 ^ 4 - 1) = 0
    rw [Nat.and_two_pow_sub_one_eq_mod, U16.toNat_low]
    omega
  exact U8.and_of_and_eq_zero hclear rfl

namespace VramDmaRegisters

theorem sourceStart_aligned (r : VramDmaRegisters) : r.sourceStart.toNat % 16 = 0 := by
  have hlow : r.sourceLow.toNat &&& (2 ^ 4 - 1) = 0 := congrArg BitVec.toNat r.sourceLow_aligned
  rw [Nat.and_two_pow_sub_one_eq_mod] at hlow
  rw [sourceStart_eq, U16.toNat_ofBytes]
  omega

theorem destinationStart_aligned (r : VramDmaRegisters) :
    r.destinationStart.toNat % 16 = 0 := by
  obtain ⟨-, haligned⟩ := toNat_of_masked _ _ r.destinationHigh_masked r.destinationLow_aligned
  rw [destinationStart_eq, U16.toNat_ofBytes]
  omega

theorem le_destinationStart (r : VramDmaRegisters) : 0x8000 ≤ r.destinationStart.toNat := by
  have hor : 0x80 ≤ (0x80 ||| r.destinationHigh).toNat := by
    rw [BitVec.toNat_or]
    exact Nat.left_le_or
  rw [destinationStart_eq, U16.toNat_ofBytes]
  omega

/-- An aligned source is written back as it is. -/
theorem setEndpoints_sourceStart {source : U16} (destination : U16)
    (haligned : source.toNat % 16 = 0) :
    (setEndpoints source destination).sourceStart = source := by
  rw [sourceStart_eq]
  show U16.ofBytes source.high (source.low &&& 0xF0) = source
  rw [U16.low_aligned haligned, U16.ofBytes_high_low]

/-- So is an aligned destination in VRAM. -/
theorem setEndpoints_destinationStart (source : U16) {destination : U16}
    (haligned : destination.toNat % 16 = 0) (hle : 0x8000 ≤ destination.toNat)
    (hlt : destination.toNat < 0xA000) :
    (setEndpoints source destination).destinationStart = destination := by
  have hhigh : 0x80 ||| (destination.high &&& 0x1F) = destination.high := by
    refine BitVec.eq_of_toNat_eq ?_
    have hmask : (destination.high &&& 0x1F).toNat = destination.high.toNat &&& (2 ^ 5 - 1) :=
      BitVec.toNat_and _ _
    rw [Nat.and_two_pow_sub_one_eq_mod] at hmask
    have hor : (0x80 ||| (destination.high &&& 0x1F)).toNat =
        1 <<< 7 ||| (destination.high &&& 0x1F).toNat := BitVec.toNat_or _ _
    have hsplit := U16.toNat_high destination
    rw [hor, ← Nat.shiftLeft_add_eq_or_of_lt (by omega)]
    omega
  rw [destinationStart_eq]
  show U16.ofBytes (0x80 ||| (destination.high &&& 0x1F)) (destination.low &&& 0xF0) = _
  rw [hhigh, U16.low_aligned haligned, U16.ofBytes_high_low]

end VramDmaRegisters

/-! ## The bytes of a latched transfer -/

namespace VramDmaTransfer

/-- A latched transfer ends in VRAM. -/
theorem new_room (mode : VramDmaMode) (r : VramDmaRegisters) (blocks : Nat) :
    r.destinationStart.toNat + 16 * (new mode r blocks).totalBlocks ≤ 0xA000 := by
  have hend := r.destinationStart_lt
  show _ + 16 * clipVramDmaBlocksForDestination r.destinationStart blocks ≤ _
  unfold clipVramDmaBlocksForDestination vramDmaDestinationEnd vramDmaBlockBytes
  by_cases hclip : (0x9FFF + 1 - r.destinationStart.toNat) / 0x10 < blocks
  · rw [if_pos hclip]
    omega
  · rw [if_neg hclip]
    omega

/-- Publishing one block after the other is publishing them all. -/
theorem iterate_advance {t : VramDmaTransfer} (hfresh : t.remainingBlocks = t.totalBlocks)
    {p : Nat} (hp : p ≤ t.totalBlocks) : (advanceCompletedBlocks · 1)^[p] t = t.after p := by
  induction p with
  | zero => exact (DmaController.after_zero hfresh).symm
  | succ p ih =>
      rw [Function.iterate_succ_apply', ih (by omega)]
      exact t.advance_after hp

section

variable {mode : VramDmaMode} {r : VramDmaRegisters} {blocks p : Nat}

/-- The endpoints after some blocks, as they are published. -/
theorem registersAfter_new (hp : p < (new mode r blocks).totalBlocks) :
    ((new mode r blocks).registersAfter p).sourceStart = ((new mode r blocks).after p).sourceStart ∧
    ((new mode r blocks).registersAfter p).destinationStart =
      ((new mode r blocks).after p).destinationStart ∧
    ((new mode r blocks).after p).sourceStart.toNat =
      (r.sourceStart.toNat + 16 * p) % 2 ^ 16 ∧
    ((new mode r blocks).after p).destinationStart.toNat = r.destinationStart.toNat + 16 * p := by
  have hroom := new_room mode r blocks
  have hsource := r.sourceStart_aligned
  have hdestination := r.destinationStart_aligned
  have hle := r.le_destinationStart
  have hsourceAfter : ((new mode r blocks).after p).sourceStart.toNat =
      (r.sourceStart.toNat + 16 * p) % 2 ^ 16 := by
    show (r.sourceStart + BitVec.ofNat 16 (16 * p)).toNat = _
    rw [← DmaTransfer.ofNat_toNat_add, BitVec.toNat_ofNat]
  have hdestinationAfter : ((new mode r blocks).after p).destinationStart.toNat =
      r.destinationStart.toNat + 16 * p := by
    show (r.destinationStart + BitVec.ofNat 16 (16 * p)).toNat = _
    rw [← DmaTransfer.ofNat_toNat_add, BitVec.toNat_ofNat, Nat.mod_eq_of_lt (by omega)]
  refine ⟨?_, ?_, hsourceAfter, hdestinationAfter⟩
  · exact VramDmaRegisters.setEndpoints_sourceStart _ (by omega)
  · exact VramDmaRegisters.setEndpoints_destinationStart _ (by omega) (by omega) (by omega)

/-- The works are those of the copies that a run makes. -/
theorem workOf_copyAt (speedMode : CgbSpeedMode) {k : Nat}
    (hk : k < 16 * (new mode r blocks).totalBlocks) :
    (((new mode r blocks).workOf speedMode k).sourceAddress,
      ((new mode r blocks).workOf speedMode k).destinationAddress) =
      (new mode r blocks).copyAt k := by
  cases mode with
  | generalPurpose => rfl
  | hBlank =>
      have hsum (start : U16) : start + BitVec.ofNat 16 (16 * (k / 16)) + BitVec.ofNat 16 (k % 16) =
          start + BitVec.ofNat 16 k := by
        rw [BitVec.add_assoc, ← BitVec.ofNat_add, Nat.div_add_mod]
      have hafter := iterate_advance (t := new .hBlank r blocks) rfl
        (show k / 16 ≤ _ by omega)
      show ((((advanceCompletedBlocks · 1)^[k / 16] (new .hBlank r blocks)).sourceStart + _ : U16),
        ((((advanceCompletedBlocks · 1)^[k / 16] (new .hBlank r blocks)).destinationStart + _ :
          U16))) = _
      rw [hafter]
      exact Prod.ext (hsum _) (hsum _)

/-- The destination of a byte never leaves a word, and its source does only in a general-purpose
transfer that runs past the top of the address space. -/
theorem workOf_fits (speedMode : CgbSpeedMode) {k : Nat}
    (hk : k < 16 * (new mode r blocks).totalBlocks) :
    (((new mode r blocks).workOf speedMode k).transfer.sourceStart.toNat +
        ((new mode r blocks).workOf speedMode k).byteIndex < 2 ^ 16 ↔
      mode = .hBlank ∨ r.sourceStart.toNat + k < 2 ^ 16) ∧
    ((new mode r blocks).workOf speedMode k).transfer.destinationStart.toNat +
      ((new mode r blocks).workOf speedMode k).byteIndex < 2 ^ 16 := by
  have hroom := new_room mode r blocks
  have haligned := r.sourceStart_aligned
  cases mode with
  | generalPurpose =>
      refine ⟨⟨.inr, fun h => h.resolve_left nofun⟩, ?_⟩
      show r.destinationStart.toNat + k < 2 ^ 16
      omega
  | hBlank =>
      have hblock : k / 16 < (new .hBlank r blocks).totalBlocks := by omega
      obtain ⟨-, -, hsource, hdestination⟩ := registersAfter_new hblock
      have hafter := iterate_advance (t := new .hBlank r blocks) rfl (Nat.le_of_lt hblock)
      have hwork : (new .hBlank r blocks).workOf speedMode k =
          { transfer := .hdmaBlockForSpeed ((new .hBlank r blocks).after (k / 16)) speedMode
            byteIndex := k % 16 } := by
        rw [← hafter]
        rfl
      rw [hwork]
      refine ⟨⟨fun _ => .inl rfl, fun _ => ?_⟩, ?_⟩
      · show ((new .hBlank r blocks).after (k / 16)).sourceStart.toNat + k % 16 < 2 ^ 16
        omega
      · show ((new .hBlank r blocks).after (k / 16)).destinationStart.toNat + k % 16 < 2 ^ 16
        omega

/-- A byte has its addresses where the sum of its source stays in a word. -/
theorem addressedAt_iff (speedMode : CgbSpeedMode) {k : Nat}
    (hk : k < 16 * (new mode r blocks).totalBlocks) :
    (new mode r blocks).AddressedAt speedMode k ↔
      mode = .hBlank ∨ r.sourceStart.toNat + k < 2 ^ 16 := by
  obtain ⟨hfits, hfitsDestination⟩ := workOf_fits (r := r) speedMode hk
  unfold AddressedAt
  rw [DmaTransfer.sourceAddressForByteChecked_eq, DmaTransfer.destinationAddressForByteChecked_eq,
    if_pos hfitsDestination, ← hfits]
  constructor
  · rintro ⟨source, destination, hsome, -⟩
    by_contra hover
    rw [if_neg hover] at hsome
    cases hsome
  · intro hsum
    have hroom := new_room mode r blocks
    have haligned := r.sourceStart_aligned
    have hle := r.le_destinationStart
    have hblock : k / 16 < (new mode r blocks).totalBlocks := by omega
    obtain ⟨hsource, hdestination, hsourceAfter, hdestinationAfter⟩ := registersAfter_new hblock
    obtain ⟨hsourceWork, hdestinationWork⟩ := Prod.mk.inj (workOf_copyAt (r := r) speedMode hk)
    have hsourceNat : ((new mode r blocks).workOf speedMode k).sourceAddress.toNat =
        (r.sourceStart.toNat + k) % 2 ^ 16 := by
      rw [hsourceWork]
      show (r.sourceStart + BitVec.ofNat 16 k).toNat = _
      rw [← DmaTransfer.ofNat_toNat_add, BitVec.toNat_ofNat]
    have hdestinationNat : ((new mode r blocks).workOf speedMode k).destinationAddress.toNat =
        r.destinationStart.toNat + k := by
      rw [hdestinationWork]
      show (r.destinationStart + BitVec.ofNat 16 k).toNat = _
      rw [← DmaTransfer.ofNat_toNat_add, BitVec.toNat_ofNat, Nat.mod_eq_of_lt (by omega)]
    rw [if_pos hsum, hsource, hdestination, hsourceAfter, hdestinationAfter]
    refine ⟨_, _, rfl, rfl, hsourceNat, hdestinationNat, ?_, ?_, ?_, ?_⟩
    · exact hdestinationNat ▸ (by omega)
    · exact hdestinationNat ▸ (by omega)
    · exact hsourceNat.trans (by omega)
    · exact hdestinationNat.trans (by omega)

end

end VramDmaTransfer

/-- The transfer that `HDMA5` latches has all its addresses unless it is a general-purpose one
whose source runs past the top of the address space. -/
theorem vramDma_addresses (d : DmaController) (value : U8) (speedMode : CgbSpeedMode) :
    (∀ k < 16 * (d.latchedTransfer value).totalBlocks,
      (d.latchedTransfer value).AddressedAt speedMode k) ↔
      value &&& 0x80 ≠ 0 ∨
        d.vramDmaRegisters.sourceStart.toNat +
          16 * clipVramDmaBlocksForDestination d.vramDmaRegisters.destinationStart
            ((value &&& 0x7F).toNat + 1) ≤ 2 ^ 16 := by
  obtain ⟨hpositive, -⟩ := d.latchedTransfer_blocks value
  have hblocks : (d.latchedTransfer value).totalBlocks =
      clipVramDmaBlocksForDestination d.vramDmaRegisters.destinationStart
        ((value &&& 0x7F).toNat + 1) := rfl
  have hmode : (if value &&& 0x80 = 0 then VramDmaMode.generalPurpose else .hBlank) = .hBlank ↔
      value &&& 0x80 ≠ 0 := by
    by_cases hclear : value &&& 0x80 = 0
    · rw [if_pos hclear]
      exact ⟨nofun, fun h => absurd hclear h⟩
    · rw [if_neg hclear]
      exact ⟨fun _ => hclear, fun _ => rfl⟩
  rw [← hblocks, ← hmode]
  constructor
  · intro hall
    have hlt : 16 * (d.latchedTransfer value).totalBlocks - 1 <
        16 * (d.latchedTransfer value).totalBlocks := by omega
    have hlast := (VramDmaTransfer.addressedAt_iff speedMode hlt).mp (hall _ hlt)
    exact hlast.imp_right fun h => by omega
  · intro hcondition k hk
    exact (VramDmaTransfer.addressedAt_iff speedMode hk).mpr
      (hcondition.imp_right fun h => by omega)

/-- The registers hold `FFF0` and `8000`, and a program starts two blocks: the first byte of the
second one has no source address. -/
theorem vramDma_addresses_overflow :
    ¬ ∀ k < 16 * ((((DmaController.new .gameBoyColor).writeHdma3 0).writeHdma4 0).latchedTransfer
        1).totalBlocks,
      ((((DmaController.new .gameBoyColor).writeHdma3 0).writeHdma4 0).latchedTransfer
        1).AddressedAt .normal k := by
  intro hall
  obtain ⟨source, _, hsource, _⟩ := hall 16 (by decide)
  have hnone : (((((DmaController.new .gameBoyColor).writeHdma3 0).writeHdma4 0).latchedTransfer
      1).workOf .normal 16).transfer.sourceAddressForByteChecked 16 = none := by decide
  exact absurd (hnone.symm.trans hsource) nofun

end GbCycle
