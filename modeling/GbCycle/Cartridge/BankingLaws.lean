import GbCycle.Cartridge.RamBanking

/-!
# Banks inside the image

Every mapper reduces the bank number that its registers spell to the banks that the header
declares, and the validators let an image through only if it has those banks.  So whatever has
been written, an address below `0x8000` shows a byte of the image.  Two mappers need the strict
policy for it: without a mapper a short image is only warned about, and MBC5 goes by the size of
the image instead of the header's.  M161 selects among eight banks and is content with five.
With the banks of RAM it follows what the strict policy makes sure of: what is selected is there,
and two places in banks are two bytes.
-/

namespace GbCycle

/-- A window of a bank that an image of some length has. -/
structure CartridgeMappedRomWindow.Within (window : CartridgeMappedRomWindow) (length : Nat) :
    Prop where
  bank : (window.bank + 1) * window.bankSize ≤ length
  offset : window.bankOffset < window.bankSize

theorem CartridgeMappedRomWindow.Within.index_lt {window : CartridgeMappedRomWindow} {length : Nat}
    (h : window.Within length) : window.bank * window.bankSize + window.bankOffset < length := by
  have hbank := h.bank
  have hoffset := h.offset
  rw [Nat.add_mul, Nat.one_mul] at hbank
  omega

theorem CartridgeMappedRomWindow.Within.bank_lt {window : CartridgeMappedRomWindow} {length : Nat}
    (h : window.Within length) : window.bank < length / window.bankSize := by
  have hpos : 0 < window.bankSize := Nat.lt_of_le_of_lt (Nat.zero_le _) h.offset
  exact (Nat.le_div_iff_mul_le hpos).mpr h.bank

/-- A switched window on an image that has the banks it switches between. -/
theorem bankedRomWindow_within {lowBank highBank count length : Nat} {address : U16}
    (hlow : lowBank < count) (hhigh : highBank < count) (hlength : count * 0x4000 ≤ length)
    (haddress : address < 0x8000) :
    ∃ window, bankedRomWindow lowBank highBank address = some window ∧ window.source = .rom ∧
      window.Within length := by
  have hlow' : (lowBank + 1) * 0x4000 ≤ count * 0x4000 := Nat.mul_le_mul_right _ hlow
  have hhigh' : (highBank + 1) * 0x4000 ≤ count * 0x4000 := Nat.mul_le_mul_right _ hhigh
  have hwindow : ¬ 0x8000 ≤ address := by bv_omega
  unfold bankedRomWindow
  rw [if_neg hwindow]
  by_cases hbelow : address < 0x4000
  · rw [if_pos hbelow]
    have hoffset : address.toNat < 0x4000 := by bv_omega
    exact ⟨_, rfl, rfl, Nat.le_trans hlow' hlength, hoffset⟩
  · rw [if_neg hbelow]
    have hoffset : address.toNat - 0x4000 < 0x4000 := by bv_omega
    exact ⟨_, rfl, rfl, Nat.le_trans hhigh' hlength, hoffset⟩

/-- A bank reduced to the banks that there are. -/
theorem reducedBank_lt {count : Nat} (hpos : 0 < count) (bank : Nat) :
    (if count = 0 then 0 else bank % count) < count := by
  split
  · exact hpos
  · exact Nat.mod_lt _ hpos

namespace Mbc6Cartridge

theorem effectiveRomFlashBank_lt (c : Mbc6Cartridge) (window : Mbc6Window) {count : Nat}
    (hpos : 0 < count) : c.effectiveRomFlashBank window count < count := by
  unfold effectiveRomFlashBank
  rw [if_neg (Nat.ne_of_gt hpos)]
  cases window with
  | a => exact Nat.mod_lt _ hpos
  | b => exact Nat.mod_lt _ hpos

end Mbc6Cartridge

namespace CartridgeDevice

/-- An image of at least the banks that a header declares. -/
def HasBanks (header : CartridgeHeader) (length : Nat) : Prop :=
  ∃ count, header.romSize.bankCount = some count ∧ count * 0x4000 ≤ length ∧ 2 ≤ count

/-- The image has the banks that its mapper selects.  M161 makes no such promise. -/
def RomFits : CartridgeDevice → Prop
  | noMbc c => c.rom.length = noMbcSupportedRomBytes
  | m161 _ => False
  | mbc6 c => c.rom.length = mbc6SupportedRomBytes
  | mmm01 c => HasBanks c.header c.rom.length
  | huc1 c => HasBanks c.header c.rom.length
  | huc3 c => HasBanks c.header c.rom.length
  | mbc1 c => HasBanks c.header c.rom.length
  | mbc2 c => HasBanks c.header c.rom.length
  | mbc3 c => HasBanks c.header c.rom.length
  | mbc5 c => HasBanks c.header c.rom.length
  | mbc7 c => HasBanks c.header c.rom.length
  | pocketCamera c => HasBanks c.header c.rom.length

theorem romFits_fresh (device : CartridgeDevice) : device.fresh.RomFits = device.RomFits := by
  cases device <;> rfl

theorem RomFits.of_fresh {device loaded : CartridgeDevice} (hfresh : device.fresh = loaded.fresh)
    (h : loaded.RomFits) : device.RomFits := by
  rw [← romFits_fresh, hfresh, romFits_fresh]
  exact h

/-- The size of what a window shows. -/
def imageLength (device : CartridgeDevice) : CartridgeMappedRomSource → Nat
  | .rom => device.romBytes.length
  | .flash => mbc6FlashBytes

/-- An address shows a byte of a bank of the image. -/
def Inside (device : CartridgeDevice) (address : U16) : Prop :=
  ∃ window, device.mappedRomWindow address = some window ∧
    window.Within (device.imageLength window.source)

theorem inside_of_banked {device : CartridgeDevice} {lowBank highBank count : Nat} {address : U16}
    (hmapped : device.mappedRomWindow address = bankedRomWindow lowBank highBank address)
    (hlow : lowBank < count) (hhigh : highBank < count)
    (hlength : count * 0x4000 ≤ device.romBytes.length) (haddress : address < 0x8000) :
    device.Inside address := by
  obtain ⟨window, hwindow, hsource, hwithin⟩ :=
    bankedRomWindow_within hlow hhigh hlength haddress
  refine ⟨window, hmapped.trans hwindow, ?_⟩
  rw [hsource]
  exact hwithin

/-- The mappers with a fixed low bank reduce the high one to the banks that the header declares. -/
theorem inside_of_switched {device : CartridgeDevice} {header : CartridgeHeader}
    {f : Nat → Nat} {address : U16} (hrom : HasBanks header device.romBytes.length)
    (hmapped : device.mappedRomWindow address =
      bankedRomWindow 0 (f (header.romSize.bankCount.getD 0)) address)
    (hreduced : ∀ count, 0 < count → f count < count) (haddress : address < 0x8000) :
    device.Inside address := by
  obtain ⟨count, hcount, hlength, htwo⟩ := hrom
  have hpos : 0 < count := Nat.lt_of_lt_of_le Nat.zero_lt_two htwo
  rw [hcount, Option.getD_some] at hmapped
  exact inside_of_banked hmapped hpos (hreduced count hpos) hlength haddress

theorem inside_mbc6 {c : Mbc6Cartridge} (hlength : c.rom.length = mbc6SupportedRomBytes)
    {address : U16} (haddress : address < 0x8000) : (mbc6 c).Inside address := by
  have hcount : c.romFlashBankCount = 128 := by
    unfold Mbc6Cartridge.romFlashBankCount
    rw [hlength]
    rfl
  have hhigh (window : Mbc6Window) {offset : Nat} (hoffset : offset < 0x2000) :
      (c.mappedHighWindow window offset).Within
        ((mbc6 c).imageLength (c.mappedHighWindow window offset).source) := by
    have hbank : c.effectiveRomFlashBank window 128 < 128 :=
      c.effectiveRomFlashBank_lt window (by decide)
    unfold Mbc6Cartridge.mappedHighWindow
    cases c.windowSelect window with
    | rom =>
        rw [hcount]
        refine ⟨?_, hoffset⟩
        show (c.effectiveRomFlashBank window 128 + 1) * 0x2000 ≤ c.rom.length
        rw [hlength]
        unfold mbc6SupportedRomBytes
        omega
    | flash =>
        refine ⟨?_, hoffset⟩
        show (c.effectiveRomFlashBank window 128 + 1) * 0x2000 ≤ mbc6FlashBytes
        unfold mbc6FlashBytes
        omega
  show ∃ window, c.mappedRomWindow address = some window ∧ _
  unfold Mbc6Cartridge.mappedRomWindow
  by_cases hlow : address ≤ 0x3FFF
  · rw [if_pos hlow]
    refine ⟨_, rfl, ?_, ?_⟩
    · show (0 + 1) * 0x4000 ≤ c.rom.length
      rw [hlength]
      decide
    · show address.toNat < 0x4000
      bv_omega
  · rw [if_neg hlow]
    by_cases hmid : address ≤ 0x5FFF
    · rw [if_pos hmid]
      exact ⟨_, rfl, hhigh .a (by bv_omega)⟩
    · rw [if_neg hmid, if_pos (show address ≤ 0x7FFF by bv_omega)]
      exact ⟨_, rfl, hhigh .b (by bv_omega)⟩

theorem inside_of_romFits {device : CartridgeDevice} (hrom : device.RomFits) {address : U16}
    (haddress : address < 0x8000) : device.Inside address := by
  have hbelow : ¬ 0x8000 ≤ address := by bv_omega
  cases device with
  | noMbc c =>
      have hlength : c.rom.length = 0x8000 := hrom
      refine ⟨.rom (address.toNat / 0x4000) 0x4000 (address.toNat % 0x4000), if_neg hbelow, ?_,
        Nat.mod_lt _ (by decide)⟩
      show (address.toNat / 0x4000 + 1) * 0x4000 ≤ c.rom.length
      bv_omega
  | m161 c => exact hrom.elim
  | mmm01 c =>
      obtain ⟨count, hcount, hlength, htwo⟩ := hrom
      have hbank := Mmm01Cartridge.romBank_lt hcount htwo address
      have hmapped : (mmm01 c).mappedRomWindow address =
          bankedRomWindow (c.romBank address) (c.romBank address) address := rfl
      exact inside_of_banked hmapped hbank hbank hlength haddress
  | huc1 c =>
      exact inside_of_switched (f := c.effectiveRomBank) hrom rfl
        (fun _ hpos => reducedBank_lt hpos _) haddress
  | huc3 c =>
      exact inside_of_switched (f := c.effectiveRomBank) hrom rfl
        (fun _ hpos => reducedBank_lt hpos _) haddress
  | mbc1 c =>
      obtain ⟨count, hcount, hlength, htwo⟩ := hrom
      have hpos : 0 < count := Nat.lt_of_lt_of_le Nat.zero_lt_two htwo
      have hbanks : c.bankCount = count := by
        rw [Mbc1Cartridge.bankCount, hcount, Option.getD_some]
      refine inside_of_banked rfl ?_ ?_ hlength haddress
      · rw [hbanks]
        exact c.effectiveLowRomBank_lt hpos
      · rw [hbanks]
        exact c.effectiveHighRomBank_lt hpos
  | mbc2 c =>
      exact inside_of_switched (f := c.effectiveHighRomBank) hrom rfl
        (fun _ hpos => reducedBank_lt hpos _) haddress
  | mbc3 c =>
      exact inside_of_switched (f := c.effectiveRomBank) hrom rfl
        (fun _ hpos => c.effectiveRomBank_lt hpos) haddress
  | mbc5 c =>
      exact inside_of_switched (f := c.effectiveRomBank) hrom rfl
        (fun _ hpos => c.effectiveRomBank_lt hpos) haddress
  | mbc6 c => exact inside_mbc6 hrom haddress
  | mbc7 c =>
      refine inside_of_switched (f := fun count => c.effectiveRomBank (max count 1)) hrom rfl
        (fun count hpos => ?_) haddress
      rw [Nat.max_eq_left hpos]
      exact Nat.lt_of_lt_of_eq (c.effectiveRomBank_lt count) (Nat.max_eq_left hpos)
  | pocketCamera c =>
      -- this one falls back to a single bank, not to none
      obtain ⟨count, hcount, hlength, htwo⟩ := hrom
      have hpos : 0 < count := Nat.lt_of_lt_of_le Nat.zero_lt_two htwo
      refine inside_of_banked rfl hpos ?_ hlength haddress
      rw [hcount, Option.getD_some, Nat.max_eq_left hpos]
      show c.romBank.toNat % max count 1 < count
      rw [Nat.max_eq_left hpos]
      exact Nat.mod_lt _ hpos

/-- A read of the image through a window gives the byte that lies there. -/
theorem getElem?_romBytes {device : CartridgeDevice} (hbanks : device.DeclaresBanks)
    (hfits : device.Fits) {address : U16} {window : CartridgeMappedRomWindow}
    (hwindow : device.mappedRomWindow address = some window)
    (hwithin : window.Within (device.imageLength window.source)) (hsource : window.source = .rom) :
    device.romBytes[window.bank * window.bankSize + window.bankOffset]? =
      some (device.readRom address) := by
  have hshows := shows_mappedRomWindow hbanks hfits hwindow
  unfold Shows at hshows
  rw [hsource] at hshows hwithin
  have hin : window.bank * window.bankSize + window.bankOffset < device.romBytes.length :=
    hwithin.index_lt
  have hread : device.readRom address = window.byteOf device.romBytes := hshows
  rw [hread, CartridgeMappedRomWindow.byteOf, readOr, List.getElem?_eq_getElem hin,
    Option.getD_some]

end CartridgeDevice

namespace ValidationContext

variable {ctx : ValidationContext} {header : CartridgeHeader} {romBytes : List U8}
  {family : SupportedCartridgeFamily} {before after : List CartridgeDiagnostic}
  {device loaded : CartridgeDevice}

theorem hasBanks_of_declared {length : Nat} (h : Declared header length) :
    CartridgeDevice.HasBanks header length := by
  obtain ⟨count, hcount, hlength, htwo⟩ := h
  exact ⟨count, hcount, Nat.le_of_eq hlength.symm, htwo⟩

/-- The padding of an MBC5 image brings it to the banks of its layout. -/
theorem hasBanks_mbc5 {layout : CartridgeRomLayout} (hfits : LayoutFits layout romBytes.length)
    (hbanks : layout.effectiveBankCount = header.romSize.bankCount.getD 0) :
    CartridgeDevice.HasBanks header
      (romBytes ++ List.replicate (layout.effectiveBytes - romBytes.length)
        ramAbsentReadValue).length := by
  have htwo := hfits.two
  have hwhole := hfits.wholeBanks
  have hpadded := hfits.fits
  rw [hbanks] at htwo hwhole
  cases hcount : header.romSize.bankCount with
  | none =>
      rw [hcount, Option.getD_none] at htwo
      omega
  | some count =>
      rw [hcount, Option.getD_some] at htwo hwhole
      refine ⟨count, hcount, ?_, htwo⟩
      rw [List.length_append, List.length_replicate]
      omega

theorem loadDevice_romFits (hsizes : header.SizesDecoded) (hfamily : family ≠ .m161)
    (hpolicy : family = .noMbc ∨ family = .mbc5 → ctx.compatibility.validationPolicy = .strict)
    (h : ctx.loadDevice header romBytes family before = .ok (device, after)) :
    device.RomFits := by
  cases family with
  | noMbc =>
      obtain ⟨_, hvalid, rfl⟩ := Validation.bind_pure_ok h
      exact validateNoMbc_strict (hpolicy (.inl rfl)) hvalid
  | mmm01 =>
      obtain ⟨_, hvalid, rfl⟩ := Validation.bind_pure_ok h
      exact hasBanks_of_declared (validateMmm01_ok hsizes hvalid).1
  | m161 => exact absurd rfl hfamily
  | huc1 =>
      obtain ⟨_, hvalid, rfl⟩ := Validation.bind_pure_ok h
      exact hasBanks_of_declared (validateHuc_ok hsizes hvalid).1
  | huc3 =>
      obtain ⟨_, hvalid, rfl⟩ := Validation.bind_pure_ok h
      exact hasBanks_of_declared (validateHuc_ok hsizes hvalid).1
  | mbc1 =>
      obtain ⟨_, hvalid, rfl⟩ := Validation.bind_pure_ok h
      exact hasBanks_of_declared (validateMbc1_ok hsizes hvalid).1
  | mbc2 =>
      obtain ⟨_, hvalid, rfl⟩ := Validation.bind_pure_ok h
      exact hasBanks_of_declared (validateMbc2_ok hsizes hvalid)
  | mbc3 =>
      obtain ⟨_, hvalid, rfl⟩ := Validation.bind_pure_ok h
      exact hasBanks_of_declared (validateMbc3_ok hsizes hvalid)
  | mbc5 =>
      obtain ⟨layout, hvalid, rfl⟩ := Validation.bind_pure_ok h
      obtain ⟨hfits, hbanks, -⟩ := validateMbc5_ok hsizes hvalid
      exact hasBanks_mbc5 hfits (hbanks (hpolicy (.inr rfl)))
  | mbc6 =>
      obtain ⟨_, hvalid, rfl⟩ := Validation.bind_pure_ok h
      exact (validateMbc6_ok hsizes hvalid).2
  | mbc7 =>
      obtain ⟨_, hvalid, rfl⟩ := Validation.bind_pure_ok h
      exact hasBanks_of_declared (validateMbc7_ok hsizes hvalid)
  | pocketCamera =>
      obtain ⟨_, hvalid, rfl⟩ := Validation.bind_pure_ok h
      exact hasBanks_of_declared (validatePocketCamera_ok hsizes hvalid)

theorem loadDevice_declaresBanks_of_policy (hsizes : header.SizesDecoded)
    (hpolicy : family = .noMbc ∨ family = .mbc5 → ctx.compatibility.validationPolicy = .strict)
    (h : ctx.loadDevice header romBytes family before = .ok (device, after)) :
    device.DeclaresBanks := by
  by_cases hfamily : family = .mbc5
  · exact loadDevice_declaresBanks hsizes (hpolicy (.inr hfamily)) h
  · cases family with
    | mbc5 => exact absurd rfl hfamily
    | _ =>
        obtain ⟨_, -, rfl⟩ := Validation.bind_pure_ok h
        trivial

/-- Whatever is done to a loaded cartridge, each address below `0x8000` lies in a window on the
image or on the flash, shows a byte inside of it, and a read of the image gives that byte. -/
theorem shownByte_run (hsizes : header.SizesDecoded) (hfamily : family ≠ .m161)
    (hpolicy : family = .noMbc ∨ family = .mbc5 → ctx.compatibility.validationPolicy = .strict)
    (hvalid : ctx.loadDevice header romBytes family before = .ok (loaded, after))
    (ops : List CartridgeOp) {address : U16} (haddress : address < 0x8000) :
    ∃ window, (loaded.run ops).mappedRomWindow address = some window ∧
      window.bank * window.bankSize + window.bankOffset <
        (loaded.run ops).imageLength window.source ∧
      (window.source = .rom →
        (loaded.run ops).romBytes[window.bank * window.bankSize + window.bankOffset]? =
          some ((loaded.run ops).readRom address)) := by
  have hfresh := loaded.fresh_run ops
  have hrom := CartridgeDevice.RomFits.of_fresh hfresh
    (loadDevice_romFits hsizes hfamily hpolicy hvalid)
  have hfits := CartridgeDevice.Fits.of_fresh hfresh (loadDevice_fits hsizes hvalid)
  have hbanks := CartridgeDevice.DeclaresBanks.of_fresh hfresh
    (loadDevice_declaresBanks_of_policy hsizes hpolicy hvalid)
  obtain ⟨window, hwindow, hwithin⟩ := CartridgeDevice.inside_of_romFits hrom haddress
  exact ⟨window, hwindow, hwithin.index_lt,
    CartridgeDevice.getElem?_romBytes hbanks hfits hwindow hwithin⟩

/-- The header of an MBC2 cartridge with two banks. -/
def twoBankHeader : CartridgeHeader where
  nintendoLogo := []
  titleBytes := []
  title := []
  cgbFlag := .none
  cartridgeType := 0x05
  romSize := .decode 0x00
  ramSize := .decode 0x00
  destinationCode := 0x00

def twoBankContext : ValidationContext where
  compatibility := CartridgeSlot.warning
  classification := .supportedWithReason 0x05 "MBC2" .mbc2 "header type"

theorem loadDevice_twoBanks : ∃ c, twoBankContext.loadDevice twoBankHeader (List.replicate 0x8000 0)
    .mbc2 [] = .ok (.mbc2 c, []) := by
  refine ⟨_, Validation.bind_ok.mpr ⟨(), [], ?_, rfl⟩⟩
  rw [List.length_replicate]
  rfl

theorem shownByte_run_twoBanks :
    ∃ loaded : CartridgeDevice, twoBankContext.loadDevice twoBankHeader (List.replicate 0x8000 0)
        .mbc2 [] = .ok (loaded, []) ∧
      ∃ window, (loaded.run [.writeRom 0x2100 7]).mappedRomWindow 0x5000 = some window ∧
        window.bank * window.bankSize + window.bankOffset <
          (loaded.run [.writeRom 0x2100 7]).imageLength window.source ∧
        (window.source = .rom →
          (loaded.run [.writeRom 0x2100 7]).romBytes[
              window.bank * window.bankSize + window.bankOffset]? =
            some ((loaded.run [.writeRom 0x2100 7]).readRom 0x5000)) := by
  obtain ⟨c, hvalid⟩ := loadDevice_twoBanks
  have hsizes : twoBankHeader.SizesDecoded := ⟨rfl, rfl⟩
  have hpolicy : SupportedCartridgeFamily.mbc2 = .noMbc ∨ SupportedCartridgeFamily.mbc2 = .mbc5 →
      twoBankContext.compatibility.validationPolicy = .strict := by decide
  exact ⟨.mbc2 c, hvalid,
    shownByte_run hsizes (by decide) hpolicy hvalid [.writeRom 0x2100 7] (by decide)⟩

end ValidationContext

namespace CartridgeSlot

variable {romBytes : List U8} {compatibility : CompatibilityPolicy} {report : CartridgeLoadReport}
  {loaded : CartridgeDevice}

/-- What the strict policy lets through selects among banks that are there. -/
theorem romFits_run (hload : load romBytes compatibility = .ok report)
    (hdevice : report.cartridge.device = some loaded)
    (hstrict : compatibility.validationPolicy = .strict) (hm161 : ∀ c, loaded ≠ .m161 c)
    (ops : List CartridgeOp) : (loaded.run ops).RomFits := by
  obtain ⟨header, classification, family, diagnostics, hsizes, hvalid⟩ := load_ok hload hdevice
  have hfamily : family ≠ .m161 := by
    rintro rfl
    obtain ⟨_, -, rfl⟩ := Validation.bind_pure_ok hvalid
    exact hm161 _ rfl
  exact .of_fresh (loaded.fresh_run ops)
    (ValidationContext.loadDevice_romFits hsizes hfamily (fun _ => hstrict) hvalid)

theorem declaresBanks_run (hload : load romBytes compatibility = .ok report)
    (hdevice : report.cartridge.device = some loaded)
    (hstrict : compatibility.validationPolicy = .strict) (ops : List CartridgeOp) :
    (loaded.run ops).DeclaresBanks := by
  obtain ⟨header, classification, family, diagnostics, hsizes, hvalid⟩ := load_ok hload hdevice
  exact .of_fresh (loaded.fresh_run ops)
    (ValidationContext.loadDevice_declaresBanks hsizes hstrict hvalid)

theorem ramWhole_run (hload : load romBytes compatibility = .ok report)
    (hdevice : report.cartridge.device = some loaded) (ops : List CartridgeOp) :
    (loaded.run ops).RamWhole := by
  obtain ⟨header, classification, family, diagnostics, hsizes, hvalid⟩ := load_ok hload hdevice
  exact .of_fresh (loaded.fresh_run ops) (ValidationContext.loadDevice_ramWhole hsizes hvalid)

/-- Whatever is done to a cartridge that the strict policy accepts, an address below `0x8000` shows
a byte of a bank of the image, an address described as RAM reaches a byte of the RAM, and different
places in banks are different bytes.  A RAM of less than a bank repeats in its window. -/
theorem banks_run (hload : load romBytes compatibility = .ok report)
    (hdevice : report.cartridge.device = some loaded)
    (hstrict : compatibility.validationPolicy = .strict) (hm161 : ∀ c, loaded ≠ .m161 c)
    (ops : List CartridgeOp) :
    let device := loaded.run ops
    (∀ address < 0x8000, ∃ window, device.mappedRomWindow address = some window ∧
      window.bank < device.imageLength window.source / window.bankSize ∧
      window.bank * window.bankSize + window.bankOffset < device.imageLength window.source ∧
      (window.source = .rom →
        device.romBytes[window.bank * window.bankSize + window.bankOffset]? =
          some (device.readRom address))) ∧
    (∀ (address : ExternalAddress) bank size, device.MapsToRam address.address bank size →
      ∃ index, device.ramIndex address.address = some index ∧ index < device.ramImage.length ∧
        device.readRam address.address =
          (device.describeExternalAccess address.address).target.shown
            (readOr device.ramImage index)) ∧
    ∀ ops',
      let other := loaded.run ops'
      (∀ address < 0x8000, ∀ address' < 0x8000, ∀ window window',
        device.mappedRomWindow address = some window →
        other.mappedRomWindow address' = some window' →
        window.source = window'.source → window.bankSize = window'.bankSize →
        window.bank * window.bankSize + window.bankOffset =
          window'.bank * window'.bankSize + window'.bankOffset → window = window') ∧
      ∀ (address address' : ExternalAddress) bank bank' size index,
        device.MapsToRam address.address bank size → other.MapsToRam address'.address bank' size →
        BankThere bank size device.ramImage.length → BankThere bank' size other.ramImage.length →
        device.ramIndex address.address = some index →
        other.ramIndex address'.address = some index →
        bank = bank' ∧ ramWindowOffset address.address % size % device.ramImage.length =
          ramWindowOffset address'.address % size % device.ramImage.length := by
  intro device
  have hfits (ops : List CartridgeOp) := fits_run hload hdevice ops
  have hwhole (ops : List CartridgeOp) := ramWhole_run hload hdevice ops
  have hrom (ops : List CartridgeOp) := romFits_run hload hdevice hstrict hm161 ops
  have hinside (ops : List CartridgeOp) {address : U16} (haddress : address < 0x8000) :=
    CartridgeDevice.inside_of_romFits (hrom ops) haddress
  refine ⟨fun address haddress => ?_, fun address bank size hmaps => ?_, fun ops' => ⟨?_, ?_⟩⟩
  · obtain ⟨window, hwindow, hwithin⟩ := hinside ops haddress
    exact ⟨window, hwindow, hwithin.bank_lt, hwithin.index_lt, CartridgeDevice.getElem?_romBytes
      (declaresBanks_run hload hdevice hstrict ops) (hfits ops) hwindow hwithin⟩
  · have hreaches := CartridgeDevice.reachesRam (hfits ops) (hwhole ops) hmaps
    exact ⟨_, hreaches.index, Nat.mod_lt _ hreaches.nonempty, hreaches.read⟩
  · intro address haddress address' haddress' window window' hwindow hwindow' hsource hsize hindex
    obtain ⟨seen, hseen, hwithin⟩ := hinside ops haddress
    obtain ⟨seen', hseen', hwithin'⟩ := hinside ops' haddress'
    obtain rfl := Option.some.inj (hwindow.symm.trans hseen)
    obtain rfl := Option.some.inj (hwindow'.symm.trans hseen')
    rw [← hsize] at hindex
    obtain ⟨hbank, hoffset⟩ :=
      bankedIndex_inj hwithin.offset (Nat.lt_of_lt_of_eq hwithin'.offset hsize.symm) hindex
    cases window
    cases window'
    cases hsource
    cases hsize
    cases hbank
    cases hoffset
    rfl
  · intro address address' bank bank' size index hmaps hmaps' hbank hbank' hindex hindex'
    have hlength : (loaded.run ops').ramImage.length = device.ramImage.length :=
      CartridgeDevice.length_ramImage_of_fresh
        ((loaded.fresh_run ops').trans (loaded.fresh_run ops).symm)
    have hreaches := CartridgeDevice.reachesRam (hfits ops) (hwhole ops) hmaps
    have hreaches' := CartridgeDevice.reachesRam (hfits ops') (hwhole ops') hmaps'
    have hsame := Option.some.inj
      ((hreaches.index.symm.trans hindex).trans (hindex'.symm.trans hreaches'.index))
    rw [hlength] at hbank' hsame
    have hpos := hmaps.size_pos
    exact repeatedIndex_inj hbank hbank' (Nat.mod_lt _ hpos) (Nat.mod_lt _ hpos) hsame

def strict : CompatibilityPolicy := { warning with validationPolicy := .strict }

/-- One address in bank 2 and in bank 1 of the RAM is two bytes. -/
theorem banks_run_banked :
    let device := bankedDevice.run bankedSelects
    let other := bankedDevice.run [.writeRom 0x0000 0x0A, .writeRom 0x6000 1, .writeRom 0x4000 1]
    (∃ window, device.mappedRomWindow 0x4567 = some window ∧
      window.bank < device.imageLength window.source / window.bankSize) ∧
    (∃ index, device.ramIndex 0xA123 = some index ∧ index < device.ramImage.length) ∧
    device.ramIndex 0xA123 ≠ other.ramIndex 0xA123 := by
  intro device other
  have hm161 : ∀ c, bankedDevice ≠ .m161 c := by
    intro c h
    cases h
  obtain ⟨hrom, hram, hother⟩ := banks_run (load_bankedRom strict rfl) rfl rfl hm161 bankedSelects
  obtain ⟨window, hwindow, hbank, -⟩ := hrom 0x4567 (by decide)
  have hmaps : device.MapsToRam 0xA123 2 0x2000 := ⟨rfl, rfl⟩
  have hmaps' : other.MapsToRam 0xA123 1 0x2000 := ⟨rfl, rfl⟩
  obtain ⟨index, hindex, hin, -⟩ := hram ⟨0xA123, by decide⟩ 2 0x2000 hmaps
  have hlength : device.ramImage.length = 0x8000 := List.length_replicate
  have hlength' : other.ramImage.length = 0x8000 := List.length_replicate
  refine ⟨⟨window, hwindow, hbank⟩, ⟨index, hindex, hin⟩, fun hsame => ?_⟩
  have hbanks := (hother _).2 ⟨0xA123, by decide⟩ ⟨0xA123, by decide⟩ 2 1 0x2000 index hmaps hmaps'
    (by rw [hlength]; decide) (by rw [hlength']; decide) hindex (hsame.symm.trans hindex)
  cases hbanks.1

/-- An MBC2 image of 32 KiB. -/
def nibbleRom : List U8 := plainHeader 0x05 0x00 0x00 ++ List.replicate 0x7EB0 0

theorem length_nibbleRom : nibbleRom.length = 0x8000 := by
  rw [nibbleRom, List.length_append, List.length_replicate, length_plainHeader]
  rfl

def nibbleDevice : CartridgeDevice :=
  .mbc2 (.powerOn nibbleRom (plainCartridge 0x05 0x00 0x00) (.classify 0x05))

theorem load_nibbleRom : load nibbleRom strict =
    .ok { cartridge := { device := some nibbleDevice }, diagnostics := [] } := by
  have hmenu : CartridgeHeader.isStandardMmm01Type
      (byteAt nibbleRom (nibbleRom.length - mmm01MenuBytes + cartridgeTypeAddress)) = false := by
    rw [length_nibbleRom, nibbleRom,
      CartridgeHeader.byteAt_append (by rw [length_plainHeader]; decide)]
    rfl
  have hdevice : ValidationContext.loadDevice ⟨strict, .classify 0x05⟩
      (plainCartridge 0x05 0x00 0x00) nibbleRom .mbc2 [] = .ok (nibbleDevice, []) := by
    unfold ValidationContext.loadDevice
    rw [length_nibbleRom]
    rfl
  have himage : nibbleRom = plainHeader 0x05 0x00 0x00 ++ List.replicate 0x7EB0 0 := rfl
  exact load_plain himage ⟨hmenu, .inl rfl, .inl rfl, by decide⟩ rfl rfl hdevice

/-- The cells of MBC2 are found again after every 512 addresses. -/
theorem nibbles_repeat :
    ¬ ∀ (romBytes : List U8) (compatibility : CompatibilityPolicy) (report : CartridgeLoadReport)
        (loaded : CartridgeDevice) (ops ops' : List CartridgeOp)
        (address address' : ExternalAddress) (bank bank' size index : Nat),
      load romBytes compatibility = .ok report → report.cartridge.device = some loaded →
      compatibility.validationPolicy = .strict → (∀ c, loaded ≠ .m161 c) →
      let device := loaded.run ops
      let other := loaded.run ops'
      device.MapsToRam address.address bank size → other.MapsToRam address'.address bank' size →
      BankThere bank size device.ramImage.length → BankThere bank' size other.ramImage.length →
      device.ramIndex address.address = some index →
      other.ramIndex address'.address = some index →
      bank = bank' ∧ ramWindowOffset address.address % size =
        ramWindowOffset address'.address % size := by
  intro h
  have hm161 : ∀ c, nibbleDevice ≠ .m161 c := by
    intro c hsame
    cases hsame
  have hmaps (address : U16) :
      (nibbleDevice.run [.writeRom 0x0000 0x0A]).MapsToRam address 0 0x2000 := ⟨rfl, rfl⟩
  have hthere : BankThere 0 0x2000 (nibbleDevice.run [.writeRom 0x0000 0x0A]).ramImage.length :=
    Nat.lt_of_lt_of_le Nat.zero_lt_one (Nat.le_max_right _ _)
  have hsame := h nibbleRom strict _ nibbleDevice [.writeRom 0x0000 0x0A] [.writeRom 0x0000 0x0A]
    ⟨0xA000, by decide⟩ ⟨0xA200, by decide⟩ 0 0 0x2000 0 load_nibbleRom rfl rfl hm161
    (hmaps 0xA000) (hmaps 0xA200) hthere hthere rfl rfl
  exact absurd hsame.2 (by decide)

end CartridgeSlot

end GbCycle
