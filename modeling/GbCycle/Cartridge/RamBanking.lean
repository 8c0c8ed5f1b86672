import GbCycle.Cartridge.DeviceLaws

/-!
# Banks of RAM

The description of an access to the RAM says which bank the address belongs to, and each mapper
computes in its own way where the byte lies in the RAM image.  It always lies where an image of
bank after bank has it that begins anew where it ends.  So two places in banks that are there are
two bytes.
-/

namespace GbCycle

/-! ## Images that repeat -/

/-- Where an offset in a bank lies in an image that repeats. -/
def repeatedIndex (bank size offset length : Nat) : Nat := (bank * size + offset) % length

/-- A bank is there if the image has it as a whole; an image has a bank 0 in any case. -/
def BankThere (bank size length : Nat) : Prop := bank < max (length / size) 1

instance (bank size length : Nat) : Decidable (BankThere bank size length) :=
  inferInstanceAs (Decidable (bank < max (length / size) 1))

theorem repeatedIndex_of_lt {bank size offset length : Nat} (h : bank * size + offset < length) :
    repeatedIndex bank size offset length = bank * size + offset := Nat.mod_eq_of_lt h

/-- A bank number reduced to the banks of an image lies where the number itself does. -/
theorem reduced_eq_repeatedIndex {bank count size offset : Nat} (hoffset : offset < size) :
    bank % count * size + offset = repeatedIndex bank size offset (count * size) := by
  have hpos : 0 < size := Nat.lt_of_le_of_lt (Nat.zero_le _) hoffset
  unfold repeatedIndex
  rw [Nat.mul_comm count, Nat.mod_mul, Nat.add_comm (bank * size), Nat.add_mul_mod_self_right,
    Nat.mod_eq_of_lt hoffset, Nat.add_mul_div_right _ _ hpos, Nat.div_eq_of_lt hoffset,
    Nat.zero_add, Nat.add_comm, Nat.mul_comm size]

/-- So does one reduced to banks that the image divides. -/
theorem repeatedIndex_mod {bank count size offset length : Nat} (h : length ∣ count * size) :
    repeatedIndex (bank % count) size offset length = repeatedIndex bank size offset length := by
  obtain ⟨k, hk⟩ := h
  have hbank : bank * size = bank % count * size + length * (k * (bank / count)) := by
    rw [← Nat.mul_assoc, ← hk, Nat.mul_right_comm, ← Nat.add_mul, Nat.mod_add_div]
  unfold repeatedIndex
  rw [hbank, Nat.add_right_comm, Nat.add_mul_mod_self_left]

/-- Two places in banks of a size lie apart. -/
theorem bankedIndex_inj {bank bank' size offset offset' : Nat} (hoffset : offset < size)
    (hoffset' : offset' < size) (h : bank * size + offset = bank' * size + offset') :
    bank = bank' ∧ offset = offset' := by
  have hpos : 0 < size := Nat.lt_of_le_of_lt (Nat.zero_le _) hoffset
  have hdiv := congrArg (· / size) h
  have hmod := congrArg (· % size) h
  simp only [Nat.mul_comm _ size, Nat.mul_add_div hpos, Nat.mul_add_mod, Nat.div_eq_of_lt hoffset,
    Nat.div_eq_of_lt hoffset', Nat.mod_eq_of_lt hoffset, Nat.mod_eq_of_lt hoffset',
    Nat.add_zero] at hdiv hmod
  exact ⟨hdiv, hmod⟩

/-- Places in banks that are there lie apart, but for an image of less than a bank, where an
offset counts as far as the image goes. -/
theorem repeatedIndex_inj {bank bank' size offset offset' length : Nat}
    (hbank : BankThere bank size length) (hbank' : BankThere bank' size length)
    (hoffset : offset < size) (hoffset' : offset' < size)
    (h : repeatedIndex bank size offset length = repeatedIndex bank' size offset' length) :
    bank = bank' ∧ offset % length = offset' % length := by
  have hpos : 0 < size := Nat.lt_of_le_of_lt (Nat.zero_le _) hoffset
  unfold BankThere at hbank hbank'
  by_cases hwhole : length < size
  · have hnone : length / size = 0 := Nat.div_eq_of_lt hwhole
    obtain rfl : bank = 0 := by omega
    obtain rfl : bank' = 0 := by omega
    unfold repeatedIndex at h
    rw [Nat.zero_mul, Nat.zero_add, Nat.zero_add] at h
    exact ⟨rfl, h⟩
  · have hone : 1 ≤ length / size := (Nat.one_le_div_iff hpos).mpr (Nat.le_of_not_lt hwhole)
    rw [Nat.max_eq_left hone] at hbank hbank'
    have hin {b o : Nat} (hb : b < length / size) (ho : o < size) : b * size + o < length := by
      have hnext : (b + 1) * size ≤ length := (Nat.le_div_iff_mul_le hpos).mp hb
      rw [Nat.add_mul, Nat.one_mul] at hnext
      omega
    rw [repeatedIndex_of_lt (hin hbank hoffset), repeatedIndex_of_lt (hin hbank' hoffset')] at h
    exact (bankedIndex_inj hoffset hoffset' h).imp_right (congrArg (· % length))

/-! ## The RAM of the devices -/

/-- The bank of RAM that a target names, and the size of such banks. -/
def CartridgeExternalTarget.ramBank : CartridgeExternalTarget → Option (Nat × Nat)
  | .linearRam => some (0, 0x2000)
  | .mbc2InternalRam => some (0, 0x2000)
  | .bankedRam bank => some (bank.toNat, 0x2000)
  | .mbc6Ram _ bank => some (bank.toNat, mbc6RamBankBytes)
  | _ => none

/-- What is read of a byte of the image: the cells of MBC2 are nibbles. -/
def CartridgeExternalTarget.shown : CartridgeExternalTarget → U8 → U8
  | .mbc2InternalRam, cell => mbc2RamReadHighNibble ||| cell
  | _, cell => cell

namespace CartridgeDevice

/-- The bytes of the RAM, with the cells of MBC2 as nibbles. -/
def ramImage : CartridgeDevice → List U8
  | noMbc c => c.ram.getD []
  | mmm01 c => c.ram.getD []
  | m161 _ => []
  | huc1 c => c.ram.getD []
  | huc3 c => c.ram
  | mbc1 c => c.ram.getD []
  | mbc2 c => c.ramNibbles.toList
  | mbc3 c => c.ram.getD []
  | mbc5 c => c.ram.getD []
  | mbc6 c => c.ram.toList
  | mbc7 _ => []
  | pocketCamera c => c.ram

/-- The index that the mapper computes for an address of the RAM. -/
def ramIndex : CartridgeDevice → U16 → Option Nat
  | noMbc _, address => some (ramWindowOffset address)
  | mmm01 c, address => some (c.effectiveRamOffset address)
  | m161 _, _ => none
  | huc1 c, address => some (c.effectiveRamOffset address)
  | huc3 c, address => some (c.effectiveRamOffset address)
  | mbc1 c, address => some (c.effectiveRamOffset address)
  | mbc2 _, address => some (Mbc2Cartridge.ramIndex address)
  | mbc3 c, address =>
      match c.ramOrRtcSelect with
      | .ramBank rawBank => some (c.effectiveRamOffset address rawBank)
      | _ => none
  | mbc5 c, address => some (c.effectiveRamOffset address)
  | mbc6 c, address => some (c.effectiveRamOffset address)
  | mbc7 _, _ => none
  | pocketCamera c, address => some (c.effectiveRamOffset address)

/-- A read of the address is described as one of RAM, in a bank of a size. -/
structure MapsToRam (device : CartridgeDevice) (address : U16) (bank size : Nat) : Prop where
  target : (device.describeExternalAccess address).target.ramBank = some (bank, size)
  storage : (device.describeExternalAccess address).readBehavior = .storage

theorem MapsToRam.size_pos {device : CartridgeDevice} {address : U16} {bank size : Nat}
    (h : device.MapsToRam address bank size) : 0 < size := by
  have htarget := h.target
  unfold CartridgeExternalTarget.ramBank at htarget
  split at htarget
  all_goals cases htarget
  all_goals decide

/-- The mapper finds the byte where the bank has it, and reads it. -/
structure ReachesRam (device : CartridgeDevice) (address : U16) (bank size : Nat) : Prop where
  nonempty : 0 < device.ramImage.length
  index : device.ramIndex address =
    some (repeatedIndex bank size (ramWindowOffset address % size) device.ramImage.length)
  read : device.readRam address = (device.describeExternalAccess address).target.shown
    (readOr device.ramImage
      (repeatedIndex bank size (ramWindowOffset address % size) device.ramImage.length))

end CartridgeDevice

/-! ## What the mappers compute -/

theorem ExternalAddress.offset_mod (address : ExternalAddress) :
    ramWindowOffset address.address % 0x2000 = ramWindowOffset address.address :=
  Nat.mod_eq_of_lt address.offset_lt

/-- A RAM of the banks that it is counted to have. -/
theorem length_eq_ramBankCount {ram : List U8} (hpos : 0 < ram.length)
    (hwhole : ram.length % 0x2000 = 0) : ram.length = ramBankCount (some ram) * 0x2000 := by
  show ram.length = max (ram.length / 0x2000) 1 * 0x2000
  omega

theorem Mbc1Cartridge.effectiveRamOffset_eq {c : Mbc1Cartridge} (hfits : c.RamFits)
    (address : ExternalAddress) {ram : List U8} (hram : c.ram = some ram) :
    c.effectiveRamOffset address.address =
      repeatedIndex c.effectiveRamBank.toNat 0x2000 (ramWindowOffset address.address)
        ram.length := by
  obtain ⟨hpos, hwhole⟩ := hfits ram hram
  have hlength := length_eq_ramBankCount hpos hwhole
  have hzero : ramWindowOffset address.address =
      repeatedIndex 0 0x2000 (ramWindowOffset address.address) ram.length := by
    have hlt := address.offset_lt
    rw [repeatedIndex_of_lt (by omega), Nat.zero_mul, Nat.zero_add]
  unfold effectiveRamOffset effectiveRamBank
  split
  · exact hzero
  · split
    · rw [reduced_eq_repeatedIndex address.offset_lt, hram, ← hlength]
    · exact hzero

theorem Mmm01Cartridge.effectiveRamOffset_eq {c : Mmm01Cartridge} (hfits : c.Fits)
    (address : ExternalAddress) {ram : List U8} (hram : c.ram = some ram) :
    c.effectiveRamOffset address.address =
      repeatedIndex c.effectiveRamBank.toNat 0x2000 (ramWindowOffset address.address)
        ram.length := by
  obtain ⟨hpos, hwhole⟩ := hfits.ram ram hram
  have hlength := length_eq_ramBankCount hpos hwhole
  rw [effectiveRamOffset, reduced_eq_repeatedIndex address.offset_lt, hram, ← hlength]

theorem Huc1Cartridge.effectiveRamOffset_eq {c : Huc1Cartridge} (hfits : c.RamFits)
    (address : U16) {ram : List U8} (hram : c.ram = some ram) :
    c.effectiveRamOffset address =
      repeatedIndex c.effectiveRamBank.toNat 0x2000 (ramWindowOffset address) ram.length := by
  simp only [effectiveRamOffset, hram, if_neg (Nat.ne_of_gt (hfits ram hram))]
  rfl

theorem Huc3Cartridge.effectiveRamOffset_eq {c : Huc3Cartridge} (hfits : c.RamFits)
    (address : U16) :
    c.effectiveRamOffset address =
      repeatedIndex c.effectiveRamBank.toNat 0x2000 (ramWindowOffset address) c.ram.length := by
  have hmax : max c.ram.length 1 = c.ram.length := Nat.max_eq_left hfits
  rw [effectiveRamOffset, hmax, Nat.add_comm]
  rfl

/-- The banks that the header declares are as many as the RAM divides, be it one of 2 KiB. -/
def Mbc3Cartridge.RamWhole (c : Mbc3Cartridge) : Prop :=
  ∀ ram, c.ram = some ram → ram.length ∣ max (c.header.ramSize.bankCount.getD 0) 1 * 0x2000

theorem Mbc3Cartridge.RamWhole.of_fresh {c loaded : Mbc3Cartridge} (hfresh : c.fresh = loaded.fresh)
    (h : loaded.RamWhole) : c.RamWhole := by
  simp only [fresh, mk.injEq] at hfresh
  obtain ⟨-, hram, -, -, hheader, -⟩ := hfresh
  unfold RamWhole
  rw [hheader]
  exact ramLength_of_clearedRam
    (P := (· ∣ max (loaded.header.ramSize.bankCount.getD 0) 1 * 0x2000)) hram h

theorem Mbc3Cartridge.effectiveRamOffset_eq {c : Mbc3Cartridge} (hfits : c.RamFits)
    (hwhole : c.RamWhole) (address : U16) (rawBank : U8) {ram : List U8} (hram : c.ram = some ram) :
    c.effectiveRamOffset address rawBank =
      repeatedIndex (c.effectiveRamBank rawBank).toNat 0x2000 (ramWindowOffset address)
        ram.length := by
  have hbank : (c.effectiveRamBank rawBank).toNat =
      rawBank.toNat % max (c.header.ramSize.bankCount.getD 0) 1 := by
    unfold effectiveRamBank
    rw [BitVec.toNat_ofNat]
    exact Nat.mod_eq_of_lt (Nat.lt_of_le_of_lt (Nat.mod_le _ _) rawBank.isLt)
  rw [hbank, repeatedIndex_mod (hwhole ram hram), repeatedIndex, Nat.add_comm]
  simp only [effectiveRamOffset, hram, if_neg (Nat.ne_of_gt (hfits ram hram))]

theorem Mbc2Cartridge.ramIndex_eq (address : ExternalAddress) :
    ramIndex address.address =
      repeatedIndex 0 0x2000 (ramWindowOffset address.address) mbc2RamCellCount := by
  unfold repeatedIndex
  rw [Nat.zero_mul, Nat.zero_add]
  exact Nat.and_two_pow_sub_one_eq_mod (ramWindowOffset address.address) 9

theorem Mbc6Cartridge.effectiveRamOffset_eq (c : Mbc6Cartridge) (address : ExternalAddress) :
    c.effectiveRamOffset address.address =
      repeatedIndex (c.effectiveRamBank (if address.address < 0xB000 then .a else .b)).toNat
        mbc6RamBankBytes (ramWindowOffset address.address % mbc6RamBankBytes)
        mbc6SupportedRamBytes := by
  obtain ⟨hfrom, hto⟩ := address.inWindow
  have hlt := c.effectiveRamOffset_lt address
  have hsame : c.effectiveRamOffset address.address =
      (c.effectiveRamBank (if address.address < 0xB000 then .a else .b)).toNat * mbc6RamBankBytes +
        ramWindowOffset address.address % mbc6RamBankBytes := by
    unfold effectiveRamOffset ramWindowOffset mbc6RamBankBytes
    by_cases hwindow : address.address < 0xB000
    · rw [if_pos hwindow, if_pos hwindow, Nat.mod_eq_of_lt (by bv_omega)]
    · rw [if_neg hwindow, if_neg hwindow]
      have hoffset : address.address.toNat - 0xA000 =
          (address.address.toNat - 0xB000) + 0x1000 := by bv_omega
      rw [hoffset, Nat.add_mod_right, Nat.mod_eq_of_lt (by bv_omega)]
  rw [hsame] at hlt ⊢
  exact (repeatedIndex_of_lt hlt).symm

theorem Mbc7Cartridge.ramBank_describeExternalAccess (c : Mbc7Cartridge) (address : U16) :
    (c.describeExternalAccess address).target.ramBank = none := by
  have hregister (selector : U8) : (describeRegister selector).1.ramBank = none := by
    unfold describeRegister
    repeat' split
    all_goals rfl
  unfold describeExternalAccess
  split
  · rfl
  · split
    · rfl
    · dsimp only
      split
      · exact hregister _
      · exact hregister _

namespace CartridgeDevice

/-- A RAM that may be absent, behind an enable bit, is there when reads are described as storage. -/
theorem reachesRam_ramAccess {device : CartridgeDevice} {address : U16}
    {target : CartridgeExternalTarget} {enabled : Bool} {ram : Option (List U8)} {bank size : Nat}
    (hmaps : device.MapsToRam address bank size)
    (hdescribe : device.describeExternalAccess address =
      .ramAccess address target enabled ram.isSome)
    (hshown : ∀ cell, target.shown cell = cell)
    (himage : device.ramImage = ram.getD [])
    (hindex : ∀ bytes, ram = some bytes → 0 < bytes.length ∧ device.ramIndex address =
      some (repeatedIndex bank size (ramWindowOffset address % size) bytes.length))
    (hread : ∀ index, device.ramIndex address = some index →
      device.readRam address = readEnabledRam enabled ram index) :
    device.ReachesRam address bank size := by
  have hstorage := hmaps.storage
  rw [hdescribe] at hstorage
  cases hpresent : enabled && ram.isSome with
  | false =>
      unfold CartridgeExternalAccessInfo.ramAccess at hstorage
      rw [hpresent] at hstorage
      cases hstorage
  | true =>
      obtain ⟨rfl, hsome⟩ : enabled = true ∧ ram.isSome = true := by simpa using hpresent
      obtain ⟨bytes, rfl⟩ := Option.isSome_iff_exists.mp hsome
      obtain ⟨hpos, hindex⟩ := hindex bytes rfl
      have himage : device.ramImage = bytes := himage
      have htarget : (device.describeExternalAccess address).target = target := by
        rw [hdescribe]
        rfl
      constructor
      · rw [himage]
        exact hpos
      · rw [himage]
        exact hindex
      · rw [himage, htarget, hshown]
        exact hread _ hindex

/-- A RAM that is always there. -/
theorem reachesRam_present {device : CartridgeDevice} {address : U16} {ram : List U8}
    {bank size : Nat} (himage : device.ramImage = ram) (hpos : 0 < ram.length)
    (hshown : ∀ cell, (device.describeExternalAccess address).target.shown cell = cell)
    (hindex : device.ramIndex address =
      some (repeatedIndex bank size (ramWindowOffset address % size) ram.length))
    (hread : ∀ index, device.ramIndex address = some index →
      device.readRam address = readOr ram index) : device.ReachesRam address bank size := by
  subst himage
  refine ⟨hpos, hindex, ?_⟩
  rw [hshown]
  exact hread _ hindex

/-- MBC3's RAM is divided into the banks that its header declares. -/
def RamWhole : CartridgeDevice → Prop
  | mbc3 c => c.RamWhole
  | _ => True

theorem RamWhole.of_fresh {device loaded : CartridgeDevice} (hfresh : device.fresh = loaded.fresh)
    (h : loaded.RamWhole) : device.RamWhole := by
  cases device <;> cases loaded <;> try cases hfresh
  case mbc3.mbc3 => exact Mbc3Cartridge.RamWhole.of_fresh (mbc3.inj hfresh) h
  all_goals trivial

theorem reachesRam_mbc3 {c : Mbc3Cartridge} (hfits : c.RamFits) (hwhole : c.RamWhole)
    {address : ExternalAddress} {bank size : Nat}
    (hmaps : (mbc3 c).MapsToRam address.address bank size) :
    (mbc3 c).ReachesRam address.address bank size := by
  have htarget := hmaps.target
  cases hselect : c.ramOrRtcSelect with
  | ramBank rawBank =>
      have hdescribe : (mbc3 c).describeExternalAccess address.address =
          .ramAccess address.address (.bankedRam (c.effectiveRamBank rawBank)) c.ramRtcEnabled
            c.ram.isSome := by
        show c.describeExternalAccess address.address = _
        rw [Mbc3Cartridge.describeExternalAccess, hselect]
      rw [hdescribe] at htarget
      obtain ⟨rfl, rfl⟩ := Prod.mk.inj (Option.some.inj htarget)
      have hcomputed : (mbc3 c).ramIndex address.address =
          some (c.effectiveRamOffset address.address rawBank) := by
        simp only [ramIndex, hselect]
      refine reachesRam_ramAccess hmaps hdescribe (fun _ => rfl) rfl ?_ ?_
      · intro bytes hram
        refine ⟨hfits bytes hram, ?_⟩
        rw [hcomputed, address.offset_mod,
          Mbc3Cartridge.effectiveRamOffset_eq hfits hwhole address.address rawBank hram]
      · intro index hindex
        obtain rfl := Option.some.inj (hcomputed.symm.trans hindex)
        show c.readRam address.address = _
        unfold Mbc3Cartridge.readRam
        rw [hselect]
        cases c.ramRtcEnabled <;> rfl
  | reservedSelector rawSelector =>
      have hdescribe : ((mbc3 c).describeExternalAccess address.address).target =
          .reservedSelector rawSelector := by
        show (c.describeExternalAccess address.address).target = _
        rw [Mbc3Cartridge.describeExternalAccess, hselect]
      rw [hdescribe] at htarget
      cases htarget
  | rtcRegister register =>
      have hdescribe : ((mbc3 c).describeExternalAccess address.address).target =
          .rtcRegister register.publicId := by
        show (c.describeExternalAccess address.address).target = _
        rw [Mbc3Cartridge.describeExternalAccess, hselect]
      rw [hdescribe] at htarget
      cases htarget

/-- The mappers that always have their RAM, if they have one, in one of its banks. -/
theorem reachesRam_banked {device : CartridgeDevice} {address : ExternalAddress} {selected : U8}
    {enabled : Bool} {ram : Option (List U8)} {offset bank size : Nat}
    (hdescribe : device.describeExternalAccess address.address =
      .ramAccess address.address (.bankedRam selected) enabled ram.isSome)
    (himage : device.ramImage = ram.getD [])
    (hindex : device.ramIndex address.address = some offset)
    (hread : device.readRam address.address = readEnabledRam enabled ram offset)
    (hoffset : ∀ bytes, ram = some bytes → 0 < bytes.length ∧
      offset = repeatedIndex selected.toNat 0x2000 (ramWindowOffset address.address) bytes.length)
    (hmaps : device.MapsToRam address.address bank size) :
    device.ReachesRam address.address bank size := by
  have htarget := hmaps.target
  rw [hdescribe] at htarget
  obtain ⟨rfl, rfl⟩ := Prod.mk.inj (Option.some.inj htarget)
  refine reachesRam_ramAccess hmaps hdescribe (fun _ => rfl) himage ?_ ?_
  · intro bytes hram
    obtain ⟨hpos, hlies⟩ := hoffset bytes hram
    rw [hindex, address.offset_mod, ← hlies]
    exact ⟨hpos, rfl⟩
  · intro index hsame
    obtain rfl := Option.some.inj (hindex.symm.trans hsame)
    exact hread

theorem reachesRam_noMbc {c : NoMbcCartridge} (hfits : c.RamFits) {address : ExternalAddress}
    {bank size : Nat} (hmaps : (noMbc c).MapsToRam address.address bank size) :
    (noMbc c).ReachesRam address.address bank size := by
  obtain ⟨rfl, rfl⟩ := Prod.mk.inj (Option.some.inj hmaps.target)
  have hdescribe : (noMbc c).describeExternalAccess address.address =
      .ramAccess address.address .linearRam true c.ram.isSome := rfl
  refine reachesRam_ramAccess hmaps hdescribe (fun _ => rfl) rfl ?_ ?_
  · intro bytes hram
    have hlength := hfits bytes hram
    have hlt := address.offset_lt
    rw [address.offset_mod, hlength, repeatedIndex_of_lt (by omega), Nat.zero_mul, Nat.zero_add]
    exact ⟨by decide, rfl⟩
  · intro index hindex
    obtain rfl := Option.some.inj hindex
    rfl

theorem reachesRam_huc1 {c : Huc1Cartridge} (hfits : c.RamFits) {address : ExternalAddress}
    {bank size : Nat} (hmaps : (huc1 c).MapsToRam address.address bank size) :
    (huc1 c).ReachesRam address.address bank size := by
  cases hmode : c.ioMode with
  | ram =>
      have hdescribe : (huc1 c).describeExternalAccess address.address =
          .ramAccess address.address (.bankedRam c.effectiveRamBank) true c.ram.isSome := by
        show c.describeExternalAccess address.address = _
        rw [Huc1Cartridge.describeExternalAccess, hmode]
      have hread : c.readRam address.address =
          readEnabledRam true c.ram (c.effectiveRamOffset address.address) := by
        rw [Huc1Cartridge.readRam, hmode]
      exact reachesRam_banked hdescribe rfl rfl hread
        (fun bytes hram => ⟨hfits bytes hram,
          Huc1Cartridge.effectiveRamOffset_eq hfits address.address hram⟩) hmaps
  | ir =>
      have htarget := hmaps.target
      have hdescribe : ((huc1 c).describeExternalAccess address.address).target =
          .irRegister := by
        show (c.describeExternalAccess address.address).target = _
        rw [Huc1Cartridge.describeExternalAccess, hmode]
      rw [hdescribe] at htarget
      cases htarget

theorem reachesRam_huc3 {c : Huc3Cartridge} (hfits : c.RamFits) {address : ExternalAddress}
    {bank size : Nat} (hmaps : (huc3 c).MapsToRam address.address bank size) :
    (huc3 c).ReachesRam address.address bank size := by
  have hselected : c.selectMode = .ramReadOnly ∨ c.selectMode = .ramReadWrite := by
    have hstorage : (c.describeExternalAccess address.address).readBehavior = .storage :=
      hmaps.storage
    cases hmode : c.selectMode with
    | ramReadOnly => exact .inl rfl
    | ramReadWrite => exact .inr rfl
    | _ => simp [Huc3Cartridge.describeExternalAccess, hmode] at hstorage
  have hdescribe : (c.describeExternalAccess address.address).target =
      .bankedRam c.effectiveRamBank := by
    rcases hselected with hmode | hmode
    · rw [Huc3Cartridge.describeExternalAccess, hmode]
    · rw [Huc3Cartridge.describeExternalAccess, hmode]
  have hread : c.readRam address.address =
      readOr c.ram (c.effectiveRamOffset address.address) := by
    rcases hselected with hmode | hmode
    · rw [Huc3Cartridge.readRam, hmode]
    · rw [Huc3Cartridge.readRam, hmode]
  have htarget : (c.describeExternalAccess address.address).target.ramBank = some (bank, size) :=
    hmaps.target
  rw [hdescribe] at htarget
  obtain ⟨rfl, rfl⟩ := Prod.mk.inj (Option.some.inj htarget)
  have himage : (huc3 c).ramImage = c.ram := rfl
  refine reachesRam_present himage hfits ?_ ?_ ?_
  · intro cell
    show (c.describeExternalAccess address.address).target.shown cell = cell
    rw [hdescribe]
    rfl
  · rw [address.offset_mod, ← Huc3Cartridge.effectiveRamOffset_eq hfits address.address]
    rfl
  · intro index hindex
    obtain rfl := Option.some.inj hindex
    exact hread

theorem reachesRam_mbc2 {c : Mbc2Cartridge} {address : ExternalAddress} {bank size : Nat}
    (hmaps : (mbc2 c).MapsToRam address.address bank size) :
    (mbc2 c).ReachesRam address.address bank size := by
  obtain ⟨rfl, rfl⟩ := Prod.mk.inj (Option.some.inj hmaps.target)
  have hlength : (mbc2 c).ramImage.length = mbc2RamCellCount := c.ramNibbles.length_toList
  have hindex : (mbc2 c).ramIndex address.address = some (repeatedIndex 0 0x2000
      (ramWindowOffset address.address % 0x2000) (mbc2 c).ramImage.length) := by
    rw [address.offset_mod, hlength, ← Mbc2Cartridge.ramIndex_eq address]
    rfl
  have henabled : c.ramEnabled = true := by
    have hstorage := hmaps.storage
    cases hram : c.ramEnabled with
    | true => rfl
    | false =>
        simp [describeExternalAccess, Mbc2Cartridge.describeExternalAccess,
          CartridgeExternalAccessInfo.ramAccess, hram] at hstorage
  refine ⟨?_, hindex, ?_⟩
  · rw [hlength]
    decide
  · rw [← Option.some.inj hindex]
    have hin := Mbc2Cartridge.ramIndex_lt address.address
    have hcell : (mbc2 c).ramImage[Mbc2Cartridge.ramIndex address.address]? =
        c.ramNibbles[Mbc2Cartridge.ramIndex address.address]? := Vector.getElem?_toList
    show c.readRam address.address = mbc2RamReadHighNibble ||| readOr (mbc2 c).ramImage _
    rw [readOr, hcell, Mbc2Cartridge.readRam, henabled, Vector.getElem?_eq_getElem hin]
    rfl

theorem reachesRam_mbc6 {c : Mbc6Cartridge} {address : ExternalAddress} {bank size : Nat}
    (hmaps : (mbc6 c).MapsToRam address.address bank size) :
    (mbc6 c).ReachesRam address.address bank size := by
  obtain ⟨rfl, rfl⟩ := Prod.mk.inj (Option.some.inj hmaps.target)
  have hlength : (mbc6 c).ramImage.length = mbc6SupportedRamBytes := c.ram.length_toList
  have henabled : c.ramEnabled = true := by
    have hstorage := hmaps.storage
    cases hram : c.ramEnabled with
    | true => rfl
    | false =>
        simp [describeExternalAccess, Mbc6Cartridge.describeExternalAccess, hram] at hstorage
  have himage : (mbc6 c).ramImage = c.ram.toList := rfl
  refine reachesRam_present himage ?_ (fun _ => rfl) ?_ ?_
  · rw [c.ram.length_toList]
    decide
  · rw [c.ram.length_toList, ← c.effectiveRamOffset_eq address]
    rfl
  · intro index hindex
    obtain rfl := Option.some.inj hindex
    show c.readRam address.address = _
    rw [Mbc6Cartridge.readRam, henabled, readOr, Vector.getElem?_toList]
    rfl

theorem reachesRam_pocketCamera {c : PocketCameraCartridge}
    (hfits : c.ram.length = pocketCameraSupportedRamBytes) {address : ExternalAddress}
    {bank size : Nat} (hmaps : (pocketCamera c).MapsToRam address.address bank size) :
    (pocketCamera c).ReachesRam address.address bank size := by
  have htarget : (c.describeExternalAccess address.address).target.ramBank = some (bank, size) :=
    hmaps.target
  have hstorage : (c.describeExternalAccess address.address).readBehavior = .storage :=
    hmaps.storage
  cases hselected : c.registersSelected with
  | true =>
      rw [PocketCameraCartridge.describeExternalAccess, if_pos hselected] at htarget
      cases htarget
  | false =>
      have hram : ¬ c.registersSelected = true := by
        rw [hselected]
        exact Bool.false_ne_true
      rw [PocketCameraCartridge.describeExternalAccess, if_neg hram] at htarget hstorage
      obtain ⟨rfl, rfl⟩ := Prod.mk.inj (Option.some.inj htarget)
      have hidle : ¬ c.captureIsWorking = true := by
        intro hworking
        dsimp only at hstorage
        rw [if_pos hworking] at hstorage
        cases hstorage
      have hin := PocketCameraCartridge.effectiveRamOffset_lt hfits address
      have himage : (pocketCamera c).ramImage = c.ram := rfl
      refine reachesRam_present himage (by omega) ?_ ?_ ?_
      · intro cell
        show (c.describeExternalAccess address.address).target.shown cell = cell
        rw [PocketCameraCartridge.describeExternalAccess, if_neg hram]
        rfl
      · rw [address.offset_mod]
        exact congrArg some (repeatedIndex_of_lt hin).symm
      · intro index hindex
        obtain rfl := Option.some.inj hindex
        show c.readRamAfterReadyResolution address.address = _
        rw [PocketCameraCartridge.readRamAfterReadyResolution, if_neg hram, if_neg hidle]

/-- Every mapper finds the byte where an image of bank after bank has it. -/
theorem reachesRam {device : CartridgeDevice} (hfits : device.Fits) (hwhole : device.RamWhole)
    {address : ExternalAddress} {bank size : Nat}
    (hmaps : device.MapsToRam address.address bank size) :
    device.ReachesRam address.address bank size := by
  cases device with
  | noMbc c => exact reachesRam_noMbc hfits hmaps
  | mmm01 c =>
      refine reachesRam_banked rfl rfl rfl rfl (fun bytes hram => ?_) hmaps
      exact ⟨(hfits.ram bytes hram).1, Mmm01Cartridge.effectiveRamOffset_eq hfits address hram⟩
  | m161 c => cases hmaps.storage
  | huc1 c => exact reachesRam_huc1 hfits hmaps
  | huc3 c => exact reachesRam_huc3 hfits.1 hmaps
  | mbc1 c =>
      refine reachesRam_banked rfl rfl rfl rfl (fun bytes hram => ?_) hmaps
      exact ⟨(hfits bytes hram).1, Mbc1Cartridge.effectiveRamOffset_eq hfits address hram⟩
  | mbc2 c => exact reachesRam_mbc2 hmaps
  | mbc3 c => exact reachesRam_mbc3 hfits hwhole hmaps
  | mbc5 c =>
      refine reachesRam_banked rfl rfl rfl rfl (fun bytes hram => ?_) hmaps
      have hin := Mbc5Cartridge.effectiveRamOffset_lt hfits address hram
      exact ⟨by omega, (repeatedIndex_of_lt hin).symm⟩
  | mbc6 c => exact reachesRam_mbc6 hmaps
  | mbc7 c => cases (c.ramBank_describeExternalAccess address.address).symm.trans hmaps.target
  | pocketCamera c => exact reachesRam_pocketCamera hfits hmaps

/-- No operation changes the size of the RAM. -/
theorem length_ramImage_fresh (device : CartridgeDevice) :
    device.fresh.ramImage.length = device.ramImage.length := by
  have hcleared (ram : Option (List U8)) :
      ((clearedRam ram).getD []).length = (ram.getD []).length := by
    cases ram with
    | none => rfl
    | some bytes => exact List.length_replicate
  cases device with
  | noMbc c => exact hcleared c.ram
  | mmm01 c => exact hcleared c.ram
  | m161 c => rfl
  | huc1 c => exact hcleared c.ram
  | huc3 c => exact List.length_replicate
  | mbc1 c => exact hcleared c.ram
  | mbc2 c => exact Vector.length_toList.trans Vector.length_toList.symm
  | mbc3 c => exact hcleared c.ram
  | mbc5 c => exact hcleared c.ram
  | mbc6 c => exact Vector.length_toList.trans Vector.length_toList.symm
  | mbc7 c => rfl
  | pocketCamera c => exact List.length_replicate

theorem length_ramImage_of_fresh {device other : CartridgeDevice}
    (h : device.fresh = other.fresh) : device.ramImage.length = other.ramImage.length := by
  rw [← length_ramImage_fresh, h, length_ramImage_fresh]

end CartridgeDevice

/-- The sizes that a header can declare, 2 KiB among them, divide the banks declared with them. -/
theorem RamSizeInfo.decodedBytes_dvd {rawCode : U8}
    (h : (decode rawCode).decodedBytes.getD 0 ≠ 0) :
    (decode rawCode).decodedBytes.getD 0 ∣ max ((decode rawCode).bankCount.getD 0) 1 * 0x2000 := by
  unfold decode at h ⊢
  repeat' split at h
  all_goals simp_all

theorem ValidationContext.loadDevice_ramWhole {ctx : ValidationContext} {header : CartridgeHeader}
    {romBytes : List U8} {family : SupportedCartridgeFamily}
    {before after : List CartridgeDiagnostic} {device : CartridgeDevice}
    (hsizes : header.SizesDecoded)
    (h : ctx.loadDevice header romBytes family before = .ok (device, after)) :
    device.RamWhole := by
  cases family with
  | mbc3 =>
      obtain ⟨layout, -, rfl⟩ := Validation.bind_pure_ok h
      intro ram hram
      obtain ⟨ramLen, hlen, rfl⟩ := Option.map_eq_some_iff.mp hram
      rw [List.length_replicate]
      unfold mbc3RamLen at hlen
      split at hlen
      · rename_i hpresent
        cases hlen
        have hbytes := hpresent.2
        show _ ∣ max (header.ramSize.bankCount.getD 0) 1 * 0x2000
        rw [hsizes.ramSize] at hbytes ⊢
        exact RamSizeInfo.decodedBytes_dvd hbytes
      · cases hlen
  | _ =>
      obtain ⟨_, -, rfl⟩ := Validation.bind_pure_ok h
      trivial

end GbCycle
