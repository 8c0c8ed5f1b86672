import GbCycle.Cartridge.DeviceLaws

/-!
# Laws of the reached devices

The exceptions that the laws of the devices make, stated out.  The register that starts the
camera's capture is described as storage and keeps three bits of a byte.  The windows of an MBC5
are reported by the banks of its header and read by those of its image.  And a HuC-3 that a state
is restored into writes the nibbles of its clock anew.
-/

namespace GbCycle

/-! ## Described accesses -/

/-- What is read back of a byte from a target described as storage: MBC2's cells have four bits,
and the camera's register that starts a capture has three. -/
def CartridgeExternalTarget.kept : CartridgeExternalTarget → U8 → U8
  | .mbc2InternalRam, value => 0xF0 ||| (value &&& 0x0F)
  | .pocketCameraRegister 0, value => value &&& 0x07
  | _, value => value

theorem CartridgeExternalTarget.kept_of_ne {target : CartridgeExternalTarget}
    (h : target ≠ .pocketCameraRegister 0) (value : U8) :
    target.kept value = CartridgeExternalAccessInfo.stored target value := by
  unfold kept CartridgeExternalAccessInfo.stored
  split
  · rfl
  · exact absurd rfl h
  · rename_i hcells _
    split
    · exact absurd rfl hcells
    · rfl

namespace CartridgeDevice

/-- Only the camera has the register. -/
theorem target_pocketCameraRegister {device : CartridgeDevice} {address : U16}
    (h : (device.describeExternalAccess address).target = .pocketCameraRegister 0) :
    ∃ c, device = pocketCamera c := by
  cases device with
  | pocketCamera c => exact ⟨c, rfl⟩
  | huc1 c =>
      unfold describeExternalAccess Huc1Cartridge.describeExternalAccess at h
      dsimp only at h
      split at h <;> cases h
  | huc3 c =>
      unfold describeExternalAccess Huc3Cartridge.describeExternalAccess at h
      dsimp only at h
      split at h <;> cases h
  | mbc3 c =>
      unfold describeExternalAccess Mbc3Cartridge.describeExternalAccess at h
      dsimp only at h
      split at h <;> cases h
  | mbc7 c =>
      have hregister (selector : U8) :
          (Mbc7Cartridge.describeRegister selector).1 ≠ .pocketCameraRegister 0 := by
        unfold Mbc7Cartridge.describeRegister
        intro hselector
        repeat' split at hselector
        all_goals cases hselector
      unfold describeExternalAccess Mbc7Cartridge.describeExternalAccess at h
      dsimp only at h
      simp only [apply_ite CartridgeExternalAccessInfo.target] at h
      repeat' split at h
      · cases h
      · cases h
      · exact absurd h (hregister _)
      · exact absurd h (hregister _)
  | _ => cases h

/-- A description agrees with the accesses that have no time, the capture register included. -/
theorem describeExternalAccess_kept {device : CartridgeDevice} (hfits : device.Fits)
    (address : ExternalAddress) :
    (∀ value, (device.describeExternalAccess address.address).readBehavior =
        .fallbackValue value → device.readRam address.address = value) ∧
      ((device.describeExternalAccess address.address).writeBehavior = .ignored →
        ∀ value, device.writeRam address.address value = device) ∧
      ((device.describeExternalAccess address.address).readBehavior = .storage →
        (device.describeExternalAccess address.address).writeBehavior = .storage →
        ∀ value, (device.writeRam address.address value).readRam address.address =
          (device.describeExternalAccess address.address).target.kept value) := by
  by_cases hcapture :
      (device.describeExternalAccess address.address).target = .pocketCameraRegister 0
  · obtain ⟨c, rfl⟩ := target_pocketCameraRegister hcapture
    have hinfo : ((pocketCamera c).describeExternalAccess address.address).readBehavior =
          .storage ∧
        ((pocketCamera c).describeExternalAccess address.address).writeBehavior = .storage :=
      PocketCameraCartridge.describeExternalAccess_captureRegister hcapture
    refine ⟨fun value hvalue => ?_, fun hignored => ?_, fun _ _ value => ?_⟩
    · cases hinfo.1.symm.trans hvalue
    · cases hinfo.2.symm.trans hignored
    · rw [hcapture]
      exact PocketCameraCartridge.readRam_writeRam_captureRegister hcapture value
  · have hkeeps := describeExternalAccess_keeps hfits address hcapture
    refine ⟨hkeeps.fallback, hkeeps.ignored, fun hread hwrite value => ?_⟩
    rw [CartridgeExternalTarget.kept_of_ne hcapture]
    exact hkeeps.storage hread hwrite value

end CartridgeDevice

namespace CartridgeSlot

variable {romBytes : List U8} {compatibility : CompatibilityPolicy} {report : CartridgeLoadReport}
  {loaded : CartridgeDevice}

/-- After any run of a loaded cartridge a described fallback value is what is read, a write
described as ignored does nothing, and storage gives back what it keeps of a byte. -/
theorem externalAccess_run (hload : load romBytes compatibility = .ok report)
    (hdevice : report.cartridge.device = some loaded) (ops : List CartridgeOp)
    (address : ExternalAddress) :
    let device := loaded.run ops
    let info := device.describeExternalAccess address.address
    (∀ value, info.readBehavior = .fallbackValue value →
      device.readRam address.address = value) ∧
    (info.writeBehavior = .ignored →
      ∀ value, device.writeRam address.address value = device) ∧
    (info.readBehavior = .storage → info.writeBehavior = .storage →
      ∀ value, (device.writeRam address.address value).readRam address.address =
        info.target.kept value) :=
  CartridgeDevice.describeExternalAccess_kept (fits_run hload hdevice ops) address

/-- A camera image of 1 MiB. -/
def cameraRom : List U8 := plainHeader 0xFC 0x05 0x04 ++ List.replicate 0xFFEB0 0

theorem length_cameraRom : cameraRom.length = 0x100000 := by
  rw [cameraRom, List.length_append, List.length_replicate, length_plainHeader]
  rfl

def cameraDevice : CartridgeDevice :=
  .pocketCamera (.powerOn cameraRom (plainCartridge 0xFC 0x05 0x04) (.classify 0xFC))

theorem load_cameraRom : load cameraRom warning =
    .ok { cartridge := { device := some cameraDevice }, diagnostics := [] } := by
  have hmenu : CartridgeHeader.isStandardMmm01Type
      (byteAt cameraRom (cameraRom.length - mmm01MenuBytes + cartridgeTypeAddress)) = false := by
    rw [length_cameraRom, cameraRom, byteAt_plain (by decide), byteAt_replicate]
    rfl
  have hdevice : ValidationContext.loadDevice ⟨warning, .classify 0xFC⟩
      (plainCartridge 0xFC 0x05 0x04) cameraRom .pocketCamera [] = .ok (cameraDevice, []) := by
    unfold ValidationContext.loadDevice
    rw [length_cameraRom]
    rfl
  have himage : cameraRom = plainHeader 0xFC 0x05 0x04 ++ List.replicate 0xFFEB0 0 := rfl
  exact load_plain himage ⟨hmenu, .inl rfl, .inl rfl, by decide⟩ rfl rfl hdevice

/-- The registers of the camera are selected in the place of its RAM. -/
def cameraSelects : List CartridgeOp := [.writeRom 0x4000 0x10]

theorem externalAccess_run_camera :
    let info := (cameraDevice.run cameraSelects).describeExternalAccess 0xA000
    info.readBehavior = .storage ∧ info.writeBehavior = .storage ∧
      ((cameraDevice.run cameraSelects).writeRam 0xA000 0xFF).readRam 0xA000 = 0x07 := by
  obtain ⟨-, -, hstorage⟩ :=
    externalAccess_run load_cameraRom rfl cameraSelects ⟨0xA000, by decide⟩
  have htarget : ((cameraDevice.run cameraSelects).describeExternalAccess 0xA000).target =
      .pocketCameraRegister 0 := rfl
  refine ⟨rfl, rfl, (hstorage rfl rfl 0xFF).trans ?_⟩
  rw [htarget]
  rfl

/-- Storage that gives back every byte is not what the description promises. -/
theorem storage_not_whole :
    ¬ ∀ (romBytes : List U8) (compatibility : CompatibilityPolicy) (report : CartridgeLoadReport)
        (loaded : CartridgeDevice) (ops : List CartridgeOp) (address : ExternalAddress),
      load romBytes compatibility = .ok report → report.cartridge.device = some loaded →
      let info := (loaded.run ops).describeExternalAccess address.address
      info.readBehavior = .storage → info.writeBehavior = .storage →
      ∀ value, ((loaded.run ops).writeRam address.address value).readRam address.address =
        CartridgeExternalAccessInfo.stored info.target value := by
  intro h
  have hwhole := h cameraRom warning _ cameraDevice cameraSelects ⟨0xA000, by decide⟩
    load_cameraRom rfl rfl rfl 0xFF
  have hcapture : ((cameraDevice.run cameraSelects).describeExternalAccess 0xA000).target =
      .pocketCameraRegister 0 := rfl
  have hkept : ((cameraDevice.run cameraSelects).writeRam 0xA000 0xFF).readRam 0xA000 =
      0xFF &&& 0x07 :=
    PocketCameraCartridge.readRam_writeRam_captureRegister hcapture 0xFF
  cases hkept.symm.trans hwhole

end CartridgeSlot

/-! ## Reported windows -/

namespace CartridgeDevice

/-- Every number in the bank register of an MBC5 selects the same bytes for reads and for the
report of windows, which count different banks. -/
def CountsAlike : CartridgeDevice → Prop
  | mbc5 c => c.CountsAlike
  | _ => True

/-- At an address, with the bank selected at the moment, both select the same. -/
def SelectsAlike (address : U16) : CartridgeDevice → Prop
  | mbc5 c =>
      address < 0x4000 ∨ c.effectiveRomBank c.romLayout.effectiveBankCount =
        c.effectiveRomBank (c.header.romSize.bankCount.getD 0)
  | _ => True

/-- The bank register of an MBC5 has nine bits. -/
def HighBit : CartridgeDevice → Prop
  | mbc5 c => c.romBankHigh1 ≤ 1
  | _ => True

theorem HighBit.step {device : CartridgeDevice} (h : device.HighBit) (op : CartridgeOp) :
    (device.step op).HighBit := by
  cases device with
  | mbc5 c =>
      cases op with
      | writeRom address value => exact Mbc5Cartridge.romBankHigh1_writeRom h address value
      | _ => exact h
  | _ => cases op <;> trivial

theorem HighBit.run {device : CartridgeDevice} (h : device.HighBit) (ops : List CartridgeOp) :
    (device.run ops).HighBit := by
  induction ops generalizing device with
  | nil => exact h
  | cons op ops ih => exact ih (h.step op)

theorem countsAlike_fresh (device : CartridgeDevice) :
    device.fresh.CountsAlike = device.CountsAlike := by
  cases device <;> rfl

theorem CountsAlike.of_fresh {device loaded : CartridgeDevice}
    (hfresh : device.fresh = loaded.fresh) (h : loaded.CountsAlike) : device.CountsAlike := by
  rw [← countsAlike_fresh, hfresh, countsAlike_fresh]
  exact h

theorem countsAlike_of_declaresBanks {device : CartridgeDevice} (h : device.DeclaresBanks) :
    device.CountsAlike := by
  cases device with
  | mbc5 c =>
      have hbanks : c.romLayout.effectiveBankCount = c.header.romSize.bankCount.getD 0 := h
      intro low8 high1 _ offset _
      rw [hbanks]
  | _ => trivial

theorem shows_of_countsAlike {device : CartridgeDevice} (hcounts : device.CountsAlike)
    (hhigh : device.HighBit) (hfits : device.Fits) {address : U16}
    {window : CartridgeMappedRomWindow} (h : device.mappedRomWindow address = some window) :
    device.Shows address window := by
  cases device with
  | mbc5 c => exact shows_of_rom (Mbc5Cartridge.readRom_eq_byteOf_of_countsAlike hcounts hhigh h)
  | _ => exact shows_mappedRomWindow (by trivial) hfits h

theorem shows_of_selectsAlike {device : CartridgeDevice} {address : U16}
    (hselect : device.SelectsAlike address) (hfits : device.Fits)
    {window : CartridgeMappedRomWindow} (h : device.mappedRomWindow address = some window) :
    device.Shows address window := by
  cases device with
  | mbc5 c => exact shows_of_rom (Mbc5Cartridge.readRom_eq_byteOf_of_select hselect h)
  | _ => exact shows_mappedRomWindow (by trivial) hfits h

/-- Where every window shows what is read, whatever the bank register holds, the counts are
alike. -/
theorem countsAlike_of_shows {device : CartridgeDevice}
    (h : ∀ ops address window, (device.run ops).mappedRomWindow address = some window →
      (device.run ops).Shows address window) : device.CountsAlike := by
  cases device with
  | mbc5 c =>
      refine Mbc5Cartridge.countsAlike_of_readRom fun low8 high1 address window hhigh hwindow => ?_
      have hrun : (mbc5 c).run [.writeRom 0x2000 low8, .writeRom 0x3000 high1] =
          mbc5 (c.selectRomBank low8 high1) :=
        congrArg mbc5 (c.writeRom_bankRegister low8 hhigh)
      have hshows := h [.writeRom 0x2000 low8, .writeRom 0x3000 high1] address window
        (by rw [hrun]; exact hwindow)
      rw [hrun] at hshows
      unfold Shows at hshows
      rw [(byteOf_bankedRomWindow hwindow c.rom).1] at hshows
      exact hshows
  | _ => trivial

end CartridgeDevice

namespace CartridgeSlot

variable {romBytes : List U8} {compatibility : CompatibilityPolicy} {report : CartridgeLoadReport}
  {loaded : CartridgeDevice}

theorem highBit_run (hload : load romBytes compatibility = .ok report)
    (hdevice : report.cartridge.device = some loaded) (ops : List CartridgeOp) :
    (loaded.run ops).HighBit := by
  obtain ⟨header, classification, family, diagnostics, -, hvalid⟩ := load_ok hload hdevice
  refine CartridgeDevice.HighBit.run ?_ ops
  cases family with
  | mbc5 =>
      obtain ⟨_, -, rfl⟩ := Validation.bind_pure_ok hvalid
      exact (by decide : (0 : U8) ≤ 1)
  | _ =>
      obtain ⟨_, -, rfl⟩ := Validation.bind_pure_ok hvalid
      trivial

/-- Every reported window of a loaded cartridge shows what is read through it, whatever is done to
the cartridge, exactly when its counts of banks are alike, as they are under the strict policy.
Where they are not, it does while both counts select the same. -/
theorem reportedWindow_iff (hload : load romBytes compatibility = .ok report)
    (hdevice : report.cartridge.device = some loaded) :
    ((∀ ops address window, (loaded.run ops).mappedRomWindow address = some window →
        (loaded.run ops).Shows address window) ↔ loaded.CountsAlike) ∧
      (compatibility.validationPolicy = .strict → loaded.CountsAlike) ∧
      ∀ ops address window, (loaded.run ops).SelectsAlike address →
        (loaded.run ops).mappedRomWindow address = some window →
        (loaded.run ops).Shows address window := by
  have hfits (ops : List CartridgeOp) := fits_run hload hdevice ops
  refine ⟨⟨CartridgeDevice.countsAlike_of_shows, fun hcounts ops address window => ?_⟩, ?_, ?_⟩
  · exact CartridgeDevice.shows_of_countsAlike (.of_fresh (loaded.fresh_run ops) hcounts)
      (highBit_run hload hdevice ops) (hfits ops)
  · intro hstrict
    obtain ⟨header, classification, family, diagnostics, hsizes, hvalid⟩ := load_ok hload hdevice
    exact CartridgeDevice.countsAlike_of_declaresBanks
      (ValidationContext.loadDevice_declaresBanks hsizes hstrict hvalid)
  · intro ops address window hselect
    exact CartridgeDevice.shows_of_selectsAlike hselect (hfits ops)

/-- An MBC5 image of four banks whose header declares two.  Its bank 2 begins with another byte
than its bank 0. -/
def longRom : List U8 :=
  plainHeader 0x19 0x00 0x00 ++
    (List.replicate 0x7EB0 0 ++ (0x42 :: List.replicate 0x7FFF 0))

theorem length_longRom : longRom.length = 0x10000 := by
  rw [longRom, List.length_append, List.length_append, List.length_cons, List.length_replicate,
    List.length_replicate, length_plainHeader]
  rfl

theorem byteAt_longRom {index : Nat} (h : 0x8000 < index) : byteAt longRom index = 0 := by
  obtain ⟨k, rfl⟩ : ∃ k, index = 0x8000 + (k + 1) := ⟨index - 0x8001, by omega⟩
  have hoffset : 0x8000 + (k + 1) - headerMinimumRomLen = 0x7EB0 + (k + 1) := by
    unfold headerMinimumRomLen
    omega
  rw [longRom, byteAt_plain (by unfold headerMinimumRomLen; omega), hoffset, byteAt,
    List.getD_eq_getElem?_getD, List.getElem?_append_right (by rw [List.length_replicate]; omega),
    List.length_replicate, Nat.add_sub_cancel_left, List.getElem?_cons_succ,
    List.getElem?_replicate]
  split <;> rfl

def longDevice : CartridgeDevice :=
  .mbc5 (.powerOn longRom (plainCartridge 0x19 0x00 0x00) (.classify 0x19) .noRam
    (ValidationContext.permissiveRounded (some 0x8000) 0x10000) 0)

theorem load_longRom : ∃ diagnostics, load longRom warning =
    .ok { cartridge := { device := some longDevice }, diagnostics } := by
  have hmenu : CartridgeHeader.isStandardMmm01Type
      (byteAt longRom (longRom.length - mmm01MenuBytes + cartridgeTypeAddress)) = false := by
    rw [length_longRom, byteAt_longRom (by decide)]
    rfl
  have hdevice : ∃ diagnostics, ValidationContext.loadDevice ⟨warning, .classify 0x19⟩
      (plainCartridge 0x19 0x00 0x00) longRom .mbc5 [] = .ok (longDevice, diagnostics) := by
    unfold ValidationContext.loadDevice
    rw [length_longRom]
    exact ⟨_, rfl⟩
  obtain ⟨diagnostics, hdevice⟩ := hdevice
  have himage : longRom = plainHeader 0x19 0x00 0x00 ++
    (List.replicate 0x7EB0 0 ++ (0x42 :: List.replicate 0x7FFF 0)) := rfl
  exact ⟨diagnostics, load_plain himage ⟨hmenu, .inl rfl, .inl rfl, by decide⟩ rfl rfl hdevice⟩

theorem roundedMbc5ActualRomCapacity_longRom : roundedMbc5ActualRomCapacity 0x10000 = 0x10000 := by
  have hbanks : CartridgeRomLayout.wholeBanks 0x10000 * romBankBytes = 2 ^ 16 := rfl
  rw [roundedMbc5ActualRomCapacity, hbanks, Nat.clog_pow 2 16 (by decide)]
  rfl

theorem readOr_longRom (padding : List U8) :
    readOr (longRom ++ padding) 0x8000 = 0x42 ∧ readOr (longRom ++ padding) 0 = 0 := by
  have hfirst : longRom[0]? = some 0 := rfl
  have hthird : longRom[0x8000]? = some 0x42 := by
    rw [longRom, List.getElem?_append_right (by rw [length_plainHeader]; decide),
      length_plainHeader, List.getElem?_append_right (by rw [List.length_replicate]; decide),
      List.length_replicate]
    rfl
  constructor
  · rw [readOr, List.getElem?_append_left (by rw [length_longRom]; decide), hthird]
    rfl
  · rw [readOr, List.getElem?_append_left (by rw [length_longRom]; decide), hfirst]
    rfl

theorem effectiveBankCount_longRom :
    (ValidationContext.permissiveRounded (some 0x8000) 0x10000).effectiveBankCount = 4 := by
  show roundedMbc5ActualRomCapacity 0x10000 / romBankBytes = 4
  rw [roundedMbc5ActualRomCapacity_longRom]
  rfl

theorem not_countsAlike_longDevice : ¬ longDevice.CountsAlike := by
  intro h
  have hbytes := h 2 0 (by decide) 0 (by decide)
  obtain ⟨hthird, hfirst⟩ := readOr_longRom (List.replicate
    ((ValidationContext.permissiveRounded (some 0x8000) 0x10000).effectiveBytes - longRom.length)
    ramAbsentReadValue)
  unfold Mbc5Cartridge.effectiveRomBank Mbc5Cartridge.selectRomBank Mbc5Cartridge.powerOn at hbytes
  dsimp only at hbytes
  rw [effectiveBankCount_longRom] at hbytes
  cases hthird.symm.trans (hbytes.trans hfirst)

/-- Bank 1 is reported as it is read, and another is not. -/
theorem reportedWindow_iff_longRom :
    (∃ window, longDevice.mappedRomWindow 0x4000 = some window ∧ window.bank = 1 ∧
      longDevice.Shows 0x4000 window) ∧
    ¬ ∀ ops address window, (longDevice.run ops).mappedRomWindow address = some window →
      (longDevice.run ops).Shows address window := by
  obtain ⟨diagnostics, hload⟩ := load_longRom
  obtain ⟨hcounts, -, hselect⟩ := reportedWindow_iff hload rfl
  have hbank : longDevice.SelectsAlike 0x4000 := by
    right
    show 1 % (ValidationContext.permissiveRounded (some 0x8000) 0x10000).effectiveBankCount = 1 % 2
    rw [effectiveBankCount_longRom]
  exact ⟨⟨_, rfl, rfl, hselect [] 0x4000 _ hbank rfl⟩,
    fun hshows => not_countsAlike_longDevice (hcounts.mp hshows)⟩

/-- The report of a window goes by the banks of the header where the image has more. -/
theorem reportedWindow_otherBank :
    ¬ ∀ (romBytes : List U8) (compatibility : CompatibilityPolicy) (report : CartridgeLoadReport)
        (loaded : CartridgeDevice), load romBytes compatibility = .ok report →
      report.cartridge.device = some loaded →
      ∀ ops address window, (loaded.run ops).mappedRomWindow address = some window →
        (loaded.run ops).Shows address window := by
  intro h
  obtain ⟨diagnostics, hload⟩ := load_longRom
  exact not_countsAlike_longDevice
    (CartridgeDevice.countsAlike_of_shows (h longRom warning _ longDevice hload rfl))

end CartridgeSlot

/-! ## Saved states -/

namespace CartridgeDevice

/-- What a device has that the state of this one was restored into: HuC-3 writes the nibbles of its
clock anew. -/
def restoredState : CartridgeDevice → PersistentCartState
  | huc3 c => .huc3 c.ram { c.mcuState with mcuRam := c.mcuRam.syncTrackedRtcLocations c.rtc }
  | device => device.persistentState

theorem restorePersistentState_restoredState {device loaded : CartridgeDevice}
    (hfresh : device.fresh = loaded.fresh) (hholds : device.Holds) (hfits : loaded.Fits) :
    (loaded.restorePersistentState device.persistentState).2.persistentState =
      device.restoredState := by
  have hsame := (restorePersistentState_persistentState hfresh hholds hfits).2
  cases device with
  | huc3 c =>
      cases loaded <;> try cases hfresh
      case huc3 l =>
        exact (Huc3Cartridge.restorePersistentState_persistentState (huc3.inj hfresh) hfits.2
          hholds).2
  | _ => exact hsame.mpr trivial

end CartridgeDevice

namespace CartridgeSlot

variable {romBytes : List U8} {compatibility : CompatibilityPolicy} {report : CartridgeLoadReport}
  {loaded : CartridgeDevice}

/-- A state saved after any run is restored into the freshly loaded device, which has it then but
for the nibbles of HuC-3's clock; those are written anew, and as they were exactly when their raw
minutes are those of a day.  A state that is refused leaves the device as it was. -/
theorem persistentState_run (hload : load romBytes compatibility = .ok report)
    (hdevice : report.cartridge.device = some loaded) (ops : List CartridgeOp) :
    let saved := (loaded.run ops).persistentState
    (loaded.restorePersistentState saved).1 = .ok () ∧
      (loaded.restorePersistentState saved).2.persistentState = (loaded.run ops).restoredState ∧
      ((loaded.run ops).restoredState = saved ↔ (loaded.run ops).RestoresWhole) ∧
      ∀ state error, ((loaded.run ops).restorePersistentState state).1 = .error error →
        ((loaded.run ops).restorePersistentState state).2 = loaded.run ops := by
  have hfits : loaded.Fits := fits_run hload hdevice []
  have hholds := holds_run hload hdevice ops
  obtain ⟨hok, hwhole⟩ := CartridgeDevice.restorePersistentState_persistentState
    (loaded.fresh_run ops) hholds hfits
  have hrestored := CartridgeDevice.restorePersistentState_restoredState (loaded.fresh_run ops)
    hholds hfits
  rw [hrestored] at hwhole
  exact ⟨hok, hrestored, hwhole, fun state error h =>
    CartridgeDevice.restorePersistentState_error h⟩

/-- A HuC-3 image of 32 KiB with one bank of RAM. -/
def clockRom : List U8 := plainHeader 0xFE 0x00 0x02 ++ List.replicate 0x7EB0 0

theorem length_clockRom : clockRom.length = 0x8000 := by
  rw [clockRom, List.length_append, List.length_replicate, length_plainHeader]
  rfl

def clockDevice : CartridgeDevice :=
  .huc3 (Huc3Cartridge.powerOn clockRom (plainCartridge 0xFE 0x00 0x02) (.classify 0xFE)
    0x2000).initializeRuntimeState

theorem load_clockRom : load clockRom warning =
    .ok { cartridge := { device := some clockDevice }, diagnostics := [] } := by
  have hmenu : CartridgeHeader.isStandardMmm01Type
      (byteAt clockRom (clockRom.length - mmm01MenuBytes + cartridgeTypeAddress)) = false := by
    rw [length_clockRom, clockRom, CartridgeHeader.byteAt_append (by rw [length_plainHeader]; decide)]
    rfl
  have hdevice : ValidationContext.loadDevice ⟨warning, .classify 0xFE⟩
      (plainCartridge 0xFE 0x00 0x02) clockRom .huc3 [] = .ok (clockDevice, []) := by
    unfold ValidationContext.loadDevice
    rw [length_clockRom]
    rfl
  have himage : clockRom = plainHeader 0xFE 0x00 0x02 ++ List.replicate 0x7EB0 0 := rfl
  exact load_plain himage ⟨hmenu, .inl rfl, .inl rfl, by decide⟩ rfl rfl hdevice

/-- A command is put in the mailbox and executed. -/
def mailboxCommand (value : U8) : List CartridgeOp :=
  [.writeRom 0x0000 0x0B, .writeRam ⟨0xA000, by decide⟩ value, .writeRom 0x0000 0x0D,
    .writeRam ⟨0xA000, by decide⟩ 0xFE]

/-- The three nibbles of the raw minutes are set to `F`. -/
def rawMinuteWrites : List CartridgeOp := [0x40, 0x51, 0x3F, 0x3F, 0x3F].flatMap mailboxCommand

theorem not_restoresWhole_rawMinutes : ¬ (clockDevice.run rawMinuteWrites).RestoresWhole := by
  intro h
  exact absurd h.1 (by decide +kernel)

theorem persistentState_run_rawMinutes :
    let saved := (clockDevice.run rawMinuteWrites).persistentState
    (clockDevice.restorePersistentState saved).1 = .ok () ∧
      (clockDevice.restorePersistentState saved).2.persistentState =
        (clockDevice.run rawMinuteWrites).restoredState ∧
      (clockDevice.run rawMinuteWrites).restoredState ≠ saved := by
  obtain ⟨hok, hrestored, hwhole, -⟩ := persistentState_run load_clockRom rfl rawMinuteWrites
  exact ⟨hok, hrestored, fun hsame => not_restoresWhole_rawMinutes (hwhole.mp hsame)⟩

/-- The raw minutes that a program has written do not come back. -/
theorem rawMinutes_notRestored :
    ¬ ∀ (romBytes : List U8) (compatibility : CompatibilityPolicy) (report : CartridgeLoadReport)
        (loaded : CartridgeDevice) (ops : List CartridgeOp),
      load romBytes compatibility = .ok report → report.cartridge.device = some loaded →
      (loaded.restorePersistentState (loaded.run ops).persistentState).2.persistentState =
        (loaded.run ops).persistentState := by
  intro h
  have hsame := h clockRom warning _ clockDevice rawMinuteWrites load_clockRom rfl
  have hwhole := (CartridgeDevice.restorePersistentState_persistentState
    (clockDevice.fresh_run rawMinuteWrites) (holds_run load_clockRom rfl rawMinuteWrites)
    (fits_run load_clockRom rfl [])).2
  exact not_restoresWhole_rawMinutes (hwhole.mp hsame)

end CartridgeSlot

end GbCycle
