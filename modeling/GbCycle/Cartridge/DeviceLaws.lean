import GbCycle.Cartridge.Device
import GbCycle.Cartridge.Huc3Laws

/-!
# Laws of the devices

What holds of a loaded cartridge of any mapper, after any accesses, clock advances, host inputs
and restores.  What loading decides is never changed: a device can be undone to the one that was
loaded, and no operation changes what it is undone to.  From that the reported windows agree with
the reads, the described accesses with the performed ones, and a saved state with the state after
restoring it.
-/

namespace GbCycle

/-! ## Runs -/

/-- What may happen to a cartridge.  The RAM is only reached through its window. -/
inductive CartridgeOp where
  | writeRom (address : U16) (value : U8)
  | writeRam (address : ExternalAddress) (value : U8)
  | readRamTimed (address : ExternalAddress) (tCycle : Nat)
  | writeRamTimed (address : ExternalAddress) (value : U8) (tCycle : Nat)
  | advanceRtcSeconds (seconds : BitVec 64)
  | advanceMbc3RtcClockTicks (ticks : BitVec 64)
  | advanceHuc3RtcSeconds (seconds : BitVec 64)
  | setMbc7AccelerometerInput (input : Mbc7AccelerometerInput)
  | setPocketCameraFrame (frame : PocketCameraFrame)
  | clearPocketCameraFrame
  | restorePersistentState (state : PersistentCartState)

namespace CartridgeDevice

def step (device : CartridgeDevice) : CartridgeOp → CartridgeDevice
  | .writeRom address value => device.writeRom address value
  | .writeRam address value => device.writeRam address.address value
  | .readRamTimed address tCycle => (device.readRamTimed address.address tCycle).2
  | .writeRamTimed address value tCycle => device.writeRamTimed address.address value tCycle
  | .advanceRtcSeconds seconds => device.advanceRtcSeconds seconds.toNat
  | .advanceMbc3RtcClockTicks ticks => device.advanceMbc3RtcClockTicks ticks
  | .advanceHuc3RtcSeconds seconds => device.advanceHuc3RtcSeconds seconds.toNat
  | .setMbc7AccelerometerInput input => (device.setMbc7AccelerometerInput input).2
  | .setPocketCameraFrame frame => (device.setPocketCameraFrame frame).2
  | .clearPocketCameraFrame => device.clearPocketCameraFrame.2
  | .restorePersistentState state => (device.restorePersistentState state).2

def run (device : CartridgeDevice) (ops : List CartridgeOp) : CartridgeDevice :=
  ops.foldl step device

/-! ## The loaded device -/

/-- The device as it was loaded. -/
def fresh : CartridgeDevice → CartridgeDevice
  | noMbc c => noMbc c.fresh
  | mmm01 c => mmm01 c.fresh
  | m161 c => m161 c.fresh
  | huc1 c => huc1 c.fresh
  | huc3 c => huc3 c.fresh
  | mbc1 c => mbc1 c.fresh
  | mbc2 c => mbc2 c.fresh
  | mbc3 c => mbc3 c.fresh
  | mbc5 c => mbc5 c.fresh
  | mbc6 c => mbc6 c.fresh
  | mbc7 c => mbc7 c.fresh
  | pocketCamera c => pocketCamera c.fresh

theorem fresh_writeRom (device : CartridgeDevice) (address : U16) (value : U8) :
    (device.writeRom address value).fresh = device.fresh := by
  cases device with
  | noMbc c => rfl
  | mmm01 c => exact congrArg mmm01 (c.fresh_writeRom address value)
  | m161 c => exact congrArg m161 (c.fresh_writeRom address value)
  | huc1 c => exact congrArg huc1 (c.fresh_writeRom address value)
  | huc3 c => exact congrArg huc3 (c.fresh_writeRom address value)
  | mbc1 c => exact congrArg mbc1 (c.fresh_writeRom address value)
  | mbc2 c => exact congrArg mbc2 (c.fresh_writeRom address value)
  | mbc3 c => exact congrArg mbc3 (c.fresh_writeRom address value)
  | mbc5 c => exact congrArg mbc5 (c.fresh_writeRom address value)
  | mbc6 c => exact congrArg mbc6 (c.fresh_writeRom address value)
  | mbc7 c => exact congrArg mbc7 (c.fresh_writeRom address value)
  | pocketCamera c => exact congrArg pocketCamera (c.sameBoard_writeRom address value).fresh

theorem fresh_writeRam (device : CartridgeDevice) (address : U16) (value : U8) :
    (device.writeRam address value).fresh = device.fresh := by
  cases device with
  | noMbc c => exact congrArg noMbc (c.fresh_writeRam address value)
  | mmm01 c => exact congrArg mmm01 (c.fresh_writeRam address value)
  | m161 c => rfl
  | huc1 c => exact congrArg huc1 (c.fresh_writeRam address value)
  | huc3 c => exact congrArg huc3 (c.fresh_writeRam address value)
  | mbc1 c => exact congrArg mbc1 (c.fresh_writeRam address value)
  | mbc2 c => exact congrArg mbc2 (c.fresh_writeRam address value)
  | mbc3 c => exact congrArg mbc3 (c.fresh_writeRam address value)
  | mbc5 c => exact congrArg mbc5 (c.fresh_writeRam address value)
  | mbc6 c => exact congrArg mbc6 (c.fresh_writeRam address value)
  | mbc7 c => exact congrArg mbc7 (c.fresh_writeRam address value)
  | pocketCamera c =>
      exact congrArg pocketCamera
        (c.sameBoard_writeRamAfterReadyResolution address value none).fresh

theorem fresh_readRamTimed (device : CartridgeDevice) (address : U16) (tCycle : Nat) :
    (device.readRamTimed address tCycle).2.fresh = device.fresh := by
  cases device with
  | mbc3 c => exact congrArg mbc3 (c.fresh_readRamTimed address tCycle)
  | pocketCamera c => exact congrArg pocketCamera (c.sameBoard_readRamTimed address tCycle).fresh
  | _ => rfl

theorem fresh_writeRamTimed (device : CartridgeDevice) (address : U16) (value : U8)
    (tCycle : Nat) : (device.writeRamTimed address value tCycle).fresh = device.fresh := by
  cases device with
  | mbc3 c => exact congrArg mbc3 (c.fresh_writeRamTimed address value tCycle)
  | pocketCamera c =>
      exact congrArg pocketCamera (c.sameBoard_writeRamTimed address value tCycle).fresh
  | noMbc c => exact fresh_writeRam (noMbc c) address value
  | mmm01 c => exact fresh_writeRam (mmm01 c) address value
  | m161 c => exact fresh_writeRam (m161 c) address value
  | huc1 c => exact fresh_writeRam (huc1 c) address value
  | huc3 c => exact fresh_writeRam (huc3 c) address value
  | mbc1 c => exact fresh_writeRam (mbc1 c) address value
  | mbc2 c => exact fresh_writeRam (mbc2 c) address value
  | mbc5 c => exact fresh_writeRam (mbc5 c) address value
  | mbc6 c => exact fresh_writeRam (mbc6 c) address value
  | mbc7 c => exact fresh_writeRam (mbc7 c) address value

theorem fresh_advanceRtcSeconds (device : CartridgeDevice) (seconds : Nat) :
    (device.advanceRtcSeconds seconds).fresh = device.fresh := by
  cases device with
  | mbc3 c => exact congrArg mbc3 (c.fresh_advanceRtcSeconds seconds)
  | huc3 c => exact congrArg huc3 (c.fresh_advanceRtcSeconds seconds)
  | _ => rfl

theorem fresh_advanceMbc3RtcClockTicks (device : CartridgeDevice) (ticks : BitVec 64) :
    (device.advanceMbc3RtcClockTicks ticks).fresh = device.fresh := by
  cases device with
  | mbc3 c => exact congrArg mbc3 (c.fresh_advanceRtcClockTicks ticks)
  | _ => rfl

theorem fresh_advanceHuc3RtcSeconds (device : CartridgeDevice) (seconds : Nat) :
    (device.advanceHuc3RtcSeconds seconds).fresh = device.fresh := by
  cases device with
  | huc3 c => exact congrArg huc3 (c.fresh_advanceRtcSeconds seconds)
  | _ => rfl

theorem fresh_setMbc7AccelerometerInput (device : CartridgeDevice)
    (input : Mbc7AccelerometerInput) :
    (device.setMbc7AccelerometerInput input).2.fresh = device.fresh := by
  cases device with
  | mbc7 c => exact congrArg mbc7 (Mbc7Cartridge.fresh_congr rfl rfl rfl)
  | _ => rfl

theorem fresh_setPocketCameraFrame (device : CartridgeDevice) (frame : PocketCameraFrame) :
    (device.setPocketCameraFrame frame).2.fresh = device.fresh := by
  cases device with
  | pocketCamera c => exact congrArg pocketCamera (c.sameBoard_setHostFrame frame).fresh
  | _ => rfl

theorem fresh_clearPocketCameraFrame (device : CartridgeDevice) :
    device.clearPocketCameraFrame.2.fresh = device.fresh := by
  cases device with
  | pocketCamera c => exact congrArg pocketCamera c.sameBoard_clearHostFrame.fresh
  | _ => rfl

theorem fresh_restorePersistentState (device : CartridgeDevice) (state : PersistentCartState) :
    (device.restorePersistentState state).2.fresh = device.fresh := by
  cases device with
  | noMbc c =>
      exact congrArg (fun ram => noMbc { c.fresh with ram })
        (clearedRam_restoreLinearRam .noMbcRam c.hasBattery c.ram state)
  | mmm01 c =>
      exact congrArg (fun ram => mmm01 { c.fresh with ram })
        (clearedRam_restoreLinearRam .mmm01Ram c.hasBattery c.ram state)
  | m161 c => rfl
  | huc1 c =>
      exact congrArg (fun ram => huc1 { c.fresh with ram })
        (clearedRam_restoreLinearRam .huc1Ram c.hasBattery c.ram state)
  | huc3 c => exact congrArg huc3 (c.fresh_restorePersistentState state)
  | mbc1 c =>
      exact congrArg (fun ram => mbc1 { c.fresh with ram })
        (clearedRam_restoreLinearRam .mbc1Ram c.hasBattery c.ram state)
  | mbc2 c => exact congrArg mbc2 (c.fresh_restorePersistentState state)
  | mbc3 c => exact congrArg mbc3 (c.fresh_restorePersistentState state)
  | mbc5 c =>
      exact congrArg (fun ram => mbc5 { c.fresh with ram })
        (clearedRam_restoreLinearRam .mbc5Ram c.hasBattery c.ram state)
  | mbc6 c => exact congrArg mbc6 (c.fresh_restorePersistentState state)
  | mbc7 c => exact congrArg mbc7 (c.fresh_restorePersistentState state)
  | pocketCamera c =>
      exact congrArg pocketCamera (c.sameBoard_restorePersistentState state).fresh

/-- No operation changes the loaded device. -/
theorem fresh_step (device : CartridgeDevice) (op : CartridgeOp) :
    (device.step op).fresh = device.fresh := by
  cases op with
  | writeRom address value => exact fresh_writeRom device address value
  | writeRam address value => exact fresh_writeRam device address.address value
  | readRamTimed address tCycle => exact fresh_readRamTimed device address.address tCycle
  | writeRamTimed address value tCycle =>
      exact fresh_writeRamTimed device address.address value tCycle
  | advanceRtcSeconds seconds => exact fresh_advanceRtcSeconds device seconds.toNat
  | advanceMbc3RtcClockTicks ticks => exact fresh_advanceMbc3RtcClockTicks device ticks
  | advanceHuc3RtcSeconds seconds => exact fresh_advanceHuc3RtcSeconds device seconds.toNat
  | setMbc7AccelerometerInput input => exact fresh_setMbc7AccelerometerInput device input
  | setPocketCameraFrame frame => exact fresh_setPocketCameraFrame device frame
  | clearPocketCameraFrame => exact fresh_clearPocketCameraFrame device
  | restorePersistentState state => exact fresh_restorePersistentState device state

theorem fresh_run (device : CartridgeDevice) (ops : List CartridgeOp) :
    (device.run ops).fresh = device.fresh := by
  induction ops generalizing device with
  | nil => rfl
  | cons op ops ih => exact (ih (device.step op)).trans (fresh_step device op)

/-! ## What the memories hold -/

/-- MBC2's cells hold nibbles, and HuC-3's clock agrees with its memory. -/
def Holds : CartridgeDevice → Prop
  | mbc2 c => c.Nibbles
  | huc3 c => c.Coherent
  | _ => True

theorem Holds.step {device : CartridgeDevice} (h : device.Holds) (op : CartridgeOp) :
    (device.step op).Holds := by
  cases device with
  | mbc2 c =>
      cases op with
      | writeRom address value => exact Mbc2Cartridge.Nibbles.writeRom h address value
      | writeRam address value => exact Mbc2Cartridge.Nibbles.writeRam h address.address value
      | writeRamTimed address value _ =>
          exact Mbc2Cartridge.Nibbles.writeRam h address.address value
      | restorePersistentState state => exact Mbc2Cartridge.Nibbles.restorePersistentState h state
      | _ => exact h
  | huc3 c =>
      cases op with
      | writeRom address value => exact Huc3Cartridge.Coherent.writeRom h address value
      | writeRam address value => exact Huc3Cartridge.Coherent.writeRam h address.address value
      | writeRamTimed address value _ =>
          exact Huc3Cartridge.Coherent.writeRam h address.address value
      | advanceRtcSeconds seconds => exact Huc3Cartridge.Coherent.advanceRtcSeconds h seconds.toNat
      | advanceHuc3RtcSeconds seconds =>
          exact Huc3Cartridge.Coherent.advanceRtcSeconds h seconds.toNat
      | restorePersistentState state => exact Huc3Cartridge.Coherent.restorePersistentState h state
      | _ => exact h
  | _ => cases op <;> trivial

theorem Holds.run {device : CartridgeDevice} (h : device.Holds) (ops : List CartridgeOp) :
    (device.run ops).Holds := by
  induction ops generalizing device with
  | nil => exact h
  | cons op ops ih => exact ih (h.step op)

/-! ## The sizes of the memories -/

/-- The memories of a device have the sizes that its mapper counts on. -/
def Fits : CartridgeDevice → Prop
  | noMbc c => c.RamFits
  | mmm01 c => c.Fits
  | huc1 c => c.RamFits
  | huc3 c => c.RamFits ∧ c.hasBattery = true
  | mbc1 c => c.RamFits
  | mbc3 c => c.RamFits
  | mbc5 c => c.RamFits
  | pocketCamera c => c.ram.length = pocketCameraSupportedRamBytes
  | _ => True

/-- The banks that an MBC5 window is reported with are those of its header. -/
def DeclaresBanks : CartridgeDevice → Prop
  | mbc5 c => c.romLayout.effectiveBankCount = c.header.romSize.bankCount.getD 0
  | _ => True

theorem Fits.of_fresh {device loaded : CartridgeDevice} (hfresh : device.fresh = loaded.fresh)
    (h : loaded.Fits) : device.Fits := by
  cases device <;> cases loaded <;> try cases hfresh
  case noMbc.noMbc => exact NoMbcCartridge.RamFits.of_fresh (noMbc.inj hfresh) h
  case mmm01.mmm01 => exact Mmm01Cartridge.Fits.of_fresh (mmm01.inj hfresh) h
  case huc1.huc1 => exact Huc1Cartridge.RamFits.of_fresh (huc1.inj hfresh) h
  case huc3.huc3 =>
    have hsame := huc3.inj hfresh
    exact ⟨Huc3Cartridge.RamFits.of_fresh hsame h.1,
      (congrArg Huc3Cartridge.hasBattery hsame).trans h.2⟩
  case mbc1.mbc1 => exact Mbc1Cartridge.RamFits.of_fresh (mbc1.inj hfresh) h
  case mbc3.mbc3 => exact Mbc3Cartridge.RamFits.of_fresh (mbc3.inj hfresh) h
  case mbc5.mbc5 => exact Mbc5Cartridge.RamFits.of_fresh (mbc5.inj hfresh) h
  case pocketCamera.pocketCamera =>
    exact (PocketCameraCartridge.sameBoard_of_fresh (pocketCamera.inj hfresh)).ramLength.trans h
  all_goals trivial

theorem declaresBanks_fresh (device : CartridgeDevice) :
    device.fresh.DeclaresBanks = device.DeclaresBanks := by
  cases device <;> rfl

theorem DeclaresBanks.of_fresh {device loaded : CartridgeDevice}
    (hfresh : device.fresh = loaded.fresh) (h : loaded.DeclaresBanks) : device.DeclaresBanks := by
  rw [← declaresBanks_fresh, hfresh, declaresBanks_fresh]
  exact h

end CartridgeDevice

/-! ## Loading -/

namespace ValidationContext

variable {ctx : ValidationContext} {header : CartridgeHeader} {romBytes : List U8}
  {family : SupportedCartridgeFamily} {before after : List CartridgeDiagnostic}
  {device : CartridgeDevice}

theorem ramLength_optional {ramLen : Nat} {P : Nat → Prop} (h : ramLen ≠ 0 → P ramLen) :
    ∀ ram, (if ramLen ≠ 0 then some (List.replicate ramLen (0 : U8)) else none) = some ram →
      P ram.length := by
  intro ram hram
  split at hram
  · rename_i hpresent
    cases hram
    rw [List.length_replicate]
    exact h hpresent
  · cases hram

/-- What the validators let through has memories that its mapper can count on. -/
theorem loadDevice_fits (hsizes : header.SizesDecoded)
    (h : ctx.loadDevice header romBytes family before = .ok (device, after)) : device.Fits := by
  cases family with
  | noMbc =>
      obtain ⟨_, -, rfl⟩ := Validation.bind_pure_ok h
      exact NoMbcCartridge.ramFits_powerOn romBytes header ctx.classification
  | mmm01 =>
      obtain ⟨ramLen, hvalid, rfl⟩ := Validation.bind_pure_ok h
      obtain ⟨hrom, hram⟩ := validateMmm01_ok hsizes hvalid
      exact Mmm01Cartridge.Fits.mk hrom
        (ramLength_optional (P := fun n => 0 < n ∧ n % 0x2000 = 0)
          fun hpresent => ⟨Nat.pos_of_ne_zero hpresent, hram⟩)
  | huc1 =>
      obtain ⟨ramLen, hvalid, rfl⟩ := Validation.bind_pure_ok h
      rintro ram hram
      cases hram
      rw [List.length_replicate]
      exact (validateHuc_ok hsizes hvalid).2
  | huc3 =>
      obtain ⟨ramLen, hvalid, rfl⟩ := Validation.bind_pure_ok h
      rw [Huc3Cartridge.initializeRuntimeState_powerOn]
      refine And.intro ?_ rfl
      show 0 < (List.replicate ramLen (0 : U8)).length
      rw [List.length_replicate]
      exact (validateHuc_ok hsizes hvalid).2
  | mbc1 =>
      obtain ⟨layout, hvalid, rfl⟩ := Validation.bind_pure_ok h
      have hwhole := (validateMbc1_ok hsizes hvalid).2
      exact ramLength_optional (P := fun n => 0 < n ∧ n % 0x2000 = 0)
        fun hpresent => ⟨Nat.pos_of_ne_zero hpresent, hwhole⟩
  | mbc3 =>
      obtain ⟨layout, -, rfl⟩ := Validation.bind_pure_ok h
      intro ram hram
      obtain ⟨ramLen, hlen, rfl⟩ := Option.map_eq_some_iff.mp hram
      rw [List.length_replicate]
      unfold mbc3RamLen at hlen
      split at hlen
      · rename_i hpresent
        cases hlen
        exact Nat.pos_of_ne_zero hpresent.2
      · cases hlen
  | mbc5 =>
      obtain ⟨layout, hvalid, rfl⟩ := Validation.bind_pure_ok h
      obtain ⟨-, -, hram⟩ := validateMbc5_ok hsizes hvalid
      exact ramLength_optional
        (P := (· = max (header.ramSize.bankCount.getD 0) 1 * 0x2000)) hram.resolve_left
  | pocketCamera =>
      obtain ⟨_, -, rfl⟩ := Validation.bind_pure_ok h
      exact List.length_replicate
  | _ =>
      obtain ⟨_, -, rfl⟩ := Validation.bind_pure_ok h
      trivial

theorem loadDevice_holds (h : ctx.loadDevice header romBytes family before = .ok (device, after)) :
    device.Holds := by
  cases family with
  | mbc2 =>
      obtain ⟨_, -, rfl⟩ := Validation.bind_pure_ok h
      exact Mbc2Cartridge.nibbles_powerOn romBytes header ctx.classification
  | huc3 =>
      obtain ⟨ramLen, -, rfl⟩ := Validation.bind_pure_ok h
      rw [Huc3Cartridge.initializeRuntimeState_powerOn]
      exact Huc3Cartridge.coherent_powerOn romBytes header ctx.classification ramLen
  | _ =>
      obtain ⟨_, -, rfl⟩ := Validation.bind_pure_ok h
      trivial

theorem loadDevice_declaresBanks (hsizes : header.SizesDecoded)
    (hstrict : ctx.compatibility.validationPolicy = .strict)
    (h : ctx.loadDevice header romBytes family before = .ok (device, after)) :
    device.DeclaresBanks := by
  cases family with
  | mbc5 =>
      obtain ⟨layout, hvalid, rfl⟩ := Validation.bind_pure_ok h
      exact (validateMbc5_ok hsizes hvalid).2.1 hstrict
  | _ =>
      obtain ⟨_, -, rfl⟩ := Validation.bind_pure_ok h
      trivial

end ValidationContext

namespace CartridgeSlot

variable {romBytes : List U8} {compatibility : CompatibilityPolicy} {report : CartridgeLoadReport}
  {loaded : CartridgeDevice}

/-- A loaded device comes out of the validator of its family. -/
theorem load_ok (hload : load romBytes compatibility = .ok report)
    (hdevice : report.cartridge.device = some loaded) :
    ∃ header classification family diagnostics, header.SizesDecoded ∧
      ValidationContext.loadDevice { compatibility, classification } header romBytes family [] =
        .ok (loaded, diagnostics) := by
  unfold load at hload
  split at hload
  · cases hload
  · rename_i header hparse
    dsimp only at hload
    split at hload
    · rename_i family _
      split at hload
      · cases hload
      · rename_i device diagnostics hvalid
        cases hload
        cases hdevice
        exact ⟨header, _, family, diagnostics, CartridgeHeader.parseForLoad_sizes hparse, hvalid⟩
    · cases hload

/-- An image whose header selects a mapper is loaded as that mapper's device. -/
theorem load_of_device {header : CartridgeHeader} {classification : CartridgeClassification}
    {family : SupportedCartridgeFamily} {device : CartridgeDevice}
    {diagnostics : List CartridgeDiagnostic}
    (hparse : CartridgeHeader.parseForLoad romBytes = .ok header)
    (hclass : classifyLoadedCartridge header romBytes compatibility = classification)
    (hselection : classification.selection = .supported family)
    (hdevice : ValidationContext.loadDevice { compatibility, classification } header romBytes
      family [] = .ok (device, diagnostics)) :
    load romBytes compatibility = .ok { cartridge := { device := some device }, diagnostics } := by
  unfold load
  rw [hparse]
  dsimp only
  rw [hclass, hselection]
  dsimp only
  rw [hdevice]

end CartridgeSlot

/-! ## What a description promises -/

/-- A device keeps the description that its mapper keeps. -/
theorem CartridgeExternalAccessInfo.Keeps.map {σ τ : Type} {info : CartridgeExternalAccessInfo}
    {c : σ} {read : σ → U8} {write : U8 → σ} (h : info.Keeps c read write) (device : σ → τ)
    {read' : τ → U8} (hread : ∀ c, read' (device c) = read c) :
    info.Keeps (device c) read' fun value => device (write value) where
  fallback value hvalue := (hread c).trans (h.fallback value hvalue)
  ignored hignored value := congrArg device (h.ignored hignored value)
  storage hr hw value := (hread (write value)).trans (h.storage hr hw value)

namespace CartridgeDevice

theorem describeExternalAccess_keeps {device : CartridgeDevice} (hfits : device.Fits)
    (address : ExternalAddress)
    (hcapture :
      (device.describeExternalAccess address.address).target ≠ .pocketCameraRegister 0) :
    (device.describeExternalAccess address.address).Keeps device (·.readRam address.address)
      (device.writeRam address.address) := by
  cases device with
  | noMbc c =>
      exact (NoMbcCartridge.describeExternalAccess_keeps hfits address).map noMbc fun _ => rfl
  | mmm01 c =>
      exact (Mmm01Cartridge.describeExternalAccess_keeps hfits address).map mmm01 fun _ => rfl
  | m161 c => exact (c.describeExternalAccess_keeps address.address).map m161 fun _ => rfl
  | huc1 c => exact (Huc1Cartridge.describeExternalAccess_keeps hfits address).map huc1 fun _ => rfl
  | huc3 c =>
      exact (Huc3Cartridge.describeExternalAccess_keeps hfits.1 address.address).map huc3
        fun _ => rfl
  | mbc1 c => exact (Mbc1Cartridge.describeExternalAccess_keeps hfits address).map mbc1 fun _ => rfl
  | mbc2 c => exact (c.describeExternalAccess_keeps address.address).map mbc2 fun _ => rfl
  | mbc3 c =>
      exact (Mbc3Cartridge.describeExternalAccess_keeps hfits address.address).map mbc3 fun _ => rfl
  | mbc5 c => exact (Mbc5Cartridge.describeExternalAccess_keeps hfits address).map mbc5 fun _ => rfl
  | mbc6 c => exact (c.describeExternalAccess_keeps address).map mbc6 fun _ => rfl
  | mbc7 c => exact (c.describeExternalAccess_keeps address).map mbc7 fun _ => rfl
  | pocketCamera c =>
      exact (PocketCameraCartridge.describeExternalAccess_keeps hfits address hcapture).map
        pocketCamera fun _ => rfl

/-- The camera of the cartridge has a capture that an access at the time completes. -/
def captureDue (tCycle : Nat) : CartridgeDevice → Bool
  | pocketCamera c => c.captureDue tCycle
  | _ => false

theorem readRamTimed_of_not_due {device : CartridgeDevice} {tCycle : Nat}
    (hdue : device.captureDue tCycle = false) (address : U16) :
    (device.readRamTimed address tCycle).1 = device.readRam address := by
  cases device with
  | mbc3 c => exact c.readRamTimed_fst address tCycle
  | pocketCamera c => exact PocketCameraCartridge.readRamTimed_of_not_due hdue address
  | _ => rfl

variable {device : CartridgeDevice} {address : U16}

theorem writeRamTimed_of_not_due {tCycle : Nat} (hdue : device.captureDue tCycle = false)
    (hcapture : (device.describeExternalAccess address).target ≠ .pocketCameraRegister 0)
    (hlive : (device.describeExternalAccess address).writeBehavior ≠ .rtcLive) (value : U8) :
    device.writeRamTimed address value tCycle = device.writeRam address value := by
  cases device with
  | mbc3 c => exact congrArg mbc3 (Mbc3Cartridge.writeRamTimed_of_not_live hlive value tCycle)
  | pocketCamera c =>
      exact congrArg pocketCamera
        (PocketCameraCartridge.writeRamTimed_of_not_due hdue hcapture value)
  | _ => rfl

theorem captureDue_writeRam
    (hcapture : (device.describeExternalAccess address).target ≠ .pocketCameraRegister 0)
    (value : U8) (tCycle : Nat) :
    (device.writeRam address value).captureDue tCycle = device.captureDue tCycle := by
  cases device with
  | pocketCamera c => exact PocketCameraCartridge.captureDue_writeRam hcapture value tCycle
  | _ => rfl

/-- Accesses at times keep the description as well, while no capture is due by then. -/
theorem describeExternalAccess_keepsTimed (hfits : device.Fits) (address : ExternalAddress)
    (hcapture :
      (device.describeExternalAccess address.address).target ≠ .pocketCameraRegister 0)
    {tRead tWrite : Nat} (hread : device.captureDue tRead = false)
    (hwrite : device.captureDue tWrite = false) :
    (device.describeExternalAccess address.address).Keeps device
      (fun device => (device.readRamTimed address.address tRead).1)
      fun value => device.writeRamTimed address.address value tWrite := by
  refine (describeExternalAccess_keeps hfits address hcapture).congr ?_ ?_ ?_
  · exact readRamTimed_of_not_due hread address.address
  · intro hplain value
    refine writeRamTimed_of_not_due hwrite hcapture ?_ value
    intro hlive
    rcases hplain with hignored | hstored
    · cases hignored.symm.trans hlive
    · cases hstored.symm.trans hlive
  · intro value
    have hdue := (captureDue_writeRam hcapture value tRead).trans hread
    exact readRamTimed_of_not_due hdue address.address

/-! ## Reported windows -/

/-- A reported window is a view of the image, or of MBC6's flash, which shows its array only while
it is enabled and no command is going on. -/
def Shows (device : CartridgeDevice) (address : U16) (window : CartridgeMappedRomWindow) : Prop :=
  match window.source, device with
  | .rom, device => device.readRom address = window.byteOf device.romBytes
  | .flash, mbc6 c =>
      (c.flashEnabled = false → c.readRom address = ramAbsentReadValue) ∧
        (c.flashEnabled = true → Mbc6Cartridge.ReadsArray c.chip.flashMode →
          c.readRom address = window.byteOf c.chip.flash.toList)
  | .flash, _ => False

theorem shows_of_rom {device : CartridgeDevice} {address : U16} {window : CartridgeMappedRomWindow}
    (h : window.source = .rom ∧ device.readRom address = window.byteOf device.romBytes) :
    device.Shows address window := by
  unfold Shows
  rw [h.1]
  exact h.2

theorem shows_mappedRomWindow {device : CartridgeDevice} (hbanks : device.DeclaresBanks)
    (hfits : device.Fits) {address : U16} {window : CartridgeMappedRomWindow}
    (h : device.mappedRomWindow address = some window) : device.Shows address window := by
  cases device with
  | noMbc c => exact shows_of_rom (NoMbcCartridge.readRom_eq_byteOf h)
  | mmm01 c => exact shows_of_rom (Mmm01Cartridge.readRom_eq_byteOf hfits h)
  | m161 c => exact shows_of_rom (M161Cartridge.readRom_eq_byteOf h)
  | huc1 c => exact shows_of_rom (Huc1Cartridge.readRom_eq_byteOf h)
  | huc3 c => exact shows_of_rom (Huc3Cartridge.readRom_eq_byteOf h)
  | mbc1 c => exact shows_of_rom (Mbc1Cartridge.readRom_eq_byteOf h)
  | mbc2 c => exact shows_of_rom (Mbc2Cartridge.readRom_eq_byteOf h)
  | mbc3 c => exact shows_of_rom (Mbc3Cartridge.readRom_eq_byteOf h)
  | mbc5 c => exact shows_of_rom (Mbc5Cartridge.readRom_eq_byteOf hbanks h)
  | mbc6 c =>
      rcases Mbc6Cartridge.readRom_eq_byteOf h with hrom | ⟨hflash, hreads⟩
      · exact shows_of_rom hrom
      · unfold Shows
        rw [hflash]
        exact hreads
  | mbc7 c => exact shows_of_rom (Mbc7Cartridge.readRom_eq_byteOf h)
  | pocketCamera c => exact shows_of_rom (PocketCameraCartridge.readRom_eq_byteOf h)

/-! ## Saved states -/

theorem restorePersistentState_error {device : CartridgeDevice} {state : PersistentCartState}
    {error : CartridgePersistentStateError}
    (h : (device.restorePersistentState state).1 = .error error) :
    (device.restorePersistentState state).2 = device := by
  cases device with
  | noMbc c => exact congrArg noMbc (NoMbcCartridge.restorePersistentState_error h)
  | mmm01 c => exact congrArg mmm01 (Mmm01Cartridge.restorePersistentState_error h)
  | m161 c => rfl
  | huc1 c => exact congrArg huc1 (Huc1Cartridge.restorePersistentState_error h)
  | huc3 c => exact congrArg huc3 (Huc3Cartridge.restorePersistentState_error h)
  | mbc1 c => exact congrArg mbc1 (Mbc1Cartridge.restorePersistentState_error h)
  | mbc2 c => exact congrArg mbc2 (Mbc2Cartridge.restorePersistentState_error h)
  | mbc3 c => exact congrArg mbc3 (Mbc3Cartridge.restorePersistentState_error h)
  | mbc5 c => exact congrArg mbc5 (Mbc5Cartridge.restorePersistentState_error h)
  | mbc6 c => exact congrArg mbc6 (Mbc6Cartridge.restorePersistentState_error h)
  | mbc7 c => exact congrArg mbc7 (Mbc7Cartridge.restorePersistentState_error h)
  | pocketCamera c =>
      exact congrArg pocketCamera (PocketCameraCartridge.restorePersistentState_error h)

/-- The state of the device is one that restoring does not normalize: HuC-3 takes the raw times
that a program may have left in its memory back into a day. -/
def RestoresWhole : CartridgeDevice → Prop
  | huc3 c => c.mcuRam.RawTimesInDay
  | _ => True

/-- A device of the same load takes the state of another, and then has it, unless restoring
normalizes it. -/
theorem restorePersistentState_persistentState {device loaded : CartridgeDevice}
    (hfresh : device.fresh = loaded.fresh) (hholds : device.Holds) (hfits : loaded.Fits) :
    (loaded.restorePersistentState device.persistentState).1 = .ok () ∧
      ((loaded.restorePersistentState device.persistentState).2.persistentState =
        device.persistentState ↔ device.RestoresWhole) := by
  have iff_of {p : Prop} (h : p) : p ↔ True := iff_true_intro h
  cases device <;> cases loaded <;> try cases hfresh
  case noMbc.noMbc =>
    exact (NoMbcCartridge.restorePersistentState_persistentState (noMbc.inj hfresh)).imp id iff_of
  case mmm01.mmm01 =>
    exact (Mmm01Cartridge.restorePersistentState_persistentState (mmm01.inj hfresh)).imp id iff_of
  case m161.m161 => exact ⟨rfl, iff_of rfl⟩
  case huc1.huc1 =>
    exact (Huc1Cartridge.restorePersistentState_persistentState (huc1.inj hfresh)).imp id iff_of
  case huc3.huc3 c l =>
    have hsame := huc3.inj hfresh
    obtain ⟨hok, hstate⟩ :=
      Huc3Cartridge.restorePersistentState_persistentState hsame hfits.2 hholds
    have hbattery : c.hasBattery = true :=
      (congrArg Huc3Cartridge.hasBattery hsame).trans hfits.2
    refine ⟨hok, ?_⟩
    show (l.restorePersistentState c.persistentState).2.persistentState = c.persistentState ↔ _
    rw [hstate]
    exact Huc3Cartridge.restored_eq_iff hbattery hholds
  case mbc1.mbc1 =>
    exact (Mbc1Cartridge.restorePersistentState_persistentState (mbc1.inj hfresh)).imp id iff_of
  case mbc2.mbc2 =>
    exact (Mbc2Cartridge.restorePersistentState_persistentState (mbc2.inj hfresh) hholds).imp id
      iff_of
  case mbc3.mbc3 =>
    exact (Mbc3Cartridge.restorePersistentState_persistentState (mbc3.inj hfresh)).imp id iff_of
  case mbc5.mbc5 =>
    exact (Mbc5Cartridge.restorePersistentState_persistentState (mbc5.inj hfresh)).imp id iff_of
  case mbc6.mbc6 =>
    exact (Mbc6Cartridge.restorePersistentState_persistentState (mbc6.inj hfresh)).imp id iff_of
  case mbc7.mbc7 c l =>
    exact (Mbc7Cartridge.restorePersistentState_persistentState c l).imp id iff_of
  case pocketCamera.pocketCamera =>
    have hboard := PocketCameraCartridge.sameBoard_of_fresh (pocketCamera.inj hfresh)
    exact (PocketCameraCartridge.restorePersistentState_persistentState hboard.ramLength).imp id
      iff_of

end CartridgeDevice

/-! ## Runs of a loaded cartridge -/

namespace CartridgeSlot

variable {romBytes : List U8} {compatibility : CompatibilityPolicy} {report : CartridgeLoadReport}
  {loaded : CartridgeDevice}

theorem fits_run (hload : load romBytes compatibility = .ok report)
    (hdevice : report.cartridge.device = some loaded) (ops : List CartridgeOp) :
    (loaded.run ops).Fits := by
  obtain ⟨header, classification, family, diagnostics, hsizes, hvalid⟩ := load_ok hload hdevice
  exact .of_fresh (loaded.fresh_run ops) (ValidationContext.loadDevice_fits hsizes hvalid)

theorem holds_run (hload : load romBytes compatibility = .ok report)
    (hdevice : report.cartridge.device = some loaded) (ops : List CartridgeOp) :
    (loaded.run ops).Holds := by
  obtain ⟨header, classification, family, diagnostics, -, hvalid⟩ := load_ok hload hdevice
  exact (ValidationContext.loadDevice_holds hvalid).run ops

/-- A policy that warns where the strict one rejects. -/
def warning : CompatibilityPolicy where
  executionMode := .permissive
  validationPolicy := .warn
  heuristicPolicy := .disabled
  overridePolicy := ⟨none, none, none, none⟩
  diagnosticPolicy := .standard

/-! ### Images with a plain header -/

/-- The first bytes of an image: a header of zeros but for the type of the mapper and the codes of
the two sizes. -/
def plainHeader (cartridgeType romSize ramSize : U8) : List U8 :=
  List.replicate 0x147 0 ++ [cartridgeType, romSize, ramSize] ++ List.replicate 6 0

theorem length_plainHeader (cartridgeType romSize ramSize : U8) :
    (plainHeader cartridgeType romSize ramSize).length = headerMinimumRomLen := by
  rw [plainHeader, List.length_append, List.length_append, List.length_replicate,
    List.length_replicate]
  rfl

/-- Behind the header an image has the bytes that follow. -/
theorem byteAt_plain {cartridgeType romSize ramSize : U8} {rest : List U8} {index : Nat}
    (h : headerMinimumRomLen ≤ index) :
    byteAt (plainHeader cartridgeType romSize ramSize ++ rest) index =
      byteAt rest (index - headerMinimumRomLen) := by
  have hlength := length_plainHeader cartridgeType romSize ramSize
  rw [byteAt, byteAt, List.getD_eq_getElem?_getD, List.getD_eq_getElem?_getD,
    List.getElem?_append_right (by rw [hlength]; exact h), hlength]

theorem byteAt_replicate (length index : Nat) : byteAt (List.replicate length 0) index = 0 := by
  rw [byteAt, List.getD_eq_getElem?_getD, List.getElem?_replicate]
  split <;> rfl

/-- The header in front of it. -/
def plainCartridge (cartridgeType romSize ramSize : U8) : CartridgeHeader where
  nintendoLogo := List.replicate 48 0
  titleBytes := List.replicate 16 0
  title := []
  cgbFlag := .none
  cartridgeType
  romSize := .decode romSize
  ramSize := .decode ramSize
  destinationCode := 0x00

section PlainImages

variable {cartridgeType romSize ramSize : U8} {rest : List U8}

set_option maxRecDepth 4000 in
theorem parse_plainHeader :
    CartridgeHeader.parse (plainHeader cartridgeType romSize ramSize) =
      .ok (plainCartridge cartridgeType romSize ramSize) := by
  have hlogo : slice (plainHeader cartridgeType romSize ramSize) (0 + nintendoLogoStart)
    nintendoLogoLen = List.replicate 48 0 := rfl
  have htitle : slice (plainHeader cartridgeType romSize ramSize) (0 + titleStart) titleBytesLen =
    List.replicate 16 0 := rfl
  have hflag : byteAt (plainHeader cartridgeType romSize ramSize) (0 + cgbFlagAddress) = 0 := rfl
  unfold CartridgeHeader.parse CartridgeHeader.parseAtOffset
  rw [if_neg (by rw [length_plainHeader]; decide)]
  dsimp only
  rw [hlogo, htitle, hflag]
  rfl

/-- What says that an image belongs to no multicart: the last 32 KiB have no header of a menu, and
the type and the sizes are those of no multicart and not of MBC30. -/
structure NoMulticart (cartridgeType romSize ramSize : U8) (image : List U8) : Prop where
  menu : CartridgeHeader.isStandardMmm01Type
    (byteAt image (image.length - mmm01MenuBytes + cartridgeTypeAddress)) = false
  mani : CartridgeHeader.isMbc1Type cartridgeType = false ∨ ramSize ≠ 0x00
  mbc1m : CartridgeHeader.isMbc1Type cartridgeType = false ∨
    (RomSizeInfo.decode romSize).decodedBytes ≠ some (1024 * 1024)
  mbc30 : ramSize ≠ 0x05

/-- An image without a title and without a menu is classified by its type. -/
theorem classifyLoadedCartridge_plain
    (h : NoMulticart cartridgeType romSize ramSize
      (plainHeader cartridgeType romSize ramSize ++ rest))
    (hheuristic : compatibility.heuristicPolicy = .disabled) :
    classifyLoadedCartridge (plainCartridge cartridgeType romSize ramSize)
      (plainHeader cartridgeType romSize ramSize ++ rest) compatibility =
        .classify cartridgeType := by
  have hm161 (image : List U8) : isM161MulticartSignature
      (plainCartridge cartridgeType romSize ramSize) image = false := by
    have htitle : (!matchesPaddedTitle (List.replicate 16 0) m161SyntheticMenuTitle &&
      !matchesPaddedTitle (List.replicate 16 0) m161CommercialMenuTitle) = true := by decide
    unfold isM161MulticartSignature
    split
    · rfl
    · exact if_pos htitle
  have hmani (image : List U8) : isManiMmm01Signature
      (plainCartridge cartridgeType romSize ramSize) image = false := by
    have hsuffix : CartridgeHeader.endsWithMenuSuffix
      (plainCartridge cartridgeType romSize ramSize).title = false := rfl
    unfold isManiMmm01Signature
    rw [hsuffix]
    simp
  have hmbc1m (image : List U8) : isMbc1mMulticartSignature
      (plainCartridge cartridgeType romSize ramSize) image = false := by
    unfold isMbc1mMulticartSignature
    rcases h.mbc1m with htype | hsize
    · show (CartridgeHeader.isMbc1Type cartridgeType && _ && _ && _) = false
      simp [htype]
    · simp [plainCartridge, hsize]
  have hmbc30 : isMbc30HeaderVariant (plainCartridge cartridgeType romSize ramSize) = false := by
    have hcode : ((RamSizeInfo.decode ramSize).rawCode == 0x05) = false := by
      rw [CartridgeHeader.ramSize_rawCode_decode]
      exact beq_false_of_ne h.mbc30
    unfold isMbc30HeaderVariant plainCartridge
    rw [hcode, Bool.and_false]
  unfold classifyLoadedCartridge classifySupportedSignatureVariant
  simp only [hm161, hmani, hmbc1m, hmbc30, Bool.false_eq_true, if_false, hheuristic,
    reduceCtorEq, Option.getD_none]
  rfl

theorem parseForLoad_plain
    (h : NoMulticart cartridgeType romSize ramSize
      (plainHeader cartridgeType romSize ramSize ++ rest)) :
    CartridgeHeader.parseForLoad (plainHeader cartridgeType romSize ramSize ++ rest) =
      .ok (plainCartridge cartridgeType romSize ramSize) := by
  refine CartridgeHeader.parseForLoad_of_noMenu ?_
    (CartridgeHeader.parseMmm01MenuHeader_of_type h.menu) ?_
  · rw [CartridgeHeader.parse_append (length_plainHeader ..), parse_plainHeader]
  · unfold CartridgeHeader.parseManiMmm01MenuHeader
    refine if_pos ?_
    rcases h.mani with htype | hcode
    · have hplain : CartridgeHeader.isMbc1Type
        (plainCartridge cartridgeType romSize ramSize).cartridgeType = false := htype
      rw [hplain]
      rfl
    · have hplain : ((plainCartridge cartridgeType romSize ramSize).ramSize.rawCode != 0x00) =
          true := by
        show ((RamSizeInfo.decode ramSize).rawCode != 0x00) = true
        rw [CartridgeHeader.ramSize_rawCode_decode]
        exact bne_iff_ne.mpr hcode
      rw [hplain, Bool.or_true, Bool.true_or]

/-- It is loaded as the device of its mapper. -/
theorem load_plain {image : List U8} {family : SupportedCartridgeFamily}
    {device : CartridgeDevice} {diagnostics : List CartridgeDiagnostic}
    (himage : image = plainHeader cartridgeType romSize ramSize ++ rest)
    (h : NoMulticart cartridgeType romSize ramSize image)
    (hheuristic : compatibility.heuristicPolicy = .disabled)
    (hselection : (CartridgeClassification.classify cartridgeType).selection = .supported family)
    (hdevice : ValidationContext.loadDevice ⟨compatibility, .classify cartridgeType⟩
      (plainCartridge cartridgeType romSize ramSize) image family [] = .ok (device, diagnostics)) :
    load image compatibility = .ok { cartridge := { device := some device }, diagnostics } := by
  subst himage
  exact load_of_device (parseForLoad_plain h) (classifyLoadedCartridge_plain h hheuristic)
    hselection hdevice

end PlainImages

/-- An MBC1 image of 64 KiB with a battery and four banks of RAM. -/
def bankedRom : List U8 := plainHeader 0x03 0x01 0x03 ++ List.replicate 0xFEB0 0

theorem length_bankedRom : bankedRom.length = 0x10000 := by
  rw [bankedRom, List.length_append, List.length_replicate, length_plainHeader]
  rfl

def bankedDevice : CartridgeDevice :=
  .mbc1 (.powerOn bankedRom (plainCartridge 0x03 0x01 0x03) (.classify 0x03) .standard .standard
    0x8000)

/-- Any policy lets it through. -/
theorem load_bankedRom (compatibility : CompatibilityPolicy)
    (hheuristic : compatibility.heuristicPolicy = .disabled) : load bankedRom compatibility =
      .ok { cartridge := { device := some bankedDevice }, diagnostics := [] } := by
  have hmenu : CartridgeHeader.isStandardMmm01Type
      (byteAt bankedRom (bankedRom.length - mmm01MenuBytes + cartridgeTypeAddress)) = false := by
    rw [length_bankedRom, bankedRom, byteAt_plain (by decide), byteAt_replicate]
    rfl
  have hdevice : ValidationContext.loadDevice ⟨compatibility, .classify 0x03⟩
      (plainCartridge 0x03 0x01 0x03) bankedRom .mbc1 [] = .ok (bankedDevice, []) := by
    unfold ValidationContext.loadDevice
    rw [length_bankedRom]
    rfl
  have himage : bankedRom = plainHeader 0x03 0x01 0x03 ++ List.replicate 0xFEB0 0 := rfl
  exact load_plain himage ⟨hmenu, .inr (by decide), .inr (by decide), by decide⟩ hheuristic rfl
    hdevice

/-- The RAM is enabled, its bank 2 and the bank 3 of the image are selected. -/
def bankedSelects : List CartridgeOp :=
  [.writeRom 0x0000 0x0A, .writeRom 0x6000 1, .writeRom 0x4000 2, .writeRom 0x2000 3]

def bankedWrite : CartridgeOp := .writeRam ⟨0xA123, by decide⟩ 0x42

def bankedRun : CartridgeDevice := bankedDevice.run (bankedSelects ++ [bankedWrite])

/-- After any run of a loaded cartridge its description of an address in the RAM window agrees
with the accesses there that have no time, but for the register that starts the camera's
capture. -/
theorem describedAccess_run (hload : load romBytes compatibility = .ok report)
    (hdevice : report.cartridge.device = some loaded) (ops : List CartridgeOp)
    (address : ExternalAddress)
    (hcapture : ((loaded.run ops).describeExternalAccess address.address).target ≠
      .pocketCameraRegister 0) :
    ((loaded.run ops).describeExternalAccess address.address).Keeps (loaded.run ops)
      (·.readRam address.address) ((loaded.run ops).writeRam address.address) :=
  CartridgeDevice.describeExternalAccess_keeps (fits_run hload hdevice ops) address hcapture

theorem describedAccess_run_banked :
    (bankedRun.describeExternalAccess 0xA123).Keeps bankedRun (·.readRam 0xA123)
      (bankedRun.writeRam 0xA123) ∧
    (bankedRun.writeRam 0xA123 0x37).readRam 0xA123 = 0x37 := by
  have hcapture : (bankedRun.describeExternalAccess 0xA123).target ≠ .pocketCameraRegister 0 := by
    intro h
    cases h
  have hkeeps := describedAccess_run (load_bankedRom warning rfl) rfl
    (bankedSelects ++ [bankedWrite]) ⟨0xA123, by decide⟩ hcapture
  exact ⟨hkeeps, hkeeps.storage rfl rfl 0x37⟩

/-- After any run of a loaded cartridge every reported window shows what is read through it.  An
MBC5 image that only a lenient policy accepts may have other banks than its header says, which
the report goes by. -/
theorem mappedWindow_run (hload : load romBytes compatibility = .ok report)
    (hdevice : report.cartridge.device = some loaded)
    (hpolicy : compatibility.validationPolicy = .strict ∨ ∀ c, loaded ≠ .mbc5 c)
    (ops : List CartridgeOp) {address : U16} {window : CartridgeMappedRomWindow}
    (hwindow : (loaded.run ops).mappedRomWindow address = some window) :
    (loaded.run ops).Shows address window := by
  obtain ⟨header, classification, family, diagnostics, hsizes, hvalid⟩ := load_ok hload hdevice
  have hloaded : loaded.DeclaresBanks := by
    rcases hpolicy with hstrict | hother
    · exact ValidationContext.loadDevice_declaresBanks hsizes hstrict hvalid
    · cases loaded with
      | mbc5 c => exact absurd rfl (hother c)
      | _ => trivial
  have hbanks := CartridgeDevice.DeclaresBanks.of_fresh (loaded.fresh_run ops) hloaded
  exact CartridgeDevice.shows_mappedRomWindow hbanks (fits_run hload hdevice ops) hwindow

theorem mappedWindow_run_banked :
    ∃ window, bankedRun.mappedRomWindow 0x4567 = some window ∧ window.bank = 3 ∧
      bankedRun.Shows 0x4567 window := by
  have hother : ∀ c, bankedDevice ≠ .mbc5 c := by
    intro c h
    cases h
  exact ⟨_, rfl, rfl,
    mappedWindow_run (load_bankedRom warning rfl) rfl (.inr hother)
      (bankedSelects ++ [bankedWrite]) rfl⟩

theorem readRam_bankedRun : bankedRun.readRam 0xA123 = 0x42 := by
  have hcapture : ((bankedDevice.run bankedSelects).describeExternalAccess 0xA123).target ≠
      .pocketCameraRegister 0 := by
    intro h
    cases h
  have hkeeps := CartridgeDevice.describeExternalAccess_keeps
    (fits_run (load_bankedRom warning rfl) rfl bankedSelects) ⟨0xA123, by decide⟩ hcapture
  exact hkeeps.storage rfl rfl 0x42

/-- A state saved after any run is accepted by the freshly loaded device, which then has it,
exactly when it holds nothing that restoring normalizes; and a state that is refused, whatever it
is, leaves the device as it was. -/
theorem savedState_run (hload : load romBytes compatibility = .ok report)
    (hdevice : report.cartridge.device = some loaded) (ops : List CartridgeOp) :
    (loaded.restorePersistentState (loaded.run ops).persistentState).1 = .ok () ∧
      ((loaded.restorePersistentState (loaded.run ops).persistentState).2.persistentState =
        (loaded.run ops).persistentState ↔ (loaded.run ops).RestoresWhole) ∧
      ∀ state error, ((loaded.run ops).restorePersistentState state).1 = .error error →
        ((loaded.run ops).restorePersistentState state).2 = loaded.run ops := by
  have hfits : loaded.Fits := fits_run hload hdevice []
  obtain ⟨hok, hstate⟩ := CartridgeDevice.restorePersistentState_persistentState
    (loaded.fresh_run ops) (holds_run hload hdevice ops) hfits
  exact ⟨hok, hstate, fun state error h => CartridgeDevice.restorePersistentState_error h⟩

theorem savedState_run_banked :
    bankedRun.readRam 0xA123 = 0x42 ∧
    (bankedDevice.restorePersistentState bankedRun.persistentState).1 = .ok () ∧
    ((bankedDevice.restorePersistentState bankedRun.persistentState).2.persistentState =
      bankedRun.persistentState ↔ bankedRun.RestoresWhole) ∧
    ∀ state error, (bankedRun.restorePersistentState state).1 = .error error →
      (bankedRun.restorePersistentState state).2 = bankedRun :=
  ⟨readRam_bankedRun,
    savedState_run (load_bankedRom warning rfl) rfl (bankedSelects ++ [bankedWrite])⟩

end CartridgeSlot

end GbCycle
