import GbCycle.Persistence.MachineState
import GbCycle.Rewind.Buffer

/-!
# Capturing and restoring the machine

What the machine itself adds to its devices when it is captured and restored: the metadata of
a capture, the comparison of these with the machine, field after field, and the order in which
a restore checks and writes.  The devices are a parameter; of the cartridge and the boot
controller the machine asks what they are, and of the cartridge whether a state fits it.
-/

namespace GbCycle

/-- The part of the configuration that a save state names. -/
structure MachineConfig where
  consoleModel : ConsoleModel
  operatingMode : OperatingMode
  revision : HardwareRevision
  hostPlatform : HostPlatform
  sgbProfile : Option SgbHostProfile
  startupMode : StartupMode
  compatibility : CompatibilityPolicy
  deriving Repr, DecidableEq

/-- Everything of a machine but its configuration and the counter of its scheduler.  The hand-over
of a boot ROM may change the operating mode in a T-cycle. -/
class MachineDevices (δ : Type) where
  SaveState : Type
  CartridgeRuntimeSaveStateError : Type
  HostInput : Type
  cartridgeSaveStateMetadata : δ → MachineCartridgeSaveStateMetadata
  bootSaveStateMetadata : δ → MachineBootSaveStateMetadata
  stepTCycle : MachineConfig → BitVec 64 → δ → HostInput → OperatingMode × δ
  captureSaveState : δ → SaveState
  validateCartridge : δ → SaveState → Except CartridgeRuntimeSaveStateError Unit
  restoreSaveState : δ → SaveState → δ
  inlineBytes : Nat
  dynamicPayloadBytes : SaveState → Nat

open MachineDevices (CartridgeRuntimeSaveStateError)

inductive MachineSaveStateRestoreError (ε : Type) where
  | consoleModelMismatch (expected actual : ConsoleModel)
  | operatingModeMismatch (expected actual : OperatingMode)
  | hardwareRevisionMismatch (expected actual : HardwareRevision)
  | hostPlatformMismatch (expected actual : HostPlatform)
  | sgbProfileMismatch (expected actual : Option SgbHostProfile)
  | startupModeMismatch (expected actual : StartupMode)
  | compatibilityMismatch
  | cartridgeMismatch (expected actual : MachineCartridgeSaveStateMetadata)
  | bootRomMismatch (expected actual : MachineBootSaveStateMetadata)
  | cartridgeRuntime (error : ε)
  deriving Repr, DecidableEq

structure MachineCoreSaveState (δ : Type) [MachineDevices δ] where
  nextTCycle : BitVec 64
  devices : MachineDevices.SaveState δ

structure Machine (δ : Type) where
  config : MachineConfig
  nextTCycle : BitVec 64
  devices : δ

/-- Whether the boot ROM is still mapped is part of the state, and not compared. -/
def bootSaveStateMetadataIsCompatible (expected actual : MachineBootSaveStateMetadata) : Bool :=
  expected.startupMode = actual.startupMode &&
    expected.bootRomFingerprint = actual.bootRomFingerprint

namespace Machine

variable {δ : Type} [MachineDevices δ]

def saveStateMetadata (m : Machine δ) : MachineSaveStateMetadata where
  consoleModel := m.config.consoleModel
  operatingMode := m.config.operatingMode
  revision := m.config.revision
  hostPlatform := m.config.hostPlatform
  sgbProfile := m.config.sgbProfile
  startupMode := m.config.startupMode
  compatibility := m.config.compatibility
  nextTCycle := m.nextTCycle
  cartridge := MachineDevices.cartridgeSaveStateMetadata m.devices
  boot := MachineDevices.bootSaveStateMetadata m.devices

def captureSaveState (m : Machine δ) : MachineSaveState (MachineCoreSaveState δ) where
  metadata := m.saveStateMetadata
  core :=
    { nextTCycle := m.nextTCycle
      devices := MachineDevices.captureSaveState m.devices }

def validateSaveStateMetadata (m : Machine δ) (metadata : MachineSaveStateMetadata) :
    Except (MachineSaveStateRestoreError (CartridgeRuntimeSaveStateError δ)) Unit :=
  if metadata.consoleModel ≠ m.config.consoleModel then
    .error (.consoleModelMismatch metadata.consoleModel m.config.consoleModel)
  else if metadata.operatingMode ≠ m.config.operatingMode then
    .error (.operatingModeMismatch metadata.operatingMode m.config.operatingMode)
  else if metadata.revision ≠ m.config.revision then
    .error (.hardwareRevisionMismatch metadata.revision m.config.revision)
  else if metadata.hostPlatform ≠ m.config.hostPlatform then
    .error (.hostPlatformMismatch metadata.hostPlatform m.config.hostPlatform)
  else if metadata.sgbProfile ≠ m.config.sgbProfile then
    .error (.sgbProfileMismatch metadata.sgbProfile m.config.sgbProfile)
  else if metadata.startupMode ≠ m.config.startupMode then
    .error (.startupModeMismatch metadata.startupMode m.config.startupMode)
  else if metadata.compatibility ≠ m.config.compatibility then .error .compatibilityMismatch
  else
    let actualCartridge := MachineDevices.cartridgeSaveStateMetadata m.devices
    if metadata.cartridge ≠ actualCartridge then
      .error (.cartridgeMismatch metadata.cartridge actualCartridge)
    else
      let actualBoot := MachineDevices.bootSaveStateMetadata m.devices
      if !bootSaveStateMetadataIsCompatible metadata.boot actualBoot then
        .error (.bootRomMismatch metadata.boot actualBoot)
      else .ok ()

/-- `TCycle::next` expects that the counter has not overflowed. -/
def stepTCycle (m : Machine δ) (input : MachineDevices.HostInput δ) : Option (Machine δ) :=
  if m.nextTCycle.toNat + 1 < 2 ^ 64 then
    let (operatingMode, devices) :=
      MachineDevices.stepTCycle m.config m.nextTCycle m.devices input
    some
      { config := { m.config with operatingMode }, nextTCycle := m.nextTCycle + 1, devices }
  else none

theorem nextTCycle_stepTCycle {m m' : Machine δ} {input : MachineDevices.HostInput δ}
    (h : m.stepTCycle input = some m') : m'.nextTCycle.toNat = m.nextTCycle.toNat + 1 := by
  unfold stepTCycle at h
  split at h
  · rename_i hroom
    cases h
    show (m.nextTCycle + 1).toNat = _
    rw [BitVec.toNat_add]
    exact Nat.mod_eq_of_lt hroom
  · cases h

/-- The machine of the rewind buffer. -/
instance : RewindMachine (Machine δ) where
  SaveState := MachineSaveState (MachineCoreSaveState δ)
  RestoreError := MachineSaveStateRestoreError (CartridgeRuntimeSaveStateError δ)
  HostInput := MachineDevices.HostInput δ
  nextTCycle m := m.nextTCycle.toNat
  step := stepTCycle
  captureSaveState := captureSaveState
  validateSaveStateMetadata m state := m.validateSaveStateMetadata state.metadata
  validateCartridgeSaveState m state :=
    (MachineDevices.validateCartridge m.devices state.core.devices).mapError .cartridgeRuntime
  writeSaveState m state :=
    { m with
      nextTCycle := state.core.nextTCycle
      devices := MachineDevices.restoreSaveState m.devices state.core.devices }
  metadataNextTCycle state := state.metadata.nextTCycle.toNat
  deepSizeBytes state :=
    saturatingAdd 64 (MachineDevices.inlineBytes δ)
      (MachineDevices.dynamicPayloadBytes state.core.devices)
  nextTCycle_step _ h := nextTCycle_stepTCycle h ▸ Nat.lt_succ_self _
  metadata_capture _ := rfl
  nextTCycle_write _ _ := rfl

end Machine

end GbCycle
