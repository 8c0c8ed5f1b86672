import GbCycle.Model
import GbCycle.Persistence.Envelope

/-!
# The machine's save state as a file

A machine's state file is a magic, a format version, metadata that say which machine the state
is of, and the state itself as a length and a payload.  The metadata are written tag by tag;
every enumeration has its own tags.  The payload is the business of a serializer.
-/

namespace GbCycle

open Wire (Decoder)

def machineSaveStateMagic : List U8 := [0x47, 0x42, 0x53, 0x54, 0x41, 0x54, 0x45, 0x00]
def currentMachineSaveStateFormatVersion : U16 := 1

/-! ## Metadata -/

inductive CartridgeSlotState where
  | empty
  | noMbc
  | mmm01
  | m161
  | huc1
  | huc3
  | mbc1
  | mbc2
  | mbc3
  | mbc5
  | mbc6
  | mbc7
  | pocketCamera
  deriving Repr, DecidableEq

structure SaveStateByteFingerprint where
  len : BitVec 64
  fnv1a64 : BitVec 64
  deriving Repr, DecidableEq

structure MachineCartridgeSaveStateMetadata where
  state : CartridgeSlotState
  romFingerprint : Option SaveStateByteFingerprint
  deriving Repr, DecidableEq

structure MachineBootSaveStateMetadata where
  startupMode : StartupMode
  bootRomMapped : Bool
  bootRomFingerprint : Option SaveStateByteFingerprint
  deriving Repr, DecidableEq

structure MachineSaveStateMetadata where
  consoleModel : ConsoleModel
  operatingMode : OperatingMode
  revision : HardwareRevision
  hostPlatform : HostPlatform
  sgbProfile : Option SgbHostProfile
  startupMode : StartupMode
  compatibility : CompatibilityPolicy
  nextTCycle : BitVec 64
  cartridge : MachineCartridgeSaveStateMetadata
  boot : MachineBootSaveStateMetadata
  deriving Repr, DecidableEq

/-! ## Tags -/

/-- A value by its tag. -/
def decodeTag {α : Type} (ofTag : Nat → Option α) (tag : U8) (field : String) : Reader α :=
  match ofTag tag.toNat with
  | some value => pure value
  | none => Decoder.fail (.unsupportedMachineSaveStateTag field tag)

def encodeConsoleModel : ConsoleModel → U8
  | .gameBoy => 1
  | .gameBoyPocket => 2
  | .gameBoyColor => 3
  | .gameBoyLight => 4
  | .gameBoyAdvance => 5

def decodeConsoleModel : U8 → String → Reader ConsoleModel := decodeTag fun
  | 0 => some .gameBoy
  | 1 => some .gameBoy
  | 2 => some .gameBoyPocket
  | 3 => some .gameBoyColor
  | 4 => some .gameBoyLight
  | 5 => some .gameBoyAdvance
  | _ => none

def encodeOperatingMode : OperatingMode → U8
  | .dmg => 0
  | .cgb => 1
  | .gbCompatible => 2
  | .cgbDmgExt => 3

def decodeOperatingMode : U8 → String → Reader OperatingMode := decodeTag fun
  | 0 => some .dmg
  | 1 => some .cgb
  | 2 => some .gbCompatible
  | 3 => some .cgbDmgExt
  | _ => none

def encodeRevision : HardwareRevision → U8
  | .dmgCpu0 => 0
  | .dmgCpuA => 1
  | .dmgCpuB => 2
  | .dmgCpuC => 3
  | .cpuMgb => 4
  | .cpuCgb0 => 5
  | .cpuCgbA => 6
  | .cpuCgbB => 7
  | .cpuCgbC => 8
  | .cpuCgbD => 9
  | .cpuCgbE => 10
  | .cpuAgbA => 11
  | .cpuAgb0 => 12

def decodeRevision : U8 → String → Reader HardwareRevision := decodeTag fun
  | 0 => some .dmgCpu0
  | 1 => some .dmgCpuA
  | 2 => some .dmgCpuB
  | 3 => some .dmgCpuC
  | 4 => some .cpuMgb
  | 5 => some .cpuCgb0
  | 6 => some .cpuCgbA
  | 7 => some .cpuCgbB
  | 8 => some .cpuCgbC
  | 9 => some .cpuCgbD
  | 10 => some .cpuCgbE
  | 11 => some .cpuAgbA
  | 12 => some .cpuAgb0
  | _ => none

def encodeHostPlatform : HostPlatform → U8
  | .handheld => 0
  | .sgb => 1
  | .sgb2 => 2

def decodeHostPlatform : U8 → String → Reader HostPlatform := decodeTag fun
  | 0 => some .handheld
  | 1 => some .sgb
  | 2 => some .sgb2
  | _ => none

def encodeSgbHostProfile : SgbHostProfile → U8
  | .sgbNtsc => 0
  | .sgbPal => 1
  | .sgb2Ntsc => 2

def decodeSgbHostProfile : U8 → String → Reader SgbHostProfile := decodeTag fun
  | 0 => some .sgbNtsc
  | 1 => some .sgbPal
  | 2 => some .sgb2Ntsc
  | _ => none

def encodeStartupMode : StartupMode → U8
  | .skipBoot => 0
  | .realBoot => 1
  | .customBoot => 2

def decodeStartupMode : U8 → String → Reader StartupMode := decodeTag fun
  | 0 => some .skipBoot
  | 1 => some .realBoot
  | 2 => some .customBoot
  | _ => none

def encodeExecutionMode : ExecutionMode → U8
  | .strict => 0
  | .permissive => 1
  | .experimental => 2

def decodeExecutionMode : U8 → String → Reader ExecutionMode := decodeTag fun
  | 0 => some .strict
  | 1 => some .permissive
  | 2 => some .experimental
  | _ => none

def encodeValidationPolicy : ValidationPolicy → U8
  | .strict => 0
  | .warn => 1
  | .ignore => 2

def decodeValidationPolicy : U8 → String → Reader ValidationPolicy := decodeTag fun
  | 0 => some .strict
  | 1 => some .warn
  | 2 => some .ignore
  | _ => none

def encodeHeuristicPolicy : HeuristicPolicy → U8
  | .disabled => 0
  | .allowExperimental => 1

def decodeHeuristicPolicy : U8 → String → Reader HeuristicPolicy := decodeTag fun
  | 0 => some .disabled
  | 1 => some .allowExperimental
  | _ => none

def encodeDiagnosticPolicy : DiagnosticPolicy → U8
  | .quiet => 0
  | .standard => 1
  | .verbose => 2

def decodeDiagnosticPolicy : U8 → String → Reader DiagnosticPolicy := decodeTag fun
  | 0 => some .quiet
  | 1 => some .standard
  | 2 => some .verbose
  | _ => none

def encodeCartridgeSlotState : CartridgeSlotState → U8
  | .empty => 0
  | .noMbc => 1
  | .mmm01 => 2
  | .m161 => 3
  | .huc1 => 4
  | .huc3 => 5
  | .mbc1 => 6
  | .mbc2 => 7
  | .mbc3 => 8
  | .mbc5 => 9
  | .pocketCamera => 10
  | .mbc6 => 11
  | .mbc7 => 12

def decodeCartridgeSlotState : U8 → String → Reader CartridgeSlotState := decodeTag fun
  | 0 => some .empty
  | 1 => some .noMbc
  | 2 => some .mmm01
  | 3 => some .m161
  | 4 => some .huc1
  | 5 => some .huc3
  | 6 => some .mbc1
  | 7 => some .mbc2
  | 8 => some .mbc3
  | 9 => some .mbc5
  | 10 => some .pocketCamera
  | 11 => some .mbc6
  | 12 => some .mbc7
  | _ => none

/-! ## Optional parts -/

def encodeOptionalTag (tag : Option U8) : List U8 := writeBool tag.isSome ++ tag.toList

def decodeOptionalTag (field : String) : Reader (Option U8) := do
  let present ← readBool field
  if present then return some (← readU8)
  else pure none

/-- An optional value by its optional tag. -/
def decodeOptional {α : Type} (decode : U8 → String → Reader α) (field : String) :
    Reader (Option α) := do
  match ← decodeOptionalTag field with
  | none => pure none
  | some tag => return some (← decode tag field)

def encodeFingerprint (fingerprint : Option SaveStateByteFingerprint) : List U8 :=
  writeBool fingerprint.isSome ++
    match fingerprint with
    | none => []
    | some fingerprint => writeU64 fingerprint.len ++ writeU64 fingerprint.fnv1a64

def decodeFingerprint (field : String) : Reader (Option SaveStateByteFingerprint) := do
  let present ← readBool field
  if present then do
    let len ← readU64
    let fnv1a64 ← readU64
    pure (some { len, fnv1a64 })
  else pure none

/-! ## The policies -/

def encodeOverridePolicy (policy : OverridePolicy) : List U8 :=
  encodeOptionalTag (policy.forcedConsoleModel.map encodeConsoleModel) ++
    encodeOptionalTag (policy.forcedOperatingMode.map encodeOperatingMode) ++
    encodeOptionalTag (policy.forcedHostPlatform.map encodeHostPlatform) ++
    encodeOptionalTag (policy.forcedStartupMode.map encodeStartupMode)

def decodeOverridePolicy : Reader OverridePolicy := do
  let forcedConsoleModel ← decodeOptional decodeConsoleModel "override.forced_console_model"
  let forcedOperatingMode ← decodeOptional decodeOperatingMode "override.forced_operating_mode"
  let forcedHostPlatform ← decodeOptional decodeHostPlatform "override.forced_host_platform"
  let forcedStartupMode ← decodeOptional decodeStartupMode "override.forced_startup_mode"
  pure { forcedConsoleModel, forcedOperatingMode, forcedHostPlatform, forcedStartupMode }

def encodeCompatibilityPolicy (policy : CompatibilityPolicy) : List U8 :=
  [encodeExecutionMode policy.executionMode, encodeValidationPolicy policy.validationPolicy,
    encodeHeuristicPolicy policy.heuristicPolicy] ++
    encodeOverridePolicy policy.overridePolicy ++ [encodeDiagnosticPolicy policy.diagnosticPolicy]

def decodeCompatibilityPolicy : Reader CompatibilityPolicy := do
  let executionMode ← decodeExecutionMode (← readU8) "compatibility.execution_mode"
  let validationPolicy ← decodeValidationPolicy (← readU8) "compatibility.validation_policy"
  let heuristicPolicy ← decodeHeuristicPolicy (← readU8) "compatibility.heuristic_policy"
  let overridePolicy ← decodeOverridePolicy
  let diagnosticPolicy ← decodeDiagnosticPolicy (← readU8) "compatibility.diagnostic_policy"
  pure { executionMode, validationPolicy, heuristicPolicy, overridePolicy, diagnosticPolicy }

/-! ## All of the metadata -/

def encodeMachineSaveStateMetadata (metadata : MachineSaveStateMetadata) : List U8 :=
  [encodeConsoleModel metadata.consoleModel, encodeOperatingMode metadata.operatingMode,
    encodeRevision metadata.revision, encodeHostPlatform metadata.hostPlatform] ++
    encodeOptionalTag (metadata.sgbProfile.map encodeSgbHostProfile) ++
    [encodeStartupMode metadata.startupMode] ++
    encodeCompatibilityPolicy metadata.compatibility ++ writeU64 metadata.nextTCycle ++
    [encodeCartridgeSlotState metadata.cartridge.state] ++
    encodeFingerprint metadata.cartridge.romFingerprint ++
    [encodeStartupMode metadata.boot.startupMode] ++ writeBool metadata.boot.bootRomMapped ++
    encodeFingerprint metadata.boot.bootRomFingerprint

def decodeMachineSaveStateMetadata : Reader MachineSaveStateMetadata := do
  let consoleModel ← decodeConsoleModel (← readU8) "console_model"
  let operatingMode ← decodeOperatingMode (← readU8) "operating_mode"
  let revision ← decodeRevision (← readU8) "revision"
  let hostPlatform ← decodeHostPlatform (← readU8) "host_platform"
  let sgbProfile ← decodeOptional decodeSgbHostProfile "sgb_profile"
  let startupMode ← decodeStartupMode (← readU8) "startup_mode"
  let compatibility ← decodeCompatibilityPolicy
  let nextTCycle ← readU64
  let cartridgeState ← decodeCartridgeSlotState (← readU8) "cartridge.state"
  let romFingerprint ← decodeFingerprint "cartridge.rom_fingerprint"
  let bootStartupMode ← decodeStartupMode (← readU8) "boot.startup_mode"
  let bootRomMapped ← readBool "boot.boot_rom_mapped"
  let bootRomFingerprint ← decodeFingerprint "boot.boot_rom_fingerprint"
  pure { consoleModel, operatingMode, revision, hostPlatform, sgbProfile, startupMode,
         compatibility, nextTCycle
         cartridge := { state := cartridgeState, romFingerprint }
         boot := { startupMode := bootStartupMode, bootRomMapped, bootRomFingerprint } }

/-! ## The envelope -/

/-- A state of the machine: what it says of itself, and `γ` for all the rest. -/
structure MachineSaveState (γ : Type) where
  metadata : MachineSaveStateMetadata
  core : γ
  deriving Repr, DecidableEq

structure MachineSaveStateBackendMetadata where
  formatVersion : U16
  deriving Repr, DecidableEq

structure MachineSaveStateEnvelope (γ : Type) where
  backendMetadata : MachineSaveStateBackendMetadata
  stateMetadata : MachineSaveStateMetadata
  state : MachineSaveState γ
  deriving Repr, DecidableEq

def MachineSaveStateEnvelope.new {γ : Type} (state : MachineSaveState γ) :
    MachineSaveStateEnvelope γ :=
  { backendMetadata := { formatVersion := currentMachineSaveStateFormatVersion }
    stateMetadata := state.metadata
    state := state }

/-- The serializer of states, which may fail with a message. -/
structure StateSerializer (γ : Type) where
  intoWriter : MachineSaveState γ → Except String (List U8)
  fromReader : List U8 → Except String (MachineSaveState γ)

section Envelope

variable {γ : Type} (serializer : StateSerializer γ)

def codecError {α : Type} (operation : String) :
    Except String α → Except CartridgeSaveBackendError α
  | .ok value => .ok value
  | .error message => .error (.machineSaveStateCodec operation message)

def encodeMachineSaveStateEnvelope (e : MachineSaveStateEnvelope γ) : Encoded := do
  let payload ← codecError "encode" (serializer.intoWriter e.state)
  let payloadLen ← writeU32Checked payload.length "machine save-state payload byte_len"
  return machineSaveStateMagic ++ writeU16 e.backendMetadata.formatVersion ++
    encodeMachineSaveStateMetadata e.stateMetadata ++ payloadLen ++ payload

/-- The metadata and the payload at the front of a byte string. -/
def readMachineSaveState : Reader (MachineSaveStateMetadata × List U8) := do
  let actualMagic ← readExact machineSaveStateMagic.length
  if actualMagic ≠ machineSaveStateMagic then
    Decoder.fail (.invalidMagic actualMagic)
  else do
    let formatVersion ← readU16
    if formatVersion ≠ currentMachineSaveStateFormatVersion then
      Decoder.fail (.unsupportedFormatVersion formatVersion)
    else do
      let stateMetadata ← decodeMachineSaveStateMetadata
      let payloadLen ← readU32
      let payload ← readExact payloadLen
      pure (stateMetadata, payload)

def decodeMachineSaveStateEnvelope (bytes : List U8) :
    Except CartridgeSaveBackendError (MachineSaveStateEnvelope γ) :=
  match readMachineSaveState.run ⟨0, bytes⟩ with
  | .error e => .error e
  | .ok ((stateMetadata, payload), cursor) => do
      let state ← codecError "decode" (serializer.fromReader payload)
      if state.metadata ≠ stateMetadata then .error .machineSaveStateMetadataMismatch
      else if cursor.rest.length ≠ 0 then .error (.trailingBytes cursor.rest.length)
      else
        pure { backendMetadata := { formatVersion := currentMachineSaveStateFormatVersion }
               stateMetadata := stateMetadata
               state := state }

end Envelope

end GbCycle
