import GbCycle.Cartridge.Huc1
import GbCycle.Cartridge.Huc3
import GbCycle.Cartridge.M161
import GbCycle.Cartridge.Mbc7
import GbCycle.Cartridge.Mmm01
import GbCycle.Cartridge.Validators

/-!
# Devices and the slot

A device is a cartridge of one of the twelve mappers, and does what its mapper does.  The slot
holds at most one; loading an image classifies it, validates it and puts the cartridge of its
mapper in.
-/

namespace GbCycle

inductive CartridgeDevice where
  | noMbc (cartridge : NoMbcCartridge)
  | mmm01 (cartridge : Mmm01Cartridge)
  | m161 (cartridge : M161Cartridge)
  | huc1 (cartridge : Huc1Cartridge)
  | huc3 (cartridge : Huc3Cartridge)
  | mbc1 (cartridge : Mbc1Cartridge)
  | mbc2 (cartridge : Mbc2Cartridge)
  | mbc3 (cartridge : Mbc3Cartridge)
  | mbc5 (cartridge : Mbc5Cartridge)
  | mbc6 (cartridge : Mbc6Cartridge)
  | mbc7 (cartridge : Mbc7Cartridge)
  | pocketCamera (cartridge : PocketCameraCartridge)

inductive Mbc7AccelerometerError where
  | unsupportedCartridge
  deriving Repr, DecidableEq

namespace CartridgeDevice

def romBytes : CartridgeDevice → List U8
  | noMbc c => c.rom
  | mmm01 c => c.rom
  | m161 c => c.rom
  | huc1 c => c.rom
  | huc3 c => c.rom
  | mbc1 c => c.rom
  | mbc2 c => c.rom
  | mbc3 c => c.rom
  | mbc5 c => c.rom
  | mbc6 c => c.rom
  | mbc7 c => c.rom
  | pocketCamera c => c.rom

def describeExternalAccess (address : U16) : CartridgeDevice → CartridgeExternalAccessInfo
  | noMbc c => c.describeExternalAccess address
  | mmm01 c => c.describeExternalAccess address
  | m161 c => c.describeExternalAccess address
  | huc1 c => c.describeExternalAccess address
  | huc3 c => c.describeExternalAccess address
  | mbc1 c => c.describeExternalAccess address
  | mbc2 c => c.describeExternalAccess address
  | mbc3 c => c.describeExternalAccess address
  | mbc5 c => c.describeExternalAccess address
  | mbc6 c => c.describeExternalAccess address
  | mbc7 c => c.describeExternalAccess address
  | pocketCamera c => c.describeExternalAccess address

def readRom (address : U16) : CartridgeDevice → U8
  | noMbc c => c.readRom address
  | mmm01 c => c.readRom address
  | m161 c => c.readRom address
  | huc1 c => c.readRom address
  | huc3 c => c.readRom address
  | mbc1 c => c.readRom address
  | mbc2 c => c.readRom address
  | mbc3 c => c.readRom address
  | mbc5 c => c.readRom address
  | mbc6 c => c.readRom address
  | mbc7 c => c.readRom address
  | pocketCamera c => c.readRom address

def mappedRomWindow (address : U16) : CartridgeDevice → Option CartridgeMappedRomWindow
  | noMbc c => c.mappedRomWindow address
  | mmm01 c => c.mappedRomWindow address
  | m161 c => c.mappedRomWindow address
  | huc1 c => c.mappedRomWindow address
  | huc3 c => c.mappedRomWindow address
  | mbc1 c => c.mappedRomWindow address
  | mbc2 c => c.mappedRomWindow address
  | mbc3 c => c.mappedRomWindow address
  | mbc5 c => c.mappedRomWindow address
  | mbc6 c => c.mappedRomWindow address
  | mbc7 c => c.mappedRomWindow address
  | pocketCamera c => c.mappedRomWindow address

def writeRom (address : U16) (value : U8) : CartridgeDevice → CartridgeDevice
  | noMbc c => noMbc (c.writeRom address value)
  | mmm01 c => mmm01 (c.writeRom address value)
  | m161 c => m161 (c.writeRom address value)
  | huc1 c => huc1 (c.writeRom address value)
  | huc3 c => huc3 (c.writeRom address value)
  | mbc1 c => mbc1 (c.writeRom address value)
  | mbc2 c => mbc2 (c.writeRom address value)
  | mbc3 c => mbc3 (c.writeRom address value)
  | mbc5 c => mbc5 (c.writeRom address value)
  | mbc6 c => mbc6 (c.writeRom address value)
  | mbc7 c => mbc7 (c.writeRom address value)
  | pocketCamera c => pocketCamera (c.writeRom address value)

def readRam (address : U16) : CartridgeDevice → U8
  | noMbc c => c.readRam address
  | mmm01 c => c.readRam address
  | m161 c => c.readRam address
  | huc1 c => c.readRam address
  | huc3 c => c.readRam address
  | mbc1 c => c.readRam address
  | mbc2 c => c.readRam address
  | mbc3 c => c.readRam address
  | mbc5 c => c.readRam address
  | mbc6 c => c.readRam address
  | mbc7 c => c.readRam address
  | pocketCamera c => c.readRam address

/-- Two mappers note the time of a read; for the others it is a plain read. -/
def readRamTimed (address : U16) (tCycle : Nat) : CartridgeDevice → U8 × CartridgeDevice
  | mbc3 c => let (value, c) := c.readRamTimed address tCycle; (value, mbc3 c)
  | pocketCamera c => let (value, c) := c.readRamTimed address tCycle; (value, pocketCamera c)
  | device => (device.readRam address, device)

def writeRam (address : U16) (value : U8) : CartridgeDevice → CartridgeDevice
  | noMbc c => noMbc (c.writeRam address value)
  | mmm01 c => mmm01 (c.writeRam address value)
  | m161 c => m161 (c.writeRam address value)
  | huc1 c => huc1 (c.writeRam address value)
  | huc3 c => huc3 (c.writeRam address value)
  | mbc1 c => mbc1 (c.writeRam address value)
  | mbc2 c => mbc2 (c.writeRam address value)
  | mbc3 c => mbc3 (c.writeRam address value)
  | mbc5 c => mbc5 (c.writeRam address value)
  | mbc6 c => mbc6 (c.writeRam address value)
  | mbc7 c => mbc7 (c.writeRam address value)
  | pocketCamera c => pocketCamera (c.writeRam address value)

def writeRamTimed (address : U16) (value : U8) (tCycle : Nat) : CartridgeDevice → CartridgeDevice
  | mbc3 c => mbc3 (c.writeRamTimed address value tCycle)
  | pocketCamera c => pocketCamera (c.writeRamTimed address value tCycle)
  | device => device.writeRam address value

def advanceRtcSeconds (seconds : Nat) : CartridgeDevice → CartridgeDevice
  | mbc3 c => mbc3 (c.advanceRtcSeconds seconds)
  | huc3 c => huc3 (c.advanceRtcSeconds seconds)
  | device => device

def advanceMbc3RtcClockTicks (ticks : BitVec 64) : CartridgeDevice → CartridgeDevice
  | mbc3 c => mbc3 (c.advanceRtcClockTicks ticks)
  | device => device

def advanceHuc3RtcSeconds (seconds : Nat) : CartridgeDevice → CartridgeDevice
  | huc3 c => huc3 (c.advanceRtcSeconds seconds)
  | device => device

def setMbc7AccelerometerInput (input : Mbc7AccelerometerInput) :
    CartridgeDevice → Except Mbc7AccelerometerError Unit × CartridgeDevice
  | mbc7 c => (.ok (), mbc7 (c.setAccelerometerInput input))
  | device => (.error .unsupportedCartridge, device)

def setPocketCameraFrame (frame : PocketCameraFrame) :
    CartridgeDevice → Except PocketCameraFrameError Unit × CartridgeDevice
  | pocketCamera c => let (result, c) := c.setHostFrame frame; (result, pocketCamera c)
  | device => (.error .unsupportedCartridge, device)

def clearPocketCameraFrame : CartridgeDevice → Except PocketCameraFrameError Unit × CartridgeDevice
  | pocketCamera c => (.ok (), pocketCamera c.clearHostFrame)
  | device => (.error .unsupportedCartridge, device)

def persistenceMetadata : CartridgeDevice → CartridgePersistenceMetadata
  | noMbc c => c.persistenceMetadata
  | mmm01 c => c.persistenceMetadata
  | m161 c => c.persistenceMetadata
  | huc1 c => c.persistenceMetadata
  | huc3 c => c.persistenceMetadata
  | mbc1 c => c.persistenceMetadata
  | mbc2 c => c.persistenceMetadata
  | mbc3 c => c.persistenceMetadata
  | mbc5 c => c.persistenceMetadata
  | mbc6 c => c.persistenceMetadata
  | mbc7 c => c.persistenceMetadata
  | pocketCamera c => c.persistenceMetadata

def persistentState : CartridgeDevice → PersistentCartState
  | noMbc c => c.persistentState
  | mmm01 c => c.persistentState
  | m161 c => c.persistentState
  | huc1 c => c.persistentState
  | huc3 c => c.persistentState
  | mbc1 c => c.persistentState
  | mbc2 c => c.persistentState
  | mbc3 c => c.persistentState
  | mbc5 c => c.persistentState
  | mbc6 c => c.persistentState
  | mbc7 c => c.persistentState
  | pocketCamera c => c.persistentState

def restorePersistentState (state : PersistentCartState) :
    CartridgeDevice → Except CartridgePersistentStateError Unit × CartridgeDevice
  | noMbc c => let (result, c) := c.restorePersistentState state; (result, noMbc c)
  | mmm01 c => let (result, c) := c.restorePersistentState state; (result, mmm01 c)
  | m161 c => let (result, c) := c.restorePersistentState state; (result, m161 c)
  | huc1 c => let (result, c) := c.restorePersistentState state; (result, huc1 c)
  | huc3 c => let (result, c) := c.restorePersistentState state; (result, huc3 c)
  | mbc1 c => let (result, c) := c.restorePersistentState state; (result, mbc1 c)
  | mbc2 c => let (result, c) := c.restorePersistentState state; (result, mbc2 c)
  | mbc3 c => let (result, c) := c.restorePersistentState state; (result, mbc3 c)
  | mbc5 c => let (result, c) := c.restorePersistentState state; (result, mbc5 c)
  | mbc6 c => let (result, c) := c.restorePersistentState state; (result, mbc6 c)
  | mbc7 c => let (result, c) := c.restorePersistentState state; (result, mbc7 c)
  | pocketCamera c => let (result, c) := c.restorePersistentState state; (result, pocketCamera c)

end CartridgeDevice

/-! ## The slot -/

structure CartridgeSlot where
  device : Option CartridgeDevice

structure CartridgeLoadReport where
  cartridge : CartridgeSlot
  diagnostics : List CartridgeDiagnostic

/-- `{:?}` of the category. -/
def UnsupportedCartridgeCategory.debug : UnsupportedCartridgeCategory → String
  | .plannedVariant => "PlannedVariant"
  | .documentedButUnsupported => "DocumentedButUnsupported"
  | .experimentalHeuristic => "ExperimentalHeuristic"
  | .accessorySpecialCase => "AccessorySpecialCase"
  | .unknownCode => "UnknownCode"

def unsupportedLoadReason (classification : CartridgeClassification)
    (category : UnsupportedCartridgeCategory) : String :=
  match category with
  | .plannedVariant =>
      s!"{classification.detectedName} is a known reserved variant that is not implemented yet: " ++
        classification.reason
  | .experimentalHeuristic =>
      s!"{classification.detectedName} was identified through an explicit experimental " ++
        s!"heuristic path and is not implemented: {classification.reason}"
  | category =>
      s!"{classification.detectedName} ({category.debug}) is not implemented: " ++
        classification.reason

/-- The RAM of an MBC3 cartridge: that of its header, when its type has one. -/
def mbc3RamLen (header : CartridgeHeader) (hasRam : Bool) : Option Nat :=
  if hasRam ∧ header.ramSize.decodedBytes.getD 0 ≠ 0 then
    some (header.ramSize.decodedBytes.getD 0)
  else none

/-- The cartridge of a family, once its validator has let it through. -/
def ValidationContext.loadDevice (ctx : ValidationContext) (header : CartridgeHeader)
    (romBytes : List U8) : SupportedCartridgeFamily → Validation CartridgeDevice
  | .noMbc => do
      ctx.validateNoMbc header romBytes.length
      return .noMbc (.powerOn romBytes header ctx.classification)
  | .mmm01 => do
      let ramLen ← ctx.validateMmm01 header romBytes.length
      return .mmm01 (.powerOn romBytes header ctx.classification ramLen)
  | .m161 => do
      ctx.validateM161 header romBytes.length
      return .m161 (.powerOn romBytes header ctx.classification)
  | .huc1 => do
      let ramLen ← ctx.validateHuc1 header romBytes.length
      return .huc1 (.powerOn romBytes header ctx.classification ramLen)
  | .huc3 => do
      let ramLen ← ctx.validateHuc3 header romBytes.length
      return .huc3
        (Huc3Cartridge.powerOn romBytes header ctx.classification ramLen).initializeRuntimeState
  | .mbc1 => do
      let layout ← ctx.validateMbc1 header romBytes.length
      return .mbc1
        (.powerOn romBytes header ctx.classification layout.variant layout.wiring layout.ramLen)
  | .mbc2 => do
      ctx.validateMbc2 header romBytes.length
      return .mbc2 (.powerOn romBytes header ctx.classification)
  | .mbc3 => do
      let layout ← ctx.validateMbc3 header romBytes.length
      let rawType := ctx.classification.rawType
      return .mbc3
        (.powerOn romBytes header ctx.classification layout
          (rawType = 0x0F ∨ rawType = 0x10 ∨ rawType = 0x13) (rawType = 0x0F ∨ rawType = 0x10)
          (mbc3RamLen header ctx.mbc3HasRam))
  | .mbc5 => do
      let layout ← ctx.validateMbc5 header romBytes.length
      return .mbc5
        (.powerOn romBytes header ctx.classification layout.variant layout.romLayout layout.ramLen)
  | .mbc6 => do
      ctx.validateMbc6 header romBytes.length
      return .mbc6 (.powerOn romBytes header ctx.classification)
  | .mbc7 => do
      ctx.validateMbc7 header romBytes.length
      return .mbc7 (.powerOn romBytes header ctx.classification)
  | .pocketCamera => do
      ctx.validatePocketCamera header romBytes.length
      return .pocketCamera (.powerOn romBytes header ctx.classification)

namespace CartridgeSlot

def empty : CartridgeSlot := { device := none }

def load (romBytes : List U8) (compatibility : CompatibilityPolicy) :
    Except CartridgeLoadError CartridgeLoadReport :=
  match CartridgeHeader.parseForLoad romBytes with
  | .error error => .error (.headerParse error)
  | .ok header =>
      let classification := classifyLoadedCartridge header romBytes compatibility
      match classification.selection with
      | .supported family =>
          match ValidationContext.loadDevice { compatibility, classification } header romBytes
            family [] with
          | .error error => .error error
          | .ok (device, diagnostics) => .ok { cartridge := { device := some device }, diagnostics }
      | .unsupported category =>
          .error
            (.rejected classification compatibility.executionMode
              (unsupportedLoadReason classification category) [])

def readRom (slot : CartridgeSlot) (address : U16) : U8 :=
  slot.device.elim ramAbsentReadValue (·.readRom address)

def readRam (slot : CartridgeSlot) (address : U16) : U8 :=
  slot.device.elim ramAbsentReadValue (·.readRam address)

def readRamTimed (slot : CartridgeSlot) (address : U16) (tCycle : Nat) : U8 × CartridgeSlot :=
  match slot.device with
  | none => (ramAbsentReadValue, slot)
  | some device =>
      let (value, device) := device.readRamTimed address tCycle
      (value, { device := some device })

def writeRom (slot : CartridgeSlot) (address : U16) (value : U8) : CartridgeSlot :=
  { device := slot.device.map (·.writeRom address value) }

def writeRam (slot : CartridgeSlot) (address : U16) (value : U8) : CartridgeSlot :=
  { device := slot.device.map (·.writeRam address value) }

def writeRamTimed (slot : CartridgeSlot) (address : U16) (value : U8) (tCycle : Nat) :
    CartridgeSlot :=
  { device := slot.device.map (·.writeRamTimed address value tCycle) }

def describeExternalAccess (slot : CartridgeSlot) (address : U16) : CartridgeExternalAccessInfo :=
  slot.device.elim (.noDevice address) (·.describeExternalAccess address)

def persistenceMetadata (slot : CartridgeSlot) : CartridgePersistenceMetadata :=
  slot.device.elim { hasBattery := false, hasRtc := false, profile := .none }
    (·.persistenceMetadata)

def persistentState (slot : CartridgeSlot) : PersistentCartState :=
  slot.device.elim .none (·.persistentState)

end CartridgeSlot

end GbCycle
