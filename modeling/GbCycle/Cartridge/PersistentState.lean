import GbCycle.Word

/-!
# What a cartridge keeps without power

Each mapper has its own shape of backing store.  Memory of a size that depends on the
cartridge is a list; the nibble arrays of MBC2 and HuC-3 have the size the chip has.
-/

namespace GbCycle

inductive CartridgeRamPayloadKind where
  | linear (byteLen : Nat)
  | mbc2Nibbles (cellCount : Nat)
  deriving Repr, DecidableEq

inductive CartridgePersistenceProfile where
  | none
  | nonPersistentRam (ram : CartridgeRamPayloadKind)
  | persistentRam (ram : CartridgeRamPayloadKind)
  | persistentRtc
  | persistentRamAndRtc (ram : CartridgeRamPayloadKind)
  | persistentRamAndFlash (ram : CartridgeRamPayloadKind) (flashByteLen hiddenByteLen : Nat)
  | persistentEeprom (byteLen : Nat)
  deriving Repr, DecidableEq

structure CartridgePersistenceMetadata where
  hasBattery : Bool
  hasRtc : Bool
  profile : CartridgePersistenceProfile
  deriving Repr, DecidableEq

structure Mbc3RtcPersistentState where
  seconds : U8
  minutes : U8
  hours : U8
  dayCounter : U16
  halt : Bool
  carry : Bool
  deriving Repr, DecidableEq

structure Huc3RtcPersistentState where
  currentMinutesOfDay : U16
  currentDays : U16
  currentSubminuteSeconds : U8
  eventMinutesOfDay : U16
  eventDays : U16
  deriving Repr, DecidableEq

def mbc2RamCellCount : Nat := 512
def huc3McuRamNibbleCount : Nat := 256

/-- The HuC-3 state besides its RAM. -/
structure Huc3PersistentState where
  mcuRam : Vector U8 huc3McuRamNibbleCount
  rtc : Huc3RtcPersistentState
  romBank : U8
  ramBank : U8
  selectMode : U8
  accessAddress : U8
  mailboxCommand : U8
  mailboxArgument : U8
  lastResponseNybble : U8
  semaphoreReady : Bool
  irEmitterOn : Bool
  irLightDetected : Bool
  lastControlWrite : Option U8
  lastUnsupportedCommand : Option U8
  lastUnsupportedArgument : Option U8
  deriving Repr, DecidableEq

inductive PersistentCartState where
  | none
  | noMbcRam (ram : List U8)
  | mmm01Ram (ram : List U8)
  | huc1Ram (ram : List U8)
  | huc3 (ram : List U8) (huc3 : Huc3PersistentState)
  | mbc1Ram (ram : List U8)
  | mbc2Ram (ramNibbles : Vector U8 mbc2RamCellCount)
  | mbc3Rtc (rtc : Mbc3RtcPersistentState)
  | mbc3Ram (ram : List U8)
  | mbc3RamRtc (ram : List U8) (rtc : Mbc3RtcPersistentState)
  | mbc5Ram (ram : List U8)
  | mbc6 (ram flash hiddenRegion : List U8) (sector0Protected : Bool)
  | mbc7Eeprom (eeprom : List U8)
  | pocketCameraRam (ram : List U8)
  deriving Repr, DecidableEq

def PersistentCartState.kindName : PersistentCartState → String
  | .none => "None"
  | .noMbcRam _ => "NoMbcRam"
  | .mmm01Ram _ => "Mmm01Ram"
  | .huc1Ram _ => "Huc1Ram"
  | .huc3 .. => "Huc3"
  | .mbc1Ram _ => "Mbc1Ram"
  | .mbc2Ram _ => "Mbc2Ram"
  | .mbc3Rtc _ => "Mbc3Rtc"
  | .mbc3Ram _ => "Mbc3Ram"
  | .mbc3RamRtc .. => "Mbc3RamRtc"
  | .mbc5Ram _ => "Mbc5Ram"
  | .mbc6 .. => "Mbc6"
  | .mbc7Eeprom _ => "Mbc7Eeprom"
  | .pocketCameraRam _ => "PocketCameraRam"

/-- Why a cartridge refuses a state. -/
inductive CartridgePersistentStateError where
  | kindMismatch (expected actual : String)
  | ramLengthMismatch (expected actual : Nat)
  | eepromLengthMismatch (expected actual : Nat)
  | invalidMbc2NibbleValue (index : Nat) (value : U8)
  | invalidHuc3NibbleValue (index : Nat) (value : U8)
  deriving Repr, DecidableEq

end GbCycle
