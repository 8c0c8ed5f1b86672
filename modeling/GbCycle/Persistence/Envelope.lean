import GbCycle.Cartridge.PersistentState
import GbCycle.Wire.LittleEndian

/-!
# The save envelope

A save file is a magic, a format version, the time of the save, the cartridge's metadata and
the state of its backing store.  `encodeCartridgeSaveEnvelope` writes it and
`decodeCartridgeSaveEnvelope` reads it; every part has a pair of functions of its own.  An
encoder returns the bytes it appends.
-/

namespace GbCycle

open Wire (Decoder leBytes)

def saveMagic : List U8 := [0x47, 0x42, 0x43, 0x53, 0x41, 0x56, 0x45, 0x00]
def currentSaveFormatVersion : U16 := 1

structure CartridgeSaveBackendMetadata where
  formatVersion : U16
  savedAtUnixSeconds : BitVec 64
  deriving Repr, DecidableEq

structure CartridgeSaveEnvelope where
  backendMetadata : CartridgeSaveBackendMetadata
  cartridgeMetadata : CartridgePersistenceMetadata
  persistentState : PersistentCartState
  deriving Repr, DecidableEq

inductive CartridgeSaveBackendError where
  | io (operation : String)
  | invalidMagic (actual : List U8)
  | unexpectedEof (offset needed remaining : Nat)
  | unsupportedFormatVersion (version : U16)
  | unsupportedRamPayloadKindTag (tag : U8)
  | unsupportedPersistenceProfileTag (tag : U8)
  | unsupportedPersistentStateTag (tag : U8)
  | unsupportedMachineSaveStateTag (field : String) (tag : U8)
  | invalidBooleanTag (field : String) (value : U8)
  | lengthOverflow (field : String) (value : Nat)
  | invalidMbc2NibbleValue (index : Nat) (value : U8)
  | invalidHuc3NibbleValue (index : Nat) (value : U8)
  | machineSaveStateCodec (operation message : String)
  | machineSaveStateMetadataMismatch
  | trailingBytes (remaining : Nat)
  deriving Repr, DecidableEq

abbrev Encoded := Except CartridgeSaveBackendError (List U8)
abbrev Reader (α : Type) := Decoder CartridgeSaveBackendError U8 α

/-! ## The wire -/

def writeBool (value : Bool) : List U8 := [if value then 1 else 0]
def writeU16 (value : U16) : List U8 := leBytes 2 value.toNat
def writeU64 (value : BitVec 64) : List U8 := leBytes 8 value.toNat

def writeU32Checked (value : Nat) (field : String) : Encoded :=
  if value < 2 ^ 32 then .ok (leBytes 4 value) else .error (.lengthOverflow field value)

def readExact (len : Nat) : Reader (List U8) := Decoder.take .unexpectedEof len

def readVec (len : Nat) : Reader (List U8) := readExact len

def readU8 : Reader U8 := do
  let bytes ← readExact 1
  pure (bytes.headD 0)

def readU16 : Reader U16 := do
  let value ← Decoder.leNat .unexpectedEof 2
  pure (BitVec.ofNat 16 value)

def readU32 : Reader Nat := Decoder.leNat .unexpectedEof 4

def readU64 : Reader (BitVec 64) := do
  let value ← Decoder.leNat .unexpectedEof 8
  pure (BitVec.ofNat 64 value)

def readBool (field : String) : Reader Bool := do
  let value ← readU8
  if value = 0 then pure false
  else if value = 1 then pure true
  else Decoder.fail (.invalidBooleanTag field value)

/-! ## Metadata -/

def encodeRamPayloadKind : CartridgeRamPayloadKind → Encoded
  | .linear byteLen => do
      let len ← writeU32Checked byteLen "linear RAM byte_len"
      return 0 :: len
  | .mbc2Nibbles cellCount => do
      let len ← writeU32Checked cellCount "MBC2 RAM cell_count"
      return 1 :: len

def decodeRamPayloadKind : Reader CartridgeRamPayloadKind := do
  let tag ← readU8
  let len ← readU32
  if tag = 0 then pure (.linear len)
  else if tag = 1 then pure (.mbc2Nibbles len)
  else Decoder.fail (.unsupportedRamPayloadKindTag tag)

def encodePersistenceProfile : CartridgePersistenceProfile → Encoded
  | .none => .ok [0]
  | .nonPersistentRam ram => do return 1 :: (← encodeRamPayloadKind ram)
  | .persistentRam ram => do return 2 :: (← encodeRamPayloadKind ram)
  | .persistentRtc => .ok [3]
  | .persistentRamAndRtc ram => do return 4 :: (← encodeRamPayloadKind ram)
  | .persistentRamAndFlash ram flashByteLen hiddenByteLen => do
      let ram ← encodeRamPayloadKind ram
      let flash ← writeU32Checked flashByteLen "MBC6 flash byte_len"
      let hidden ← writeU32Checked hiddenByteLen "MBC6 hidden flash byte_len"
      return 5 :: ram ++ flash ++ hidden
  | .persistentEeprom byteLen => do
      let len ← writeU32Checked byteLen "persistent EEPROM byte_len"
      return 6 :: len

def decodePersistenceProfile : Reader CartridgePersistenceProfile := do
  let tag ← readU8
  match tag.toNat with
  | 0 => pure .none
  | 1 => return .nonPersistentRam (← decodeRamPayloadKind)
  | 2 => return .persistentRam (← decodeRamPayloadKind)
  | 3 => pure .persistentRtc
  | 4 => return .persistentRamAndRtc (← decodeRamPayloadKind)
  | 5 => do
      let ram ← decodeRamPayloadKind
      let flashByteLen ← readU32
      let hiddenByteLen ← readU32
      pure (.persistentRamAndFlash ram flashByteLen hiddenByteLen)
  | 6 => return .persistentEeprom (← readU32)
  | _ => Decoder.fail (.unsupportedPersistenceProfileTag tag)

/-! ## The backing store -/

def encodeLinearRam (ram : List U8) (field : String) : Encoded := do
  let len ← writeU32Checked ram.length field
  return len ++ ram

def decodeLinearRam : Reader (List U8) := do
  let len ← readU32
  readVec len

/-- The cells from `index` on, if each of them is a nibble. -/
def checkNibbles (invalid : Nat → U8 → CartridgeSaveBackendError) :
    Nat → List U8 → Except CartridgeSaveBackendError (List U8)
  | _, [] => .ok []
  | index, value :: values =>
      if 0x0F < value then .error (invalid index value)
      else do return value :: (← checkNibbles invalid (index + 1) values)

def encodeRtc (rtc : Mbc3RtcPersistentState) : List U8 :=
  [rtc.seconds, rtc.minutes, rtc.hours] ++ writeU16 rtc.dayCounter ++ writeBool rtc.halt ++
    writeBool rtc.carry

def decodeRtc : Reader Mbc3RtcPersistentState := do
  let seconds ← readU8
  let minutes ← readU8
  let hours ← readU8
  let dayCounter ← readU16
  let halt ← readBool "rtc.halt"
  let carry ← readBool "rtc.carry"
  pure { seconds, minutes, hours, dayCounter, halt, carry }

def encodeHuc3Rtc (rtc : Huc3RtcPersistentState) : List U8 :=
  writeU16 rtc.currentMinutesOfDay ++ writeU16 rtc.currentDays ++
    [rtc.currentSubminuteSeconds] ++ writeU16 rtc.eventMinutesOfDay ++ writeU16 rtc.eventDays

def decodeHuc3Rtc : Reader Huc3RtcPersistentState := do
  let currentMinutesOfDay ← readU16
  let currentDays ← readU16
  let currentSubminuteSeconds ← readU8
  let eventMinutesOfDay ← readU16
  let eventDays ← readU16
  pure { currentMinutesOfDay, currentDays, currentSubminuteSeconds, eventMinutesOfDay, eventDays }

def encodeOptionalU8 (value : Option U8) : List U8 :=
  writeBool value.isSome ++ [value.getD 0]

def decodeOptionalU8 (field : String) : Reader (Option U8) := do
  let present ← readBool field
  let value ← readU8
  pure (if present then some value else none)

/-- An array of nibbles of a fixed length. -/
def encodeNibbles {n : Nat} (invalid : Nat → U8 → CartridgeSaveBackendError) (field : String)
    (cells : Vector U8 n) : Encoded := do
  let len ← writeU32Checked n field
  let cells ← checkNibbles invalid 0 cells.toList
  return len ++ cells

/-- The array of `n` nibbles in `bytes`. -/
def nibbleArray (n : Nat) (invalid : Nat → U8 → CartridgeSaveBackendError) (field : String)
    (bytes : List U8) : Reader (Vector U8 n) :=
  if h : bytes.length = n then
    match checkNibbles invalid 0 bytes with
    | .ok _ => pure ⟨bytes.toArray, by rw [List.size_toArray, h]⟩
    | .error e => Decoder.fail e
  else Decoder.fail (.lengthOverflow field bytes.length)

/-- The count is checked after the nibbles are read. -/
def decodeMbc2Ram : Reader (Vector U8 mbc2RamCellCount) := do
  let cellCount ← readU32
  let nibbleBytes ← readVec cellCount
  nibbleArray mbc2RamCellCount .invalidMbc2NibbleValue "decoded MBC2 RAM nibble count" nibbleBytes

def encodeHuc3 (s : Huc3PersistentState) : Encoded := do
  let mcuRam ← encodeNibbles .invalidHuc3NibbleValue "HuC-3 MCU RAM nibble count" s.mcuRam
  return mcuRam ++ encodeHuc3Rtc s.rtc ++
    [s.romBank, s.ramBank, s.selectMode, s.accessAddress, s.mailboxCommand, s.mailboxArgument,
      s.lastResponseNybble] ++
    writeBool s.semaphoreReady ++ writeBool s.irEmitterOn ++ writeBool s.irLightDetected ++
    encodeOptionalU8 s.lastControlWrite ++ encodeOptionalU8 s.lastUnsupportedCommand ++
    encodeOptionalU8 s.lastUnsupportedArgument

/-- The count is checked before the nibbles are read. -/
def decodeHuc3McuRam : Reader (Vector U8 huc3McuRamNibbleCount) := do
  let nibbleCount ← readU32
  if nibbleCount = huc3McuRamNibbleCount then do
    let nibbleBytes ← readVec nibbleCount
    nibbleArray huc3McuRamNibbleCount .invalidHuc3NibbleValue
      "decoded HuC-3 MCU RAM nibble count" nibbleBytes
  else Decoder.fail (.lengthOverflow "decoded HuC-3 MCU RAM nibble count" nibbleCount)

def decodeHuc3 : Reader Huc3PersistentState := do
  let mcuRam ← decodeHuc3McuRam
  let rtc ← decodeHuc3Rtc
  let romBank ← readU8
  let ramBank ← readU8
  let selectMode ← readU8
  let accessAddress ← readU8
  let mailboxCommand ← readU8
  let mailboxArgument ← readU8
  let lastResponseNybble ← readU8
  let semaphoreReady ← readBool "huc3.semaphore_ready"
  let irEmitterOn ← readBool "huc3.ir_emitter_on"
  let irLightDetected ← readBool "huc3.ir_light_detected"
  let lastControlWrite ← decodeOptionalU8 "huc3.last_control_write"
  let lastUnsupportedCommand ← decodeOptionalU8 "huc3.last_unsupported_command"
  let lastUnsupportedArgument ← decodeOptionalU8 "huc3.last_unsupported_argument"
  pure { mcuRam, rtc, romBank, ramBank, selectMode, accessAddress, mailboxCommand,
         mailboxArgument, lastResponseNybble, semaphoreReady, irEmitterOn, irLightDetected,
         lastControlWrite, lastUnsupportedCommand, lastUnsupportedArgument }

def encodePersistentState : PersistentCartState → Encoded
  | .none => .ok [0]
  | .noMbcRam ram => do return 1 :: (← encodeLinearRam ram "NoMBC RAM")
  | .mbc1Ram ram => do return 2 :: (← encodeLinearRam ram "MBC1 RAM")
  | .mbc2Ram ramNibbles => do
      return 3 :: (← encodeNibbles .invalidMbc2NibbleValue "MBC2 RAM nibble count" ramNibbles)
  | .mbc3Rtc rtc => .ok (4 :: encodeRtc rtc)
  | .mbc3Ram ram => do return 5 :: (← encodeLinearRam ram "MBC3 RAM")
  | .mbc3RamRtc ram rtc => do return 6 :: (← encodeLinearRam ram "MBC3 RAM") ++ encodeRtc rtc
  | .mbc5Ram ram => do return 7 :: (← encodeLinearRam ram "MBC5 RAM")
  | .mbc6 ram flash hiddenRegion sector0Protected => do
      let ram ← encodeLinearRam ram "MBC6 RAM"
      let flash ← encodeLinearRam flash "MBC6 flash"
      let hidden ← encodeLinearRam hiddenRegion "MBC6 hidden flash"
      return 12 :: ram ++ flash ++ hidden ++ writeBool sector0Protected
  | .mmm01Ram ram => do return 8 :: (← encodeLinearRam ram "MMM01 RAM")
  | .huc1Ram ram => do return 9 :: (← encodeLinearRam ram "HuC1 RAM")
  | .huc3 ram huc3 => do
      let ram ← encodeLinearRam ram "HuC-3 RAM"
      let huc3 ← encodeHuc3 huc3
      return 10 :: ram ++ huc3
  | .pocketCameraRam ram => do return 11 :: (← encodeLinearRam ram "Pocket Camera RAM")
  | .mbc7Eeprom eeprom => do return 13 :: (← encodeLinearRam eeprom "MBC7 EEPROM")

def decodePersistentState : Reader PersistentCartState := do
  let tag ← readU8
  match tag.toNat with
  | 0 => pure .none
  | 1 => return .noMbcRam (← decodeLinearRam)
  | 2 => return .mbc1Ram (← decodeLinearRam)
  | 3 => return .mbc2Ram (← decodeMbc2Ram)
  | 4 => return .mbc3Rtc (← decodeRtc)
  | 5 => return .mbc3Ram (← decodeLinearRam)
  | 6 => do
      let ram ← decodeLinearRam
      let rtc ← decodeRtc
      pure (.mbc3RamRtc ram rtc)
  | 7 => return .mbc5Ram (← decodeLinearRam)
  | 8 => return .mmm01Ram (← decodeLinearRam)
  | 9 => return .huc1Ram (← decodeLinearRam)
  | 10 => do
      let ram ← decodeLinearRam
      let huc3 ← decodeHuc3
      pure (.huc3 ram huc3)
  | 11 => return .pocketCameraRam (← decodeLinearRam)
  | 12 => do
      let ram ← decodeLinearRam
      let flash ← decodeLinearRam
      let hiddenRegion ← decodeLinearRam
      let sector0Protected ← readBool "mbc6.sector0_protected"
      pure (.mbc6 ram flash hiddenRegion sector0Protected)
  | 13 => return .mbc7Eeprom (← decodeLinearRam)
  | _ => Decoder.fail (.unsupportedPersistentStateTag tag)

/-! ## The envelope -/

def encodeCartridgeSaveEnvelope (e : CartridgeSaveEnvelope) : Encoded := do
  let profile ← encodePersistenceProfile e.cartridgeMetadata.profile
  let state ← encodePersistentState e.persistentState
  return saveMagic ++ writeU16 e.backendMetadata.formatVersion ++
    writeU64 e.backendMetadata.savedAtUnixSeconds ++
    writeBool e.cartridgeMetadata.hasBattery ++ writeBool e.cartridgeMetadata.hasRtc ++
    profile ++ state

/-- The envelope at the front of a byte string. -/
def readCartridgeSaveEnvelope : Reader CartridgeSaveEnvelope := do
  let actualMagic ← readExact saveMagic.length
  if actualMagic ≠ saveMagic then
    Decoder.fail (.invalidMagic actualMagic)
  else do
    let formatVersion ← readU16
    if formatVersion ≠ currentSaveFormatVersion then
      Decoder.fail (.unsupportedFormatVersion formatVersion)
    else do
      let savedAtUnixSeconds ← readU64
      let hasBattery ← readBool "has_battery"
      let hasRtc ← readBool "has_rtc"
      let profile ← decodePersistenceProfile
      let persistentState ← decodePersistentState
      pure { backendMetadata := { formatVersion, savedAtUnixSeconds }
             cartridgeMetadata := { hasBattery, hasRtc, profile }
             persistentState }

def decodeCartridgeSaveEnvelope (bytes : List U8) :
    Except CartridgeSaveBackendError CartridgeSaveEnvelope :=
  match readCartridgeSaveEnvelope.run ⟨0, bytes⟩ with
  | .error e => .error e
  | .ok (envelope, cursor) =>
      if cursor.rest.length ≠ 0 then .error (.trailingBytes cursor.rest.length)
      else .ok envelope

end GbCycle
