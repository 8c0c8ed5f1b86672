import GbCycle.Cartridge.Rtc
import GbCycle.Persistence.Manager

/-!
# External saves

Other emulators keep a bare image of a cartridge's backing store in a `.sav` file.
`exportExternalCartridgeSave` brings the clock of an envelope up to date and writes such an
image; `importExternalCartridgeSave` reads one for a cartridge whose present state says which
shape to expect.  RAM and EEPROM are copied, the MBC2 nibbles are packed two to a byte, the
MBC6 flash follows its RAM, and an MBC3 clock is a footer with a time stamp.
-/

namespace GbCycle

open Wire (leBytes ofLeBytes)

inductive ExternalSaveExportFormat where
  | mgba
  deriving Repr, DecidableEq

inductive ExternalSaveLengthExpectation where
  | exactly (len : Nat)
  | either (first second : Nat)
  deriving Repr, DecidableEq

inductive ExternalSaveError where
  | unsupportedPersistentState (stateKind : String)
  | unsupportedPersistenceProfile (profile : CartridgePersistenceProfile)
  | stateProfileMismatch (stateKind : String) (profile : CartridgePersistenceProfile)
  | invalidLength (context : String) (expected : ExternalSaveLengthExpectation) (actual : Nat)
  | unsupportedStateShape (stateKind reason : String)
  deriving Repr, DecidableEq

/-! ## Linear memory -/

def encodeExternalLinearRam (ram : List U8) (expectedLen : Nat) :
    Except ExternalSaveError (List U8) :=
  if ram.length ≠ expectedLen then
    .error (.invalidLength "linear RAM state" (.exactly expectedLen) ram.length)
  else .ok ram

def decodeExternalLinearRam (bytes : List U8) (expectedLen : Nat) (context : String) :
    Except ExternalSaveError (List U8) :=
  if bytes.length ≠ expectedLen then
    .error (.invalidLength context (.exactly expectedLen) bytes.length)
  else .ok bytes

/-! ## MBC2 -/

def mbc2MgbaPackedByteCount : Nat := mbc2RamCellCount / 2

/-- Two nibbles a byte, the first of them in the low half. -/
def packNibbles : List U8 → List U8
  | first :: second :: rest =>
      ((first &&& 0x0F) ||| ((second &&& 0x0F) <<< 4)) :: packNibbles rest
  | _ => []

def unpackNibbles : List U8 → List U8
  | [] => []
  | byte :: bytes => (byte &&& 0x0F) :: ((byte >>> 4) &&& 0x0F) :: unpackNibbles bytes

theorem length_unpackNibbles (bytes : List U8) :
    (unpackNibbles bytes).length = 2 * bytes.length := by
  induction bytes with
  | nil => rfl
  | cons byte bytes ih =>
      rw [unpackNibbles, List.length_cons, List.length_cons, List.length_cons, ih]
      omega

def encodeExternalMbc2Ram (ramNibbles : Vector U8 mbc2RamCellCount) (expectedCellCount : Nat)
    (format : ExternalSaveExportFormat) : Except ExternalSaveError (List U8) :=
  if expectedCellCount ≠ mbc2RamCellCount then
    .error (.invalidLength "MBC2 metadata" (.exactly mbc2RamCellCount) expectedCellCount)
  else
    match format with
    | .mgba => .ok (packNibbles ramNibbles.toList)

/-- The packed form of the export, or a nibble a byte. -/
def decodeExternalMbc2Ram (bytes : List U8) (expectedCellCount : Nat) :
    Except ExternalSaveError (Vector U8 mbc2RamCellCount) :=
  if expectedCellCount ≠ mbc2RamCellCount then
    .error (.invalidLength "MBC2 metadata" (.exactly mbc2RamCellCount) expectedCellCount)
  else if hpacked : bytes.length = mbc2MgbaPackedByteCount then
    .ok ⟨(unpackNibbles bytes).toArray, by
      rw [List.size_toArray, length_unpackNibbles, hpacked]; rfl⟩
  else if hraw : bytes.length = mbc2RamCellCount then
    .ok ⟨(bytes.map (· &&& 0x0F)).toArray, by rw [List.size_toArray, List.length_map, hraw]⟩
  else
    .error (.invalidLength "MBC2 RAM" (.either mbc2MgbaPackedByteCount mbc2RamCellCount)
      bytes.length)

/-! ## The MBC3 clock -/

def mbc3ExternalRtcSuffixLen32BitTimestamp : Nat := 44
def mbc3ExternalRtcSuffixLen : Nat := 48

/-- The registers, the latched registers and the time of the export.  The latch is written as
a copy of the clock. -/
def encodeExternalMbc3RtcSuffix (rtc : Mbc3RtcPersistentState) (currentUnixSeconds : BitVec 64) :
    List U8 :=
  let fields := [rtc.seconds, rtc.minutes, rtc.hours, rtc.dayLow, rtc.dayHigh]
  fields.flatMap (fun field => leBytes 4 field.toNat) ++
    fields.flatMap (fun field => leBytes 4 field.toNat) ++ writeU64 currentUnixSeconds

def isExternalMbc3RtcSuffixLen (len : Nat) : Bool :=
  len = mbc3ExternalRtcSuffixLen32BitTimestamp || len = mbc3ExternalRtcSuffixLen

def mbc3ExternalRtcSuffixLengthExpectation : ExternalSaveLengthExpectation :=
  .either mbc3ExternalRtcSuffixLen32BitTimestamp mbc3ExternalRtcSuffixLen

def readExternalU32LowU8 (bytes : List U8) (offset : Nat) : U8 :=
  BitVec.ofNat 8 (ofLeBytes ((bytes.drop offset).take 4))

/-- The registers in a footer, as they were at its time stamp. -/
def externalMbc3Registers (bytes : List U8) : Mbc3RtcPersistentState :=
  let dayHigh := readExternalU32LowU8 bytes 16
  { seconds := readExternalU32LowU8 bytes 0 &&& 0x3F
    minutes := readExternalU32LowU8 bytes 4 &&& 0x3F
    hours := readExternalU32LowU8 bytes 8 &&& 0x1F
    dayCounter := U16.ofByte (readExternalU32LowU8 bytes 12) |||
      (U16.ofByte (dayHigh &&& 0x01) <<< 8)
    halt := dayHigh &&& 0x40 != 0
    carry := dayHigh &&& 0x80 != 0 }

def externalMbc3SavedUnixSeconds (bytes : List U8) : Nat :=
  if bytes.length = mbc3ExternalRtcSuffixLen32BitTimestamp then
    ofLeBytes ((bytes.drop 40).take 4)
  else ofLeBytes ((bytes.drop 40).take 8)

def decodeExternalMbc3RtcSuffix (bytes : List U8) (currentUnixSeconds : BitVec 64) :
    Except ExternalSaveError Mbc3RtcPersistentState :=
  if isExternalMbc3RtcSuffixLen bytes.length = false then
    .error (.invalidLength "MBC3 RTC" mbc3ExternalRtcSuffixLengthExpectation bytes.length)
  else
    .ok ((externalMbc3Registers bytes).applyElapsedSeconds
      (currentUnixSeconds.toNat - externalMbc3SavedUnixSeconds bytes))

/-! ## MBC6 -/

def encodeExternalMbc6Save (ram flash hiddenRegion : List U8) (sector0Protected : Bool)
    (expectedRamLen expectedFlashLen expectedHiddenLen : Nat) :
    Except ExternalSaveError (List U8) :=
  if ram.length ≠ expectedRamLen then
    .error (.invalidLength "MBC6 RAM state" (.exactly expectedRamLen) ram.length)
  else if flash.length ≠ expectedFlashLen then
    .error (.invalidLength "MBC6 flash state" (.exactly expectedFlashLen) flash.length)
  else if hiddenRegion.length ≠ expectedHiddenLen then
    .error (.invalidLength "MBC6 hidden flash state" (.exactly expectedHiddenLen)
      hiddenRegion.length)
  else if sector0Protected || hiddenRegion.any (· != 0xFF) then
    .error (.unsupportedStateShape "Mbc6" ("raw .sav only carries SRAM followed by main flash, " ++
      "not hidden flash or the non-volatile sector-0 protection bit"))
  else .ok (ram ++ flash)

def decodeExternalMbc6Save (bytes : List U8)
    (expectedRamLen expectedFlashLen expectedHiddenLen : Nat)
    (targetHiddenRegion : List U8) (targetSector0Protected : Bool) :
    Except ExternalSaveError PersistentCartState :=
  if targetHiddenRegion.length ≠ expectedHiddenLen then
    .error (.invalidLength "MBC6 hidden flash target" (.exactly expectedHiddenLen)
      targetHiddenRegion.length)
  else if targetSector0Protected || targetHiddenRegion.any (· != 0xFF) then
    .error (.unsupportedStateShape "Mbc6" ("raw .sav import cannot merge into a target with " ++
      "hidden flash data or sector-0 protection already set"))
  else if bytes.length ≠ expectedRamLen + expectedFlashLen then
    .error (.invalidLength "MBC6 RAM+flash" (.exactly (expectedRamLen + expectedFlashLen))
      bytes.length)
  else
    .ok (.mbc6 (bytes.take expectedRamLen) (bytes.drop expectedRamLen)
      (List.replicate expectedHiddenLen 0xFF) false)

/-! ## Export and import -/

def applyElapsedOffSessionSeconds (elapsedSeconds : Nat) :
    PersistentCartState → PersistentCartState
  | .mbc3Rtc rtc => .mbc3Rtc (rtc.applyElapsedSeconds elapsedSeconds)
  | .mbc3RamRtc ram rtc => .mbc3RamRtc ram (rtc.applyElapsedSeconds elapsedSeconds)
  | .huc3 ram huc3 =>
      .huc3 ram { huc3 with rtc := huc3.rtc.applyElapsedSeconds elapsedSeconds }
  | state => state

def encodeExternalCartridgeSave (metadata : CartridgePersistenceMetadata)
    (state : PersistentCartState) (currentUnixSeconds : BitVec 64)
    (format : ExternalSaveExportFormat) : Except ExternalSaveError (List U8) :=
  if usesBatteryBackedHardwarePersistence metadata = false then
    .error (.unsupportedPersistenceProfile metadata.profile)
  else
    match metadata.profile, state with
    | .persistentRam (.linear byteLen), .noMbcRam ram
    | .persistentRam (.linear byteLen), .mmm01Ram ram
    | .persistentRam (.linear byteLen), .huc1Ram ram
    | .persistentRam (.linear byteLen), .mbc1Ram ram
    | .persistentRam (.linear byteLen), .mbc3Ram ram
    | .persistentRam (.linear byteLen), .mbc5Ram ram
    | .persistentRam (.linear byteLen), .pocketCameraRam ram =>
        encodeExternalLinearRam ram byteLen
    | .persistentRam (.mbc2Nibbles cellCount), .mbc2Ram ramNibbles =>
        encodeExternalMbc2Ram ramNibbles cellCount format
    | .persistentRtc, .mbc3Rtc rtc => .ok (encodeExternalMbc3RtcSuffix rtc currentUnixSeconds)
    | .persistentRamAndRtc (.linear byteLen), .mbc3RamRtc ram rtc => do
        let bytes ← encodeExternalLinearRam ram byteLen
        return bytes ++ encodeExternalMbc3RtcSuffix rtc currentUnixSeconds
    | .persistentRamAndFlash (.linear byteLen) flashByteLen hiddenByteLen,
        .mbc6 ram flash hiddenRegion sector0Protected =>
        encodeExternalMbc6Save ram flash hiddenRegion sector0Protected byteLen flashByteLen
          hiddenByteLen
    | .persistentRamAndFlash (.mbc2Nibbles _) _ _, _ =>
        .error (.unsupportedPersistenceProfile metadata.profile)
    | .persistentEeprom byteLen, .mbc7Eeprom eeprom => encodeExternalLinearRam eeprom byteLen
    | .persistentRamAndRtc (.mbc2Nibbles _), _ =>
        .error (.unsupportedPersistenceProfile metadata.profile)
    | .persistentRamAndRtc _, .huc3 ..
    | .persistentRam _, .huc3 ..
    | .persistentRtc, .huc3 .. => .error (.unsupportedPersistentState state.kindName)
    | profile, _ => .error (.stateProfileMismatch state.kindName profile)

def exportExternalCartridgeSave (envelope : CartridgeSaveEnvelope)
    (currentUnixSeconds : BitVec 64) : Except ExternalSaveError (List U8) :=
  encodeExternalCartridgeSave envelope.cartridgeMetadata
    (applyElapsedOffSessionSeconds
      (currentUnixSeconds.toNat - envelope.backendMetadata.savedAtUnixSeconds.toNat)
      envelope.persistentState)
    currentUnixSeconds .mgba

def importExternalCartridgeSave (metadata : CartridgePersistenceMetadata)
    (targetState : PersistentCartState) (bytes : List U8) (currentUnixSeconds : BitVec 64) :
    Except ExternalSaveError PersistentCartState :=
  if usesBatteryBackedHardwarePersistence metadata = false then
    .error (.unsupportedPersistenceProfile metadata.profile)
  else
    match metadata.profile, targetState with
    | .persistentRam (.linear byteLen), .noMbcRam _ =>
        .noMbcRam <$> decodeExternalLinearRam bytes byteLen "linear RAM"
    | .persistentRam (.linear byteLen), .mmm01Ram _ =>
        .mmm01Ram <$> decodeExternalLinearRam bytes byteLen "MMM01 RAM"
    | .persistentRam (.linear byteLen), .huc1Ram _ =>
        .huc1Ram <$> decodeExternalLinearRam bytes byteLen "HuC1 RAM"
    | .persistentRam (.linear byteLen), .mbc1Ram _ =>
        .mbc1Ram <$> decodeExternalLinearRam bytes byteLen "MBC1 RAM"
    | .persistentRam (.linear byteLen), .mbc3Ram _ =>
        .mbc3Ram <$> decodeExternalLinearRam bytes byteLen "MBC3 RAM"
    | .persistentRam (.linear byteLen), .mbc5Ram _ =>
        .mbc5Ram <$> decodeExternalLinearRam bytes byteLen "MBC5 RAM"
    | .persistentRam (.linear byteLen), .pocketCameraRam _ =>
        .pocketCameraRam <$> decodeExternalLinearRam bytes byteLen "Pocket Camera RAM"
    | .persistentRam (.mbc2Nibbles cellCount), .mbc2Ram _ =>
        .mbc2Ram <$> decodeExternalMbc2Ram bytes cellCount
    | .persistentRtc, .mbc3Rtc _ =>
        if isExternalMbc3RtcSuffixLen bytes.length = false then
          .error (.invalidLength "MBC3 RTC" mbc3ExternalRtcSuffixLengthExpectation bytes.length)
        else .mbc3Rtc <$> decodeExternalMbc3RtcSuffix bytes currentUnixSeconds
    | .persistentRamAndRtc (.linear byteLen), .mbc3RamRtc .. =>
        if bytes.length ≠ byteLen + mbc3ExternalRtcSuffixLen32BitTimestamp ∧
            bytes.length ≠ byteLen + mbc3ExternalRtcSuffixLen then
          .error (.invalidLength "MBC3 RAM+RTC"
            (.either (byteLen + mbc3ExternalRtcSuffixLen32BitTimestamp)
              (byteLen + mbc3ExternalRtcSuffixLen)) bytes.length)
        else
          .mbc3RamRtc (bytes.take byteLen) <$>
            decodeExternalMbc3RtcSuffix (bytes.drop byteLen) currentUnixSeconds
    | .persistentRamAndFlash (.linear byteLen) flashByteLen hiddenByteLen,
        .mbc6 _ _ hiddenRegion sector0Protected =>
        decodeExternalMbc6Save bytes byteLen flashByteLen hiddenByteLen hiddenRegion
          sector0Protected
    | .persistentRamAndFlash (.mbc2Nibbles _) _ _, _ =>
        .error (.unsupportedPersistenceProfile metadata.profile)
    | .persistentEeprom byteLen, .mbc7Eeprom _ =>
        .mbc7Eeprom <$> decodeExternalLinearRam bytes byteLen "MBC7 EEPROM"
    | .persistentRamAndRtc (.mbc2Nibbles _), _ =>
        .error (.unsupportedPersistenceProfile metadata.profile)
    | .persistentRamAndRtc _, .huc3 .. => .error (.unsupportedPersistentState targetState.kindName)
    | profile, _ => .error (.stateProfileMismatch targetState.kindName profile)

/-- `external_save_error_allows_internal_fallback`: such a save keeps the internal format. -/
def ExternalSaveError.allowsInternalFallback : ExternalSaveError → Bool
  | .unsupportedPersistentState _ | .unsupportedPersistenceProfile _ | .unsupportedStateShape _ _ =>
      true
  | .stateProfileMismatch _ _ | .invalidLength _ _ _ => false

end GbCycle
