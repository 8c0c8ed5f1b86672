import GbCycle.Cartridge.Header
import GbCycle.Model

/-!
# Which mapper a cartridge has

The type code of the header names the mapper, but some boards carry a code that is not theirs:
multicarts are recognised by the headers of the games they hold, and MBC30 by its RAM size.
Experimental heuristics recognise further boards, which are not implemented and only refused
under their own name.
-/

namespace GbCycle

inductive SupportedCartridgeFamily where
  | noMbc
  | mmm01
  | m161
  | huc1
  | huc3
  | mbc1
  | mbc2
  | mbc3
  | mbc5
  | mbc6
  | mbc7
  | pocketCamera
  deriving Repr, DecidableEq

inductive UnsupportedCartridgeCategory where
  | plannedVariant
  | documentedButUnsupported
  | experimentalHeuristic
  | accessorySpecialCase
  | unknownCode
  deriving Repr, DecidableEq

inductive CartridgeSelection where
  | supported (family : SupportedCartridgeFamily)
  | unsupported (category : UnsupportedCartridgeCategory)
  deriving Repr, DecidableEq

structure CartridgeClassification where
  rawType : U8
  detectedName : String
  selection : CartridgeSelection
  reason : String
  deriving Repr, DecidableEq

namespace CartridgeClassification

def supportedWithReason (rawType : U8) (detectedName : String)
    (family : SupportedCartridgeFamily) (reason : String) : CartridgeClassification :=
  { rawType, detectedName, selection := .supported family, reason }

def supported (rawType : U8) (detectedName : String) (family : SupportedCartridgeFamily) :
    CartridgeClassification :=
  supportedWithReason rawType detectedName family "supported cartridge family"

def unsupported (rawType : U8) (detectedName : String) (category : UnsupportedCartridgeCategory)
    (reason : String) : CartridgeClassification :=
  { rawType, detectedName, selection := .unsupported category, reason }

def classify (rawType : U8) : CartridgeClassification :=
  match rawType.toNat with
  | 0x00 => supported rawType "ROM ONLY" .noMbc
  | 0x08 => supported rawType "ROM+RAM" .noMbc
  | 0x09 => supported rawType "ROM+RAM+BATTERY" .noMbc
  | 0x01 => supported rawType "MBC1" .mbc1
  | 0x02 => supported rawType "MBC1+RAM" .mbc1
  | 0x03 => supported rawType "MBC1+RAM+BATTERY" .mbc1
  | 0x05 => supported rawType "MBC2" .mbc2
  | 0x06 => supported rawType "MBC2+BATTERY" .mbc2
  | 0x0F => supported rawType "MBC3+TIMER+BATTERY" .mbc3
  | 0x10 => supported rawType "MBC3+TIMER+RAM+BATTERY" .mbc3
  | 0x11 => supported rawType "MBC3" .mbc3
  | 0x12 => supported rawType "MBC3+RAM" .mbc3
  | 0x13 => supported rawType "MBC3+RAM+BATTERY" .mbc3
  | 0x19 => supported rawType "MBC5" .mbc5
  | 0x1A => supported rawType "MBC5+RAM" .mbc5
  | 0x1B => supported rawType "MBC5+RAM+BATTERY" .mbc5
  | 0x1C => supported rawType "MBC5+RUMBLE" .mbc5
  | 0x1D => supported rawType "MBC5+RUMBLE+RAM" .mbc5
  | 0x1E => supported rawType "MBC5+RUMBLE+RAM+BATTERY" .mbc5
  | 0xFC => supported rawType "POCKET CAMERA" .pocketCamera
  | 0x0B => supported rawType "MMM01" .mmm01
  | 0x0C => supported rawType "MMM01+RAM" .mmm01
  | 0x0D => supported rawType "MMM01+RAM+BATTERY" .mmm01
  | 0x20 => supported rawType "MBC6" .mbc6
  | 0x22 => supported rawType "MBC7+SENSOR+RUMBLE+RAM+BATTERY" .mbc7
  | 0xFD =>
      unsupported rawType "BANDAI TAMA5" .accessorySpecialCase
        "Bandai TAMA5 needs dedicated accessory hardware"
  | 0xFE => supported rawType "HuC-3" .huc3
  | 0xFF => supported rawType "HuC1+RAM+BATTERY" .huc1
  | _ => unsupported rawType "UNKNOWN" .unknownCode "The cartridge type code is not recognized"

end CartridgeClassification

/-! ## Signatures -/

/-- The bytes of an ASCII literal. -/
def ascii (text : String) : List U8 := text.toList.map fun c => BitVec.ofNat 8 c.toNat

/-- `bytes.get(start..start + length)`. -/
def slice? (bytes : List U8) (start length : Nat) : Option (List U8) :=
  if start + length ≤ bytes.length then some (slice bytes start length) else none

/-- A title followed by padding only. -/
def matchesPaddedTitle (titleBytes expected : List U8) : Bool :=
  expected.isPrefixOf titleBytes &&
    (titleBytes.drop expected.length).all fun byte => byte == 0x00 || byte == 0xFF

def isMbc30HeaderVariant (header : CartridgeHeader) : Bool :=
  (header.cartridgeType == 0x10 || header.cartridgeType == 0x12 || header.cartridgeType == 0x13) &&
    header.ramSize.rawCode == 0x05

/-- Two of the three further games of an MBC1 multicart begin with the logo. -/
def isMbc1mMulticartSignature (header : CartridgeHeader) (romBytes : List U8) : Bool :=
  CartridgeHeader.isMbc1Type header.cartridgeType &&
    header.romSize.decodedBytes == some (1024 * 1024) && romBytes.length == 1024 * 1024 &&
    2 ≤ [0x10, 0x20, 0x30].countP fun bank =>
      slice? romBytes (bank * 0x4000 + nintendoLogoStart) nintendoLogoLen ==
        some header.nintendoLogo

def m161BankBytes : Nat := 32 * 1024
def m161SupportedRomBanksMin : Nat := 5
def m161SupportedRomBanksMax : Nat := 8
def m161SyntheticMenuTitle : List U8 := ascii "MANI 4 IN 1"
def m161CommercialMenuTitle : List U8 := ascii "TETRIS SET"
def m161KnownSubtitleSet : List (List U8) :=
  [ascii "TETRIS", ascii "TENNIS", ascii "ALLEY WAY", ascii "YAKUMAN"]

/-- One bank of an M161 image: the known titles seen so far, or nothing when the bank carries one
a second time or with a header that is not a game's. -/
def m161SeenTitles (romBytes logo : List U8) (seen : List Bool) (bankStart : Nat) :
    Option (List Bool) :=
  match slice? romBytes (bankStart + nintendoLogoStart) nintendoLogoLen,
    slice? romBytes (bankStart + titleStart) titleBytesLen with
  | some bankLogo, some bankTitle =>
      m161KnownSubtitleSet.zipIdx.foldlM (fun seen title =>
        if !matchesPaddedTitle bankTitle title.1 then some seen
        else if seen.getD title.2 false || bankLogo != logo
            || romBytes[bankStart + cartridgeTypeAddress]? != some 0x00
            || romBytes[bankStart + romSizeAddress]? != some 0x00
            || romBytes[bankStart + ramSizeAddress]? != some 0x00 then none
        else some (seen.set title.2 true)) seen
  | _, _ => none

def isM161MulticartSignature (header : CartridgeHeader) (romBytes : List U8) : Bool :=
  if romBytes.length < m161SupportedRomBanksMin * m161BankBytes
      || m161SupportedRomBanksMax * m161BankBytes < romBytes.length
      || romBytes.length % m161BankBytes != 0 then false
  else if !matchesPaddedTitle header.titleBytes m161SyntheticMenuTitle
      && !matchesPaddedTitle header.titleBytes m161CommercialMenuTitle then false
  else if header.ramSize.rawCode != 0x00 then false
  else
    match ((List.range (romBytes.length / m161BankBytes)).map (· * m161BankBytes)).foldlM
        (m161SeenTitles romBytes header.nintendoLogo) [false, false, false, false] with
    | none => false
    | some seen => seen.all id

def isManiMmm01Signature (header : CartridgeHeader) (romBytes : List U8) : Bool :=
  if header.cartridgeType ≠ maniMmm01MenuType
      || header.ramSize.rawCode ≠ 0x00
      || header.ramSize.decodedBytes ≠ some 0
      || header.romSize.decodedBytes ≠ some romBytes.length
      || !CartridgeHeader.endsWithMenuSuffix header.title
      || !maniMmm01SupportedRomBytes.contains romBytes.length then false
  else
    match CartridgeHeader.parse romBytes with
    | .error _ => false
    | .ok primaryHeader =>
        if !CartridgeHeader.isMbc1Type primaryHeader.cartridgeType
            || primaryHeader.ramSize.rawCode ≠ 0x00
            || primaryHeader.nintendoLogo ≠ header.nintendoLogo then false
        else 4 ≤ CartridgeHeader.countManiMmm01Subheaders romBytes header.nintendoLogo

/-! ## Heuristics -/

def isEmsMulticartSignature (titleBytes : List U8) (rawType destinationCode : U8) : Bool :=
  matchesPaddedTitle titleBytes (ascii "EMSMENU") || matchesPaddedTitle titleBytes (ascii "GB16M")
    || (rawType == 0x1B && destinationCode == 0xE1)

def noMbcSupportedRomBytes : Nat := 32 * 1024

def isWisdomTreeSignature (titleBytes : List U8) (rawType romSizeCode : U8)
    (actualRomSize : Nat) (destinationCode : U8) : Bool :=
  matchesPaddedTitle titleBytes (ascii "WISDOM TREE")
    || matchesPaddedTitle titleBytes (ascii "WISDOM" ++ 0x00 :: ascii "TREE")
    || (rawType == 0x00 && romSizeCode == 0x00 && noMbcSupportedRomBytes < actualRomSize)
    || (rawType == 0xC0 && destinationCode == 0xD1)

def classifyExperimentalHeuristic (header : CartridgeHeader) (romBytes : List U8) :
    Option CartridgeClassification :=
  if header.cartridgeType = 0xBE then
    some (.unsupported header.cartridgeType "BUNG" .experimentalHeuristic
      "Bung multicart classification came from an explicit experimental heuristic path")
  else if isEmsMulticartSignature header.titleBytes header.cartridgeType
      header.destinationCode then
    some (.unsupported header.cartridgeType "EMS" .experimentalHeuristic
      "EMS multicart classification came from an explicit experimental heuristic path")
  else if isWisdomTreeSignature header.titleBytes header.cartridgeType header.romSize.rawCode
      romBytes.length header.destinationCode then
    some (.unsupported header.cartridgeType "WISDOM TREE" .experimentalHeuristic
      "Wisdom Tree classification came from an explicit experimental heuristic path")
  else none

def classifySupportedSignatureVariant (header : CartridgeHeader) (romBytes : List U8) :
    Option CartridgeClassification :=
  if isM161MulticartSignature header romBytes then
    some (.supportedWithReason header.cartridgeType "M161" .m161
      "M161 multicart classification came from the explicit Mani 4-in-1 signature path")
  else if isManiMmm01Signature header romBytes then
    some (.supportedWithReason header.cartridgeType "MMM01" .mmm01
      "MMM01 classification came from the explicit later Mani trailing-menu signature path")
  else if isMbc1mMulticartSignature header romBytes then
    some (.supportedWithReason header.cartridgeType "MBC1M" .mbc1
      "MBC1 multicart classification came from the explicit subheader signature path")
  else if isMbc30HeaderVariant header then
    some (.supportedWithReason header.cartridgeType "MBC30" .mbc3
      "MBC30 classification came from the MBC3 64 KiB SRAM header shape")
  else none

def classifyLoadedCartridge (header : CartridgeHeader) (romBytes : List U8)
    (compatibility : CompatibilityPolicy) : CartridgeClassification :=
  match classifySupportedSignatureVariant header romBytes with
  | some classification => classification
  | none =>
      let heuristic :=
        if compatibility.heuristicPolicy = .allowExperimental then
          classifyExperimentalHeuristic header romBytes
        else none
      heuristic.getD (.classify header.cartridgeType)

end GbCycle
