import GbCycle.Word

/-!
# The cartridge header

Every ROM image has a header at `0x0100`; the image of an MMM01 multicart has the header that
counts in its last 32 KiB, in front of the menu.  We read the fields that loading depends on.
A title is kept as its bytes: the source decodes it lossily, which neither makes a text empty
nor changes an ASCII ending.
-/

namespace GbCycle

def headerMinimumRomLen : Nat := 0x0150
def nintendoLogoStart : Nat := 0x0104
def nintendoLogoLen : Nat := 48
def titleStart : Nat := 0x0134
def titleBytesLen : Nat := 16
def cgbFlagAddress : Nat := 0x0143
def cartridgeTypeAddress : Nat := 0x0147
def romSizeAddress : Nat := 0x0148
def ramSizeAddress : Nat := 0x0149
def destinationCodeAddress : Nat := 0x014A

def mmm01MenuBytes : Nat := 32 * 1024
def mmm01MinRomBytes : Nat := 64 * 1024
def maniMmm01SupportedRomBytes : List Nat := [512 * 1024, 1024 * 1024]
def maniMmm01MenuType : U8 := 0x11

/-- `" SET"`. -/
def maniMmm01MenuSuffix : List U8 := [0x20, 0x53, 0x45, 0x54]

/-! ## Sizes -/

structure RomSizeInfo where
  rawCode : U8
  decodedBytes : Option Nat
  bankCount : Option Nat
  deriving Repr, DecidableEq

structure RamSizeInfo where
  rawCode : U8
  decodedBytes : Option Nat
  bankCount : Option Nat
  deriving Repr, DecidableEq

def RomSizeInfo.decode (rawCode : U8) : RomSizeInfo :=
  if rawCode ≤ 0x08 then
    { rawCode, decodedBytes := some (16 * 1024 * (2 <<< rawCode.toNat))
      bankCount := some (2 <<< rawCode.toNat) }
  else if rawCode = 0x52 then
    { rawCode, decodedBytes := some (72 * 16 * 1024), bankCount := some 72 }
  else if rawCode = 0x53 then
    { rawCode, decodedBytes := some (80 * 16 * 1024), bankCount := some 80 }
  else if rawCode = 0x54 then
    { rawCode, decodedBytes := some (96 * 16 * 1024), bankCount := some 96 }
  else { rawCode, decodedBytes := none, bankCount := none }

def RamSizeInfo.decode (rawCode : U8) : RamSizeInfo :=
  if rawCode = 0x00 then { rawCode, decodedBytes := some 0, bankCount := some 0 }
  else if rawCode = 0x01 then { rawCode, decodedBytes := some (2 * 1024), bankCount := some 1 }
  else if rawCode = 0x02 then { rawCode, decodedBytes := some (8 * 1024), bankCount := some 1 }
  else if rawCode = 0x03 then { rawCode, decodedBytes := some (32 * 1024), bankCount := some 4 }
  else if rawCode = 0x04 then { rawCode, decodedBytes := some (128 * 1024), bankCount := some 16 }
  else if rawCode = 0x05 then { rawCode, decodedBytes := some (64 * 1024), bankCount := some 8 }
  else { rawCode, decodedBytes := none, bankCount := none }

/-- A declared ROM size is a number of banks. -/
theorem RomSizeInfo.bankCount_of_decodedBytes {rawCode : U8} {bytes : Nat}
    (h : (decode rawCode).decodedBytes = some bytes) :
    ∃ count, (decode rawCode).bankCount = some count ∧ bytes = count * 0x4000 ∧ 2 ≤ count := by
  unfold decode at h ⊢
  by_cases hpower : rawCode ≤ 0x08
  · rw [if_pos hpower] at h ⊢
    have hcount : 2 ≤ 2 <<< rawCode.toNat := by
      rw [Nat.shiftLeft_eq]
      exact Nat.le_mul_of_pos_right 2 (Nat.two_pow_pos _)
    have hbytes := Option.some.inj h
    exact ⟨_, rfl, by omega, hcount⟩
  · rw [if_neg hpower] at h ⊢
    by_cases h72 : rawCode = 0x52
    · rw [if_pos h72] at h ⊢
      cases h
      exact ⟨72, rfl, rfl, by decide⟩
    · rw [if_neg h72] at h ⊢
      by_cases h80 : rawCode = 0x53
      · rw [if_pos h80] at h ⊢
        cases h
        exact ⟨80, rfl, rfl, by decide⟩
      · rw [if_neg h80] at h ⊢
        by_cases h96 : rawCode = 0x54
        · rw [if_pos h96] at h ⊢
          cases h
          exact ⟨96, rfl, rfl, by decide⟩
        · rw [if_neg h96] at h
          cases h

/-! ## Flags -/

inductive CgbFlag where
  | none
  | supported
  | only
  | supportedNonCanonical (raw : U8)
  | unknown (raw : U8)
  deriving Repr, DecidableEq

def CgbFlag.enablesCgbNativeMode : CgbFlag → Bool
  | supported | only | supportedNonCanonical _ => true
  | none | unknown _ => false

def usesCgbTitleLayout (rawFlag : U8) : Bool := rawFlag &&& 0x80 ≠ 0

def decodeCgbFlag (rawFlag : U8) : CgbFlag :=
  if rawFlag = 0x00 then .none
  else if rawFlag = 0x80 then .supported
  else if rawFlag = 0xC0 then .only
  else if usesCgbTitleLayout rawFlag then .supportedNonCanonical rawFlag
  else .unknown rawFlag

/-! ## The header -/

structure CartridgeHeader where
  nintendoLogo : List U8
  titleBytes : List U8
  title : List U8
  cgbFlag : CgbFlag
  cartridgeType : U8
  romSize : RomSizeInfo
  ramSize : RamSizeInfo
  destinationCode : U8
  deriving Repr, DecidableEq

inductive CartridgeHeaderParseError where
  | imageTooSmall (actualSize minimumSize : Nat)
  deriving Repr, DecidableEq

def byteAt (bytes : List U8) (index : Nat) : U8 := bytes.getD index 0

def slice (bytes : List U8) (start length : Nat) : List U8 := (bytes.drop start).take length

namespace CartridgeHeader

/-- The title up to its padding; a CGB header has one character less. -/
def visibleTitle (titleBytes : List U8) (rawCgbFlag : U8) : List U8 :=
  (if usesCgbTitleLayout rawCgbFlag then titleBytes.take (titleBytesLen - 1) else titleBytes).takeWhile
    fun byte => !(byte == 0 || byte == 0xFF)

def parseAtOffset (romBytes : List U8) (baseOffset : Nat) :
    Except CartridgeHeaderParseError CartridgeHeader :=
  if romBytes.length < baseOffset + headerMinimumRomLen then
    .error (.imageTooSmall romBytes.length (baseOffset + headerMinimumRomLen))
  else
    let titleBytes := slice romBytes (baseOffset + titleStart) titleBytesLen
    let rawCgbFlag := byteAt romBytes (baseOffset + cgbFlagAddress)
    .ok
      { nintendoLogo := slice romBytes (baseOffset + nintendoLogoStart) nintendoLogoLen
        titleBytes
        title := visibleTitle titleBytes rawCgbFlag
        cgbFlag := decodeCgbFlag rawCgbFlag
        cartridgeType := byteAt romBytes (baseOffset + cartridgeTypeAddress)
        romSize := .decode (byteAt romBytes (baseOffset + romSizeAddress))
        ramSize := .decode (byteAt romBytes (baseOffset + ramSizeAddress))
        destinationCode := byteAt romBytes (baseOffset + destinationCodeAddress) }

def parse (romBytes : List U8) : Except CartridgeHeaderParseError CartridgeHeader :=
  parseAtOffset romBytes 0

/-- `(0..limit).step_by(0x4000)`. -/
def bankOffsets (limit : Nat) : List Nat :=
  (List.range ((limit + 0x3FFF) / 0x4000)).map (· * 0x4000)

def endsWithMenuSuffix (title : List U8) : Bool := maniMmm01MenuSuffix.isSuffixOf title

def isStandardMmm01Type (cartridgeType : U8) : Bool := 0x0B ≤ cartridgeType && cartridgeType ≤ 0x0D
def isMbc1Type (cartridgeType : U8) : Bool := 0x01 ≤ cartridgeType && cartridgeType ≤ 0x03

/-- One turn of the loop of `count_mani_mmm01_subheaders`. -/
def isManiMmm01Subheader (romBytes expectedLogo : List U8) (baseOffset : Nat) : Bool :=
  match parseAtOffset romBytes baseOffset with
  | .error _ => false
  | .ok candidate =>
      match candidate.romSize.decodedBytes with
      | none => false
      | some subromBytes =>
          !(candidate.nintendoLogo != expectedLogo
            || !(candidate.cartridgeType ≤ 0x03)
            || candidate.ramSize.rawCode != 0x00
            || romBytes.length ≤ subromBytes
            || candidate.title.isEmpty
            || endsWithMenuSuffix candidate.title)

def countManiMmm01Subheaders (romBytes expectedLogo : List U8) : Nat :=
  (bankOffsets romBytes.length).countP (isManiMmm01Subheader romBytes expectedLogo)

/-- One turn of the loop of `count_standard_mmm01_subheaders`. -/
def isStandardMmm01Subheader (romBytes expectedLogo : List U8) (baseOffset : Nat) : Bool :=
  match parseAtOffset romBytes baseOffset with
  | .error _ => false
  | .ok candidate =>
      match candidate.romSize.decodedBytes with
      | none => false
      | some subromBytes =>
          !(candidate.nintendoLogo != expectedLogo
            || isStandardMmm01Type candidate.cartridgeType
            || romBytes.length ≤ subromBytes
            || candidate.title.isEmpty)

/-- An image shorter than the menu has no menu offset, and no game in front of it. -/
def countStandardMmm01Subheaders (romBytes expectedLogo : List U8) : Nat :=
  (bankOffsets (romBytes.length - mmm01MenuBytes)).countP
    (isStandardMmm01Subheader romBytes expectedLogo)

def parseMmm01MenuHeader (romBytes : List U8) : Option CartridgeHeader :=
  if romBytes.length < mmm01MinRomBytes then none
  else
    match parseAtOffset romBytes (romBytes.length - mmm01MenuBytes) with
    | .error _ => none
    | .ok candidate =>
        if !isStandardMmm01Type candidate.cartridgeType then none
        else if candidate.romSize.decodedBytes ≠ some romBytes.length then none
        else if candidate.title.isEmpty then none
        else if countStandardMmm01Subheaders romBytes candidate.nintendoLogo < 2 then none
        else some candidate

def parseManiMmm01MenuHeader (romBytes : List U8) (primary : CartridgeHeader) :
    Option CartridgeHeader :=
  if !isMbc1Type primary.cartridgeType || primary.ramSize.rawCode != 0x00
      || !maniMmm01SupportedRomBytes.contains romBytes.length then none
  else
    match parseAtOffset romBytes (romBytes.length - mmm01MenuBytes) with
    | .error _ => none
    | .ok candidate =>
        if candidate.cartridgeType ≠ maniMmm01MenuType
            || candidate.ramSize.rawCode ≠ 0x00
            || candidate.ramSize.decodedBytes ≠ some 0
            || candidate.romSize.decodedBytes ≠ some romBytes.length
            || !endsWithMenuSuffix candidate.title
            || candidate.nintendoLogo ≠ primary.nintendoLogo then none
        else if 4 ≤ countManiMmm01Subheaders romBytes candidate.nintendoLogo then some candidate
        else none

def parseForLoad (romBytes : List U8) : Except CartridgeHeaderParseError CartridgeHeader :=
  match parse romBytes with
  | .error error => .error error
  | .ok primary =>
      match parseMmm01MenuHeader romBytes with
      | some menuHeader => .ok menuHeader
      | none => .ok ((parseManiMmm01MenuHeader romBytes primary).getD primary)

/-! ## Where the header is -/

theorem slice_append {front rest : List U8} {start length : Nat}
    (h : start + length ≤ front.length) :
    slice (front ++ rest) start length = slice front start length := by
  unfold slice
  rw [List.drop_append_of_le_length (by omega),
    List.take_append_of_le_length (by rw [List.length_drop]; omega)]

theorem byteAt_append {front rest : List U8} {index : Nat} (h : index < front.length) :
    byteAt (front ++ rest) index = byteAt front index := by
  rw [byteAt, byteAt, List.getD_eq_getElem?_getD, List.getD_eq_getElem?_getD,
    List.getElem?_append_left h]

/-- The header is in the first bytes of an image. -/
theorem parse_append {front : List U8} (h : front.length = headerMinimumRomLen) (rest : List U8) :
    parse (front ++ rest) = parse front := by
  have hle : front.length ≤ (front ++ rest).length := by
    rw [List.length_append]
    omega
  have hmin : headerMinimumRomLen = 0x150 := rfl
  unfold parse parseAtOffset
  rw [if_neg (by omega), if_neg (by omega)]
  simp only [titleStart, titleBytesLen, cgbFlagAddress, nintendoLogoStart, nintendoLogoLen,
    cartridgeTypeAddress, romSizeAddress, ramSizeAddress, destinationCodeAddress]
  repeat' rw [slice_append (by omega)]
  repeat' rw [byteAt_append (by omega)]

/-- An image without the header of a menu has the header at its beginning. -/
theorem parseForLoad_of_noMenu {romBytes : List U8} {primary : CartridgeHeader}
    (hparse : parse romBytes = .ok primary) (hmenu : parseMmm01MenuHeader romBytes = none)
    (hmani : parseManiMmm01MenuHeader romBytes primary = none) :
    parseForLoad romBytes = .ok primary := by
  rw [parseForLoad, hparse]
  dsimp only
  rw [hmenu, hmani]
  rfl

theorem parseAtOffset_cartridgeType {romBytes : List U8} {baseOffset : Nat}
    {header : CartridgeHeader} (h : parseAtOffset romBytes baseOffset = .ok header) :
    header.cartridgeType = byteAt romBytes (baseOffset + cartridgeTypeAddress) := by
  unfold parseAtOffset at h
  split at h
  · cases h
  · cases h
    rfl

theorem parseMmm01MenuHeader_of_type {romBytes : List U8}
    (h : isStandardMmm01Type
      (byteAt romBytes (romBytes.length - mmm01MenuBytes + cartridgeTypeAddress)) = false) :
    parseMmm01MenuHeader romBytes = none := by
  unfold parseMmm01MenuHeader
  by_cases hshort : romBytes.length < mmm01MinRomBytes
  · rw [if_pos hshort]
  · rw [if_neg hshort]
    cases hcandidate : parseAtOffset romBytes (romBytes.length - mmm01MenuBytes) with
    | error error => rfl
    | ok candidate =>
        have htype := parseAtOffset_cartridgeType hcandidate
        dsimp only
        rw [if_pos]
        rw [htype, h]
        rfl

/-! ## Parsed headers have decoded sizes -/

/-- The sizes are decoded from their codes. -/
structure SizesDecoded (header : CartridgeHeader) : Prop where
  romSize : header.romSize = .decode header.romSize.rawCode
  ramSize : header.ramSize = .decode header.ramSize.rawCode

theorem rawCode_decode (rawCode : U8) : (RomSizeInfo.decode rawCode).rawCode = rawCode := by
  unfold RomSizeInfo.decode
  repeat' split
  all_goals rfl

theorem ramSize_rawCode_decode (rawCode : U8) :
    (RamSizeInfo.decode rawCode).rawCode = rawCode := by
  unfold RamSizeInfo.decode
  repeat' split
  all_goals rfl

theorem parseAtOffset_sizes {romBytes : List U8} {baseOffset : Nat} {header : CartridgeHeader}
    (h : parseAtOffset romBytes baseOffset = .ok header) : header.SizesDecoded := by
  unfold parseAtOffset at h
  split at h
  · cases h
  · cases h
    constructor
    · rw [rawCode_decode]
    · rw [ramSize_rawCode_decode]

theorem parseMmm01MenuHeader_sizes {romBytes : List U8} {header : CartridgeHeader}
    (h : parseMmm01MenuHeader romBytes = some header) : header.SizesDecoded := by
  unfold parseMmm01MenuHeader at h
  split at h
  · cases h
  · split at h
    · cases h
    · rename_i candidate hparse
      repeat' split at h
      all_goals cases h
      exact parseAtOffset_sizes hparse

theorem parseManiMmm01MenuHeader_sizes {romBytes : List U8} {primary header : CartridgeHeader}
    (h : parseManiMmm01MenuHeader romBytes primary = some header) : header.SizesDecoded := by
  unfold parseManiMmm01MenuHeader at h
  split at h
  · cases h
  · split at h
    · cases h
    · rename_i candidate hparse
      repeat' split at h
      all_goals cases h
      exact parseAtOffset_sizes hparse

theorem parseForLoad_sizes {romBytes : List U8} {header : CartridgeHeader}
    (h : parseForLoad romBytes = .ok header) : header.SizesDecoded := by
  unfold parseForLoad at h
  split at h
  · cases h
  · rename_i primary hprimary
    split at h
    · rename_i menuHeader hmenu
      cases h
      exact parseMmm01MenuHeader_sizes hmenu
    · cases h
      cases hmani : parseManiMmm01MenuHeader romBytes primary with
      | none => exact parseAtOffset_sizes hprimary
      | some candidate => exact parseManiMmm01MenuHeader_sizes hmani

end CartridgeHeader

end GbCycle
