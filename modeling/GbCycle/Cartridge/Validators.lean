import GbCycle.Cartridge.Mbc1
import GbCycle.Cartridge.Mbc2
import GbCycle.Cartridge.Mbc3
import GbCycle.Cartridge.Mbc5
import GbCycle.Cartridge.Mbc6
import GbCycle.Cartridge.NoMbc
import GbCycle.Cartridge.PocketCamera
import GbCycle.Cartridge.Validation
import Mathlib.Data.Nat.Log

/-!
# The validators of the mappers

Each mapper has its own idea of what it can run: the sizes of ROM and RAM, and for some of them
a flag.  What a validator lets through decides the RAM that the cartridge gets and, for two
mappers, its variant.  After the validators comes what the cartridges rely on when they bank.
-/

namespace GbCycle

def mmm01SupportedRomBytesMax : Nat := 8 * 1024 * 1024
def huc1SupportedRomBytesMax : Nat := 1024 * 1024
def huc1SupportedRamBytesMax : Nat := 32 * 1024
def huc3SupportedRomBytesMax : Nat := 2 * 1024 * 1024
def huc3SupportedRamBytesMax : Nat := 32 * 1024
def mbc1StandardRamBytesMax : Nat := 32 * 1024
def mbc1LargeRomRamBytes : Nat := 8 * 1024
def mbc1StandardRomSizes : List Nat :=
  [32 * 1024, 64 * 1024, 128 * 1024, 256 * 1024, 512 * 1024]
def mbc1LargeRomSizes : List Nat := [1024 * 1024, 2 * 1024 * 1024]
def mbc2SupportedRomBytesMax : Nat := 256 * 1024
def mbc3SupportedRomBytesMax : Nat := 2 * 1024 * 1024
def mbc30SupportedRomBytesMax : Nat := 4 * 1024 * 1024
def mbc5SupportedRomBytesMax : Nat := 8 * 1024 * 1024
def mbc6SupportedRomBytes : Nat := 1024 * 1024
def mbc7SupportedRomBytesMax : Nat := 2 * 1024 * 1024
def pocketCameraSupportedRomBytes : Nat := 1024 * 1024

def expectedRamCodeDecompressed (code : U8) : Nat :=
  if code = 0x02 then noMbcSupportedRamBytes else 0

def noMbcRamBaselineDescription (expectedRamCode : U8) : String :=
  if expectedRamCode = 0x00 then "No MBC baseline with no external RAM"
  else if expectedRamCode = 0x02 then "No MBC baseline with 8 KiB linear external RAM"
  else "unknown No MBC RAM baseline"

structure Mbc1Layout where
  wiring : Mbc1Wiring
  variant : Mbc1Variant
  ramLen : Nat
  deriving Repr, DecidableEq

/-- `{:?}` of the wiring. -/
def Mbc1Wiring.debug : Mbc1Wiring → String
  | .standard => "Standard"
  | .largeRom => "LargeRom"

structure Mbc5ValidationLayout where
  variant : Mbc5Variant
  romLayout : CartridgeRomLayout
  ramLen : Nat
  deriving Repr, DecidableEq

/-- The next power of two from the whole banks on. -/
def roundedMbc5ActualRomCapacity (actualRomSize : Nat) : Nat :=
  1 <<< Nat.clog 2 (CartridgeRomLayout.wholeBanks actualRomSize * romBankBytes)

namespace ValidationContext

variable (ctx : ValidationContext)

/-- No other type than these three is classified as one without a mapper. -/
def validateNoMbc (header : CartridgeHeader) (actualRomSize : Nat) : Validation Unit := do
  let expectedRamCode : U8 := if ctx.classification.rawType = 0x00 then 0x00 else 0x02
  let resolvedRamLen :=
    match header.ramSize.decodedBytes with
    | none => "an unsupported length"
    | some bytes => s!"{bytes} bytes"
  ctx.degradeIf (header.ramSize.rawCode ≠ expectedRamCode)
    (s!"{ctx.name} expects RAM size code {hexCode expectedRamCode}, " ++
      s!"but the header declared {hexCode header.ramSize.rawCode}")
  ctx.degradeIf
    (header.ramSize.decodedBytes ≠ some (expectedRamCodeDecompressed expectedRamCode))
    (s!"{ctx.name} uses the fixed {noMbcRamBaselineDescription expectedRamCode}, but header RAM " ++
      s!"size code {hexCode header.ramSize.rawCode} resolved to {resolvedRamLen}")
  ctx.degradeIf (header.romSize.rawCode ≠ 0x00)
    (s!"{ctx.name} expects ROM size code 0x00, but the header declared " ++
      hexCode header.romSize.rawCode)
  ctx.degradeIf (header.romSize.decodedBytes ≠ some noMbcSupportedRomBytes)
    (s!"{ctx.name} expects a 32 KiB ROM declaration, but the header resolved to " ++
      s!"{debugSize header.romSize.decodedBytes} bytes")
  ctx.degradeIf (actualRomSize ≠ noMbcSupportedRomBytes)
    s!"{ctx.name} expects a 32 KiB image, but the loaded ROM is {actualRomSize} bytes"
  if ctx.classification.rawType = 0x08 ∨ ctx.classification.rawType = 0x09 then
    warning s!"{ctx.name} is rare but still treated as a valid No MBC variant"

def validateMmm01 (header : CartridgeHeader) (actualRomSize : Nat) : Validation Nat := do
  let declaredRomBytes ← ctx.declaredRomBytes header actualRomSize
  ctx.rejectIf
    (¬ (mmm01MinRomBytes ≤ declaredRomBytes ∧ declaredRomBytes ≤ mmm01SupportedRomBytesMax))
    (s!"{ctx.name} expects a total ROM size between {mmm01MinRomBytes} and " ++
      s!"{mmm01SupportedRomBytesMax} bytes, but the header resolved to {declaredRomBytes} bytes")
  let hasRam := ctx.classification.rawType = 0x0C ∨ ctx.classification.rawType = 0x0D
  let allowedRamCodes : List U8 := if hasRam then [0x02, 0x03, 0x04] else [0x00]
  let capabilityLabel := if hasRam then "MMM01 with external RAM" else "MMM01 without RAM"
  ctx.rejectIf (header.ramSize.rawCode ∉ allowedRamCodes)
    (s!"{ctx.name} declared RAM size code {hexCode header.ramSize.rawCode}, " ++
      s!"which contradicts the current {capabilityLabel} baseline")
  return header.ramSize.decodedBytes.getD 0

def validateM161 (header : CartridgeHeader) (actualRomSize : Nat) : Validation Unit := do
  ctx.rejectIf (header.ramSize.rawCode ≠ 0x00 ∨ header.ramSize.decodedBytes ≠ some 0)
    (s!"{ctx.name} expects no external RAM, but the header resolved to " ++
      s!"{debugSize header.ramSize.decodedBytes} bytes from code " ++
      hexCode header.ramSize.rawCode)
  ctx.rejectIf (actualRomSize % m161BankBytes ≠ 0)
    (s!"{ctx.name} expects a ROM image sized in 32 KiB banks, " ++
      s!"but the loaded ROM is {actualRomSize} bytes")
  let bankCount := actualRomSize / m161BankBytes
  ctx.rejectIf (¬ (m161SupportedRomBanksMin ≤ bankCount ∧ bankCount ≤ m161SupportedRomBanksMax))
    (s!"{ctx.name} expects between {m161SupportedRomBanksMin} and {m161SupportedRomBanksMax} " ++
      s!"total 32 KiB banks, but the loaded ROM resolves to {bankCount} banks")

/-- The HuC validators, which differ in a name and two limits. -/
def validateHuc (label : String) (romBytesMax ramBytesMax : Nat) (header : CartridgeHeader)
    (actualRomSize : Nat) : Validation Nat := do
  let declaredRomBytes ← ctx.declaredRomBytes header actualRomSize
  ctx.rejectIf (romBytesMax < declaredRomBytes)
    (s!"{ctx.name} exceeds the current {label} ROM limit of {romBytesMax} bytes " ++
      s!"with {declaredRomBytes} bytes")
  let ramLen ← ctx.require header.ramSize.decodedBytes
    s!"{ctx.name} declared an unsupported RAM size code {hexCode header.ramSize.rawCode}"
  ctx.rejectIf (ramLen = 0 ∨ ramBytesMax < ramLen)
    (s!"{ctx.name} expects cartridge RAM between 1 and {ramBytesMax} bytes, " ++
      s!"but the header resolved to {ramLen} bytes")
  return ramLen

def validateHuc1 (header : CartridgeHeader) (actualRomSize : Nat) : Validation Nat :=
  ctx.validateHuc "HuC1" huc1SupportedRomBytesMax huc1SupportedRamBytesMax header actualRomSize

def validateHuc3 (header : CartridgeHeader) (actualRomSize : Nat) : Validation Nat :=
  ctx.validateHuc "HuC-3" huc3SupportedRomBytesMax huc3SupportedRamBytesMax header actualRomSize

/-- The multicart has the RAM of its type, whatever its header says. -/
def validateMbc1M (header : CartridgeHeader) (hasRam : Bool) : Validation Mbc1Layout := do
  let capabilityLabel := if hasRam then "fixed 8 KiB RAM" else "no RAM"
  ctx.rejectIf (header.ramSize.rawCode ≠ if hasRam then 0x02 else 0x00)
    s!"{ctx.name} currently only supports the 1 MiB multicart baseline with {capabilityLabel}"
  return { wiring := .largeRom, variant := .mbc1M, ramLen := if hasRam then 8 * 1024 else 0 }

def mbc1Wiring (declaredRomBytes : Nat) : Validation Mbc1Wiring :=
  if declaredRomBytes ∈ mbc1StandardRomSizes then pure .standard
  else if declaredRomBytes ∈ mbc1LargeRomSizes then pure .largeRom
  else
    ctx.reject
      (s!"{ctx.name} declared a ROM size that is not valid for the current MBC1 baseline: " ++
        s!"{declaredRomBytes} bytes")

def mbc1RamLen (header : CartridgeHeader) (hasRam : Bool) (wiring : Mbc1Wiring) : Nat :=
  match hasRam, wiring with
  | false, _ => 0
  | true, .standard =>
      if header.ramSize.rawCode = 0x02 ∨ header.ramSize.rawCode = 0x03 then
        header.ramSize.decodedBytes.getD mbc1StandardRamBytesMax
      else mbc1StandardRamBytesMax
  | true, .largeRom => mbc1LargeRomRamBytes

def mbc1AllowedRamCodes (hasRam : Bool) (wiring : Mbc1Wiring) : List U8 :=
  match hasRam, wiring with
  | false, _ => [0x00]
  | true, .standard => [0x02, 0x03]
  | true, .largeRom => [0x02]

def validateMbc1 (header : CartridgeHeader) (actualRomSize : Nat) : Validation Mbc1Layout := do
  let declaredRomBytes ← ctx.declaredRomBytes header actualRomSize
  let hasRam : Bool := ctx.classification.rawType = 0x02 ∨ ctx.classification.rawType = 0x03
  if ctx.classification.detectedName = "MBC1M" then ctx.validateMbc1M header hasRam
  else
    let wiring ← ctx.mbc1Wiring declaredRomBytes
    let capabilityLabel := if hasRam then "MBC1+RAM" else "MBC1 without RAM"
    ctx.degradeIf (header.ramSize.rawCode ∉ mbc1AllowedRamCodes hasRam wiring)
      (s!"{ctx.name} declared RAM size code {hexCode header.ramSize.rawCode}, " ++
        s!"which contradicts the current {capabilityLabel} {wiring.debug} wiring baseline")
    return { wiring, variant := .standard, ramLen := mbc1RamLen header hasRam wiring }

def validateMbc2 (header : CartridgeHeader) (actualRomSize : Nat) : Validation Unit := do
  let declaredRomBytes ← ctx.declaredRomBytes header actualRomSize
  ctx.rejectIf (mbc2SupportedRomBytesMax < declaredRomBytes)
    (s!"{ctx.name} exceeds the current MBC2 ROM limit of {mbc2SupportedRomBytesMax} bytes " ++
      s!"with {declaredRomBytes} bytes")
  ctx.degradeIf (header.ramSize.rawCode ≠ 0x00)
    (s!"{ctx.name} expects RAM size code 0x00 because MBC2 RAM is internal, " ++
      s!"but the header declared {hexCode header.ramSize.rawCode}")

def mbc3HasRam : Bool :=
  ctx.classification.rawType = 0x10 ∨ ctx.classification.rawType = 0x12 ∨
    ctx.classification.rawType = 0x13

def validateMbc3 (header : CartridgeHeader) (actualRomSize : Nat) : Validation Mbc3Variant := do
  let declaredRomBytes ← ctx.declaredRomBytes header actualRomSize
  let variant : Mbc3Variant :=
    if ctx.mbc3HasRam ∧ header.ramSize.rawCode = 0x05 then .mbc30 else .standard
  let (romLimit, variantName) :=
    match variant with
    | .standard => (mbc3SupportedRomBytesMax, "MBC3")
    | .mbc30 => (mbc30SupportedRomBytesMax, "MBC30")
  ctx.rejectIf (romLimit < declaredRomBytes)
    (s!"{ctx.name} exceeds the current {variantName} ROM limit of {romLimit} bytes " ++
      s!"with {declaredRomBytes} bytes")
  match ctx.mbc3HasRam, variant with
  | true, .standard =>
      ctx.rejectIf (¬ (0x01 ≤ header.ramSize.rawCode ∧ header.ramSize.rawCode ≤ 0x03))
        (s!"{ctx.name} declared RAM size code {hexCode header.ramSize.rawCode}, " ++
          "which is not valid for the current standard MBC3 baseline")
  | true, .mbc30 =>
      ctx.rejectIf
        (header.ramSize.decodedBytes ≠ some (64 * 1024) ∨ header.ramSize.bankCount ≠ some 8)
        (s!"{ctx.name} declared RAM size code {hexCode header.ramSize.rawCode}, which did not " ++
          "resolve to the required MBC30 64 KiB / 8-bank SRAM shape")
  | false, _ =>
      ctx.degradeIf (header.ramSize.rawCode ≠ 0x00)
        (s!"{ctx.name} does not provide external RAM, " ++
          s!"but the header declared RAM size code {hexCode header.ramSize.rawCode}")
  return variant

/-- The layout of an image that is not of the size its header declares. -/
def permissiveRounded (declaredBytes : Option Nat) (actualRomSize : Nat) : CartridgeRomLayout :=
  { declaredBytes, actualBytes := actualRomSize
    effectiveBytes := roundedMbc5ActualRomCapacity actualRomSize
    effectiveBankCount := roundedMbc5ActualRomCapacity actualRomSize / romBankBytes
    source := .permissiveRoundedActual }

def validateMbc5RomLayout (header : CartridgeHeader) (actualRomSize : Nat) :
    Validation CartridgeRomLayout := do
  ctx.rejectIf (mbc5SupportedRomBytesMax < actualRomSize)
    (s!"{ctx.name} exceeds the current MBC5 ROM limit of {mbc5SupportedRomBytesMax} bytes " ++
      s!"with {actualRomSize} bytes")
  let effectiveRomSize := roundedMbc5ActualRomCapacity actualRomSize
  match header.romSize.decodedBytes with
  | some declaredRomBytes =>
      if actualRomSize = declaredRomBytes then
        return .declaredExact declaredRomBytes actualRomSize
      else do
        ctx.rejectIf (ctx.compatibility.validationPolicy = .strict)
          (s!"{ctx.name} expects a {declaredRomBytes}-byte image, " ++
            s!"but the loaded ROM is {actualRomSize} bytes")
        ctx.checkDegradable
          (s!"{ctx.name} declared a {declaredRomBytes}-byte ROM from size code " ++
            s!"{hexCode header.romSize.rawCode}, but the loaded ROM is {actualRomSize} bytes; " ++
            s!"using a {effectiveRomSize}-byte permissive ROM capacity padded with 0xFF")
        return permissiveRounded (some declaredRomBytes) actualRomSize
  | none => do
      ctx.rejectIf (ctx.compatibility.validationPolicy = .strict)
        s!"{ctx.name} declared an unsupported ROM size code {hexCode header.romSize.rawCode}"
      ctx.checkDegradable
        (s!"{ctx.name} declared unsupported ROM size code {hexCode header.romSize.rawCode}; " ++
          s!"using a {effectiveRomSize}-byte permissive ROM capacity derived from the " ++
          s!"{actualRomSize}-byte image and padded with 0xFF")
      return permissiveRounded none actualRomSize

/-- The types of MBC5 are these six. -/
def mbc5Variant (rawType : U8) : Mbc5Variant :=
  if rawType = 0x19 then .noRam
  else if rawType = 0x1A then .ram
  else if rawType = 0x1B then .ramBattery
  else if rawType = 0x1C then .rumble
  else if rawType = 0x1D then .rumbleRam
  else .rumbleRamBattery

def mbc5RamLen (header : CartridgeHeader) (variant : Mbc5Variant) : Validation Nat := do
  if variant.hasRam then do
    let allowedRamCodes : List U8 :=
      if variant.hasRumble then [0x02, 0x03, 0x05] else [0x02, 0x03, 0x04, 0x05]
    let capabilityLabel := if variant.hasRumble then "rumble-capable" else "standard"
    ctx.rejectIf (header.ramSize.rawCode ∉ allowedRamCodes)
      (s!"{ctx.name} declared RAM size code {hexCode header.ramSize.rawCode}, " ++
        s!"which is not valid for the current {capabilityLabel} MBC5 baseline")
    return header.ramSize.decodedBytes.getD 0
  else do
    ctx.degradeIf (header.ramSize.rawCode ≠ 0x00)
      (s!"{ctx.name} does not provide external RAM, " ++
        s!"but the header declared RAM size code {hexCode header.ramSize.rawCode}")
    return 0

def validateMbc5 (header : CartridgeHeader) (actualRomSize : Nat) :
    Validation Mbc5ValidationLayout := do
  let romLayout ← ctx.validateMbc5RomLayout header actualRomSize
  let variant := mbc5Variant ctx.classification.rawType
  let ramLen ← ctx.mbc5RamLen header variant
  return { variant, romLayout, ramLen }

def validateMbc6 (header : CartridgeHeader) (actualRomSize : Nat) : Validation Unit := do
  ctx.rejectIf (header.cgbFlag.enablesCgbNativeMode = false)
    (s!"{ctx.name} expects a CGB-capable header because the only documented MBC6 cartridge is " ++
      "a CGB-era Net de Get board")
  ctx.rejectIf
    (header.romSize.rawCode ≠ 0x05 ∨ header.romSize.decodedBytes ≠ some mbc6SupportedRomBytes)
    (s!"{ctx.name} expects the official 1 MiB ROM declaration (code 0x05), but the header " ++
      s!"declared code {hexCode header.romSize.rawCode} " ++
      s!"({debugSize header.romSize.decodedBytes} bytes)")
  ctx.rejectIf (actualRomSize ≠ mbc6SupportedRomBytes)
    (s!"{ctx.name} expects a {mbc6SupportedRomBytes}-byte image, " ++
      s!"but the loaded ROM is {actualRomSize} bytes")
  ctx.rejectIf
    (header.ramSize.rawCode ≠ 0x03 ∨ header.ramSize.decodedBytes ≠ some mbc6SupportedRamBytes)
    (s!"{ctx.name} expects the official 32 KiB SRAM declaration (code 0x03), but the header " ++
      s!"declared code {hexCode header.ramSize.rawCode} " ++
      s!"({debugSize header.ramSize.decodedBytes} bytes)")

def validateMbc7 (header : CartridgeHeader) (actualRomSize : Nat) : Validation Unit := do
  let declaredRomBytes ← ctx.declaredRomBytes header actualRomSize
  ctx.rejectIf (mbc7SupportedRomBytesMax < declaredRomBytes)
    (s!"{ctx.name} exceeds the current MBC7 ROM limit of {mbc7SupportedRomBytesMax} bytes " ++
      s!"with {declaredRomBytes} bytes")
  ctx.rejectIf (header.cgbFlag.enablesCgbNativeMode = false)
    (s!"{ctx.name} requires a CGB-capable header flag, " ++
      s!"but the header decoded as {header.cgbFlag.debug}")
  ctx.rejectIf (header.ramSize.rawCode ≠ 0x00 ∨ header.ramSize.decodedBytes ≠ some 0)
    (s!"{ctx.name} uses a fixed 256-byte serial EEPROM instead of decoded SRAM, but the header " ++
      s!"declared RAM code {hexCode header.ramSize.rawCode} " ++
      s!"({debugSize header.ramSize.decodedBytes} bytes)")

def validatePocketCamera (header : CartridgeHeader) (actualRomSize : Nat) : Validation Unit := do
  let declaredRomBytes ← ctx.require header.romSize.decodedBytes
    s!"{ctx.name} declared an unsupported ROM size code {hexCode header.romSize.rawCode}"
  ctx.rejectIf
    (header.romSize.rawCode ≠ 0x05 ∨ declaredRomBytes ≠ pocketCameraSupportedRomBytes)
    (s!"{ctx.name} expects the official 1 MiB ROM declaration (code 0x05), but the header " ++
      s!"declared code {hexCode header.romSize.rawCode} " ++
      s!"({debugSize header.romSize.decodedBytes} bytes)")
  ctx.rejectIf (actualRomSize ≠ pocketCameraSupportedRomBytes)
    (s!"{ctx.name} expects a {pocketCameraSupportedRomBytes}-byte image, " ++
      s!"but the loaded ROM is {actualRomSize} bytes")
  ctx.rejectIf
    (header.ramSize.rawCode ≠ 0x04 ∨
      header.ramSize.decodedBytes ≠ some pocketCameraSupportedRamBytes)
    (s!"{ctx.name} expects the official 128 KiB RAM declaration (code 0x04), but the header " ++
      s!"declared code {hexCode header.ramSize.rawCode} " ++
      s!"({debugSize header.ramSize.decodedBytes} bytes)")

/-! ## What an accepted cartridge has -/

/-- The image has the banks that its header declares. -/
def Declared (header : CartridgeHeader) (actualRomSize : Nat) : Prop :=
  ∃ count, header.romSize.bankCount = some count ∧ actualRomSize = count * 0x4000 ∧ 2 ≤ count

variable {ctx} {header : CartridgeHeader} {actualRomSize : Nat}
  {before after : List CartridgeDiagnostic}

theorem declared_of_decodedBytes (hsizes : header.SizesDecoded)
    (h : header.romSize.decodedBytes = some actualRomSize) : Declared header actualRomSize := by
  rw [hsizes.romSize] at h
  obtain ⟨count, hcount, hbytes, htwo⟩ := RomSizeInfo.bankCount_of_decodedBytes h
  refine ⟨count, ?_, hbytes, htwo⟩
  rw [hsizes.romSize]
  exact hcount

theorem validateNoMbc_strict {u : Unit} (hstrict : ctx.compatibility.validationPolicy = .strict)
    (h : ctx.validateNoMbc header actualRomSize before = .ok (u, after)) :
    actualRomSize = noMbcSupportedRomBytes := by
  unfold validateNoMbc at h
  obtain ⟨_, _, -, h⟩ := Validation.bind_ok.mp h
  obtain ⟨_, _, -, h⟩ := Validation.bind_ok.mp h
  obtain ⟨_, _, -, h⟩ := Validation.bind_ok.mp h
  obtain ⟨_, _, -, h⟩ := Validation.bind_ok.mp h
  obtain ⟨_, _, hsize, -⟩ := Validation.bind_ok.mp h
  exact not_not.mp (degradeIf_strict hstrict hsize)

/-- The RAM sizes of the codes that make whole banks. -/
theorem ramBytes_wholeBanks (hsizes : header.SizesDecoded) {codes : List U8}
    (hcodes : codes ⊆ [0x00, 0x02, 0x03, 0x04, 0x05]) (hcode : header.ramSize.rawCode ∈ codes)
    (other : Nat) :
    header.ramSize.decodedBytes.getD other = header.ramSize.bankCount.getD 0 * 0x2000 := by
  have hmem := hcodes hcode
  simp only [List.mem_cons, List.not_mem_nil, or_false] at hmem
  rw [hsizes.ramSize]
  rcases hmem with h | h | h | h | h
  all_goals
    rw [h]
    rfl

theorem validateMmm01_ok (hsizes : header.SizesDecoded) {ramLen : Nat}
    (h : ctx.validateMmm01 header actualRomSize before = .ok (ramLen, after)) :
    Declared header actualRomSize ∧ ramLen % 0x2000 = 0 := by
  unfold validateMmm01 at h
  obtain ⟨declared, _, hdeclared, h⟩ := Validation.bind_ok.mp h
  obtain ⟨_, _, -, h⟩ := Validation.bind_ok.mp h
  obtain ⟨_, _, hcode, h⟩ := Validation.bind_ok.mp h
  obtain ⟨rfl, -⟩ := Validation.pure_ok.mp h
  refine ⟨declared_of_decodedBytes hsizes (declaredRomBytes_ok hdeclared).1, ?_⟩
  have hallowed := not_not.mp (rejectIf_ok.mp hcode).1
  rw [ramBytes_wholeBanks hsizes ?_ hallowed, Nat.mul_mod_left]
  split <;> decide

theorem validateHuc_ok (hsizes : header.SizesDecoded) {label : String} {romMax ramMax ramLen : Nat}
    (h : ctx.validateHuc label romMax ramMax header actualRomSize before = .ok (ramLen, after)) :
    Declared header actualRomSize ∧ 0 < ramLen := by
  unfold validateHuc at h
  obtain ⟨declared, _, hdeclared, h⟩ := Validation.bind_ok.mp h
  obtain ⟨_, _, -, h⟩ := Validation.bind_ok.mp h
  obtain ⟨_, _, -, h⟩ := Validation.bind_ok.mp h
  obtain ⟨_, _, hram, h⟩ := Validation.bind_ok.mp h
  obtain ⟨rfl, -⟩ := Validation.pure_ok.mp h
  refine ⟨declared_of_decodedBytes hsizes (declaredRomBytes_ok hdeclared).1, ?_⟩
  have hram := (rejectIf_ok.mp hram).1
  omega

theorem mbc1RamLen_wholeBanks (hsizes : header.SizesDecoded) (hasRam : Bool)
    (wiring : Mbc1Wiring) : mbc1RamLen header hasRam wiring % 0x2000 = 0 := by
  unfold mbc1RamLen
  split
  · rfl
  · split
    · rename_i hcode
      have hmem : header.ramSize.rawCode ∈ ([0x02, 0x03] : List U8) := by
        simpa only [List.mem_cons, List.not_mem_nil, or_false] using hcode
      rw [ramBytes_wholeBanks hsizes (by decide) hmem, Nat.mul_mod_left]
    · rfl
  · rfl

theorem validateMbc1_ok (hsizes : header.SizesDecoded) {layout : Mbc1Layout}
    (h : ctx.validateMbc1 header actualRomSize before = .ok (layout, after)) :
    Declared header actualRomSize ∧ layout.ramLen % 0x2000 = 0 := by
  unfold validateMbc1 at h
  obtain ⟨declared, _, hdeclared, h⟩ := Validation.bind_ok.mp h
  refine ⟨declared_of_decodedBytes hsizes (declaredRomBytes_ok hdeclared).1, ?_⟩
  dsimp only at h
  split at h
  · unfold validateMbc1M at h
    obtain ⟨_, _, -, h⟩ := Validation.bind_ok.mp h
    obtain ⟨rfl, -⟩ := Validation.pure_ok.mp h
    dsimp only
    split <;> rfl
  · obtain ⟨wiring, _, -, h⟩ := Validation.bind_ok.mp h
    obtain ⟨_, _, -, h⟩ := Validation.bind_ok.mp h
    obtain ⟨rfl, -⟩ := Validation.pure_ok.mp h
    exact mbc1RamLen_wholeBanks hsizes _ wiring

theorem validateMbc2_ok (hsizes : header.SizesDecoded) {u : Unit}
    (h : ctx.validateMbc2 header actualRomSize before = .ok (u, after)) :
    Declared header actualRomSize := by
  unfold validateMbc2 at h
  obtain ⟨declared, _, hdeclared, -⟩ := Validation.bind_ok.mp h
  exact declared_of_decodedBytes hsizes (declaredRomBytes_ok hdeclared).1

theorem validateMbc3_ok (hsizes : header.SizesDecoded) {variant : Mbc3Variant}
    (h : ctx.validateMbc3 header actualRomSize before = .ok (variant, after)) :
    Declared header actualRomSize := by
  unfold validateMbc3 at h
  obtain ⟨declared, _, hdeclared, -⟩ := Validation.bind_ok.mp h
  exact declared_of_decodedBytes hsizes (declaredRomBytes_ok hdeclared).1

theorem validateMbc6_ok (hsizes : header.SizesDecoded) {u : Unit}
    (h : ctx.validateMbc6 header actualRomSize before = .ok (u, after)) :
    Declared header actualRomSize ∧ actualRomSize = mbc6SupportedRomBytes := by
  unfold validateMbc6 at h
  obtain ⟨_, _, -, h⟩ := Validation.bind_ok.mp h
  obtain ⟨_, _, hdeclared, h⟩ := Validation.bind_ok.mp h
  obtain ⟨_, _, hsize, -⟩ := Validation.bind_ok.mp h
  have hsize : actualRomSize = mbc6SupportedRomBytes := not_not.mp (rejectIf_ok.mp hsize).1
  obtain ⟨-, hdeclared⟩ := not_or.mp (rejectIf_ok.mp hdeclared).1
  refine ⟨declared_of_decodedBytes hsizes ?_, hsize⟩
  rw [hsize]
  exact not_not.mp hdeclared

theorem validateMbc7_ok (hsizes : header.SizesDecoded) {u : Unit}
    (h : ctx.validateMbc7 header actualRomSize before = .ok (u, after)) :
    Declared header actualRomSize := by
  unfold validateMbc7 at h
  obtain ⟨declared, _, hdeclared, -⟩ := Validation.bind_ok.mp h
  exact declared_of_decodedBytes hsizes (declaredRomBytes_ok hdeclared).1

theorem validatePocketCamera_ok (hsizes : header.SizesDecoded) {u : Unit}
    (h : ctx.validatePocketCamera header actualRomSize before = .ok (u, after)) :
    Declared header actualRomSize := by
  unfold validatePocketCamera at h
  obtain ⟨declared, _, hdeclared, h⟩ := Validation.bind_ok.mp h
  obtain ⟨_, _, hofficial, h⟩ := Validation.bind_ok.mp h
  obtain ⟨_, _, hsize, -⟩ := Validation.bind_ok.mp h
  have hsize : actualRomSize = pocketCameraSupportedRomBytes :=
    not_not.mp (rejectIf_ok.mp hsize).1
  obtain ⟨-, hofficial⟩ := not_or.mp (rejectIf_ok.mp hofficial).1
  refine declared_of_decodedBytes hsizes ?_
  rw [hsize, (require_ok.mp hdeclared).1, not_not.mp hofficial]

/-- The layout of an MBC5 image: whole banks that the image fits in. -/
structure LayoutFits (layout : CartridgeRomLayout) (actualRomSize : Nat) : Prop where
  wholeBanks : layout.effectiveBytes = layout.effectiveBankCount * 0x4000
  two : 2 ≤ layout.effectiveBankCount
  fits : actualRomSize ≤ layout.effectiveBytes

theorem fourteen_le_clog {bytes : Nat} (h : 0x8000 ≤ bytes) : 14 ≤ Nat.clog 2 bytes := by
  by_contra hlow
  have hle := Nat.le_pow_clog (show 1 < 2 by decide) bytes
  have hpow := Nat.pow_le_pow_right (show 0 < 2 by decide) (Nat.le_of_lt_succ (Nat.lt_of_not_le hlow))
  omega

theorem layoutFits_permissiveRounded (declaredBytes : Option Nat) (actualRomSize : Nat) :
    LayoutFits (permissiveRounded declaredBytes actualRomSize) actualRomSize := by
  obtain ⟨bytes, hbytes⟩ : ∃ bytes,
      bytes = CartridgeRomLayout.wholeBanks actualRomSize * romBankBytes := ⟨_, rfl⟩
  have hbanks : actualRomSize ≤ bytes ∧ 0x8000 ≤ bytes := by
    rw [hbytes]
    unfold CartridgeRomLayout.wholeBanks romBankBytes noMbcSupportedRomBytes
    omega
  obtain ⟨k, hk⟩ := Nat.exists_eq_add_of_le (fourteen_le_clog hbanks.2)
  have hcapacity : roundedMbc5ActualRomCapacity actualRomSize = 2 ^ k * 0x4000 := by
    unfold roundedMbc5ActualRomCapacity
    rw [← hbytes, Nat.one_shiftLeft, hk, Nat.pow_add, Nat.mul_comm]
  have hle : bytes ≤ 2 ^ k * 0x4000 := by
    have hclog := Nat.le_pow_clog (show 1 < 2 by decide) bytes
    rwa [hk, Nat.pow_add, Nat.mul_comm] at hclog
  have hcount : (permissiveRounded declaredBytes actualRomSize).effectiveBankCount = 2 ^ k := by
    show roundedMbc5ActualRomCapacity actualRomSize / romBankBytes = 2 ^ k
    rw [hcapacity]
    exact Nat.mul_div_cancel _ (by decide)
  refine ⟨?_, ?_, ?_⟩
  · rw [hcount]
    exact hcapacity
  · rw [hcount]
    omega
  · show actualRomSize ≤ roundedMbc5ActualRomCapacity actualRomSize
    rw [hcapacity]
    omega

theorem validateMbc5RomLayout_ok (hsizes : header.SizesDecoded) {layout : CartridgeRomLayout}
    (h : ctx.validateMbc5RomLayout header actualRomSize before = .ok (layout, after)) :
    LayoutFits layout actualRomSize ∧
      (ctx.compatibility.validationPolicy = .strict →
        layout.effectiveBankCount = header.romSize.bankCount.getD 0) := by
  unfold validateMbc5RomLayout at h
  obtain ⟨_, _, -, h⟩ := Validation.bind_ok.mp h
  cases hdecoded : header.romSize.decodedBytes with
  | none =>
      rw [hdecoded] at h
      obtain ⟨_, _, hpolicy, h⟩ := Validation.bind_ok.mp h
      obtain ⟨_, _, -, h⟩ := Validation.bind_ok.mp h
      obtain ⟨rfl, -⟩ := Validation.pure_ok.mp h
      exact ⟨layoutFits_permissiveRounded _ _, fun hstrict =>
        absurd hstrict (rejectIf_ok.mp hpolicy).1⟩
  | some declaredRomBytes =>
      rw [hdecoded] at h
      by_cases hexact : actualRomSize = declaredRomBytes
      · simp only [if_pos hexact] at h
        obtain ⟨rfl, -⟩ := Validation.pure_ok.mp h
        rw [← hexact] at hdecoded
        obtain ⟨count, hcount, hbytes, htwo⟩ := declared_of_decodedBytes hsizes hdecoded
        have hbanks : (CartridgeRomLayout.declaredExact declaredRomBytes
            actualRomSize).effectiveBankCount = count := by
          show declaredRomBytes / romBankBytes = count
          rw [← hexact, hbytes]
          exact Nat.mul_div_cancel _ (by decide)
        refine ⟨⟨?_, ?_, Nat.le_of_eq hexact⟩, fun _ => ?_⟩
        · rw [hbanks, ← hbytes, hexact]
          rfl
        · rw [hbanks]
          exact htwo
        · rw [hbanks, hcount, Option.getD_some]
      · simp only [if_neg hexact] at h
        obtain ⟨_, _, hpolicy, h⟩ := Validation.bind_ok.mp h
        obtain ⟨_, _, -, h⟩ := Validation.bind_ok.mp h
        obtain ⟨rfl, -⟩ := Validation.pure_ok.mp h
        exact ⟨layoutFits_permissiveRounded _ _, fun hstrict =>
          absurd hstrict (rejectIf_ok.mp hpolicy).1⟩

theorem mbc5RamLen_ok (hsizes : header.SizesDecoded) {variant : Mbc5Variant} {ramLen : Nat}
    (h : ctx.mbc5RamLen header variant before = .ok (ramLen, after)) :
    ramLen = 0 ∨ ramLen = max (header.ramSize.bankCount.getD 0) 1 * 0x2000 := by
  unfold mbc5RamLen at h
  split at h
  · obtain ⟨_, _, hcode, h⟩ := Validation.bind_ok.mp h
    obtain ⟨rfl, -⟩ := Validation.pure_ok.mp h
    have hallowed := not_not.mp (rejectIf_ok.mp hcode).1
    rw [ramBytes_wholeBanks hsizes ?_ hallowed]
    · omega
    · split <;> decide
  · obtain ⟨_, _, -, h⟩ := Validation.bind_ok.mp h
    obtain ⟨rfl, -⟩ := Validation.pure_ok.mp h
    exact .inl rfl

theorem validateMbc5_ok (hsizes : header.SizesDecoded) {layout : Mbc5ValidationLayout}
    (h : ctx.validateMbc5 header actualRomSize before = .ok (layout, after)) :
    LayoutFits layout.romLayout actualRomSize ∧
      (ctx.compatibility.validationPolicy = .strict →
        layout.romLayout.effectiveBankCount = header.romSize.bankCount.getD 0) ∧
      (layout.ramLen = 0 ∨
        layout.ramLen = max (header.ramSize.bankCount.getD 0) 1 * 0x2000) := by
  unfold validateMbc5 at h
  obtain ⟨romLayout, _, hlayout, h⟩ := Validation.bind_ok.mp h
  obtain ⟨ramLen, _, hram, h⟩ := Validation.bind_ok.mp h
  obtain ⟨rfl, -⟩ := Validation.pure_ok.mp h
  obtain ⟨hfits, hstrict⟩ := validateMbc5RomLayout_ok hsizes hlayout
  exact ⟨hfits, hstrict, mbc5RamLen_ok hsizes hram⟩


end ValidationContext

end GbCycle
