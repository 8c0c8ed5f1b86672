import GbCycle.Cartridge.Access
import GbCycle.Cartridge.CameraImage
import GbCycle.Cartridge.Classify
import GbCycle.Cartridge.PersistentState

/-!
# Pocket Camera

RAM banks and, in their place, the registers of a camera.  A capture stages its tiles when it
starts and takes a time that the exposure decides.  It can be paused and resumed.  The tiles go
into the RAM when it is over, which the cartridge finds out at an access to the RAM window.
-/

namespace GbCycle

def pocketCameraSupportedRamBytes : Nat := 128 * 1024
def pocketCameraRamBankBytes : Nat := 8 * 1024
def pocketCameraCaptureTileBaseOffset : Nat := 0x0100
def pocketCameraRegisterMirrorMask : U16 := 0x7F
def pocketCameraWorkingRamReadValue : U8 := 0x00

/-- Times are in T-cycles. -/
inductive PocketCameraCaptureState where
  | idle
  | working (readyAt : Nat) (stagedTiles : List U8)
  | paused (remainingTCycles : Nat) (stagedTiles : List U8)
  deriving Repr, DecidableEq

structure PocketCameraCartridge where
  rom : List U8
  ram : List U8
  header : CartridgeHeader
  classification : CartridgeClassification
  ramEnabled : Bool
  romBank : U8
  ramBankOrRegisterSelect : U8
  registers : CameraRegisters
  hostFrame : CameraPixels
  captureState : PocketCameraCaptureState
  deriving Repr, DecidableEq

namespace PocketCameraCartridge

def powerOn (rom : List U8) (header : CartridgeHeader)
    (classification : CartridgeClassification) : PocketCameraCartridge :=
  { rom, ram := List.replicate pocketCameraSupportedRamBytes 0, header, classification
    ramEnabled := false, romBank := 1, ramBankOrRegisterSelect := 0
    registers := Vector.replicate _ 0, hostFrame := pocketCameraPlaceholderFrame
    captureState := .idle }

def setHostFrame (c : PocketCameraCartridge) (frame : PocketCameraFrame) :
    Except PocketCameraFrameError Unit × PocketCameraCartridge :=
  match frame.normalize with
  | .ok hostFrame => (.ok (), { c with hostFrame })
  | .error error => (.error error, c)

def clearHostFrame (c : PocketCameraCartridge) : PocketCameraCartridge :=
  { c with hostFrame := pocketCameraPlaceholderFrame }

-- The cartridge is taken apart, so that no frame is looked at to compare it with another.
@[simp] theorem clearHostFrame_ram (c : PocketCameraCartridge) : c.clearHostFrame.ram = c.ram := by
  cases c
  rfl

@[simp] theorem clearHostFrame_captureState (c : PocketCameraCartridge) :
    c.clearHostFrame.captureState = c.captureState := by
  cases c
  rfl

def captureReadyAt (c : PocketCameraCartridge) : Option Nat :=
  match c.captureState with
  | .working readyAt _ => some readyAt
  | _ => none

/-- There is a capture that an access at the time completes. -/
def captureDue (c : PocketCameraCartridge) (tCycle : Nat) : Bool :=
  c.captureReadyAt.any (· ≤ tCycle)

def captureIsWorking (c : PocketCameraCartridge) : Bool :=
  match c.captureState with
  | .working .. => true
  | _ => false

def registersSelected (c : PocketCameraCartridge) : Bool :=
  c.ramBankOrRegisterSelect &&& 0x10 ≠ 0

def selectedRamBank (c : PocketCameraCartridge) : U8 := c.ramBankOrRegisterSelect &&& 0x0F

def effectiveRomBank (c : PocketCameraCartridge) (bankCount : Nat) : Nat :=
  c.romBank.toNat % max bankCount 1

def effectiveRamOffset (c : PocketCameraCartridge) (address : U16) : Nat :=
  c.selectedRamBank.toNat * pocketCameraRamBankBytes + ramWindowOffset address

def registerOffset (address : U16) : Nat :=
  ((address - 0xA000) &&& pocketCameraRegisterMirrorMask).toNat

def describeExternalAccess (c : PocketCameraCartridge) (address : U16) :
    CartridgeExternalAccessInfo :=
  if c.registersSelected then
    let offset := registerOffset address
    { address, target := .pocketCameraRegister (BitVec.ofNat 8 offset)
      availability := if offset < pocketCameraRegisterCount then .accessible else .reserved
      readBehavior := if offset = 0 then .storage else .fallbackValue 0
      writeBehavior := if offset < pocketCameraRegisterCount then .storage else .ignored }
  else
    { address, target := .bankedRam c.selectedRamBank
      availability := if c.captureIsWorking then .disabled else .accessible
      readBehavior :=
        if c.captureIsWorking then .fallbackValue pocketCameraWorkingRamReadValue else .storage
      writeBehavior := if c.captureIsWorking || !c.ramEnabled then .ignored else .storage }

def readRom (c : PocketCameraCartridge) (address : U16) : U8 :=
  readOr c.rom
    (bankedRomIndex 0 (c.effectiveRomBank (max (c.header.romSize.bankCount.getD 1) 1)) address)

def mappedRomWindow (c : PocketCameraCartridge) (address : U16) :
    Option CartridgeMappedRomWindow :=
  bankedRomWindow 0 (c.effectiveRomBank (max (c.header.romSize.bankCount.getD 1) 1)) address

def writeRom (c : PocketCameraCartridge) (address : U16) (value : U8) : PocketCameraCartridge :=
  if address ≤ 0x1FFF then { c with ramEnabled := value &&& 0x0F = 0x0A }
  else if address ≤ 0x3FFF then { c with romBank := value &&& 0x3F }
  else if address ≤ 0x5FFF then { c with ramBankOrRegisterSelect := value &&& 0x1F }
  else c

/-! ## The capture -/

def captureDurationTCycles (c : PocketCameraCartridge) : Nat :=
  let nBitExtra := if c.registers.get0 1 &&& 0x80 ≠ 0 then 0 else 512
  let exposure := (U16.ofBytes (c.registers.get0 2) (c.registers.get0 3)).toNat
  4 * (32446 + nBitExtra + 16 * exposure)

def commitStagedTiles (c : PocketCameraCartridge) (stagedTiles : List U8) :
    PocketCameraCartridge :=
  let start := pocketCameraCaptureTileBaseOffset
  if start + stagedTiles.length ≤ c.ram.length then
    { c with ram := c.ram.take start ++ stagedTiles ++ c.ram.drop (start + stagedTiles.length) }
  else c

/-- Outside a machine an access has no time, and completes nothing. -/
def maybeCompleteCapture (c : PocketCameraCartridge) (tCycle : Option Nat) :
    PocketCameraCartridge :=
  match tCycle, c.captureState with
  | some tCycle, .working readyAt stagedTiles =>
    if readyAt ≤ tCycle then { c with captureState := .idle }.commitStagedTiles stagedTiles else c
  | _, _ => c

/-- `cycle.saturating_add(cycles)`, from zero where there is no time. -/
def readyAfter (tCycle : Option Nat) (cycles : Nat) : Nat :=
  match tCycle with
  | some tCycle => saturatingAdd 64 tCycle cycles
  | none => cycles

def startNewCapture (c : PocketCameraCartridge) (tCycle : Option Nat) : PocketCameraCartridge :=
  { c with
    captureState := .working (readyAfter tCycle c.captureDurationTCycles)
      (c.registers.buildCaptureTiles c.hostFrame) }

def pauseCapture (c : PocketCameraCartridge) (tCycle : Option Nat) : PocketCameraCartridge :=
  match c.captureState with
  | .working readyAt stagedTiles =>
    { c with captureState := .paused (readyAt - tCycle.getD 0) stagedTiles }
  | _ => c

def resumeCapture (c : PocketCameraCartridge) (tCycle : Option Nat) : PocketCameraCartridge :=
  match c.captureState with
  | .paused remainingTCycles stagedTiles =>
    { c with captureState := .working (readyAfter tCycle remainingTCycles) stagedTiles }
  | _ => c

/-! ## The RAM window -/

def readRegister (c : PocketCameraCartridge) (address : U16) : U8 :=
  if registerOffset address = 0 then
    (c.registers.get0 0 &&& 0x06) ||| (if c.captureIsWorking then 1 else 0)
  else 0

/-- What the capture bit of register 0 does. -/
def writeCaptureBit (c : PocketCameraCartridge) (capture : Bool) (tCycle : Option Nat) :
    PocketCameraCartridge :=
  match capture, c.captureState with
  | true, .idle => c.startNewCapture tCycle
  | true, .paused .. => c.resumeCapture tCycle
  | true, .working .. => c
  | false, _ => if c.captureIsWorking then c.pauseCapture tCycle else c

def setRegister (c : PocketCameraCartridge) (offset : Nat) (value : U8) :
    PocketCameraCartridge :=
  { c with registers := c.registers.setIfInBounds offset value }

def writeRegister (c : PocketCameraCartridge) (address : U16) (value : U8)
    (tCycle : Option Nat) : PocketCameraCartridge :=
  let offset := registerOffset address
  if offset = 0 then
    (c.setRegister 0 (value &&& 0x06)).writeCaptureBit (value &&& 0x01 ≠ 0) tCycle
  else if offset ≤ 0x35 then c.setRegister offset value
  else c

def readRamAfterReadyResolution (c : PocketCameraCartridge) (address : U16) : U8 :=
  if c.registersSelected then c.readRegister address
  else if c.captureIsWorking then pocketCameraWorkingRamReadValue
  else readOr c.ram (c.effectiveRamOffset address)

def writeRamAfterReadyResolution (c : PocketCameraCartridge) (address : U16) (value : U8)
    (tCycle : Option Nat) : PocketCameraCartridge :=
  if c.registersSelected then c.writeRegister address value tCycle
  else if c.captureIsWorking || !c.ramEnabled then c
  else { c with ram := c.ram.set (c.effectiveRamOffset address) value }

def readRam (c : PocketCameraCartridge) (address : U16) : U8 :=
  c.readRamAfterReadyResolution address

def readRamTimed (c : PocketCameraCartridge) (address : U16) (tCycle : Nat) :
    U8 × PocketCameraCartridge :=
  let c := c.maybeCompleteCapture (some tCycle)
  (c.readRamAfterReadyResolution address, c)

def writeRam (c : PocketCameraCartridge) (address : U16) (value : U8) : PocketCameraCartridge :=
  c.writeRamAfterReadyResolution address value none

def writeRamTimed (c : PocketCameraCartridge) (address : U16) (value : U8) (tCycle : Nat) :
    PocketCameraCartridge :=
  (c.maybeCompleteCapture (some tCycle)).writeRamAfterReadyResolution address value (some tCycle)

/-! ## What it keeps without power -/

def persistenceMetadata (c : PocketCameraCartridge) : CartridgePersistenceMetadata :=
  { hasBattery := true, hasRtc := false, profile := .persistentRam (.linear c.ram.length) }

def persistentState (c : PocketCameraCartridge) : PersistentCartState := .pocketCameraRam c.ram

def restorePersistentState (c : PocketCameraCartridge) (state : PersistentCartState) :
    Except CartridgePersistentStateError Unit × PocketCameraCartridge :=
  match state with
  | .pocketCameraRam ram =>
    if c.ram.length ≠ ram.length then
      (.error (.ramLengthMismatch c.ram.length ram.length), c)
    else (.ok (), { c with ram })
  | other => (.error (.kindMismatch "PocketCameraRam" other.kindName), c)

/-! ## The loaded cartridge -/

def fresh (c : PocketCameraCartridge) : PocketCameraCartridge :=
  { powerOn c.rom c.header c.classification with ram := List.replicate c.ram.length 0 }

/-- The parts of the board: what no operation changes. -/
structure SameBoard (c c' : PocketCameraCartridge) : Prop where
  rom : c.rom = c'.rom
  header : c.header = c'.header
  classification : c.classification = c'.classification
  ramLength : c.ram.length = c'.ram.length

theorem SameBoard.refl (c : PocketCameraCartridge) : c.SameBoard c := ⟨rfl, rfl, rfl, rfl⟩

theorem SameBoard.trans {c c' c'' : PocketCameraCartridge} (h : c.SameBoard c')
    (h' : c'.SameBoard c'') : c.SameBoard c'' :=
  ⟨h.rom.trans h'.rom, h.header.trans h'.header, h.classification.trans h'.classification,
    h.ramLength.trans h'.ramLength⟩

theorem SameBoard.fresh {c c' : PocketCameraCartridge} (h : c.SameBoard c') :
    c.fresh = c'.fresh := by
  unfold PocketCameraCartridge.fresh
  rw [h.rom, h.header, h.classification, h.ramLength]

theorem sameBoard_of_fresh {c c' : PocketCameraCartridge} (h : c.fresh = c'.fresh) :
    c.SameBoard c' := by
  simp only [PocketCameraCartridge.fresh, powerOn, mk.injEq] at h
  obtain ⟨hrom, hram, hheader, hclassification, -⟩ := h
  have hlength := congrArg List.length hram
  rw [List.length_replicate, List.length_replicate] at hlength
  exact ⟨hrom, hheader, hclassification, hlength⟩

theorem sameBoard_writeRom (c : PocketCameraCartridge) (address : U16) (value : U8) :
    (c.writeRom address value).SameBoard c := by
  unfold writeRom
  repeat' split
  all_goals exact ⟨rfl, rfl, rfl, rfl⟩

theorem sameBoard_setHostFrame (c : PocketCameraCartridge) (frame : PocketCameraFrame) :
    (c.setHostFrame frame).2.SameBoard c := by
  unfold setHostFrame
  split <;> exact ⟨rfl, rfl, rfl, rfl⟩

theorem sameBoard_clearHostFrame (c : PocketCameraCartridge) : c.clearHostFrame.SameBoard c := by
  cases c
  exact ⟨rfl, rfl, rfl, rfl⟩

theorem sameBoard_commitStagedTiles (c : PocketCameraCartridge) (stagedTiles : List U8) :
    (c.commitStagedTiles stagedTiles).SameBoard c := by
  unfold commitStagedTiles
  dsimp only
  split
  · rename_i hfits
    refine ⟨rfl, rfl, rfl, ?_⟩
    simp only [List.length_append, List.length_take, List.length_drop]
    omega
  · exact .refl c

theorem sameBoard_maybeCompleteCapture (c : PocketCameraCartridge) (tCycle : Option Nat) :
    (c.maybeCompleteCapture tCycle).SameBoard c := by
  unfold maybeCompleteCapture
  split
  · split
    · exact (sameBoard_commitStagedTiles _ _).trans ⟨rfl, rfl, rfl, rfl⟩
    · exact .refl c
  · exact .refl c

theorem sameBoard_writeCaptureBit (c : PocketCameraCartridge) (capture : Bool)
    (tCycle : Option Nat) : (c.writeCaptureBit capture tCycle).SameBoard c := by
  unfold writeCaptureBit
  split
  · exact ⟨rfl, rfl, rfl, rfl⟩
  · unfold resumeCapture
    split <;> exact ⟨rfl, rfl, rfl, rfl⟩
  · exact .refl c
  · split
    · unfold pauseCapture
      split <;> exact ⟨rfl, rfl, rfl, rfl⟩
    · exact .refl c

theorem sameBoard_writeRamAfterReadyResolution (c : PocketCameraCartridge) (address : U16)
    (value : U8) (tCycle : Option Nat) :
    (c.writeRamAfterReadyResolution address value tCycle).SameBoard c := by
  unfold writeRamAfterReadyResolution writeRegister
  split
  · dsimp only
    split
    · exact (sameBoard_writeCaptureBit _ _ _).trans ⟨rfl, rfl, rfl, rfl⟩
    · split
      · exact ⟨rfl, rfl, rfl, rfl⟩
      · exact .refl c
  · split
    · exact .refl c
    · exact ⟨rfl, rfl, rfl, List.length_set⟩

theorem sameBoard_readRamTimed (c : PocketCameraCartridge) (address : U16) (tCycle : Nat) :
    (c.readRamTimed address tCycle).2.SameBoard c :=
  sameBoard_maybeCompleteCapture c (some tCycle)

theorem sameBoard_writeRamTimed (c : PocketCameraCartridge) (address : U16) (value : U8)
    (tCycle : Nat) : (c.writeRamTimed address value tCycle).SameBoard c :=
  (sameBoard_writeRamAfterReadyResolution _ _ _ _).trans (sameBoard_maybeCompleteCapture c _)

theorem sameBoard_restorePersistentState (c : PocketCameraCartridge) (state : PersistentCartState) :
    (c.restorePersistentState state).2.SameBoard c := by
  unfold restorePersistentState
  split
  · split
    · exact .refl c
    · rename_i hlength
      exact ⟨rfl, rfl, rfl, (not_not.mp hlength).symm⟩
  · exact .refl c

/-! ## Agreements -/

theorem readRom_eq_byteOf {c : PocketCameraCartridge} {address : U16}
    {window : CartridgeMappedRomWindow} (h : c.mappedRomWindow address = some window) :
    window.source = .rom ∧ c.readRom address = window.byteOf c.rom := by
  obtain ⟨hsource, hbyte⟩ := byteOf_bankedRomWindow h c.rom
  exact ⟨hsource, hbyte.symm⟩

theorem effectiveRamOffset_lt {c : PocketCameraCartridge}
    (hfits : c.ram.length = pocketCameraSupportedRamBytes) (address : ExternalAddress) :
    c.effectiveRamOffset address.address < c.ram.length := by
  have hoffset := address.offset_lt
  have hbank : c.selectedRamBank.toNat < 16 := by
    have hle : c.selectedRamBank.toNat ≤ 0x0F := by
      unfold selectedRamBank
      rw [BitVec.toNat_and]
      exact Nat.and_le_right
    exact Nat.lt_succ_of_le hle
  rw [hfits]
  unfold effectiveRamOffset pocketCameraRamBankBytes pocketCameraSupportedRamBytes
  omega

theorem registerOffset_ne_zero {c : PocketCameraCartridge} {address : U16}
    (hselected : c.registersSelected = true)
    (hcapture : (c.describeExternalAccess address).target ≠ .pocketCameraRegister 0) :
    registerOffset address ≠ 0 := by
  intro hzero
  refine hcapture ?_
  unfold describeExternalAccess
  rw [if_pos hselected, hzero]
  rfl

theorem describeExternalAccess_register {c : PocketCameraCartridge}
    (hselected : c.registersSelected = true) (address : U16)
    (hcapture : (c.describeExternalAccess address).target ≠ .pocketCameraRegister 0) :
    (c.describeExternalAccess address).Keeps c (·.readRam address) (c.writeRam address) := by
  have hoffset := registerOffset_ne_zero hselected hcapture
  have hbehavior : (c.describeExternalAccess address).readBehavior = .fallbackValue 0 := by
    unfold describeExternalAccess
    rw [if_pos hselected]
    exact if_neg hoffset
  refine CartridgeExternalAccessInfo.keeps_of_noStorage ?_ ?_ ?_
  · rw [hbehavior]
    intro h
    cases h
  · intro value hvalue
    rw [hbehavior] at hvalue
    cases hvalue
    show c.readRamAfterReadyResolution address = 0
    rw [readRamAfterReadyResolution, if_pos hselected, readRegister, if_neg hoffset]
  · intro hignored value
    have hbeyond : ¬ registerOffset address < pocketCameraRegisterCount := by
      intro hlt
      unfold describeExternalAccess at hignored
      rw [if_pos hselected] at hignored
      dsimp only at hignored
      rw [if_pos hlt] at hignored
      cases hignored
    unfold pocketCameraRegisterCount at hbeyond
    show c.writeRamAfterReadyResolution address value none = c
    unfold writeRamAfterReadyResolution writeRegister
    rw [if_pos hselected]
    dsimp only
    rw [if_neg hoffset, if_neg (by omega)]

theorem readRam_withRam (c : PocketCameraCartridge) (ram : List U8) (address : U16) :
    ({ c with ram }).readRam address =
      if c.registersSelected then c.readRegister address
      else if c.captureIsWorking then pocketCameraWorkingRamReadValue
      else readOr ram (c.effectiveRamOffset address) := by
  cases c
  rfl

theorem describeExternalAccess_ram {c : PocketCameraCartridge}
    (hfits : c.ram.length = pocketCameraSupportedRamBytes)
    (hselected : c.registersSelected = false) (address : ExternalAddress) :
    (c.describeExternalAccess address.address).Keeps c (·.readRam address.address)
      (c.writeRam address.address) := by
  have hram : ¬ c.registersSelected = true := by
    rw [hselected]
    exact Bool.false_ne_true
  have hread : c.readRam address.address = if c.captureIsWorking then
      pocketCameraWorkingRamReadValue
      else readOr c.ram (c.effectiveRamOffset address.address) := by
    show c.readRamAfterReadyResolution address.address = _
    rw [readRamAfterReadyResolution, if_neg hram]
  have hwrite (value : U8) : c.writeRam address.address value =
      if c.captureIsWorking || !c.ramEnabled then c
      else { c with ram := c.ram.set (c.effectiveRamOffset address.address) value } := by
    show c.writeRamAfterReadyResolution address.address value none = _
    rw [writeRamAfterReadyResolution, if_neg hram]
  unfold describeExternalAccess
  rw [if_neg hram]
  constructor
  · intro value hvalue
    cases hworking : c.captureIsWorking with
    | true =>
        rw [hworking] at hvalue
        cases hvalue
        rw [hread, hworking]
        rfl
    | false =>
        rw [hworking] at hvalue
        cases hvalue
  · intro hignored value
    rw [hwrite]
    cases hlocked : c.captureIsWorking || !c.ramEnabled with
    | true => rfl
    | false =>
        rw [hlocked] at hignored
        cases hignored
  · intro hstorage hstored value
    cases hlocked : c.captureIsWorking || !c.ramEnabled with
    | true =>
        rw [hlocked] at hstored
        cases hstored
    | false =>
        obtain ⟨hidle, -⟩ := Bool.or_eq_false_iff.mp hlocked
        have hafter : c.writeRam address.address value =
            { c with ram := c.ram.set (c.effectiveRamOffset address.address) value } := by
          rw [hwrite, hlocked]
          rfl
        dsimp only
        rw [hafter, readRam_withRam, if_neg hram, hidle]
        exact readOr_set (effectiveRamOffset_lt hfits address) value

/-- The registers are read and written as described, but for the capture register. -/
theorem describeExternalAccess_keeps {c : PocketCameraCartridge}
    (hfits : c.ram.length = pocketCameraSupportedRamBytes) (address : ExternalAddress)
    (hcapture : (c.describeExternalAccess address.address).target ≠ .pocketCameraRegister 0) :
    (c.describeExternalAccess address.address).Keeps c (·.readRam address.address)
      (c.writeRam address.address) := by
  cases hselected : c.registersSelected with
  | true => exact describeExternalAccess_register hselected address.address hcapture
  | false => exact describeExternalAccess_ram hfits hselected address

/-! ## The capture register -/

theorem writeCaptureBit_keeps (c : PocketCameraCartridge) (capture : Bool) (tCycle : Option Nat) :
    (c.writeCaptureBit capture tCycle).registers = c.registers ∧
      (c.writeCaptureBit capture tCycle).ramBankOrRegisterSelect = c.ramBankOrRegisterSelect := by
  unfold writeCaptureBit
  split
  · exact ⟨rfl, rfl⟩
  · unfold resumeCapture
    split <;> exact ⟨rfl, rfl⟩
  · exact ⟨rfl, rfl⟩
  · split
    · unfold pauseCapture
      split <;> exact ⟨rfl, rfl⟩
    · exact ⟨rfl, rfl⟩

/-- The capture bit says whether a capture is under way from then on. -/
theorem captureIsWorking_writeCaptureBit (c : PocketCameraCartridge) (capture : Bool)
    (tCycle : Option Nat) : (c.writeCaptureBit capture tCycle).captureIsWorking = capture := by
  unfold writeCaptureBit
  cases capture with
  | true =>
      cases hstate : c.captureState with
      | idle => rfl
      | working readyAt stagedTiles =>
          dsimp only
          rw [captureIsWorking, hstate]
      | paused remainingTCycles stagedTiles =>
          dsimp only
          rw [resumeCapture, hstate]
          rfl
  | false =>
      dsimp only
      cases hstate : c.captureState with
      | working readyAt stagedTiles =>
          rw [if_pos (by rw [captureIsWorking, hstate]), pauseCapture, hstate]
          rfl
      | idle | paused =>
          have hrests : c.captureIsWorking = false := by rw [captureIsWorking, hstate]
          rw [hrests]
          exact hrests

theorem captureRegister_bits : ∀ value : U8,
    (value &&& 0x06 &&& 0x06) ||| (if decide (value &&& 0x01 ≠ 0) = true then 1 else 0) =
      value &&& 0x07 := by
  decide

theorem registerOffset_of_captureRegister {c : PocketCameraCartridge} {address : U16}
    (hcapture : (c.describeExternalAccess address).target = .pocketCameraRegister 0) :
    c.registersSelected = true ∧ registerOffset address = 0 := by
  have hlt : registerOffset address < 128 := by
    have hle : registerOffset address ≤ pocketCameraRegisterMirrorMask.toNat := by
      unfold registerOffset
      rw [BitVec.toNat_and]
      exact Nat.and_le_right
    exact Nat.lt_succ_of_le hle
  unfold describeExternalAccess at hcapture
  split at hcapture
  · rename_i hselected
    injection hcapture with hoffset
    have hnat : registerOffset address % 2 ^ 8 = 0 := congrArg BitVec.toNat hoffset
    exact ⟨hselected, by omega⟩
  · cases hcapture

/-- The capture register is described as storage. -/
theorem describeExternalAccess_captureRegister {c : PocketCameraCartridge} {address : U16}
    (hcapture : (c.describeExternalAccess address).target = .pocketCameraRegister 0) :
    (c.describeExternalAccess address).readBehavior = .storage ∧
      (c.describeExternalAccess address).writeBehavior = .storage := by
  obtain ⟨hselected, hzero⟩ := registerOffset_of_captureRegister hcapture
  unfold describeExternalAccess
  rw [if_pos hselected, hzero]
  exact ⟨rfl, rfl⟩

/-- Three bits of a value written to the capture register are read back: its two flags, and
whether a capture is under way. -/
theorem readRam_writeRam_captureRegister {c : PocketCameraCartridge} {address : U16}
    (hcapture : (c.describeExternalAccess address).target = .pocketCameraRegister 0)
    (value : U8) : (c.writeRam address value).readRam address = value &&& 0x07 := by
  obtain ⟨hselected, hzero⟩ := registerOffset_of_captureRegister hcapture
  have hwrite : c.writeRam address value =
      (c.setRegister 0 (value &&& 0x06)).writeCaptureBit (value &&& 0x01 ≠ 0) none := by
    show c.writeRamAfterReadyResolution address value none = _
    unfold writeRamAfterReadyResolution writeRegister
    rw [if_pos hselected]
    dsimp only
    rw [if_pos hzero]
  obtain ⟨hregisters, hselect⟩ := writeCaptureBit_keeps (c.setRegister 0 (value &&& 0x06))
    (value &&& 0x01 ≠ 0) none
  have hworking := captureIsWorking_writeCaptureBit (c.setRegister 0 (value &&& 0x06))
    (value &&& 0x01 ≠ 0) none
  rw [← hwrite] at hregisters hselect hworking
  have hselected' : (c.writeRam address value).registersSelected = true := by
    unfold registersSelected
    rw [hselect]
    exact hselected
  have hkept : (c.setRegister 0 (value &&& 0x06)).registers.get0 0 = value &&& 0x06 := by
    unfold setRegister CameraRegisters.get0
    dsimp only
    rw [Vector.getElem?_setIfInBounds_self_of_lt (by decide)]
    rfl
  show (c.writeRam address value).readRamAfterReadyResolution address = _
  rw [readRamAfterReadyResolution, if_pos hselected', readRegister, if_pos hzero, hregisters,
    hkept, hworking]
  exact captureRegister_bits value

theorem maybeCompleteCapture_of_not_due {c : PocketCameraCartridge} {tCycle : Nat}
    (hdue : c.captureDue tCycle = false) : c.maybeCompleteCapture (some tCycle) = c := by
  unfold captureDue captureReadyAt at hdue
  unfold maybeCompleteCapture
  cases hstate : c.captureState with
  | working readyAt stagedTiles =>
      rw [hstate] at hdue
      exact if_neg (of_decide_eq_false hdue)
  | idle | paused => rfl

/-- Only the capture register needs the time of a write. -/
theorem writeRamAfterReadyResolution_time {c : PocketCameraCartridge} {address : U16}
    (hcapture : (c.describeExternalAccess address).target ≠ .pocketCameraRegister 0)
    (value : U8) (tCycle tCycle' : Option Nat) :
    c.writeRamAfterReadyResolution address value tCycle =
      c.writeRamAfterReadyResolution address value tCycle' := by
  unfold writeRamAfterReadyResolution
  by_cases hselected : c.registersSelected = true
  · have hoffset := registerOffset_ne_zero hselected hcapture
    rw [if_pos hselected, if_pos hselected]
    unfold writeRegister
    dsimp only
    rw [if_neg hoffset, if_neg hoffset]
  · rw [if_neg hselected, if_neg hselected]

/-- Nor does any other write touch the capture. -/
theorem captureDue_writeRam {c : PocketCameraCartridge} {address : U16}
    (hcapture : (c.describeExternalAccess address).target ≠ .pocketCameraRegister 0)
    (value : U8) (tCycle : Nat) :
    (c.writeRam address value).captureDue tCycle = c.captureDue tCycle := by
  unfold writeRam writeRamAfterReadyResolution
  split
  · rename_i hselected
    have hoffset := registerOffset_ne_zero hselected hcapture
    unfold writeRegister
    dsimp only
    rw [if_neg hoffset]
    split <;> rfl
  · split <;> rfl

/-- While no capture is due, an access at a time is the access without one. -/
theorem readRamTimed_of_not_due {c : PocketCameraCartridge} {tCycle : Nat}
    (hdue : c.captureDue tCycle = false) (address : U16) :
    (c.readRamTimed address tCycle).1 = c.readRam address := by
  unfold readRamTimed
  rw [maybeCompleteCapture_of_not_due hdue]
  rfl

theorem writeRamTimed_of_not_due {c : PocketCameraCartridge} {tCycle : Nat}
    (hdue : c.captureDue tCycle = false) {address : U16}
    (hcapture : (c.describeExternalAccess address).target ≠ .pocketCameraRegister 0)
    (value : U8) : c.writeRamTimed address value tCycle = c.writeRam address value := by
  unfold writeRamTimed
  rw [maybeCompleteCapture_of_not_due hdue]
  exact writeRamAfterReadyResolution_time hcapture value (some tCycle) none

theorem restorePersistentState_error {c : PocketCameraCartridge} {state : PersistentCartState}
    {error : CartridgePersistentStateError} (h : (c.restorePersistentState state).1 = .error error) :
    (c.restorePersistentState state).2 = c := by
  unfold restorePersistentState at h ⊢
  split at h
  · split at h
    · rename_i hlength
      rw [if_pos hlength]
    · cases h
  · rfl

theorem restorePersistentState_persistentState {c loaded : PocketCameraCartridge}
    (hlength : c.ram.length = loaded.ram.length) :
    (loaded.restorePersistentState c.persistentState).1 = .ok () ∧
      (loaded.restorePersistentState c.persistentState).2.persistentState = c.persistentState := by
  unfold persistentState restorePersistentState
  dsimp only
  rw [if_neg (not_not.mpr hlength.symm)]
  exact ⟨rfl, rfl⟩

end PocketCameraCartridge

end GbCycle
