import GbCycle.Bus.Access
import GbCycle.Cpu.Core
import GbCycle.Ppu.StatLine

/-!
# OAM corruption

On the monochrome consoles an address of page `FE` that the CPU puts on its internal bus while the
PPU scans OAM disturbs the row being scanned, whether it belongs to an access or only to a register
being counted up or down.  The bus is told of every address after the micro-operation, decides
whether it reaches OAM, and has the PPU corrupt the bytes.
-/

namespace GbCycle

/-! ## The rows of OAM -/

def oamCorruptionDotsPerRow : Nat := 4
abbrev oamCorruptionRowBytes : Nat := 8
abbrev oamCorruptionRowWords : Nat := 4
abbrev oamCorruptionRowCount : Nat := 20

abbrev OamRow := Fin oamCorruptionRowCount

def OamRow.previous (row : OamRow) (rows : Nat) : OamRow :=
  ⟨row.val - rows, Nat.lt_of_le_of_lt (Nat.sub_le _ _) row.isLt⟩

def oamWordStart (row : OamRow) (word : Fin oamCorruptionRowWords) : Nat :=
  row.val * oamCorruptionRowBytes + word.val * 2

theorem oamWordStart_lt (row : OamRow) (word : Fin oamCorruptionRowWords) :
    oamWordStart row word + 1 < oamLen := by
  have hrow : row.val < 20 := row.isLt
  have hword : word.val < 4 := word.isLt
  show row.val * 8 + word.val * 2 + 1 < 160
  omega

theorem oamRowByte_lt (row : OamRow) (byte : Fin oamCorruptionRowBytes) :
    row.val * oamCorruptionRowBytes + byte.val < oamLen := by
  have hrow : row.val < 20 := row.isLt
  have hbyte : byte.val < 8 := byte.isLt
  show row.val * 8 + byte.val < 160
  omega

section Bytes

variable (oam : Vector U8 oamLen) (row : OamRow)

def readOamRow : Vector U8 oamCorruptionRowBytes :=
  .ofFn fun byte => oam.get ⟨row.val * oamCorruptionRowBytes + byte.val, oamRowByte_lt row byte⟩

def writeOamRow (rowBytes : Vector U8 oamCorruptionRowBytes) : Vector U8 oamLen :=
  .ofFn fun i =>
    if i.val / oamCorruptionRowBytes = row.val then
      rowBytes.get ⟨i.val % oamCorruptionRowBytes, Nat.mod_lt _ (by decide)⟩
    else oam.get i

def readOamWord (word : Fin oamCorruptionRowWords) : U16 :=
  .ofBytes (oam.get ⟨oamWordStart row word + 1, oamWordStart_lt row word⟩)
    (oam.get ⟨oamWordStart row word, Nat.lt_of_succ_lt (oamWordStart_lt row word)⟩)

def writeOamWord (word : Fin oamCorruptionRowWords) (value : U16) : Vector U8 oamLen :=
  (oam.set (oamWordStart row word) value.low (Nat.lt_of_succ_lt (oamWordStart_lt row word))).set
    (oamWordStart row word + 1) value.high (oamWordStart_lt row word)

/-- The words but the first are those of the row before. -/
def copyPreviousRowTail : Vector U8 oamLen :=
  ([1, 2, 3] : List (Fin oamCorruptionRowWords)).foldl
    (fun oam word => writeOamWord oam row word (readOamWord oam (row.previous 1) word)) oam

end Bytes

inductive OamCorruptionEventKind where
  | read
  | write
  | readWithIncDec
  | writeWithIncDec
  deriving Repr, DecidableEq

namespace OamCorruptionController

def applyWriteCorruption (currentRow : OamRow) (oam : Vector U8 oamLen) : Vector U8 oamLen :=
  if currentRow.val = 0 then oam
  else
    let currentFirst := readOamWord oam currentRow 0
    let previousFirst := readOamWord oam (currentRow.previous 1) 0
    let previousThird := readOamWord oam (currentRow.previous 1) 2
    let corruptedFirst :=
      ((currentFirst ^^^ previousThird) &&& (previousFirst ^^^ previousThird)) ^^^ previousThird
    copyPreviousRowTail (writeOamWord oam currentRow 0 corruptedFirst) currentRow

def readCorruptionMirrorsPreviousRow (currentRow : OamRow) : Bool := currentRow.val % 2 == 1

def applyReadCorruption (currentRow : OamRow) (oam : Vector U8 oamLen) : Vector U8 oamLen :=
  if currentRow.val = 0 then oam
  else
    let currentFirst := readOamWord oam currentRow 0
    let previousFirst := readOamWord oam (currentRow.previous 1) 0
    let previousThird := readOamWord oam (currentRow.previous 1) 2
    let corruptedFirst := previousFirst ||| (currentFirst &&& previousThird)
    let mirrored :=
      if readCorruptionMirrorsPreviousRow currentRow then
        writeOamWord oam (currentRow.previous 1) 0 corruptedFirst
      else oam
    copyPreviousRowTail (writeOamWord mirrored currentRow 0 corruptedFirst) currentRow

/-- The rows that come before the read corruption proper, where there are enough of them. -/
def spreadPreviousRow (currentRow : OamRow) (oam : Vector U8 oamLen) : Vector U8 oamLen :=
  if 4 ≤ currentRow.val ∧ currentRow.val < oamCorruptionRowCount - 1 then
    let rowMinusTwo := currentRow.previous 2
    let previousRow := currentRow.previous 1
    let a := readOamWord oam rowMinusTwo 0
    let b := readOamWord oam previousRow 0
    let c := readOamWord oam currentRow 0
    let d := readOamWord oam previousRow 2
    let corruptedPreviousFirst := (b &&& (a ||| c ||| d)) ||| (a &&& c &&& d)
    let corrupted := writeOamWord oam previousRow 0 corruptedPreviousFirst
    let previousRowBytes := readOamRow corrupted previousRow
    writeOamRow (writeOamRow corrupted currentRow previousRowBytes) rowMinusTwo previousRowBytes
  else oam

def applyReadWithIncdecCorruption (currentRow : OamRow) (oam : Vector U8 oamLen) :
    Vector U8 oamLen :=
  applyReadCorruption currentRow (spreadPreviousRow currentRow oam)

def apply (consoleModel : ConsoleModel) (currentRow : Nat) (event : OamCorruptionEventKind)
    (oam : Vector U8 oamLen) : Vector U8 oamLen :=
  if !consoleModel.isDmgFamily then oam
  else if hrow : currentRow < oamCorruptionRowCount then
    match event with
    | .read => applyReadCorruption ⟨currentRow, hrow⟩ oam
    | .write | .writeWithIncDec => applyWriteCorruption ⟨currentRow, hrow⟩ oam
    | .readWithIncDec => applyReadWithIncdecCorruption ⟨currentRow, hrow⟩ oam
  else oam

end OamCorruptionController

/-! ## The PPU -/

namespace Ppu

def currentMode2OamRow (p : Ppu) : Option Nat :=
  if !p.lcdEnabled || decide (visibleScanlines ≤ p.ly) || p.currentAccessMode != .oamScan then none
  else some (p.lineDot / oamCorruptionDotsPerRow % 2 ^ 8)

def applyOamCorruptionEvent (p : Ppu) (event : OamCorruptionEventKind) (oam : Vector U8 oamLen) :
    Vector U8 oamLen :=
  match p.currentMode2OamRow with
  | none => oam
  | some row => OamCorruptionController.apply p.consoleModel row event oam

end Ppu

/-! ## The bus -/

def addressMayHitOamCorruption (address : U16) : Bool := address &&& 0xFF00 == 0xFE00

/-- The address that the address unit counts from. -/
def iduGlitchedAddress (event : CpuAddressEvent) : Option U16 := do
  let drivenAddress ← event.iduAddress
  let direction ← event.updateDirection
  match direction with
  | .increment => some (drivenAddress - 1)
  | .decrement => some (drivenAddress + 1)

namespace Bus

def iduEventReachesOam (b : Bus) (address : U16) : Bool :=
  b.consoleModel.isDmgFamily && addressMayHitOamCorruption address

/-- What an access corrupts with; `withIdu` where a register is counted in the same cycle. -/
def classifyOamAccess (b : Bus) (event : CpuAddressEvent) (state : BusArbitrationState)
    (accessKind : BusAccessKind) (withIdu : Bool) (kind : OamCorruptionEventKind) :
    Option OamCorruptionEventKind := do
  let accessAddress ← event.accessAddress
  let iduMayHitOamCorruption :=
    withIdu && (iduGlitchedAddress event).any addressMayHitOamCorruption
  if !addressMayHitOamCorruption accessAddress && !iduMayHitOamCorruption then none
  else
    let resolution :=
      b.resolveRequesterAccess .cpu accessKind accessAddress state (none : Option CartridgeSlot)
    let reason := resolution.disposition.blockedReason
    let accessHitsCorruption :=
      addressMayHitOamCorruption accessAddress &&
        match resolution.target.region, accessKind with
        | .oam, _ => reason == some .ppuOamBlockedDuringMode2
        | .unusable, .write => state.ppu.lcdEnabled && state.ppu.mode == .oamScan
        | .unusable, .read =>
            state.ppu.lcdEnabled && state.ppu.mode == .oamScan &&
              reason == some .unusableRegionDuringOamBlock
        | _, _ => false
    let iduHitsCorruption := withIdu && (iduGlitchedAddress event).any b.iduEventReachesOam
    if accessHitsCorruption || iduHitsCorruption then some kind else none

def classifyOamCorruptionEvent (b : Bus) (event : CpuAddressEvent) (state : BusArbitrationState) :
    Option OamCorruptionEventKind :=
  match event.kind with
  | .incDec => do
      let glitchedAddress ← iduGlitchedAddress event
      if b.iduEventReachesOam glitchedAddress then some .write else none
  | .read => b.classifyOamAccess event state .read false .read
  | .write => b.classifyOamAccess event state .write false .write
  | .readWithIncDec => b.classifyOamAccess event state .read true .readWithIncDec
  | .writeWithIncDec => b.classifyOamAccess event state .write true .writeWithIncDec

def routeCpuAddressEvent (b : Bus) (event : CpuAddressEvent) (state : BusArbitrationState)
    (ppu : Ppu) : Bus :=
  if !b.consoleModel.isDmgFamily then b
  else
    match b.classifyOamCorruptionEvent event state with
    | none => b
    | some kind => { b with oam := ⟨ppu.applyOamCorruptionEvent kind b.oam.bytes⟩ }

end Bus

/-! ## What a corruption leaves alone -/

theorem page_of_mayHit {a : U16} (h : addressMayHitOamCorruption a = true) :
    0xFE00 ≤ a ∧ a ≤ 0xFEFF := by
  rw [addressMayHitOamCorruption, beq_iff_eq] at h
  have hand : (a &&& 0xFF00).high = a.high := by
    rw [U16.high, BitVec.ushiftRight_and_distrib, BitVec.setWidth_and]
    exact BitVec.and_allOnes
  have hpage : a.toNat / 256 % 256 = 0xFE := by
    have hnat := congrArg BitVec.toNat (hand.symm.trans (congrArg U16.high h))
    rw [U16.high, BitVec.toNat_setWidth, BitVec.toNat_ushiftRight,
      Nat.shiftRight_eq_div_pow] at hnat
    exact hnat
  constructor <;> bv_omega

/-- Byte `i` of OAM lies outside the row and the two before it. -/
def OutsideCorruption (row i : Nat) : Prop :=
  i / oamCorruptionRowBytes + 2 < row ∨ row < i / oamCorruptionRowBytes

section Outside

variable {oam : Vector U8 oamLen} {row : OamRow} {i : Fin oamLen}

theorem writeOamWord_get {word : Fin oamCorruptionRowWords} {value : U16}
    (h : i.val / oamCorruptionRowBytes ≠ row.val) :
    (writeOamWord oam row word value).get i = oam.get i := by
  have hword : word.val < 4 := word.isLt
  have hrow : i.val / 8 ≠ row.val := h
  have hlow : oamWordStart row word ≠ i.val := by
    show row.val * 8 + word.val * 2 ≠ i.val
    omega
  have hhigh : oamWordStart row word + 1 ≠ i.val := by
    show row.val * 8 + word.val * 2 + 1 ≠ i.val
    omega
  show (writeOamWord oam row word value)[i.val] = oam[i.val]
  rw [writeOamWord, Vector.getElem_set_ne _ _ hhigh, Vector.getElem_set_ne _ _ hlow]

theorem writeOamRow_get {rowBytes : Vector U8 oamCorruptionRowBytes}
    (h : i.val / oamCorruptionRowBytes ≠ row.val) :
    (writeOamRow oam row rowBytes).get i = oam.get i := by
  show (writeOamRow oam row rowBytes)[i.val] = oam.get i
  rw [writeOamRow, Vector.getElem_ofFn, if_neg h]

theorem copyPreviousRowTail_get (h : i.val / oamCorruptionRowBytes ≠ row.val) :
    (copyPreviousRowTail oam row).get i = oam.get i := by
  unfold copyPreviousRowTail
  simp only [List.foldl_cons, List.foldl_nil, writeOamWord_get h]

namespace OamCorruptionController

theorem applyWriteCorruption_get (h : OutsideCorruption row.val i.val) :
    (applyWriteCorruption row oam).get i = oam.get i := by
  have hrow : i.val / oamCorruptionRowBytes ≠ row.val := by
    rcases h with h | h <;> omega
  unfold applyWriteCorruption
  split
  · rfl
  · rw [copyPreviousRowTail_get hrow, writeOamWord_get hrow]

theorem applyReadCorruption_get (h : OutsideCorruption row.val i.val) :
    (applyReadCorruption row oam).get i = oam.get i := by
  have hrow : i.val / oamCorruptionRowBytes ≠ row.val := by
    rcases h with h | h <;> omega
  unfold applyReadCorruption
  split
  · rfl
  · have hprevious : i.val / oamCorruptionRowBytes ≠ (row.previous 1).val := by
      show _ ≠ row.val - 1
      rcases h with h | h <;> omega
    rw [copyPreviousRowTail_get hrow, writeOamWord_get hrow]
    split
    · rw [writeOamWord_get hprevious]
    · rfl

theorem spreadPreviousRow_get (h : OutsideCorruption row.val i.val) :
    (spreadPreviousRow row oam).get i = oam.get i := by
  unfold spreadPreviousRow
  split
  · have hrow : i.val / oamCorruptionRowBytes ≠ row.val := by
      rcases h with h | h <;> omega
    have hprevious : i.val / oamCorruptionRowBytes ≠ (row.previous 1).val := by
      show _ ≠ row.val - 1
      rcases h with h | h <;> omega
    have hminusTwo : i.val / oamCorruptionRowBytes ≠ (row.previous 2).val := by
      show _ ≠ row.val - 2
      rcases h with h | h <;> omega
    rw [writeOamRow_get hminusTwo, writeOamRow_get hrow, writeOamWord_get hprevious]
  · rfl

end OamCorruptionController

end Outside

/-- A corruption reaches no further than the row scanned and the two before it, and only a
monochrome PPU has any. -/
theorem Ppu.applyOamCorruptionEvent_get {p : Ppu} {event : OamCorruptionEventKind}
    {oam : Vector U8 oamLen} {i : Fin oamLen}
    (h : p.consoleModel.isDmgFamily = true →
      ∀ row, p.currentMode2OamRow = some row → OutsideCorruption row i.val) :
    (p.applyOamCorruptionEvent event oam).get i = oam.get i := by
  unfold applyOamCorruptionEvent
  cases hrow : p.currentMode2OamRow with
  | none => rfl
  | some row =>
      dsimp only
      unfold OamCorruptionController.apply
      cases hfamily : p.consoleModel.isDmgFamily with
      | false => rfl
      | true =>
          have houtside := h hfamily row hrow
          rw [Bool.not_true, if_neg Bool.false_ne_true]
          split
          · cases event with
            | read => exact OamCorruptionController.applyReadCorruption_get houtside
            | write | writeWithIncDec =>
                exact OamCorruptionController.applyWriteCorruption_get houtside
            | readWithIncDec =>
                exact (OamCorruptionController.applyReadCorruption_get houtside).trans
                  (OamCorruptionController.spreadPreviousRow_get houtside)
          · rfl

/-- An address event moves OAM alone. -/
theorem Bus.routeCpuAddressEvent_eq (b : Bus) (event : CpuAddressEvent)
    (state : BusArbitrationState) (ppu : Ppu) :
    b.routeCpuAddressEvent event state ppu =
      { b with oam := (b.routeCpuAddressEvent event state ppu).oam } := by
  unfold routeCpuAddressEvent
  split
  · rfl
  · split
    · rfl
    · rfl

end GbCycle
