import GbCycle.Cartridge.Mbc7
import Mathlib.Data.List.GetD
import Mathlib.Tactic.IntervalCases

/-!
# The serial protocol of the MBC7 EEPROM

What a program does with the EEPROM is a sequence of bytes written to one register.  While the
chip is selected only the rising edges of the clock matter, and what they find on the data line:
a selected run is a fold over its bits, whatever else the bytes do.  A command is a session, from
the chip select low to the end of its bits.
-/

namespace GbCycle

namespace Mbc7Eeprom

/-! ## Words -/

/-- The word at one of the 128 addresses. -/
def word (e : Mbc7Eeprom) (address : BitVec 7) : U16 := e.readEepromWord (address.setWidth 8)

theorem eepromWordOffset_setWidth (address : BitVec 7) :
    eepromWordOffset (address.setWidth 8) = 2 * address.toNat := by
  have hlt := address.isLt
  unfold eepromWordOffset mbc7EepromWords mbc7EepromBytes
  rw [BitVec.toNat_setWidth]
  omega

theorem word_eq_of_eeprom {e e' : Mbc7Eeprom} (h : e.eeprom = e'.eeprom) (address : BitVec 7) :
    e.word address = e'.word address := by
  unfold word readEepromWord
  rw [h]

theorem word_writeEepromWord (e : Mbc7Eeprom) (a : BitVec 7) (value : U16) (b : BitVec 7) :
    (e.writeEepromWord (a.setWidth 8) value).word b = if b = a then value else e.word b := by
  have hsize : 2 * b.toNat + 1 < mbc7EepromBytes := by
    have hb := b.isLt
    unfold mbc7EepromBytes
    omega
  unfold word readEepromWord writeEepromWord
  simp only [eepromWordOffset_setWidth, Vector.getElem?_setIfInBounds]
  by_cases hab : b = a
  · subst hab
    rw [if_pos rfl, if_neg (by omega), if_pos rfl, if_pos (by omega), if_pos rfl,
      if_pos (by omega)]
    exact U16.ofBytes_high_low value
  · have hne : a.toNat ≠ b.toNat := fun h => hab (BitVec.eq_of_toNat_eq h.symm)
    rw [if_neg hab, if_neg (by omega), if_neg (by omega), if_neg (by omega), if_neg (by omega)]

/-! ## Writes that are disabled -/

theorem eeprom_finishEepromCommand {e : Mbc7Eeprom} (h : e.eepromWriteEnabled = false)
    (command : U16) : (e.finishEepromCommand command).eeprom = e.eeprom := by
  unfold finishEepromCommand finishEepromExtendedCommand endCommand
  simp only [h, Bool.false_eq_true, if_false]
  split
  · rfl
  · split
    · rfl
    · split
      · rfl
      · split
        · rfl
        · split
          · rfl
          · split <;> rfl

theorem eeprom_commitEepromData {e : Mbc7Eeprom} (h : e.eepromWriteEnabled = false)
    (target : Mbc7EepromDataTarget) (value : U16) :
    (e.commitEepromData target value).eeprom = e.eeprom := by
  unfold commitEepromData endCommand
  simp only [h, Bool.false_eq_true, if_false]

/-- Whatever command is under way, it changes nothing while writes are disabled. -/
theorem eeprom_clockEeprom {e : Mbc7Eeprom} (h : e.eepromWriteEnabled = false) :
    e.clockEeprom.eeprom = e.eeprom := by
  unfold clockEeprom
  cases e.eepromCommand with
  | idle =>
      dsimp only
      split <;> rfl
  | receivingCommand bits value =>
      dsimp only
      split
      · exact eeprom_finishEepromCommand h _
      · rfl
  | receivingData target bits value =>
      dsimp only
      split
      · exact eeprom_commitEepromData h target _
      · rfl
  | sendingRead bitsRemaining value =>
      dsimp only
      split <;> rfl

theorem eeprom_writeEepromPins_disabled {e : Mbc7Eeprom} (h : e.eepromWriteEnabled = false)
    (value : U8) : (e.writeEepromPins value).eeprom = e.eeprom := by
  unfold writeEepromPins
  dsimp only
  split
  · rfl
  · split
    · rw [eeprom_clockEeprom]
      exact h
    · rfl

/-- The chip select goes low: the command is given up. -/
theorem writeEepromPins_deselected (e : Mbc7Eeprom) {value : U8} (h : pinCs value = false) :
    (e.writeEepromPins value).eeprom = e.eeprom ∧
      (e.writeEepromPins value).eepromCommand = .idle := by
  unfold writeEepromPins
  simp only [h, Bool.not_false, if_true]
  exact ⟨rfl, rfl⟩

/-! ## Selected runs -/

/-- The data line, as a program reads it. -/
def dataOut (e : Mbc7Eeprom) : Bool := e.readEepromPins &&& mbc7EepromPinDo ≠ 0

theorem dataOut_eq_doPin (e : Mbc7Eeprom) : e.dataOut = e.eepromPins.doPin := by
  unfold dataOut readEepromPins
  rcases e.eepromPins with ⟨cs, clk, di, doPin⟩
  revert cs clk di doPin
  decide

/-- A sequence of writes to the register. -/
def writePins (e : Mbc7Eeprom) (values : List U8) : Mbc7Eeprom :=
  values.foldl writeEepromPins e

/-- What the data line says after each rising edge of the clock, the chip being selected. -/
def shiftedOut (e : Mbc7Eeprom) : List U8 → List Bool
  | [] => []
  | value :: rest =>
      if pinCs value && !e.eepromPins.clk && pinClk value then
        (e.writeEepromPins value).dataOut :: (e.writeEepromPins value).shiftedOut rest
      else (e.writeEepromPins value).shiftedOut rest

/-- The bits on the data line at the rising edges of the clock. -/
def clockedBits (clk : Bool) : List U8 → List Bool
  | [] => []
  | value :: rest =>
      if !clk && pinClk value then pinDi value :: clockedBits (pinClk value) rest
      else clockedBits (pinClk value) rest

/-- The EEPROM without what the register says of the three lines that it drives. -/
def settled (e : Mbc7Eeprom) : Mbc7Eeprom :=
  { e with eepromPins := { doPin := e.eepromPins.doPin } }

/-- A settled EEPROM. -/
def core (eeprom : Vector U8 mbc7EepromBytes) (doPin : Bool) (command : Mbc7EepromCommand)
    (writeEnabled : Bool) : Mbc7Eeprom :=
  { eeprom, eepromPins := { doPin }, eepromCommand := command, eepromWriteEnabled := writeEnabled }

/-- One rising edge of the clock with a bit on the data line. -/
def clockBit (e : Mbc7Eeprom) (bit : Bool) : Mbc7Eeprom :=
  ({ e with eepromPins := { e.eepromPins with di := bit } }).clockEeprom.settled

/-- Outputs of a settled run. -/
def outputs (e : Mbc7Eeprom) : List Bool → List Bool
  | [] => []
  | bit :: bits => (e.clockBit bit).eepromPins.doPin :: (e.clockBit bit).outputs bits

@[simp] theorem length_outputs (e : Mbc7Eeprom) (bits : List Bool) :
    (e.outputs bits).length = bits.length := by
  induction bits generalizing e with
  | nil => rfl
  | cons bit bits ih => exact congrArg (· + 1) (ih (e.clockBit bit))

theorem outputs_append (e : Mbc7Eeprom) (first second : List Bool) :
    e.outputs (first ++ second) =
      e.outputs first ++ (first.foldl clockBit e).outputs second := by
  induction first generalizing e with
  | nil => rfl
  | cons bit first ih => exact congrArg (_ :: ·) (ih (e.clockBit bit))

/-- Words that are written change the memory alone, and by what it was. -/
theorem writeEepromWord_foldl (addresses : List Nat) (value : U16) (e : Mbc7Eeprom) :
    addresses.foldl (fun e address => e.writeEepromWord (BitVec.ofNat 8 address) value) e =
      { e with
        eeprom :=
          (addresses.foldl (fun e address => e.writeEepromWord (BitVec.ofNat 8 address) value)
            (core e.eeprom true .idle true)).eeprom } := by
  induction addresses generalizing e with
  | nil => rfl
  | cons address addresses ih =>
      rw [List.foldl_cons, ih]
      rfl

theorem settled_commitEepromData (e : Mbc7Eeprom) (target : Mbc7EepromDataTarget) (value : U16) :
    (e.commitEepromData target value).settled =
      ((core e.eeprom e.eepromPins.doPin .idle e.eepromWriteEnabled).commitEepromData target
        value).settled := by
  unfold commitEepromData core
  dsimp only
  split
  · cases target with
    | writeWord address => rfl
    | writeAll =>
        dsimp only
        generalize List.range mbc7EepromWords = addresses
        rw [writeEepromWord_foldl _ _ e,
          writeEepromWord_foldl _ _ ⟨e.eeprom, ⟨false, false, false, _⟩, _, _⟩]
        rfl
  · rfl

theorem settled_finishEepromCommand (e : Mbc7Eeprom) (command : U16) :
    (e.finishEepromCommand command).settled =
      ((core e.eeprom e.eepromPins.doPin .idle e.eepromWriteEnabled).finishEepromCommand
        command).settled := by
  unfold finishEepromCommand finishEepromExtendedCommand core
  dsimp only
  split
  · rfl
  · split
    · rfl
    · split
      · split <;> rfl
      · split
        · rfl
        · split
          · rfl
          · split
            · split <;> rfl
            · rfl

/-- The clock and the chip select are nothing to a rising edge. -/
theorem settled_clockEeprom (e : Mbc7Eeprom) :
    e.clockEeprom.settled = e.settled.clockBit e.eepromPins.di := by
  obtain ⟨eeprom, ⟨cs, clk, di, doPin⟩, command, enabled⟩ := e
  show (clockEeprom ⟨eeprom, ⟨cs, clk, di, doPin⟩, command, enabled⟩).settled =
    (clockEeprom ⟨eeprom, ⟨false, false, di, doPin⟩, command, enabled⟩).settled
  unfold clockEeprom
  cases command with
  | idle => cases di <;> rfl
  | receivingCommand bits value =>
      dsimp only
      split
      · rw [settled_finishEepromCommand]
        exact (settled_finishEepromCommand ⟨eeprom, ⟨false, false, di, doPin⟩, _, enabled⟩ _).symm
      · rfl
  | receivingData target bits value =>
      dsimp only
      split
      · rw [settled_commitEepromData]
        exact (settled_commitEepromData ⟨eeprom, ⟨false, false, di, doPin⟩, _, enabled⟩ _ _).symm
      · rfl
  | sendingRead bitsRemaining value =>
      dsimp only
      split <;> rfl

theorem clk_clockEeprom (e : Mbc7Eeprom) : e.clockEeprom.eepromPins.clk = e.eepromPins.clk := by
  unfold clockEeprom
  cases e.eepromCommand with
  | idle =>
      dsimp only
      split <;> rfl
  | receivingCommand bits value =>
      dsimp only
      unfold finishEepromCommand finishEepromExtendedCommand endCommand writeEepromWord
      repeat' split
      all_goals rfl
  | receivingData target bits value =>
      dsimp only
      split
      · unfold commitEepromData endCommand
        dsimp only
        split
        · cases target with
          | writeWord address => rfl
          | writeAll =>
              dsimp only
              rw [writeEepromWord_foldl]
        · rfl
      · rfl
  | sendingRead bitsRemaining value =>
      dsimp only
      split <;> rfl

/-- One write with the chip selected. -/
theorem settled_writeEepromPins (e : Mbc7Eeprom) {value : U8} (h : pinCs value = true) :
    (e.writeEepromPins value).settled =
        (if !e.eepromPins.clk && pinClk value then e.settled.clockBit (pinDi value)
        else e.settled) ∧
      (e.writeEepromPins value).eepromPins.clk = pinClk value := by
  unfold writeEepromPins
  simp only [h, Bool.not_true, Bool.false_eq_true, if_false]
  split
  · refine ⟨?_, ?_⟩
    · exact settled_clockEeprom _
    · exact clk_clockEeprom _
  · exact ⟨rfl, rfl⟩

/-- A selected run is a fold over the bits that it clocks. -/
theorem settled_writePins (e : Mbc7Eeprom) {values : List U8}
    (hselected : ∀ value ∈ values, pinCs value = true) :
    (e.writePins values).settled =
      (clockedBits e.eepromPins.clk values).foldl clockBit e.settled := by
  induction values generalizing e with
  | nil => rfl
  | cons value rest ih =>
      obtain ⟨hsettled, hclk⟩ :=
        settled_writeEepromPins e (hselected value (List.mem_cons_self ..))
      have hrest := ih (e.writeEepromPins value) fun v hv => hselected v (List.mem_cons_of_mem _ hv)
      show ((e.writeEepromPins value).writePins rest).settled = _
      rw [hrest, hsettled, hclk]
      simp only [clockedBits]
      split <;> rfl

/-- And so is what it shifts out. -/
theorem shiftedOut_eq_outputs (e : Mbc7Eeprom) {values : List U8}
    (hselected : ∀ value ∈ values, pinCs value = true) :
    e.shiftedOut values = e.settled.outputs (clockedBits e.eepromPins.clk values) := by
  induction values generalizing e with
  | nil => rfl
  | cons value rest ih =>
      have hvalue := hselected value (List.mem_cons_self ..)
      obtain ⟨hsettled, hclk⟩ := settled_writeEepromPins e hvalue
      have hrest := ih (e.writeEepromPins value) fun v hv => hselected v (List.mem_cons_of_mem _ hv)
      simp only [shiftedOut, clockedBits]
      rw [hrest, hsettled, hclk, hvalue, Bool.true_and, dataOut_eq_doPin]
      have hdata : (e.writeEepromPins value).eepromPins.doPin =
          (e.writeEepromPins value).settled.eepromPins.doPin := rfl
      rw [hdata, hsettled]
      split <;> rfl

/-! ## Sessions -/

/-- The chip select goes low, and then the bits are clocked with the chip selected. -/
inductive Session (bits : List Bool) : List U8 → Prop where
  | selected (low : U8) (values : List U8) (hlow : pinCs low = false)
      (hselected : ∀ value ∈ values, pinCs value = true)
      (hbits : clockedBits (pinClk low) values = bits) : Session bits (low :: values)

/-- The bits of a value, the highest first. -/
def bitsOf {n : Nat} (value : BitVec n) : List Bool := (List.range n).reverse.map value.getLsbD

@[simp] theorem length_bitsOf {n : Nat} (value : BitVec n) : (bitsOf value).length = n := by
  simp [bitsOf]

/-- A start bit, two bits of an operation, and eight more, of which the first says nothing where
the others are an address. -/
def commandBits (operation : BitVec 2) (spare : Bool) (address : BitVec 7) : List Bool :=
  true :: (bitsOf operation ++ spare :: bitsOf address)

/-- EWEN, whose last six bits say nothing. -/
def writeEnableBits (rest : BitVec 6) : List Bool :=
  true :: (bitsOf (0b0011 : BitVec 4) ++ bitsOf rest)

def writeBits (spare : Bool) (address : BitVec 7) (value : U16) : List Bool :=
  commandBits 0b01 spare address ++ bitsOf value

/-- Whatever is on the data line while the word is read. -/
def readBits (spare : Bool) (address : BitVec 7) (ignored : BitVec 16) : List Bool :=
  commandBits 0b10 spare address ++ bitsOf ignored

/-- A session begins from nothing. -/
theorem Session.run {bits : List Bool} {values : List U8} (h : Session bits values)
    (e : Mbc7Eeprom) :
    (e.writePins values).settled =
        bits.foldl clockBit (core e.eeprom true .idle e.eepromWriteEnabled) ∧
      e.shiftedOut values = (core e.eeprom true .idle e.eepromWriteEnabled).outputs bits := by
  rcases h with ⟨low, values, hlow, hselected, hbits⟩
  have hfirst : (e.writeEepromPins low).settled =
      core e.eeprom true .idle e.eepromWriteEnabled ∧
      (e.writeEepromPins low).eepromPins.clk = pinClk low := by
    unfold writeEepromPins
    simp only [hlow, Bool.not_false, if_true]
    exact ⟨rfl, rfl⟩
  obtain ⟨hsettled, hclk⟩ := hfirst
  refine ⟨?_, ?_⟩
  · show ((e.writeEepromPins low).writePins values).settled = _
    rw [settled_writePins _ hselected, hsettled, hclk, hbits]
  · unfold shiftedOut
    rw [hlow, shiftedOut_eq_outputs _ hselected, hsettled, hclk, hbits]
    rfl

/-! ## Bits that are shifted in -/

theorem getLsbD_shiftIn (value : U16) (bit : Bool) {i : Nat} (hi : i < 16) :
    (shiftIn value bit).getLsbD i = if i = 0 then bit else value.getLsbD (i - 1) := by
  unfold shiftIn
  rw [BitVec.getLsbD_or, BitVec.getLsbD_shiftLeft]
  by_cases hzero : i = 0
  · subst hzero
    cases bit <;> rfl
  · rw [if_neg hzero]
    cases bit with
    | false => simp [hi, show ¬ i < 1 by omega]
    | true =>
        have hone : (1 : U16).getLsbD i = false := by
          rw [show (1 : U16) = BitVec.twoPow 16 0 by rfl, BitVec.getLsbD_twoPow]
          simp [show ¬ 0 = i by omega]
        rw [if_pos rfl, hone]
        simp [hi, show ¬ i < 1 by omega]

theorem getLsbD_foldl_shiftIn (bits : List Bool) (value : U16) {i : Nat} (hi : i < 16) :
    (bits.foldl shiftIn value).getLsbD i =
      if i < bits.length then bits.reverse.getD i false else value.getLsbD (i - bits.length) := by
  induction bits generalizing value with
  | nil => simp
  | cons bit bits ih =>
      rw [List.foldl_cons, ih, List.reverse_cons, List.length_cons]
      rcases Nat.lt_trichotomy i bits.length with hlt | heq | hgt
      · rw [if_pos hlt, if_pos (by omega), List.getD_append _ _ _ _ (by simpa using hlt)]
      · rw [if_neg (by omega), if_pos (by omega), getLsbD_shiftIn _ _ (by omega),
          if_pos (by omega), List.getD_append_right _ _ _ _ (by simp [heq])]
        simp [heq]
      · rw [if_neg (by omega), if_neg (by omega), getLsbD_shiftIn _ _ (by omega),
          if_neg (by omega)]
        congr 1

/-- The bits of a value push what there was before. -/
theorem foldl_shiftIn_bitsOf {n : Nat} (value : BitVec n) (before : U16) :
    (bitsOf value).foldl shiftIn before = (before <<< n) ||| value.setWidth 16 := by
  apply BitVec.eq_of_getLsbD_eq
  intro i hi
  rw [getLsbD_foldl_shiftIn _ _ hi, length_bitsOf, BitVec.getLsbD_or, BitVec.getLsbD_shiftLeft,
    BitVec.getLsbD_setWidth]
  by_cases hlt : i < n
  · rw [if_pos hlt]
    simp [bitsOf, hlt, hi]
  · rw [if_neg hlt]
    simp [hlt, hi, BitVec.getLsbD_of_ge value i (by omega)]

theorem operation_commandBits (operation : BitVec 2) (spare : Bool) (address : BitVec 7) :
    ((shiftIn (operation.setWidth 16) spare <<< 7 ||| address.setWidth 16) >>> 8) &&& 0x03 =
      operation.setWidth 16 := by
  ext i hi
  unfold shiftIn
  interval_cases i <;> cases spare <;> simp

theorem address_commandBits (before : U16) (address : BitVec 7) :
    ((before <<< 7 ||| address.setWidth 16) &&& 0x7F).setWidth 8 = address.setWidth 8 := by
  ext i hi
  interval_cases i <;> simp

theorem operation_writeEnableBits (rest : BitVec 6) :
    (((0b0011 : U16) <<< 6 ||| rest.setWidth 16) >>> 8) &&& 0x03 = 0b00 ∧
      (((0b0011 : U16) <<< 6 ||| rest.setWidth 16) >>> 6) &&& 0x03 = 0b11 := by
  constructor
  · ext i hi
    interval_cases i <;> simp
  · ext i hi
    interval_cases i <;> simp

/-! ## Commands -/

section Commands

variable (eeprom : Vector U8 mbc7EepromBytes) (doPin enabled : Bool)

theorem clockBit_receivingCommand (n : Nat) (value : U16) (bit : Bool) :
    (core eeprom doPin (.receivingCommand n value) enabled).clockBit bit =
      if n + 1 = mbc7EepromCommandBits then
        ((core eeprom doPin .idle enabled).finishEepromCommand (shiftIn value bit)).settled
      else core eeprom doPin (.receivingCommand (n + 1) (shiftIn value bit)) enabled := by
  unfold clockBit clockEeprom
  dsimp only [core]
  split
  · exact settled_finishEepromCommand _ _
  · rfl

theorem clockBit_receivingData (target : Mbc7EepromDataTarget) (n : Nat) (value : U16)
    (bit : Bool) :
    (core eeprom doPin (.receivingData target n value) enabled).clockBit bit =
      if n + 1 = mbc7EepromDataBits then
        ((core eeprom doPin .idle enabled).commitEepromData target (shiftIn value bit)).settled
      else core eeprom doPin (.receivingData target (n + 1) (shiftIn value bit)) enabled := by
  unfold clockBit clockEeprom
  dsimp only [core]
  split
  · exact settled_commitEepromData _ _ _
  · rfl

theorem clockBit_sendingRead (n : Nat) (value : U16) (bit : Bool) :
    (core eeprom doPin (.sendingRead (n + 1) value) enabled).clockBit bit =
      core eeprom (value.getLsbD n) (if n = 0 then .idle else .sendingRead n value) enabled := by
  have hbit : decide ((value >>> n) &&& 0x0001 ≠ 0) = value.getLsbD n := by
    rw [show (0x0001 : U16) = 1#16 from rfl, BitVec.and_one_eq_setWidth_ofBool_getLsbD]
    simp only [BitVec.getLsbD_ushiftRight, Nat.add_zero]
    cases value.getLsbD n <;> rfl
  unfold clockBit clockEeprom
  dsimp only [core]
  rw [if_neg (Nat.succ_ne_zero n), Nat.add_sub_cancel, hbit]
  rfl

theorem foldl_receivingCommand {bits : List Bool} {n : Nat} (value : U16)
    (hlt : n < mbc7EepromCommandBits) (hn : n + bits.length = mbc7EepromCommandBits) :
    bits.foldl clockBit (core eeprom doPin (.receivingCommand n value) enabled) =
      ((core eeprom doPin .idle enabled).finishEepromCommand
        (bits.foldl shiftIn value)).settled := by
  induction bits generalizing n value with
  | nil => exact absurd hn (Nat.ne_of_lt hlt)
  | cons bit rest ih =>
      rw [List.length_cons] at hn
      rw [List.foldl_cons, List.foldl_cons, clockBit_receivingCommand]
      rcases Nat.eq_zero_or_pos rest.length with hlast | hmore
      · rw [List.length_eq_zero_iff] at hlast
        subst hlast
        rw [if_pos (by simpa using hn)]
        rfl
      · rw [if_neg (by omega)]
        exact ih _ (by omega) (by omega)

theorem foldl_receivingData (target : Mbc7EepromDataTarget) {bits : List Bool} {n : Nat}
    (value : U16) (hlt : n < mbc7EepromDataBits) (hn : n + bits.length = mbc7EepromDataBits) :
    bits.foldl clockBit (core eeprom doPin (.receivingData target n value) enabled) =
      ((core eeprom doPin .idle enabled).commitEepromData target
        (bits.foldl shiftIn value)).settled := by
  induction bits generalizing n value with
  | nil => exact absurd hn (Nat.ne_of_lt hlt)
  | cons bit rest ih =>
      rw [List.length_cons] at hn
      rw [List.foldl_cons, List.foldl_cons, clockBit_receivingData]
      rcases Nat.eq_zero_or_pos rest.length with hlast | hmore
      · rw [List.length_eq_zero_iff] at hlast
        subst hlast
        rw [if_pos (by simpa using hn)]
        rfl
      · rw [if_neg (by omega)]
        exact ih _ (by omega) (by omega)

/-- A word that is sent comes with its highest bit first, and stays where it is. -/
theorem run_sendingRead {bits : List Bool} {n : Nat} (value : U16) (hn : bits.length = n + 1) :
    (core eeprom doPin (.sendingRead (n + 1) value) enabled).outputs bits =
        (List.range (n + 1)).reverse.map value.getLsbD ∧
      (bits.foldl clockBit (core eeprom doPin (.sendingRead (n + 1) value) enabled)).eeprom =
        eeprom := by
  induction bits generalizing n doPin with
  | nil => exact absurd hn (by rw [List.length_nil]; omega)
  | cons bit rest ih =>
      rw [List.length_cons, Nat.add_right_cancel_iff] at hn
      unfold outputs
      rw [List.foldl_cons, clockBit_sendingRead, List.range_succ, List.reverse_append]
      cases n with
      | zero =>
          rw [List.length_eq_zero_iff] at hn
          subst hn
          exact ⟨rfl, rfl⟩
      | succ n =>
          obtain ⟨houtputs, heeprom⟩ := ih (value.getLsbD (n + 1)) hn
          rw [if_neg (Nat.succ_ne_zero n), houtputs, heeprom]
          exact ⟨rfl, rfl⟩

theorem foldl_commandBits (operation : BitVec 2) (spare : Bool) (address : BitVec 7) :
    (commandBits operation spare address).foldl clockBit (core eeprom doPin .idle enabled) =
      ((core eeprom true .idle enabled).finishEepromCommand
        (shiftIn (operation.setWidth 16) spare <<< 7 ||| address.setWidth 16)).settled := by
  have hstart : (core eeprom doPin .idle enabled).clockBit true =
      core eeprom true (.receivingCommand 0 0) enabled := rfl
  unfold commandBits
  rw [List.foldl_cons, hstart, foldl_receivingCommand _ _ _ 0 (by decide) (by simp; rfl),
    List.foldl_append, List.foldl_cons, foldl_shiftIn_bitsOf, foldl_shiftIn_bitsOf]
  simp

theorem foldl_writeEnableBits (rest : BitVec 6) :
    (writeEnableBits rest).foldl clockBit (core eeprom doPin .idle enabled) =
      core eeprom true .idle true := by
  have hstart : (core eeprom doPin .idle enabled).clockBit true =
      core eeprom true (.receivingCommand 0 0) enabled := rfl
  obtain ⟨hoperation, hextended⟩ := operation_writeEnableBits rest
  unfold writeEnableBits
  rw [List.foldl_cons, hstart, foldl_receivingCommand _ _ _ 0 (by decide) (by simp; rfl),
    List.foldl_append, foldl_shiftIn_bitsOf, foldl_shiftIn_bitsOf]
  have hword : ((0 : U16) <<< 4 ||| (0b0011 : BitVec 4).setWidth 16) <<< 6 |||
      rest.setWidth 16 = (0b0011 : U16) <<< 6 ||| rest.setWidth 16 := rfl
  rw [hword]
  unfold finishEepromCommand finishEepromExtendedCommand
  rw [hoperation, hextended]
  rfl

/-- A write ends with the word in its place. -/
theorem foldl_writeBits (spare : Bool) (address : BitVec 7) (value : U16) :
    (writeBits spare address value).foldl clockBit (core eeprom doPin .idle true) =
      core ((core eeprom true .idle true).writeEepromWord (address.setWidth 8) value).eeprom true
        .idle true := by
  unfold writeBits
  rw [List.foldl_append, foldl_commandBits]
  unfold finishEepromCommand
  rw [operation_commandBits, address_commandBits]
  show (bitsOf value).foldl clockBit
    (core eeprom true (.receivingData (.writeWord (address.setWidth 8)) 0 0) true) = _
  have hvalue : (0 : U16) <<< 16 ||| value.setWidth 16 = value := by simp
  rw [foldl_receivingData _ _ _ _ 0 (by decide) (by simp; rfl), foldl_shiftIn_bitsOf, hvalue]
  rfl

/-- A read sends the word of its address, and changes nothing. -/
theorem run_readBits (spare : Bool) (address : BitVec 7) (ignored : BitVec 16) :
    ((core eeprom doPin .idle enabled).outputs (readBits spare address ignored)).drop 11 =
        bitsOf ((core eeprom true .idle true).word address) ∧
      ((readBits spare address ignored).foldl clockBit
        (core eeprom doPin .idle enabled)).eeprom = eeprom := by
  have hcommand : (commandBits 0b10 spare address).foldl clockBit
      (core eeprom doPin .idle enabled) =
        core eeprom false (.sendingRead (15 + 1) ((core eeprom true .idle true).word address))
          enabled := by
    rw [foldl_commandBits]
    unfold finishEepromCommand
    rw [operation_commandBits, address_commandBits]
    rfl
  obtain ⟨houtputs, heeprom⟩ := run_sendingRead eeprom false enabled
    ((core eeprom true .idle true).word address) (length_bitsOf ignored)
  unfold readBits
  rw [List.foldl_append, hcommand, heeprom, outputs_append, hcommand, houtputs,
    List.drop_left' (by rw [length_outputs]; simp [commandBits])]
  exact ⟨rfl, rfl⟩

end Commands

/-! ## The protocol -/

/-- After EWEN and a write, each a session, a read shifts out the word that was written, its highest
bit first, and the other words are what they were.  And after any sequence of writes to the register
at all, the next one changes no word while writes are disabled, nor when it puts the chip select
low. -/
theorem serial_protocol (e : Mbc7Eeprom) :
    (∀ {enable write read : List U8} {rest : BitVec 6} {spare spare' : Bool}
        {address : BitVec 7} {value ignored : U16},
      Session (writeEnableBits rest) enable → Session (writeBits spare address value) write →
      Session (readBits spare' address ignored) read →
      (((e.writePins enable).writePins write).shiftedOut read).drop 11 = bitsOf value ∧
        ∀ b, (((e.writePins enable).writePins write).writePins read).word b =
          if b = address then value else e.word b) ∧
      ∀ (values : List U8) (value : U8),
        (e.writePins values).eepromWriteEnabled = false ∨ pinCs value = false →
        ((e.writePins values).writeEepromPins value).eeprom = (e.writePins values).eeprom := by
  refine ⟨?_, ?_⟩
  · intro enable write read rest spare spare' address value ignored henable hwrite hread
    have henabled : (e.writePins enable).settled = core e.eeprom true .idle true :=
      (henable.run e).1.trans (foldl_writeEnableBits ..)
    have hmemory : (e.writePins enable).eeprom = e.eeprom :=
      (congrArg Mbc7Eeprom.eeprom henabled :)
    have hlatch : (e.writePins enable).eepromWriteEnabled = true :=
      congrArg Mbc7Eeprom.eepromWriteEnabled henabled
    have hwritten := (hwrite.run (e.writePins enable)).1
    rw [hmemory, hlatch, foldl_writeBits] at hwritten
    have hstored : ∀ b, ((e.writePins enable).writePins write).word b =
        if b = address then value else e.word b := by
      intro b
      exact (word_eq_of_eeprom (congrArg Mbc7Eeprom.eeprom hwritten) b).trans
        (word_writeEepromWord (core e.eeprom true .idle true) address value b)
    generalize (e.writePins enable).writePins write = written at hstored ⊢
    obtain ⟨hafter, hout⟩ := hread.run written
    obtain ⟨houtputs, heeprom⟩ :=
      run_readBits written.eeprom true written.eepromWriteEnabled spare' address ignored
    refine ⟨?_, ?_⟩
    · have hword := hstored address
      rw [if_pos rfl] at hword
      rw [hout, houtputs]
      exact congrArg bitsOf hword
    · intro b
      have hread : (written.writePins read).eeprom = written.eeprom :=
        (congrArg Mbc7Eeprom.eeprom hafter).trans heeprom
      rw [word_eq_of_eeprom hread b, hstored b]
  · rintro values value (hdisabled | hdeselected)
    · exact eeprom_writeEepromPins_disabled hdisabled value
    · exact (writeEepromPins_deselected _ hdeselected).1

/-- One way to clock bits: the data line is set with the clock low, and the clock goes up. -/
def clockIn (bits : List Bool) : List U8 :=
  0x00 :: bits.flatMap fun bit => if bit then [0x82, 0xC2] else [0x80, 0xC0]

theorem session_clockIn (bits : List Bool) : Session bits (clockIn bits) := by
  have hclocked : ∀ clk : Bool, clockedBits clk
      (bits.flatMap fun bit => if bit then [0x82, 0xC2] else [0x80, 0xC0]) = bits := by
    induction bits with
    | nil => exact fun _ => rfl
    | cons bit bits ih =>
        intro clk
        rw [List.flatMap_cons]
        cases bit with
        | false => cases clk <;> exact congrArg (false :: ·) (ih true)
        | true => cases clk <;> exact congrArg (true :: ·) (ih true)
  refine .selected 0x00 _ rfl ?_ (hclocked _)
  intro value hvalue
  obtain ⟨bit, -, hbyte⟩ := List.mem_flatMap.mp hvalue
  cases bit with
  | false =>
      rcases List.mem_pair.mp hbyte with rfl | rfl <;> rfl
  | true =>
      rcases List.mem_pair.mp hbyte with rfl | rfl <;> rfl

/-- A word written to address 5 of an empty EEPROM, and read. -/
theorem serial_protocol_clockIn :
    let e : Mbc7Eeprom := core (Vector.replicate 256 0xFF) true .idle false
    let written := (e.writePins (clockIn (writeEnableBits 0))).writePins
      (clockIn (writeBits false 5 0xBEEF))
    (written.shiftedOut (clockIn (readBits false 5 0))).drop 11 = bitsOf (0xBEEF : U16) ∧
      ((e.writePins (clockIn (writeBits false 5 0xBEEF))).writeEepromPins 0x00).eeprom =
        (e.writePins (clockIn (writeBits false 5 0xBEEF))).eeprom :=
  ⟨((serial_protocol _).1 (session_clockIn _) (session_clockIn _) (session_clockIn _)).1,
    (serial_protocol _).2 _ 0x00 (Or.inr rfl)⟩

end Mbc7Eeprom

end GbCycle
