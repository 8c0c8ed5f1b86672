import GbCycle.Cartridge.Access
import GbCycle.Cartridge.Classify
import GbCycle.Cartridge.ClockAdvance
import GbCycle.Cartridge.LinearRam

/-!
# MBC3

One selector puts either a RAM bank or a register of the clock behind the RAM window.  Reads of
the clock show the last latched registers, writes go to the running ones.  The crystal beats
32768 times a second; the beats since the last whole second are counted apart, and a write of
the seconds clears them.
-/

namespace GbCycle

inductive Mbc3Variant where
  | standard
  | mbc30
  deriving Repr, DecidableEq

inductive Mbc3RtcRegister where
  | seconds
  | minutes
  | hours
  | dayLow
  | dayHigh
  deriving Repr, DecidableEq

def Mbc3RtcRegister.publicId : Mbc3RtcRegister → CartridgeRtcRegister
  | .seconds => .seconds
  | .minutes => .minutes
  | .hours => .hours
  | .dayLow => .dayLow
  | .dayHigh => .dayHigh

inductive Mbc3RamRtcSelect where
  | ramBank (bank : U8)
  | reservedSelector (raw : U8)
  | rtcRegister (register : Mbc3RtcRegister)
  deriving Repr, DecidableEq

def Mbc3RamRtcSelect.fromValue (value : U8) (variant : Mbc3Variant) : Mbc3RamRtcSelect :=
  let lowNibble := value &&& 0x0F
  if lowNibble ≤ 0x03 then .ramBank lowNibble
  else if lowNibble ≤ 0x07 ∧ variant = .mbc30 then .ramBank lowNibble
  else if lowNibble = 0x08 then .rtcRegister .seconds
  else if lowNibble = 0x09 then .rtcRegister .minutes
  else if lowNibble = 0x0A then .rtcRegister .hours
  else if lowNibble = 0x0B then .rtcRegister .dayLow
  else if lowNibble = 0x0C then .rtcRegister .dayHigh
  else .reservedSelector lowNibble

namespace Mbc3RtcPersistentState

/-- `Mbc3RtcState::default()`. -/
def zero : Mbc3RtcState :=
  { seconds := 0, minutes := 0, hours := 0, dayCounter := 0, halt := false, carry := false }

def readRegister (rtc : Mbc3RtcState) : Mbc3RtcRegister → U8
  | .seconds => rtc.seconds
  | .minutes => rtc.minutes
  | .hours => rtc.hours
  | .dayLow => rtc.dayLow
  | .dayHigh => rtc.dayHigh

def writeRegister (rtc : Mbc3RtcState) (register : Mbc3RtcRegister) (value : U8) : Mbc3RtcState :=
  match register with
  | .seconds => { rtc with seconds := value &&& 0x3F }
  | .minutes => { rtc with minutes := value &&& 0x3F }
  | .hours => { rtc with hours := value &&& 0x1F }
  | .dayLow => { rtc with dayCounter := (rtc.dayCounter &&& 0x0100) ||| U16.ofByte value }
  | .dayHigh =>
      { rtc with
        dayCounter := (rtc.dayCounter &&& 0x00FF) ||| (U16.ofByte (value &&& 0x01) <<< 8)
        halt := value &&& 0x40 != 0
        carry := value &&& 0x80 != 0 }

end Mbc3RtcPersistentState

def mbc3RtcAccessSpacingTCycles : Nat := 16
def mbc3RtcClockTicksPerSecond : Nat := 32768

structure Mbc3Cartridge where
  rom : List U8
  ram : Option (List U8)
  hasBattery : Bool
  hasRtc : Bool
  header : CartridgeHeader
  classification : CartridgeClassification
  variant : Mbc3Variant
  ramRtcEnabled : Bool
  romBank : U8
  ramOrRtcSelect : Mbc3RamRtcSelect
  rtcLive : Mbc3RtcState
  rtcLatched : Mbc3RtcState
  rtcLatchedValid : Bool
  rtcLatchArmed : Bool
  rtcSubsecondTicks : U16
  rtcAccessReadyAt : Option Nat
  deriving Repr, DecidableEq

namespace Mbc3Cartridge

/-- The RAM is there for the types that have one, when the header states a size. -/
def powerOn (rom : List U8) (header : CartridgeHeader) (classification : CartridgeClassification)
    (variant : Mbc3Variant) (hasBattery hasRtc : Bool) (ramLen : Option Nat) : Mbc3Cartridge :=
  { rom, ram := ramLen.map (List.replicate · 0), hasBattery, hasRtc, header, classification
    variant, ramRtcEnabled := false, romBank := 0, ramOrRtcSelect := .ramBank 0
    rtcLive := .zero, rtcLatched := .zero, rtcLatchedValid := false, rtcLatchArmed := false
    rtcSubsecondTicks := 0, rtcAccessReadyAt := none }

/-! ## Banks -/

def effectiveRomBank (c : Mbc3Cartridge) (bankCount : Nat) : Nat :=
  let rawBank :=
    match c.variant with
    | .standard => c.romBank &&& 0x7F
    | .mbc30 => c.romBank
  let translatedBank := if rawBank = 0 then 1 else rawBank.toNat
  if bankCount = 0 then 0 else translatedBank % bankCount

def effectiveRamOffset (c : Mbc3Cartridge) (address : U16) (rawBank : U8) : Nat :=
  let baseOffset := ramWindowOffset address
  match c.ram with
  | none => baseOffset
  | some ram =>
      if ram.length = 0 then baseOffset else (baseOffset + rawBank.toNat * 0x2000) % ram.length

def effectiveRamBank (c : Mbc3Cartridge) (rawBank : U8) : U8 :=
  BitVec.ofNat 8 (rawBank.toNat % max (c.header.ramSize.bankCount.getD 0) 1)

def describeExternalAccess (c : Mbc3Cartridge) (address : U16) : CartridgeExternalAccessInfo :=
  match c.ramOrRtcSelect with
  | .ramBank rawBank =>
      .ramAccess address (.bankedRam (c.effectiveRamBank rawBank)) c.ramRtcEnabled c.ram.isSome
  | .reservedSelector rawSelector =>
      { address
        target := .reservedSelector rawSelector
        availability := if c.ramRtcEnabled then .reserved else .disabled
        readBehavior := .fallbackValue ramAbsentReadValue
        writeBehavior := .ignored }
  | .rtcRegister register =>
      let available := c.ramRtcEnabled && c.hasRtc
      { address
        target := .rtcRegister register.publicId
        availability :=
          if available then .accessible else if c.ramRtcEnabled then .absent else .disabled
        readBehavior := if available then .rtcLatched else .fallbackValue ramAbsentReadValue
        writeBehavior := if available then .rtcLive else .ignored
        rtcAccessReadyAt := c.rtcAccessReadyAt }

def readRom (c : Mbc3Cartridge) (address : U16) : U8 :=
  readOr c.rom
    (bankedRomIndex 0 (c.effectiveRomBank (c.header.romSize.bankCount.getD 0)) address)

def mappedRomWindow (c : Mbc3Cartridge) (address : U16) : Option CartridgeMappedRomWindow :=
  bankedRomWindow 0 (c.effectiveRomBank (c.header.romSize.bankCount.getD 0)) address

/-! ## The clock -/

def clearRuntimeRtcSnapshotState (c : Mbc3Cartridge) : Mbc3Cartridge :=
  { c with
    rtcLatched := .zero, rtcLatchedValid := false, rtcLatchArmed := false
    rtcSubsecondTicks := 0, rtcAccessReadyAt := none }

def noteRtcAccessTiming (c : Mbc3Cartridge) (tCycle : Nat) : Mbc3Cartridge :=
  { c with rtcAccessReadyAt := some (tCycle + mbc3RtcAccessSpacingTCycles) }

def visibleRtcState (c : Mbc3Cartridge) : Mbc3RtcState :=
  if c.rtcLatchedValid then c.rtcLatched else .zero

def latchRtcIfNeeded (c : Mbc3Cartridge) (value : U8) : Mbc3Cartridge :=
  if c.hasRtc = false then { c with rtcLatchArmed := value = 0x00 }
  else if value = 0x00 then { c with rtcLatchArmed := true }
  else if (c.rtcLatchArmed && value = 0x01) || c.rtcLatchedValid then
    { c with rtcLatched := c.rtcLive, rtcLatchedValid := true, rtcLatchArmed := false }
  else { c with rtcLatchArmed := false }

def noteRtcRegisterWrite (c : Mbc3Cartridge) (register : Mbc3RtcRegister) : Mbc3Cartridge :=
  if register = .seconds then { c with rtcSubsecondTicks := 0 } else c

def advanceRtcSeconds (c : Mbc3Cartridge) (seconds : Nat) : Mbc3Cartridge :=
  if c.hasRtc then { c with rtcLive := c.rtcLive.applyElapsedSeconds seconds } else c

/-- The ticks are a `u64`, and so is their sum with the ones counted. -/
def advanceRtcClockTicks (c : Mbc3Cartridge) (ticks : BitVec 64) : Mbc3Cartridge :=
  if c.hasRtc = false || c.rtcLive.halt || ticks = 0 then c
  else
    let totalTicks := (c.rtcSubsecondTicks.toNat + ticks.toNat) % 2 ^ 64
    { c with
      rtcSubsecondTicks := BitVec.ofNat 16 (totalTicks % mbc3RtcClockTicksPerSecond)
      rtcLive := c.rtcLive.applyElapsedSeconds (totalTicks / mbc3RtcClockTicksPerSecond) }

/-! ## Accesses -/

def writeRom (c : Mbc3Cartridge) (address : U16) (value : U8) : Mbc3Cartridge :=
  if address ≤ 0x1FFF then { c with ramRtcEnabled := value &&& 0x0F = 0x0A }
  else if address ≤ 0x3FFF then
    { c with
      romBank :=
        match c.variant with
        | .standard => value &&& 0x7F
        | .mbc30 => value }
  else if address ≤ 0x5FFF then
    { c with ramOrRtcSelect := .fromValue value c.variant }
  else if address ≤ 0x7FFF then c.latchRtcIfNeeded value
  else c

def readRam (c : Mbc3Cartridge) (address : U16) : U8 :=
  if c.ramRtcEnabled = false then ramAbsentReadValue
  else
    match c.ramOrRtcSelect with
    | .ramBank rawBank => readEnabledRam true c.ram (c.effectiveRamOffset address rawBank)
    | .reservedSelector _ => ramAbsentReadValue
    | .rtcRegister register =>
        if c.hasRtc then c.visibleRtcState.readRegister register else ramAbsentReadValue

/-- A read at a time.  One of the clock sets when the next may follow. -/
def readRamTimed (c : Mbc3Cartridge) (address : U16) (tCycle : Nat) : U8 × Mbc3Cartridge :=
  if c.ramRtcEnabled = false then (ramAbsentReadValue, c)
  else
    match c.ramOrRtcSelect with
    | .ramBank rawBank => (readEnabledRam true c.ram (c.effectiveRamOffset address rawBank), c)
    | .reservedSelector _ => (ramAbsentReadValue, c)
    | .rtcRegister register =>
        if c.hasRtc then
          let c := c.noteRtcAccessTiming tCycle
          (c.visibleRtcState.readRegister register, c)
        else (ramAbsentReadValue, c)

/-- A write to the window once the access time of a clock register has been noted. -/
def writeRamNoting (note : Mbc3Cartridge → Mbc3Cartridge) (c : Mbc3Cartridge) (address : U16)
    (value : U8) : Mbc3Cartridge :=
  if c.ramRtcEnabled = false then c
  else
    match c.ramOrRtcSelect with
    | .ramBank rawBank =>
        { c with ram := writeEnabledRam true c.ram (c.effectiveRamOffset address rawBank) value }
    | .reservedSelector _ => c
    | .rtcRegister register =>
        if c.hasRtc then
          let c := note c
          { c with rtcLive := c.rtcLive.writeRegister register value }.noteRtcRegisterWrite register
        else c

def writeRam (c : Mbc3Cartridge) (address : U16) (value : U8) : Mbc3Cartridge :=
  c.writeRamNoting id address value

def writeRamTimed (c : Mbc3Cartridge) (address : U16) (value : U8) (tCycle : Nat) : Mbc3Cartridge :=
  c.writeRamNoting (·.noteRtcAccessTiming tCycle) address value

/-! ## Persistence -/

def persistenceMetadata (c : Mbc3Cartridge) : CartridgePersistenceMetadata :=
  { hasBattery := c.hasBattery, hasRtc := c.hasRtc
    profile :=
      match c.hasBattery, c.hasRtc, c.ram with
      | true, true, some ram => .persistentRamAndRtc (.linear ram.length)
      | true, true, none => .persistentRtc
      | true, false, some ram => .persistentRam (.linear ram.length)
      | false, false, some ram => .nonPersistentRam (.linear ram.length)
      | _, _, _ => .none }

def persistentState (c : Mbc3Cartridge) : PersistentCartState :=
  if c.hasBattery = false then .none
  else
    match c.ram, c.hasRtc with
    | some ram, true => .mbc3RamRtc ram c.rtcLive
    | some ram, false => .mbc3Ram ram
    | none, true => .mbc3Rtc c.rtcLive
    | none, false => .none

/-- What a restore expects, besides `None` for a cartridge without a battery. -/
def expectedStateKind (c : Mbc3Cartridge) : String :=
  match c.ram, c.hasRtc with
  | some _, true => "Mbc3RamRtc"
  | some _, false => "Mbc3Ram"
  | none, true => "Mbc3Rtc"
  | none, false => "None"

def restorePersistentState (c : Mbc3Cartridge) (state : PersistentCartState) :
    Except CartridgePersistentStateError Unit × Mbc3Cartridge :=
  match c.hasBattery, c.hasRtc, c.ram, state with
  | false, _, _, .none => (.ok (), c)
  | true, true, some ram, .mbc3RamRtc persistedRam rtc =>
      if ram.length ≠ persistedRam.length then
        (.error (.ramLengthMismatch ram.length persistedRam.length), c)
      else
        (.ok (), { c with ram := some persistedRam, rtcLive := rtc }.clearRuntimeRtcSnapshotState)
  | true, false, some ram, .mbc3Ram persistedRam =>
      if ram.length ≠ persistedRam.length then
        (.error (.ramLengthMismatch ram.length persistedRam.length), c)
      else (.ok (), { c with ram := some persistedRam })
  | true, true, none, .mbc3Rtc rtc =>
      (.ok (), { c with rtcLive := rtc }.clearRuntimeRtcSnapshotState)
  | true, false, none, .none => (.ok (), c)
  | true, _, _, other => (.error (.kindMismatch c.expectedStateKind other.kindName), c)
  | false, _, _, other => (.error (.kindMismatch "None" other.kindName), c)

/-! ## The loaded cartridge -/

def fresh (c : Mbc3Cartridge) : Mbc3Cartridge :=
  { c with
    ram := clearedRam c.ram, ramRtcEnabled := false, romBank := 0, ramOrRtcSelect := .ramBank 0
    rtcLive := .zero, rtcLatched := .zero, rtcLatchedValid := false, rtcLatchArmed := false
    rtcSubsecondTicks := 0, rtcAccessReadyAt := none }

@[simp] theorem fresh_latchRtcIfNeeded (c : Mbc3Cartridge) (value : U8) :
    (c.latchRtcIfNeeded value).fresh = c.fresh := by
  unfold latchRtcIfNeeded
  repeat' split
  all_goals rfl

@[simp] theorem fresh_noteRtcRegisterWrite (c : Mbc3Cartridge) (register : Mbc3RtcRegister) :
    (c.noteRtcRegisterWrite register).fresh = c.fresh := by
  unfold noteRtcRegisterWrite
  split <;> rfl

@[simp] theorem fresh_writeRom (c : Mbc3Cartridge) (address : U16) (value : U8) :
    (c.writeRom address value).fresh = c.fresh := by
  unfold writeRom
  split
  · rfl
  · split
    · rfl
    · split
      · rfl
      · split
        · exact fresh_latchRtcIfNeeded c value
        · rfl

theorem fresh_writeRamNoting {note : Mbc3Cartridge → Mbc3Cartridge}
    (hnote : ∀ c, (note c).fresh = c.fresh) (c : Mbc3Cartridge) (address : U16) (value : U8) :
    (c.writeRamNoting note address value).fresh = c.fresh := by
  unfold writeRamNoting
  split
  · rfl
  · split
    · simp only [fresh, clearedRam_write]
    · rfl
    · split
      · rw [fresh_noteRtcRegisterWrite]
        exact hnote c
      · rfl

@[simp] theorem fresh_writeRam (c : Mbc3Cartridge) (address : U16) (value : U8) :
    (c.writeRam address value).fresh = c.fresh :=
  fresh_writeRamNoting (fun _ => rfl) c address value

@[simp] theorem fresh_writeRamTimed (c : Mbc3Cartridge) (address : U16) (value : U8)
    (tCycle : Nat) : (c.writeRamTimed address value tCycle).fresh = c.fresh :=
  @fresh_writeRamNoting (·.noteRtcAccessTiming tCycle) (fun _ => rfl) c address value

@[simp] theorem fresh_readRamTimed (c : Mbc3Cartridge) (address : U16) (tCycle : Nat) :
    (c.readRamTimed address tCycle).2.fresh = c.fresh := by
  unfold readRamTimed
  split
  · rfl
  · split
    · rfl
    · rfl
    · split <;> rfl

@[simp] theorem fresh_advanceRtcSeconds (c : Mbc3Cartridge) (seconds : Nat) :
    (c.advanceRtcSeconds seconds).fresh = c.fresh := by
  unfold advanceRtcSeconds
  split <;> rfl

@[simp] theorem fresh_advanceRtcClockTicks (c : Mbc3Cartridge) (ticks : BitVec 64) :
    (c.advanceRtcClockTicks ticks).fresh = c.fresh := by
  unfold advanceRtcClockTicks
  split <;> rfl

def RamFits (c : Mbc3Cartridge) : Prop := ∀ ram, c.ram = some ram → 0 < ram.length

theorem RamFits.of_fresh {c loaded : Mbc3Cartridge} (hfresh : c.fresh = loaded.fresh)
    (h : loaded.RamFits) : c.RamFits := by
  simp only [fresh, mk.injEq] at hfresh
  exact ramLength_of_clearedRam (P := (0 < ·)) hfresh.2.1 h

/-! ## Agreements -/

theorem effectiveRomBank_lt (c : Mbc3Cartridge) {bankCount : Nat} (hpos : 0 < bankCount) :
    c.effectiveRomBank bankCount < bankCount := by
  unfold effectiveRomBank
  dsimp only
  split
  · exact hpos
  · exact Nat.mod_lt _ hpos

theorem readRom_eq_byteOf {c : Mbc3Cartridge} {address : U16} {window : CartridgeMappedRomWindow}
    (h : c.mappedRomWindow address = some window) :
    window.source = .rom ∧ c.readRom address = window.byteOf c.rom := by
  obtain ⟨hsource, hbyte⟩ := byteOf_bankedRomWindow h c.rom
  exact ⟨hsource, hbyte.symm⟩

theorem effectiveRamOffset_of_clearedRam (c : Mbc3Cartridge) {ram : Option (List U8)}
    (h : clearedRam ram = clearedRam c.ram) (address : U16) (rawBank : U8) :
    ({ c with ram }).effectiveRamOffset address rawBank = c.effectiveRamOffset address rawBank := by
  unfold effectiveRamOffset
  cases ram with
  | none =>
      cases hram : c.ram with
      | none => rfl
      | some bytes => rw [hram] at h; cases h
  | some bytes =>
      obtain ⟨bytes', hram, hlength⟩ := length_of_clearedRam h
      simp only [hram, hlength]

theorem effectiveRamOffset_lt {c : Mbc3Cartridge} (hfits : c.RamFits) (address : U16)
    (rawBank : U8) {ram : List U8} (hram : c.ram = some ram) :
    c.effectiveRamOffset address rawBank < ram.length := by
  have hpos := hfits ram hram
  simp only [effectiveRamOffset, hram, if_neg (Nat.ne_of_gt hpos)]
  exact Nat.mod_lt _ hpos

theorem describeExternalAccess_keeps {c : Mbc3Cartridge} (hfits : c.RamFits) (address : U16) :
    (c.describeExternalAccess address).Keeps c (·.readRam address) (c.writeRam address) := by
  cases hselect : c.ramOrRtcSelect with
  | ramBank rawBank =>
      have hdescribe : c.describeExternalAccess address =
          .ramAccess address (.bankedRam (c.effectiveRamBank rawBank)) c.ramRtcEnabled
            c.ram.isSome := by
        rw [describeExternalAccess, hselect]
      rw [hdescribe]
      refine CartridgeExternalAccessInfo.keeps_enabledRam (c.effectiveRamOffset address rawBank)
        (fun ram => { c with ram }) (fun _ => rfl) rfl ?_ ?_ ?_
      · intro ram hram
        rw [← effectiveRamOffset_of_clearedRam c hram]
        unfold readRam
        dsimp only
        rw [hselect]
        cases c.ramRtcEnabled <;> rfl
      · intro value
        unfold writeRam writeRamNoting
        by_cases henabled : c.ramRtcEnabled = false
        · rw [if_pos henabled, writeEnabledRam_absent (by rw [henabled]; rfl)]
        · rw [if_neg henabled, hselect, Bool.eq_true_of_not_eq_false henabled]
      · intro ram hram
        exact effectiveRamOffset_lt hfits address rawBank hram
  | reservedSelector rawSelector =>
      refine CartridgeExternalAccessInfo.keeps_of_noStorage ?_ ?_ ?_
      · rw [describeExternalAccess, hselect]
        intro h
        cases h
      · intro value hvalue
        rw [describeExternalAccess, hselect] at hvalue
        cases hvalue
        simp only [readRam, hselect, ite_self]
      · intro _ value
        simp only [writeRam, writeRamNoting, hselect, ite_self]
  | rtcRegister register =>
      cases henabled : c.ramRtcEnabled && c.hasRtc with
      | true =>
          refine CartridgeExternalAccessInfo.keeps_of_noStorage ?_ ?_ ?_
          · simp [describeExternalAccess, hselect, henabled]
          · intro value hvalue
            simp [describeExternalAccess, hselect, henabled] at hvalue
          · intro hignored
            simp [describeExternalAccess, hselect, henabled] at hignored
      | false =>
          refine CartridgeExternalAccessInfo.keeps_of_noStorage ?_ ?_ ?_
          · simp [describeExternalAccess, hselect, henabled]
          · intro value hvalue
            simp only [describeExternalAccess, hselect, henabled, Bool.false_eq_true, if_false,
              CartridgeExternalReadBehavior.fallbackValue.injEq] at hvalue
            rcases Bool.and_eq_false_iff.mp henabled with hdisabled | hclock
            · simpa only [readRam, hdisabled, if_true] using hvalue
            · simpa only [readRam, hselect, hclock, Bool.false_eq_true, if_false, ite_self]
                using hvalue
          · intro _ value
            rcases Bool.and_eq_false_iff.mp henabled with hdisabled | hclock
            · simp only [writeRam, writeRamNoting, hdisabled, if_true]
            · simp only [writeRam, writeRamNoting, hselect, hclock, Bool.false_eq_true, if_false,
                ite_self]

/-- The time of an access shows only in when the next of the clock may follow. -/
theorem readRamTimed_fst (c : Mbc3Cartridge) (address : U16) (tCycle : Nat) :
    (c.readRamTimed address tCycle).1 = c.readRam address := by
  unfold readRamTimed readRam
  split
  · rfl
  · split
    · rfl
    · rfl
    · split <;> rfl

theorem writeRamTimed_of_not_live {c : Mbc3Cartridge} {address : U16}
    (hlive : (c.describeExternalAccess address).writeBehavior ≠ .rtcLive) (value : U8)
    (tCycle : Nat) : c.writeRamTimed address value tCycle = c.writeRam address value := by
  unfold describeExternalAccess at hlive
  unfold writeRamTimed writeRam writeRamNoting
  cases henabled : c.ramRtcEnabled with
  | false => rfl
  | true =>
      cases hselect : c.ramOrRtcSelect with
      | ramBank rawBank => rfl
      | reservedSelector rawSelector => rfl
      | rtcRegister register =>
          cases hrtc : c.hasRtc with
          | false => rfl
          | true =>
              rw [hselect, henabled, hrtc] at hlive
              exact absurd rfl hlive

/-- What a restore does: nothing, or the RAM and the clock of the state come back. -/
theorem restorePersistentState_cases (c : Mbc3Cartridge) (state : PersistentCartState) :
    (c.restorePersistentState state).2 = c ∨
      ∃ ram rtc, clearedRam ram = clearedRam c.ram ∧
        ((c.restorePersistentState state).2 =
            { c with ram, rtcLive := rtc }.clearRuntimeRtcSnapshotState ∨
          (c.restorePersistentState state).2 = { c with ram }) ∧
        (c.restorePersistentState state).1 = .ok () := by
  unfold restorePersistentState
  split
  · exact .inl rfl
  · rename_i ram persistedRam rtc _ _ hram
    split
    · exact .inl rfl
    · rename_i hlength
      refine .inr ⟨some persistedRam, rtc, ?_, .inl rfl, rfl⟩
      rw [hram, clearedRam, clearedRam, Option.map_some, Option.map_some, not_not.mp hlength]
  · rename_i ram persistedRam _ _ hram
    split
    · exact .inl rfl
    · rename_i hlength
      refine .inr ⟨some persistedRam, .zero, ?_, .inr rfl, rfl⟩
      rw [hram, clearedRam, clearedRam, Option.map_some, Option.map_some, not_not.mp hlength]
  · rename_i rtc _ _ hram
    exact .inr ⟨c.ram, rtc, rfl, .inl rfl, rfl⟩
  · exact .inl rfl
  · exact .inl rfl
  · exact .inl rfl

@[simp] theorem fresh_restorePersistentState (c : Mbc3Cartridge) (state : PersistentCartState) :
    (c.restorePersistentState state).2.fresh = c.fresh := by
  rcases restorePersistentState_cases c state with hsame | ⟨ram, rtc, hram, hstate, -⟩
  · rw [hsame]
  · rcases hstate with hstate | hstate
    · rw [hstate]
      simp only [fresh, clearRuntimeRtcSnapshotState, hram]
    · rw [hstate]
      simp only [fresh, hram]

theorem restorePersistentState_error {c : Mbc3Cartridge} {state : PersistentCartState}
    {error : CartridgePersistentStateError} (h : (c.restorePersistentState state).1 = .error error) :
    (c.restorePersistentState state).2 = c := by
  rcases restorePersistentState_cases c state with hsame | ⟨_, _, _, _, hok⟩
  · exact hsame
  · rw [hok] at h
    cases h

theorem restorePersistentState_persistentState {c loaded : Mbc3Cartridge}
    (hfresh : c.fresh = loaded.fresh) :
    (loaded.restorePersistentState c.persistentState).1 = .ok () ∧
      (loaded.restorePersistentState c.persistentState).2.persistentState = c.persistentState := by
  simp only [fresh, mk.injEq] at hfresh
  obtain ⟨-, hram, hbattery, hrtc, -⟩ := hfresh
  unfold persistentState
  rw [hbattery, hrtc]
  cases hb : loaded.hasBattery with
  | false => simp only [if_true, restorePersistentState, hb, and_self]
  | true =>
      cases hcram : c.ram with
      | none =>
          have hnone : loaded.ram = none := by
            cases hl : loaded.ram with
            | none => rfl
            | some ram => rw [hcram, hl] at hram; cases hram
          cases hr : loaded.hasRtc with
          | false => simp only [Bool.true_eq_false, if_false, restorePersistentState, hb, hr, hnone,
              and_self]
          | true => simp only [Bool.true_eq_false, if_false, restorePersistentState, hb, hr, hnone,
              clearRuntimeRtcSnapshotState, and_self]
      | some ram =>
          rw [hcram] at hram
          obtain ⟨ram', hloaded, hlength⟩ := length_of_clearedRam hram
          cases hr : loaded.hasRtc with
          | false => simp only [Bool.true_eq_false, if_false, restorePersistentState, hb, hr,
              hloaded, hlength, ne_eq, not_true_eq_false, and_self]
          | true => simp only [Bool.true_eq_false, if_false, restorePersistentState, hb, hr,
              hloaded, hlength, ne_eq, not_true_eq_false, clearRuntimeRtcSnapshotState, and_self]

end Mbc3Cartridge

end GbCycle
