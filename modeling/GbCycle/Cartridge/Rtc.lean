import GbCycle.Cartridge.PersistentState
import Mathlib.Logic.Function.Iterate

/-!
# The cartridge clocks

MBC3 and HuC-3 count the seconds that pass while the console is off.  The MBC3 counter has no
comparators past its registers' masks: seconds 60 to 63 wrap at 64 without a carry, and so do
minutes and hours.  `applyElapsedSeconds` ticks such a clock second by second until its fields
are canonical and divides from there; we show that this is the tick, iterated.
-/

namespace GbCycle

/-- The live registers have the fields that are saved, and the conversions copy them. -/
abbrev Mbc3RtcState := Mbc3RtcPersistentState

namespace Mbc3RtcPersistentState

/-! ## The one-second tick -/

def fieldsAreCanonical (rtc : Mbc3RtcState) : Bool :=
  rtc.seconds < 60 && rtc.minutes < 60 && rtc.hours < 24

def tickOneDay (rtc : Mbc3RtcState) : Mbc3RtcState :=
  if 0x01FF < (rtc.dayCounter &&& 0x01FF) + 1 then { rtc with dayCounter := 0, carry := true }
  else { rtc with dayCounter := (rtc.dayCounter &&& 0x01FF) + 1 }

def tickOneHour (rtc : Mbc3RtcState) : Mbc3RtcState :=
  if rtc.hours = 23 then { rtc with hours := 0 }.tickOneDay
  else if rtc.hours = 31 then { rtc with hours := 0 }
  else { rtc with hours := (rtc.hours + 1) &&& 0x1F }

def tickOneMinute (rtc : Mbc3RtcState) : Mbc3RtcState :=
  if rtc.minutes = 59 then { rtc with minutes := 0 }.tickOneHour
  else if rtc.minutes = 63 then { rtc with minutes := 0 }
  else { rtc with minutes := (rtc.minutes + 1) &&& 0x3F }

def tickOneSecond (rtc : Mbc3RtcState) : Mbc3RtcState :=
  if rtc.seconds = 59 then { rtc with seconds := 0 }.tickOneMinute
  else if rtc.seconds = 63 then { rtc with seconds := 0 }
  else { rtc with seconds := (rtc.seconds + 1) &&& 0x3F }

/-! ## The advance -/

def masked (rtc : Mbc3RtcState) : Mbc3RtcState :=
  { rtc with
    seconds := rtc.seconds &&& 0x3F
    minutes := rtc.minutes &&& 0x3F
    hours := rtc.hours &&& 0x1F
    dayCounter := rtc.dayCounter &&& 0x01FF }

/-- `while remaining_seconds > 0 && !canonical`: what remains, and the clock then. -/
def tickUntilCanonical : Nat → Mbc3RtcState → Nat × Mbc3RtcState
  | 0, rtc => (0, rtc)
  | remaining + 1, rtc =>
      if rtc.fieldsAreCanonical then (remaining + 1, rtc)
      else tickUntilCanonical remaining rtc.tickOneSecond

def totalSeconds (rtc : Mbc3RtcState) : Nat :=
  rtc.dayCounter.toNat * 86400 + rtc.hours.toNat * 3600 + rtc.minutes.toNat * 60 +
    rtc.seconds.toNat

/-- The clock at a number of seconds since its day zero. -/
def atTotalSeconds (rtc : Mbc3RtcState) (total : Nat) : Mbc3RtcState :=
  { rtc with
    carry := if 511 < total / 86400 then true else rtc.carry
    dayCounter := BitVec.ofNat 16 (total / 86400 % 512)
    hours := BitVec.ofNat 8 (total % 86400 / 3600)
    minutes := BitVec.ofNat 8 (total % 86400 % 3600 / 60)
    seconds := BitVec.ofNat 8 (total % 86400 % 60) }

/-- The elapsed seconds are a `u64`, and so is their sum with the clock's. -/
def applyElapsedSeconds (rtc : Mbc3RtcState) (elapsedSeconds : Nat) : Mbc3RtcState :=
  if rtc.halt || elapsedSeconds = 0 then rtc
  else
    match tickUntilCanonical elapsedSeconds rtc.masked with
    | (0, rtc) => rtc
    | (remaining, rtc) => rtc.atTotalSeconds ((rtc.totalSeconds + remaining) % 2 ^ 64)

def dayLow (rtc : Mbc3RtcState) : U8 := (rtc.dayCounter &&& 0x00FF).setWidth 8

def dayHigh (rtc : Mbc3RtcState) : U8 :=
  ((rtc.dayCounter >>> 8).setWidth 8 &&& 0x01) ||| ((if rtc.halt then 1 else 0) <<< 6) |||
    ((if rtc.carry then 1 else 0) <<< 7)

/-! ## Registers within their masks -/

structure Fits (rtc : Mbc3RtcState) : Prop where
  seconds : rtc.seconds < 64
  minutes : rtc.minutes < 64
  hours : rtc.hours < 32
  dayCounter : rtc.dayCounter < 512

theorem and_mask_of_lt {w k : Nat} {x : BitVec w} (hk : k ≤ w) (h : x.toNat < 2 ^ k) :
    x &&& BitVec.ofNat w (2 ^ k - 1) = x := by
  have hmask : 2 ^ k - 1 < 2 ^ w :=
    Nat.lt_of_lt_of_le (Nat.sub_one_lt (Nat.two_pow_pos k).ne') (Nat.pow_le_pow_right (by omega) hk)
  apply BitVec.eq_of_toNat_eq
  rw [BitVec.toNat_and, BitVec.toNat_ofNat, Nat.mod_eq_of_lt hmask,
    Nat.and_two_pow_sub_one_eq_mod, Nat.mod_eq_of_lt h]

theorem masked_eq_of_fits {rtc : Mbc3RtcState} (h : rtc.Fits) : rtc.masked = rtc := by
  have hseconds : rtc.seconds &&& 0x3F = rtc.seconds :=
    and_mask_of_lt (k := 6) (by decide) (BitVec.lt_def.mp h.seconds)
  have hminutes : rtc.minutes &&& 0x3F = rtc.minutes :=
    and_mask_of_lt (k := 6) (by decide) (BitVec.lt_def.mp h.minutes)
  have hhours : rtc.hours &&& 0x1F = rtc.hours :=
    and_mask_of_lt (k := 5) (by decide) (BitVec.lt_def.mp h.hours)
  have hdays : rtc.dayCounter &&& 0x01FF = rtc.dayCounter :=
    and_mask_of_lt (k := 9) (by decide) (BitVec.lt_def.mp h.dayCounter)
  rw [masked, hseconds, hminutes, hhours, hdays]

theorem and_mask_lt {w k : Nat} {x : BitVec w} (hk : k < w) :
    x &&& BitVec.ofNat w (2 ^ k - 1) < BitVec.ofNat w (2 ^ k) := by
  have hpow : 2 ^ k < 2 ^ w := Nat.pow_lt_pow_right (by omega) hk
  have hpos := Nat.two_pow_pos k
  rw [BitVec.lt_def, BitVec.toNat_and, BitVec.toNat_ofNat, BitVec.toNat_ofNat,
    Nat.mod_eq_of_lt hpow, Nat.mod_eq_of_lt (by omega), Nat.and_two_pow_sub_one_eq_mod]
  exact Nat.mod_lt _ hpos

theorem Fits.tickOneDay {rtc : Mbc3RtcState} (h : rtc.Fits) : rtc.tickOneDay.Fits := by
  unfold Mbc3RtcPersistentState.tickOneDay
  by_cases hwrap : 0x01FF < (rtc.dayCounter &&& 0x01FF) + 1
  · rw [if_pos hwrap]
    exact ⟨h.seconds, h.minutes, h.hours, (by decide : (0 : U16) < 512)⟩
  · rw [if_neg hwrap]
    refine ⟨h.seconds, h.minutes, h.hours, ?_⟩
    show (rtc.dayCounter &&& 0x01FF) + 1 < 512
    exact BitVec.lt_def.mpr
      (Nat.lt_of_le_of_lt (BitVec.le_def.mp (BitVec.not_lt.mp hwrap)) (by decide))

theorem Fits.tickOneHour {rtc : Mbc3RtcState} (h : rtc.Fits) : rtc.tickOneHour.Fits := by
  have hzero : (0 : U8) < 32 := by decide
  unfold Mbc3RtcPersistentState.tickOneHour
  split
  · exact Fits.tickOneDay ⟨h.seconds, h.minutes, hzero, h.dayCounter⟩
  · split
    · exact ⟨h.seconds, h.minutes, hzero, h.dayCounter⟩
    · exact ⟨h.seconds, h.minutes, and_mask_lt (k := 5) (by decide), h.dayCounter⟩

theorem Fits.tickOneMinute {rtc : Mbc3RtcState} (h : rtc.Fits) : rtc.tickOneMinute.Fits := by
  have hzero : (0 : U8) < 64 := by decide
  unfold Mbc3RtcPersistentState.tickOneMinute
  split
  · exact Fits.tickOneHour ⟨h.seconds, hzero, h.hours, h.dayCounter⟩
  · split
    · exact ⟨h.seconds, hzero, h.hours, h.dayCounter⟩
    · exact ⟨h.seconds, and_mask_lt (k := 6) (by decide), h.hours, h.dayCounter⟩

theorem Fits.tickOneSecond {rtc : Mbc3RtcState} (h : rtc.Fits) : rtc.tickOneSecond.Fits := by
  have hzero : (0 : U8) < 64 := by decide
  unfold Mbc3RtcPersistentState.tickOneSecond
  split
  · exact Fits.tickOneMinute ⟨hzero, h.minutes, h.hours, h.dayCounter⟩
  · split
    · exact ⟨hzero, h.minutes, h.hours, h.dayCounter⟩
    · exact ⟨and_mask_lt (k := 6) (by decide), h.minutes, h.hours, h.dayCounter⟩

/-! ## A canonical clock ticks as a count of seconds -/

/-- The clock on a day, at a time of that day. -/
def atTime (rtc : Mbc3RtcState) (days hours minutes seconds : Nat) : Mbc3RtcState :=
  { rtc with
    carry := if 511 < days then true else rtc.carry
    dayCounter := BitVec.ofNat 16 (days % 512)
    hours := BitVec.ofNat 8 hours
    minutes := BitVec.ofNat 8 minutes
    seconds := BitVec.ofNat 8 seconds }

theorem atTotalSeconds_eq_atTime (rtc : Mbc3RtcState) {days hours minutes seconds : Nat}
    (hhours : hours < 24) (hminutes : minutes < 60) (hseconds : seconds < 60) :
    rtc.atTotalSeconds (((days * 24 + hours) * 60 + minutes) * 60 + seconds) =
      rtc.atTime days hours minutes seconds := by
  have hdays : (((days * 24 + hours) * 60 + minutes) * 60 + seconds) / 86400 = days := by omega
  have hday : (((days * 24 + hours) * 60 + minutes) * 60 + seconds) % 86400 =
      hours * 3600 + minutes * 60 + seconds := by omega
  have hhour : (hours * 3600 + minutes * 60 + seconds) / 3600 = hours := by omega
  have hminute : (hours * 3600 + minutes * 60 + seconds) % 3600 / 60 = minutes := by omega
  have hsecond : (hours * 3600 + minutes * 60 + seconds) % 60 = seconds := by omega
  rw [atTotalSeconds, hdays, hday, hhour, hminute, hsecond, atTime]

theorem atTotalSeconds_totalSeconds {rtc : Mbc3RtcState} (h : rtc.Fits)
    (hcanonical : rtc.fieldsAreCanonical = true) : rtc.atTotalSeconds rtc.totalSeconds = rtc := by
  simp only [fieldsAreCanonical, Bool.and_eq_true, decide_eq_true_eq] at hcanonical
  obtain ⟨⟨hseconds, hminutes⟩, hhours⟩ := hcanonical
  have hdays : rtc.dayCounter.toNat < 512 := BitVec.lt_def.mp h.dayCounter
  have htotal : rtc.totalSeconds =
      ((rtc.dayCounter.toNat * 24 + rtc.hours.toNat) * 60 + rtc.minutes.toNat) * 60 +
        rtc.seconds.toNat := by
    rw [totalSeconds]
    omega
  rw [htotal, atTotalSeconds_eq_atTime rtc (BitVec.lt_def.mp hhours) (BitVec.lt_def.mp hminutes)
    (BitVec.lt_def.mp hseconds), atTime, if_neg (by omega), Nat.mod_eq_of_lt hdays]
  simp only [BitVec.ofNat_toNat, BitVec.setWidth_eq]

theorem ofNat_eq_iff {field value : Nat} (hfield : field < 256) (hvalue : value < 256) :
    BitVec.ofNat 8 field = BitVec.ofNat 8 value ↔ field = value := by
  constructor
  · intro heq
    have hnat := congrArg BitVec.toNat heq
    rw [BitVec.toNat_ofNat, BitVec.toNat_ofNat] at hnat
    omega
  · rintro rfl
    rfl

/-- A field below its last canonical value counts up within its mask. -/
theorem count_up {k field : Nat} (hk : k ≤ 8) (hfield : field + 1 < 2 ^ k) :
    (BitVec.ofNat 8 field + 1) &&& BitVec.ofNat 8 (2 ^ k - 1) = BitVec.ofNat 8 (field + 1) := by
  have hpow : 2 ^ k ≤ 2 ^ 8 := Nat.pow_le_pow_right (by omega) hk
  have hnext : BitVec.ofNat 8 field + 1 = BitVec.ofNat 8 (field + 1) :=
    (BitVec.ofNat_add ..).symm
  rw [hnext]
  exact and_mask_of_lt hk (by rw [BitVec.toNat_ofNat, Nat.mod_eq_of_lt (by omega)]; exact hfield)

theorem tickOneDay_atTime (rtc : Mbc3RtcState) (days hours minutes seconds : Nat) :
    (rtc.atTime days hours minutes seconds).tickOneDay =
      rtc.atTime (days + 1) hours minutes seconds := by
  have hlt : days % 512 < 512 := Nat.mod_lt _ (by decide)
  have hmask : BitVec.ofNat 16 (days % 512) &&& 0x01FF = BitVec.ofNat 16 (days % 512) :=
    and_mask_of_lt (k := 9) (by decide)
      (by rw [BitVec.toNat_ofNat, Nat.mod_eq_of_lt (by omega)]; exact hlt)
  have hnext : BitVec.ofNat 16 (days % 512) + 1 = BitVec.ofNat 16 (days % 512 + 1) :=
    (BitVec.ofNat_add ..).symm
  simp only [tickOneDay, atTime, hmask, hnext]
  have hwraps : 0x01FF < BitVec.ofNat 16 (days % 512 + 1) ↔ days % 512 = 511 := by
    rw [BitVec.lt_def, BitVec.toNat_ofNat, Nat.mod_eq_of_lt (by omega)]
    exact ⟨fun h => by have : 511 < days % 512 + 1 := h; omega, fun h => by rw [h]; decide⟩
  by_cases hlast : days % 512 = 511
  · have hzero : (days + 1) % 512 = 0 := by omega
    have hcarry : 511 < days + 1 := by omega
    rw [if_pos (hwraps.mpr hlast), hzero, if_pos hcarry]
    rfl
  · have hsucc : (days + 1) % 512 = days % 512 + 1 := by omega
    have hcarry : 511 < days + 1 ↔ 511 < days := by omega
    simp only [if_neg (mt hwraps.mp hlast), hsucc, hcarry]

theorem tickOneHour_atTime (rtc : Mbc3RtcState) (days minutes seconds : Nat) {hours : Nat}
    (hhours : hours < 24) :
    (rtc.atTime days hours minutes seconds).tickOneHour =
      if hours = 23 then rtc.atTime (days + 1) 0 minutes seconds
      else rtc.atTime days (hours + 1) minutes seconds := by
  unfold tickOneHour
  by_cases hlast : hours = 23
  · subst hlast
    exact tickOneDay_atTime rtc days 0 minutes seconds
  · have hnotLast : (rtc.atTime days hours minutes seconds).hours ≠ 23 :=
      mt (ofNat_eq_iff (by omega) (by decide)).mp hlast
    have hnotTop : (rtc.atTime days hours minutes seconds).hours ≠ 31 :=
      mt (ofNat_eq_iff (by omega) (by decide)).mp (by omega : hours ≠ 31)
    have hcount : (BitVec.ofNat 8 hours + 1) &&& 0x1F = BitVec.ofNat 8 (hours + 1) :=
      count_up (k := 5) (by decide) (by omega)
    rw [if_neg hnotLast, if_neg hnotTop, if_neg hlast]
    simp only [atTime, hcount]

theorem tickOneMinute_atTime (rtc : Mbc3RtcState) (days seconds : Nat) {hours minutes : Nat}
    (hhours : hours < 24) (hminutes : minutes < 60) :
    (rtc.atTime days hours minutes seconds).tickOneMinute =
      if minutes = 59 then
        if hours = 23 then rtc.atTime (days + 1) 0 0 seconds
        else rtc.atTime days (hours + 1) 0 seconds
      else rtc.atTime days hours (minutes + 1) seconds := by
  unfold tickOneMinute
  by_cases hlast : minutes = 59
  · subst hlast
    exact tickOneHour_atTime rtc days 0 seconds hhours
  · have hnotLast : (rtc.atTime days hours minutes seconds).minutes ≠ 59 :=
      mt (ofNat_eq_iff (by omega) (by decide)).mp hlast
    have hnotTop : (rtc.atTime days hours minutes seconds).minutes ≠ 63 :=
      mt (ofNat_eq_iff (by omega) (by decide)).mp (by omega : minutes ≠ 63)
    have hcount : (BitVec.ofNat 8 minutes + 1) &&& 0x3F = BitVec.ofNat 8 (minutes + 1) :=
      count_up (k := 6) (by decide) (by omega)
    rw [if_neg hnotLast, if_neg hnotTop, if_neg hlast]
    simp only [atTime, hcount]

theorem tickOneSecond_atTime (rtc : Mbc3RtcState) (days : Nat) {hours minutes seconds : Nat}
    (hhours : hours < 24) (hminutes : minutes < 60) (hseconds : seconds < 60) :
    (rtc.atTime days hours minutes seconds).tickOneSecond =
      if seconds = 59 then
        if minutes = 59 then
          if hours = 23 then rtc.atTime (days + 1) 0 0 0 else rtc.atTime days (hours + 1) 0 0
        else rtc.atTime days hours (minutes + 1) 0
      else rtc.atTime days hours minutes (seconds + 1) := by
  unfold tickOneSecond
  by_cases hlast : seconds = 59
  · subst hlast
    exact tickOneMinute_atTime rtc days 0 hhours hminutes
  · have hnotLast : (rtc.atTime days hours minutes seconds).seconds ≠ 59 :=
      mt (ofNat_eq_iff (by omega) (by decide)).mp hlast
    have hnotTop : (rtc.atTime days hours minutes seconds).seconds ≠ 63 :=
      mt (ofNat_eq_iff (by omega) (by decide)).mp (by omega : seconds ≠ 63)
    have hcount : (BitVec.ofNat 8 seconds + 1) &&& 0x3F = BitVec.ofNat 8 (seconds + 1) :=
      count_up (k := 6) (by decide) (by omega)
    rw [if_neg hnotLast, if_neg hnotTop, if_neg hlast]
    simp only [atTime, hcount]

/-- One second moves the clock to the next total. -/
theorem tickOneSecond_atTotalSeconds (rtc : Mbc3RtcState) (total : Nat) :
    (rtc.atTotalSeconds total).tickOneSecond = rtc.atTotalSeconds (total + 1) := by
  obtain ⟨days, hours, minutes, seconds, hhours, hminutes, hseconds, rfl⟩ :
      ∃ days hours minutes seconds, hours < 24 ∧ minutes < 60 ∧ seconds < 60 ∧
        total = ((days * 24 + hours) * 60 + minutes) * 60 + seconds :=
    ⟨total / 60 / 60 / 24, total / 60 / 60 % 24, total / 60 % 60, total % 60,
      Nat.mod_lt _ (by decide), Nat.mod_lt _ (by decide), Nat.mod_lt _ (by decide), by omega⟩
  rw [atTotalSeconds_eq_atTime rtc hhours hminutes hseconds,
    tickOneSecond_atTime rtc days hhours hminutes hseconds]
  have hparts (d h m s next : Nat) (hh : h < 24) (hm : m < 60) (hs : s < 60)
      (hnext : next = ((d * 24 + h) * 60 + m) * 60 + s) :
      rtc.atTime d h m s = rtc.atTotalSeconds next := by
    rw [hnext, atTotalSeconds_eq_atTime rtc hh hm hs]
  split
  · split
    · split
      · exact hparts _ _ _ _ _ (by decide) (by decide) (by decide) (by omega)
      · exact hparts _ _ _ _ _ (by omega) (by decide) (by decide) (by omega)
    · exact hparts _ _ _ _ _ hhours (by omega) (by decide) (by omega)
  · exact hparts _ _ _ _ _ hhours hminutes (by omega) (by omega)

theorem iterate_tickOneSecond {rtc : Mbc3RtcState} (h : rtc.Fits)
    (hcanonical : rtc.fieldsAreCanonical = true) (n : Nat) :
    tickOneSecond^[n] rtc = rtc.atTotalSeconds (rtc.totalSeconds + n) := by
  induction n with
  | zero => rw [Function.iterate_zero_apply, Nat.add_zero, atTotalSeconds_totalSeconds h hcanonical]
  | succ n ih =>
      rw [Function.iterate_succ_apply', ih, tickOneSecond_atTotalSeconds, Nat.add_assoc]

/-! ## The advance is the tick, iterated -/

theorem tickUntilCanonical_spec {n : Nat} {rtc : Mbc3RtcState} (h : rtc.Fits) :
    (tickUntilCanonical n rtc).2.Fits ∧
    tickOneSecond^[(tickUntilCanonical n rtc).1] (tickUntilCanonical n rtc).2 =
      tickOneSecond^[n] rtc ∧
    (tickUntilCanonical n rtc).1 ≤ n ∧
    ((tickUntilCanonical n rtc).1 = 0 ∨
      (tickUntilCanonical n rtc).2.fieldsAreCanonical = true) := by
  induction n generalizing rtc with
  | zero => exact ⟨h, rfl, Nat.le_refl 0, .inl rfl⟩
  | succ n ih =>
      rw [tickUntilCanonical]
      by_cases hcanonical : rtc.fieldsAreCanonical = true
      · rw [if_pos hcanonical]
        exact ⟨h, rfl, Nat.le_refl _, .inr hcanonical⟩
      · rw [if_neg hcanonical]
        obtain ⟨hfits, hsame, hle, hdone⟩ := ih h.tickOneSecond
        exact ⟨hfits, hsame, Nat.le_succ_of_le hle, hdone⟩

/-- The most seconds a clock with masked registers can show. -/
def maxTotalSeconds : Nat := 511 * 86400 + 23 * 3600 + 59 * 60 + 59

theorem totalSeconds_le {rtc : Mbc3RtcState} (h : rtc.Fits)
    (hcanonical : rtc.fieldsAreCanonical = true) : rtc.totalSeconds ≤ maxTotalSeconds := by
  simp only [fieldsAreCanonical, Bool.and_eq_true, decide_eq_true_eq] at hcanonical
  obtain ⟨⟨hseconds, hminutes⟩, hhours⟩ := hcanonical
  have hdays : rtc.dayCounter.toNat < 512 := BitVec.lt_def.mp h.dayCounter
  have hhours : rtc.hours.toNat < 24 := BitVec.lt_def.mp hhours
  have hminutes : rtc.minutes.toNat < 60 := BitVec.lt_def.mp hminutes
  have hseconds : rtc.seconds.toNat < 60 := BitVec.lt_def.mp hseconds
  rw [totalSeconds, maxTotalSeconds]
  omega

theorem applyElapsedSeconds_halted {rtc : Mbc3RtcState} (hhalt : rtc.halt = true) (n : Nat) :
    rtc.applyElapsedSeconds n = rtc := by
  rw [applyElapsedSeconds, hhalt, Bool.true_or, if_pos rfl]

/-- A running clock advances by ticking, as long as the sum of seconds is a `u64`. -/
theorem applyElapsedSeconds_eq_iterate {rtc : Mbc3RtcState} (h : rtc.Fits)
    (hrunning : rtc.halt = false) {n : Nat} (hfits : maxTotalSeconds + n < 2 ^ 64) :
    rtc.applyElapsedSeconds n = tickOneSecond^[n] rtc := by
  unfold applyElapsedSeconds
  by_cases hzero : n = 0
  · subst hzero
    rw [if_pos (by simp)]
    rfl
  · rw [if_neg (by simp [hrunning, hzero]), masked_eq_of_fits h]
    obtain ⟨hclock, hsame, hle, hdone⟩ := tickUntilCanonical_spec (n := n) h
    generalize tickUntilCanonical n rtc = after at *
    obtain ⟨remaining, clock⟩ := after
    cases remaining with
    | zero => exact hsame
    | succ remaining =>
        have hcanonical := hdone.resolve_left (Nat.succ_ne_zero _)
        have htotal := totalSeconds_le hclock hcanonical
        have hsum : clock.totalSeconds + (remaining + 1) < 2 ^ 64 :=
          Nat.lt_of_le_of_lt (Nat.add_le_add htotal hle) hfits
        show clock.atTotalSeconds ((clock.totalSeconds + (remaining + 1)) % 2 ^ 64) = _
        rw [Nat.mod_eq_of_lt hsum, ← iterate_tickOneSecond hclock hcanonical]
        exact hsame

theorem halt_tickOneHour (rtc : Mbc3RtcState) : rtc.tickOneHour.halt = rtc.halt := by
  unfold tickOneHour tickOneDay
  split
  · split <;> rfl
  · split <;> rfl

theorem halt_tickOneSecond (rtc : Mbc3RtcState) : rtc.tickOneSecond.halt = rtc.halt := by
  unfold tickOneSecond tickOneMinute
  split
  · split
    · exact halt_tickOneHour _
    · split <;> rfl
  · split <;> rfl

theorem carry_tickOneHour {rtc : Mbc3RtcState} (h : rtc.carry = true) :
    rtc.tickOneHour.carry = true := by
  unfold tickOneHour tickOneDay
  split
  · split
    · rfl
    · exact h
  · split <;> exact h

/-- The day carry stays set. -/
theorem carry_tickOneSecond {rtc : Mbc3RtcState} (h : rtc.carry = true) :
    rtc.tickOneSecond.carry = true := by
  unfold tickOneSecond tickOneMinute
  split
  · split
    · exact carry_tickOneHour h
    · split <;> exact h
  · split <;> exact h

theorem fits_iterate {rtc : Mbc3RtcState} (h : rtc.Fits) (n : Nat) :
    (tickOneSecond^[n] rtc).Fits := by
  induction n with
  | zero => exact h
  | succ n ih =>
      rw [Function.iterate_succ_apply']
      exact ih.tickOneSecond

theorem halt_iterate (rtc : Mbc3RtcState) (n : Nat) :
    (tickOneSecond^[n] rtc).halt = rtc.halt := by
  induction n with
  | zero => rfl
  | succ n ih => rw [Function.iterate_succ_apply', halt_tickOneSecond, ih]

theorem Fits.applyElapsedSeconds {rtc : Mbc3RtcState} (h : rtc.Fits) {n : Nat}
    (hfits : rtc.halt = true ∨ maxTotalSeconds + n < 2 ^ 64) :
    (rtc.applyElapsedSeconds n).Fits := by
  cases hhalt : rtc.halt with
  | true =>
      rw [applyElapsedSeconds_halted hhalt]
      exact h
  | false =>
      rw [applyElapsedSeconds_eq_iterate h hhalt (hfits.resolve_left (by simp [hhalt]))]
      exact fits_iterate h n

/-- Two advances in a row are one advance by both. -/
theorem applyElapsedSeconds_add {rtc : Mbc3RtcState} (h : rtc.Fits) {a b : Nat}
    (hfits : rtc.halt = true ∨ maxTotalSeconds + (a + b) < 2 ^ 64) :
    (rtc.applyElapsedSeconds a).applyElapsedSeconds b = rtc.applyElapsedSeconds (a + b) := by
  cases hhalt : rtc.halt with
  | true => rw [applyElapsedSeconds_halted hhalt, applyElapsedSeconds_halted hhalt,
      applyElapsedSeconds_halted hhalt]
  | false =>
      have hsum := hfits.resolve_left (by simp [hhalt])
      rw [applyElapsedSeconds_eq_iterate h hhalt (by omega),
        applyElapsedSeconds_eq_iterate (fits_iterate h a) ((halt_iterate rtc a).trans hhalt)
          (by omega),
        applyElapsedSeconds_eq_iterate h hhalt hsum, ← Function.iterate_add_apply, Nat.add_comm]

end Mbc3RtcPersistentState

/-! ## HuC-3 -/

def huc3MinutesPerDay : Nat := 1440
def huc3DayCounterModulus : Nat := 4096

/-- Whole minutes go on the count of days and minutes, which wraps. -/
def Huc3RtcPersistentState.addMinutes (rtc : Huc3RtcPersistentState) (minuteDelta : Nat) :
    Huc3RtcPersistentState :=
  if minuteDelta = 0 then rtc
  else
    let currentTotalMinutes :=
      rtc.currentDays.toNat * huc3MinutesPerDay + rtc.currentMinutesOfDay.toNat
    let wrappedTotalMinutes :=
      (currentTotalMinutes + minuteDelta) % (huc3DayCounterModulus * huc3MinutesPerDay)
    { rtc with
      currentDays := BitVec.ofNat 16 (wrappedTotalMinutes / huc3MinutesPerDay)
      currentMinutesOfDay := BitVec.ofNat 16 (wrappedTotalMinutes % huc3MinutesPerDay) }

/-- `advance_huc3_rtc_fields`. -/
def Huc3RtcPersistentState.applyElapsedSeconds (rtc : Huc3RtcPersistentState)
    (elapsedSeconds : Nat) : Huc3RtcPersistentState :=
  if elapsedSeconds = 0 then rtc
  else
    let totalSeconds := (rtc.currentSubminuteSeconds.toNat % 60 + elapsedSeconds) % 2 ^ 64
    { rtc with
      currentMinutesOfDay := BitVec.ofNat 16 (rtc.currentMinutesOfDay.toNat % huc3MinutesPerDay)
      currentDays := BitVec.ofNat 16 (rtc.currentDays.toNat % huc3DayCounterModulus)
      currentSubminuteSeconds := BitVec.ofNat 8 (totalSeconds % 60) }.addMinutes
        (totalSeconds / 60)

end GbCycle
