import GbCycle.Cartridge.Huc3Clock

/-!
# Where the cartridge clocks count

An advance adds the elapsed seconds to the seconds the clock shows, in a `u64`.  MBC3 first
ticks until its fields are canonical; `AdvanceFits` says that the sum from there is one a `u64`
holds.  We show that under this condition an advance is the one-second tick, iterated, for any
register contents, and that the advances written with checked additions fail outside it and
nowhere else.
-/

namespace GbCycle

namespace Mbc3RtcPersistentState

variable {rtc : Mbc3RtcState} {n k : Nat}

/-! ## The ticks before the division -/

/-- After `k` ticks, and not before, the fields are canonical. -/
def CanonicalAfter (rtc : Mbc3RtcState) (k : Nat) : Prop :=
  (tickOneSecond^[k] rtc).fieldsAreCanonical = true ∧
    ∀ j < k, (tickOneSecond^[j] rtc).fieldsAreCanonical = false

/-- The seconds that remain once the fields are canonical go into a `u64` with the total. -/
def SumFits (rtc : Mbc3RtcState) (n : Nat) : Prop :=
  ∀ k < n, rtc.CanonicalAfter k → (tickOneSecond^[k] rtc).totalSeconds + (n - k) < 2 ^ 64

/-- No addition of an advance by `n` seconds overflows. -/
def AdvanceFits (rtc : Mbc3RtcState) (n : Nat) : Prop := rtc.halt = true ∨ rtc.masked.SumFits n

theorem CanonicalAfter.unique {k' : Nat} (h : rtc.CanonicalAfter k) (h' : rtc.CanonicalAfter k') :
    k = k' := by
  rcases Nat.lt_trichotomy k k' with hlt | heq | hlt
  · have hnot := h'.2 k hlt
    rw [h.1] at hnot
    cases hnot
  · exact heq
  · have hnot := h.2 k' hlt
    rw [h'.1] at hnot
    cases hnot

/-- The loop takes all the seconds, or stops at the first canonical clock. -/
theorem tickUntilCanonical_cases (n : Nat) (rtc : Mbc3RtcState) :
    (tickUntilCanonical n rtc = (0, tickOneSecond^[n] rtc) ∧ ∀ k < n, ¬ rtc.CanonicalAfter k) ∨
    ∃ k < n, rtc.CanonicalAfter k ∧ tickUntilCanonical n rtc = (n - k, tickOneSecond^[k] rtc) := by
  induction n generalizing rtc with
  | zero => exact .inl ⟨rfl, fun k hk => absurd hk (Nat.not_lt_zero k)⟩
  | succ n ih =>
      rw [tickUntilCanonical]
      by_cases hcanonical : rtc.fieldsAreCanonical = true
      · rw [if_pos hcanonical]
        exact .inr ⟨0, Nat.succ_pos n, ⟨hcanonical, fun j hj => absurd hj (Nat.not_lt_zero j)⟩, rfl⟩
      · rw [if_neg hcanonical]
        rcases ih rtc.tickOneSecond with ⟨hrun, hnever⟩ | ⟨k, hk, hfirst, hrun⟩
        · refine .inl ⟨hrun, fun k hk hfirst => ?_⟩
          cases k with
          | zero => exact hcanonical hfirst.1
          | succ k =>
              exact hnever k (Nat.lt_of_succ_lt_succ hk)
                ⟨hfirst.1, fun j hj => hfirst.2 (j + 1) (Nat.succ_lt_succ hj)⟩
        · refine .inr ⟨k + 1, Nat.succ_lt_succ hk, ⟨hfirst.1, fun j hj => ?_⟩, ?_⟩
          · cases j with
            | zero => exact Bool.eq_false_iff.mpr hcanonical
            | succ j => exact hfirst.2 j (Nat.lt_of_succ_lt_succ hj)
          · rw [hrun, Nat.add_sub_add_right]
            rfl

/-! ## The checked advance -/

/-- `advance_mbc3_rtc_fields`, where an addition that overflows has no result. -/
def applyElapsedSecondsChecked (rtc : Mbc3RtcState) (elapsedSeconds : Nat) : Option Mbc3RtcState :=
  if rtc.halt || elapsedSeconds = 0 then some rtc
  else
    match tickUntilCanonical elapsedSeconds rtc.masked with
    | (0, rtc) => some rtc
    | (remaining, rtc) => (checkedAdd 64 rtc.totalSeconds remaining).map rtc.atTotalSeconds

theorem fits_masked (rtc : Mbc3RtcState) : rtc.masked.Fits :=
  ⟨and_mask_lt (k := 6) (by decide), and_mask_lt (k := 6) (by decide),
    and_mask_lt (k := 5) (by decide), and_mask_lt (k := 9) (by decide)⟩

/-- A running clock advances by ticking, whatever its registers hold. -/
theorem advance_of_sumFits (hrunning : rtc.halt = false) (hn : n ≠ 0)
    (hfits : rtc.masked.SumFits n) :
    rtc.applyElapsedSecondsChecked n = some (tickOneSecond^[n] rtc.masked) ∧
      rtc.applyElapsedSeconds n = tickOneSecond^[n] rtc.masked := by
  unfold applyElapsedSecondsChecked applyElapsedSeconds
  rw [if_neg (by simp [hrunning, hn]), if_neg (by simp [hrunning, hn])]
  rcases tickUntilCanonical_cases n rtc.masked with ⟨hrun, -⟩ | ⟨k, hk, hfirst, hrun⟩
  · rw [hrun]
    exact ⟨rfl, rfl⟩
  · obtain ⟨remaining, hremaining⟩ : ∃ remaining, n - k = remaining + 1 :=
      ⟨n - k - 1, by omega⟩
    have hsum := hfits k hk hfirst
    have hclock : (tickOneSecond^[k] rtc.masked).Fits := fits_iterate rtc.fits_masked k
    have hticks : (tickOneSecond^[k] rtc.masked).atTotalSeconds
        ((tickOneSecond^[k] rtc.masked).totalSeconds + (n - k)) = tickOneSecond^[n] rtc.masked := by
      rw [← iterate_tickOneSecond hclock hfirst.1, ← Function.iterate_add_apply,
        Nat.sub_add_cancel (Nat.le_of_lt hk)]
    rw [hremaining] at hsum hticks hrun
    rw [hrun]
    show (checkedAdd 64 _ (remaining + 1)).map _ = _ ∧ atTotalSeconds _ (_ % 2 ^ 64) = _
    rw [checkedAdd, if_pos hsum, Nat.mod_eq_of_lt hsum]
    exact ⟨congrArg some hticks, hticks⟩

/-- The checked advance fails when the sum does not fit. -/
theorem checked_of_not_sumFits (hrunning : rtc.halt = false) (hfits : ¬ rtc.masked.SumFits n) :
    rtc.applyElapsedSecondsChecked n = none := by
  simp only [SumFits, not_forall, not_lt] at hfits
  obtain ⟨k, hk, hfirst, hsum⟩ := hfits
  unfold applyElapsedSecondsChecked
  rw [if_neg (by simp [hrunning]; omega)]
  rcases tickUntilCanonical_cases n rtc.masked with ⟨-, hnever⟩ | ⟨k', -, hfirst', hrun⟩
  · exact absurd hfirst (hnever k hk)
  · obtain rfl := hfirst.unique hfirst'
    obtain ⟨remaining, hremaining⟩ : ∃ remaining, n - k = remaining + 1 :=
      ⟨n - k - 1, by omega⟩
    rw [hremaining] at hsum hrun
    rw [hrun]
    show (checkedAdd 64 _ (remaining + 1)).map _ = none
    rw [checkedAdd, if_neg (Nat.not_lt.mpr hsum)]
    rfl

/-! ## Composing advances -/

theorem totalSeconds_atTotalSeconds_le (rtc : Mbc3RtcState) (total : Nat) :
    (rtc.atTotalSeconds total).totalSeconds ≤ total := by
  simp only [totalSeconds, atTotalSeconds, BitVec.toNat_ofNat]
  omega

/-- Ticks add at most one second each to a canonical total. -/
theorem totalSeconds_iterate_le (h : rtc.Fits) (hcanonical : rtc.fieldsAreCanonical = true)
    (n : Nat) : (tickOneSecond^[n] rtc).totalSeconds ≤ rtc.totalSeconds + n := by
  rw [iterate_tickOneSecond h hcanonical]
  exact totalSeconds_atTotalSeconds_le rtc _

theorem exists_canonicalAfter (h : (tickOneSecond^[n] rtc).fieldsAreCanonical = true) :
    ∃ k ≤ n, rtc.CanonicalAfter k := by
  induction n using Nat.strongRecOn with
  | ind n ih =>
      by_cases hfirst : ∀ j < n, (tickOneSecond^[j] rtc).fieldsAreCanonical = false
      · exact ⟨n, Nat.le_refl n, h, hfirst⟩
      · simp only [not_forall, Bool.not_eq_false] at hfirst
        obtain ⟨j, hj, hcanonical⟩ := hfirst
        obtain ⟨k, hk, hafter⟩ := ih j hj hcanonical
        exact ⟨k, Nat.le_trans hk (Nat.le_of_lt hj), hafter⟩

/-- The seconds an advance can have whatever the clock shows. -/
theorem sumFits_of_lt (h : rtc.Fits) (hn : maxTotalSeconds + n < 2 ^ 64) : rtc.SumFits n := by
  intro k hk hfirst
  have htotal := totalSeconds_le (fits_iterate h k) hfirst.1
  omega

theorem SumFits.mono {a b : Nat} (h : rtc.SumFits (a + b)) : rtc.SumFits a := by
  intro k hk hfirst
  have hsum := h k (by omega) hfirst
  omega

/-- An advance that fits leaves a clock from which the rest of it fits. -/
theorem SumFits.rest {a b : Nat} (hrtc : rtc.Fits) (h : rtc.SumFits (a + b)) :
    (tickOneSecond^[a] rtc).SumFits b := by
  intro j hj hfirst
  rw [← Function.iterate_add_apply]
  have hcanonical : (tickOneSecond^[a + j] rtc).fieldsAreCanonical = true := by
    rw [Nat.add_comm, Function.iterate_add_apply]
    exact hfirst.1
  obtain ⟨k, hk, hafter⟩ := exists_canonicalAfter hcanonical
  have hsum := h k (by omega) hafter
  have hticks : (tickOneSecond^[a + j] rtc).totalSeconds ≤
      (tickOneSecond^[k] rtc).totalSeconds + (a + j - k) := by
    have hle := totalSeconds_iterate_le (fits_iterate hrtc k) hafter.1 (a + j - k)
    rwa [← Function.iterate_add_apply, Nat.sub_add_cancel hk] at hle
  rw [Nat.add_comm j a]
  omega

/-- The tick of the chip: a halted clock stands still. -/
def tickSecond (rtc : Mbc3RtcState) : Mbc3RtcState := if rtc.halt then rtc else rtc.tickOneSecond

theorem iterate_tickSecond (rtc : Mbc3RtcState) (n : Nat) :
    tickSecond^[n] rtc = if rtc.halt then rtc else tickOneSecond^[n] rtc := by
  induction n with
  | zero => simp
  | succ n ih =>
      rw [Function.iterate_succ_apply', ih]
      by_cases hhalt : rtc.halt = true
      · rw [if_pos hhalt, if_pos hhalt, tickSecond, if_pos hhalt]
      · rw [if_neg hhalt, if_neg hhalt, tickSecond, halt_iterate, if_neg hhalt,
          Function.iterate_succ_apply']

theorem advance_eq_tickSecond (h : rtc.Fits) (hfits : rtc.AdvanceFits n) :
    rtc.applyElapsedSeconds n = tickSecond^[n] rtc := by
  rw [iterate_tickSecond]
  by_cases hhalt : rtc.halt = true
  · rw [if_pos hhalt, applyElapsedSeconds_halted hhalt]
  · rw [if_neg hhalt]
    by_cases hn : n = 0
    · subst hn
      rw [applyElapsedSeconds, if_pos (by simp)]
      rfl
    · rw [(advance_of_sumFits (Bool.eq_false_iff.mpr hhalt) hn (hfits.resolve_left hhalt)).2,
        masked_eq_of_fits h]

theorem carry_iterate (h : rtc.carry = true) (n : Nat) :
    (tickSecond^[n] rtc).carry = true := by
  induction n with
  | zero => exact h
  | succ n ih =>
      rw [Function.iterate_succ_apply', tickSecond]
      split
      · exact ih
      · exact carry_tickOneSecond ih

/-- As long as no addition overflows, an advance is the chip's one-second tick, iterated.  So
advances compose, a halted clock stands still and the day carry stays set. -/
theorem advance_is_ticking (h : rtc.Fits) :
    (∀ n, rtc.AdvanceFits n → rtc.applyElapsedSeconds n = tickSecond^[n] rtc) ∧
    (∀ a b, rtc.AdvanceFits (a + b) →
      (rtc.applyElapsedSeconds a).applyElapsedSeconds b = rtc.applyElapsedSeconds (a + b)) ∧
    (rtc.halt = true → ∀ n, rtc.applyElapsedSeconds n = rtc) ∧
    (rtc.carry = true → ∀ n, rtc.AdvanceFits n → (rtc.applyElapsedSeconds n).carry = true) := by
  refine ⟨fun n => advance_eq_tickSecond h, fun a b hfits => ?_,
    fun hhalt n => applyElapsedSeconds_halted hhalt n, fun hcarry n hfits => ?_⟩
  · by_cases hhalt : rtc.halt = true
    · rw [applyElapsedSeconds_halted hhalt, applyElapsedSeconds_halted hhalt,
        applyElapsedSeconds_halted hhalt]
    · have hsum := hfits.resolve_left hhalt
      rw [masked_eq_of_fits h] at hsum
      have hfirst : rtc.AdvanceFits a := .inr ((masked_eq_of_fits h).symm ▸ hsum.mono)
      rw [advance_eq_tickSecond h hfirst, iterate_tickSecond, if_neg hhalt]
      have hclock : (tickOneSecond^[a] rtc).Fits := fits_iterate h a
      have hrest : (tickOneSecond^[a] rtc).AdvanceFits b := by
        refine .inr ?_
        rw [masked_eq_of_fits hclock]
        exact hsum.rest h
      rw [advance_eq_tickSecond hclock hrest, advance_eq_tickSecond h hfits, iterate_tickSecond,
        iterate_tickSecond, halt_iterate, if_neg hhalt, if_neg hhalt, ← Function.iterate_add_apply,
        Nat.add_comm]
  · rw [advance_eq_tickSecond h hfits]
    exact carry_iterate hcarry n

/-- A clock at 31:63:63 of the last day, past every canonical field. -/
def beyondCanonical : Mbc3RtcState :=
  { seconds := 63, minutes := 63, hours := 31, dayCounter := 511, halt := false, carry := false }

theorem advance_is_ticking_beyondCanonical :
    beyondCanonical.applyElapsedSeconds 200000 = tickSecond^[200000] beyondCanonical := by
  have hfits : beyondCanonical.Fits := ⟨by decide, by decide, by decide, by decide⟩
  exact (advance_is_ticking hfits).1 200000 (.inr (sumFits_of_lt (fits_masked _) (by decide)))

end Mbc3RtcPersistentState

/-! ## HuC-3 -/

namespace Huc3RtcPersistentState

/-- `advance_huc3_rtc_fields`, where an addition that overflows has no result. -/
def applyElapsedSecondsChecked (rtc : Huc3RtcPersistentState) (elapsedSeconds : Nat) :
    Option Huc3RtcPersistentState :=
  if elapsedSeconds = 0 then some rtc
  else
    (checkedAdd 64 (rtc.currentSubminuteSeconds.toNat % 60) elapsedSeconds).bind fun totalSeconds =>
      let rtc :=
        { rtc with
          currentMinutesOfDay := BitVec.ofNat 16 (rtc.currentMinutesOfDay.toNat % huc3MinutesPerDay)
          currentDays := BitVec.ofNat 16 (rtc.currentDays.toNat % huc3DayCounterModulus)
          currentSubminuteSeconds := BitVec.ofNat 8 (totalSeconds % 60) }
      if totalSeconds / 60 = 0 then some rtc
      else
        (checkedAdd 64 (rtc.currentDays.toNat * huc3MinutesPerDay + rtc.currentMinutesOfDay.toNat)
          (totalSeconds / 60)).map fun _ => rtc.addMinutes (totalSeconds / 60)

/-- The registers of the time, without those of the event, are in range. -/
structure CurrentInRange (rtc : Huc3RtcPersistentState) : Prop where
  minutes : rtc.currentMinutesOfDay < 1440
  days : rtc.currentDays < 0x1000
  subminute : rtc.currentSubminuteSeconds < 60

/-- The second addition never overflows: the minutes are a sixtieth of the seconds. -/
theorem applyElapsedSecondsChecked_eq (rtc : Huc3RtcPersistentState) (n : Nat) :
    rtc.applyElapsedSecondsChecked n =
      if n = 0 ∨ rtc.currentSubminuteSeconds.toNat % 60 + n < 2 ^ 64 then
        some (rtc.applyElapsedSeconds n)
      else none := by
  unfold applyElapsedSecondsChecked applyElapsedSeconds
  by_cases hn : n = 0
  · rw [if_pos hn, if_pos (.inl hn), if_pos hn]
  · rw [if_neg hn, if_neg hn]
    by_cases hsum : rtc.currentSubminuteSeconds.toNat % 60 + n < 2 ^ 64
    · rw [checkedAdd, if_pos hsum, if_pos (.inr hsum), Option.bind_some, Nat.mod_eq_of_lt hsum]
      dsimp only
      generalize rtc.currentSubminuteSeconds.toNat % 60 + n = totalSeconds at hsum ⊢
      by_cases hminutes : totalSeconds / 60 = 0
      · rw [if_pos hminutes, addMinutes, if_pos hminutes]
      · have hroom : (BitVec.ofNat 16 (rtc.currentDays.toNat % huc3DayCounterModulus)).toNat *
            huc3MinutesPerDay +
            (BitVec.ofNat 16 (rtc.currentMinutesOfDay.toNat % huc3MinutesPerDay)).toNat +
            totalSeconds / 60 < 2 ^ 64 := by
          simp only [BitVec.toNat_ofNat, huc3DayCounterModulus, huc3MinutesPerDay]
          omega
        rw [if_neg hminutes, checkedAdd, if_pos hroom, Option.map_some]
    · rw [checkedAdd, if_neg hsum, if_neg (not_or.mpr ⟨hn, hsum⟩), Option.bind_none]

theorem currentInRange_applyElapsedSeconds (rtc : Huc3RtcPersistentState) {n : Nat} (hn : n ≠ 0) :
    (rtc.applyElapsedSeconds n).CurrentInRange := by
  rw [applyElapsedSeconds, if_neg hn]
  unfold addMinutes
  dsimp only
  split
  · exact ⟨ofNat_lt (Nat.mod_lt _ (by decide)) (by decide),
      ofNat_lt (Nat.mod_lt _ (by decide)) (by decide),
      ofNat_lt (Nat.mod_lt _ (by decide)) (by decide)⟩
  · exact ⟨ofNat_lt (Nat.mod_lt _ (by decide)) (by decide),
      ofNat_lt (Nat.div_lt_of_lt_mul (Nat.mod_lt _ (by decide))) (by decide),
      ofNat_lt (Nat.mod_lt _ (by decide)) (by decide)⟩

end Huc3RtcPersistentState

/-! ## Catching up -/

/-- The advance that a load applies overflows nowhere and leaves the registers in their ranges
exactly when the sum of the seconds is a `u64`: for MBC3 the total at the first canonical tick
and what remains from there, for HuC-3 the seconds of the minute and all that elapsed.  A clock
that is not advanced, because it is halted or no second has passed, stays as it was saved, and
the registers of HuC-3's event stay so in any case. -/
theorem catchUp_staysInRange (savedAt now : BitVec 64) :
    (∀ rtc : Mbc3RtcPersistentState,
      (∃ advanced,
        rtc.applyElapsedSecondsChecked (now.toNat - savedAt.toNat) = some advanced ∧
          advanced.Fits) ↔
      if rtc.halt = true ∨ now.toNat - savedAt.toNat = 0 then rtc.Fits
      else rtc.masked.SumFits (now.toNat - savedAt.toNat)) ∧
    (∀ rtc : Huc3RtcPersistentState,
      (∃ advanced,
        rtc.applyElapsedSecondsChecked (now.toNat - savedAt.toNat) = some advanced ∧
          advanced.CurrentInRange) ↔
      if now.toNat - savedAt.toNat = 0 then rtc.CurrentInRange
      else rtc.currentSubminuteSeconds.toNat % 60 + (now.toNat - savedAt.toNat) < 2 ^ 64) := by
  refine ⟨fun rtc => ?_, fun rtc => ?_⟩
  · generalize now.toNat - savedAt.toNat = n
    by_cases hstill : rtc.halt = true ∨ n = 0
    · have hsame : rtc.applyElapsedSecondsChecked n = some rtc := by
        rw [Mbc3RtcPersistentState.applyElapsedSecondsChecked, if_pos (by simpa using hstill)]
      rw [if_pos hstill, hsame]
      constructor
      · rintro ⟨advanced, hadvanced, hfits⟩
        cases hadvanced
        exact hfits
      · intro hfits
        exact ⟨rtc, rfl, hfits⟩
    · obtain ⟨hrunning, hn⟩ := not_or.mp hstill
      rw [Bool.not_eq_true] at hrunning
      rw [if_neg hstill]
      constructor
      · rintro ⟨advanced, hadvanced, -⟩
        by_contra hoverflow
        rw [Mbc3RtcPersistentState.checked_of_not_sumFits hrunning hoverflow] at hadvanced
        cases hadvanced
      · intro hsum
        exact ⟨_, (Mbc3RtcPersistentState.advance_of_sumFits hrunning hn hsum).1,
          Mbc3RtcPersistentState.fits_iterate rtc.fits_masked n⟩
  · generalize now.toNat - savedAt.toNat = n
    rw [Huc3RtcPersistentState.applyElapsedSecondsChecked_eq]
    by_cases hn : n = 0
    · subst hn
      rw [if_pos (.inl rfl), if_pos rfl]
      have hsame : rtc.applyElapsedSeconds 0 = rtc := by
        rw [Huc3RtcPersistentState.applyElapsedSeconds, if_pos rfl]
      rw [hsame]
      constructor
      · rintro ⟨advanced, hadvanced, hrange⟩
        cases hadvanced
        exact hrange
      · intro hrange
        exact ⟨rtc, rfl, hrange⟩
    · rw [if_neg hn]
      by_cases hsum : rtc.currentSubminuteSeconds.toNat % 60 + n < 2 ^ 64
      · rw [if_pos (.inr hsum)]
        exact ⟨fun _ => hsum, fun _ =>
          ⟨_, rfl, Huc3RtcPersistentState.currentInRange_applyElapsedSeconds rtc hn⟩⟩
      · rw [if_neg (not_or.mpr ⟨hn, hsum⟩)]
        constructor
        · rintro ⟨advanced, hadvanced, -⟩
          cases hadvanced
        · intro h
          exact absurd h hsum

def oneSecondPastZero : Mbc3RtcPersistentState :=
  { seconds := 1, minutes := 0, hours := 0, dayCounter := 0, halt := false, carry := false }

/-- A time stamp of zero, read at the last second of a `u64`. -/
theorem catchUp_overflows :
    ¬ ∃ advanced, oneSecondPastZero.applyElapsedSecondsChecked
        ((0xFFFFFFFFFFFFFFFF : BitVec 64).toNat - (0 : BitVec 64).toNat) = some advanced ∧
      advanced.Fits := by
  have hoverflow : ¬ oneSecondPastZero.masked.SumFits (2 ^ 64 - 1) := by
    intro hsum
    have hfirst := hsum 0 (by decide) ⟨by decide, fun j hj => absurd hj (Nat.not_lt_zero j)⟩
    rw [Function.iterate_zero_apply] at hfirst
    exact absurd hfirst (by decide)
  rintro ⟨advanced, hadvanced, -⟩
  rw [show (0xFFFFFFFFFFFFFFFF : BitVec 64).toNat - (0 : BitVec 64).toNat = 2 ^ 64 - 1 by decide,
    Mbc3RtcPersistentState.checked_of_not_sumFits rfl hoverflow] at hadvanced
  cases hadvanced

end GbCycle
