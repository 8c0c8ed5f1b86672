import GbCycle.Cartridge.Mbc3

/-!
# The crystal of MBC3

`advanceRtcClockTicks` adds ticks to the ones counted since the last whole second and advances
the clock by the seconds they make.  The count stays below a second in every run.  Two advances
are one by the sum of their ticks as long as this sum, with the ticks counted, is a `u64`; where
it is not, the addition overflows and seconds are lost.
-/

namespace GbCycle

namespace Mbc3RtcPersistentState

/-- Whatever the registers hold: the first advance that is not empty masks them. -/
theorem applyElapsedSeconds_append (rtc : Mbc3RtcState) {a b : Nat}
    (hfits : maxTotalSeconds + (a + b) < 2 ^ 64) :
    (rtc.applyElapsedSeconds a).applyElapsedSeconds b = rtc.applyElapsedSeconds (a + b) := by
  have hzero (rtc : Mbc3RtcState) : rtc.applyElapsedSeconds 0 = rtc := by
    rw [applyElapsedSeconds, if_pos (by simp)]
  by_cases hhalt : rtc.halt = true
  · rw [applyElapsedSeconds_halted hhalt, applyElapsedSeconds_halted hhalt,
      applyElapsedSeconds_halted hhalt]
  · rw [Bool.not_eq_true] at hhalt
    by_cases ha : a = 0
    · rw [ha, hzero, Nat.zero_add]
    by_cases hb : b = 0
    · rw [hb, hzero, Nat.add_zero]
    have hmasked := rtc.fits_masked
    have hclock : (tickOneSecond^[a] rtc.masked).Fits := fits_iterate hmasked a
    have hrunning : (tickOneSecond^[a] rtc.masked).halt = false := by
      rw [halt_iterate]
      exact hhalt
    rw [(advance_of_sumFits hhalt ha (sumFits_of_lt hmasked (by omega))).2,
      (advance_of_sumFits hrunning hb (sumFits_of_lt (fits_masked _) (by omega))).2,
      (advance_of_sumFits hhalt (by omega) (sumFits_of_lt hmasked hfits)).2,
      masked_eq_of_fits hclock, ← Function.iterate_add_apply, Nat.add_comm]

end Mbc3RtcPersistentState

namespace Mbc3Cartridge

/-! ## Runs -/

inductive Mbc3Op where
  | writeRom (address : U16) (value : U8)
  | writeRam (address : U16) (value : U8)
  | readRamTimed (address : U16) (tCycle : Nat)
  | writeRamTimed (address : U16) (value : U8) (tCycle : Nat)
  | advanceRtcSeconds (seconds : BitVec 64)
  | advanceRtcClockTicks (ticks : BitVec 64)
  | restorePersistentState (state : PersistentCartState)

def step (c : Mbc3Cartridge) : Mbc3Op → Mbc3Cartridge
  | .writeRom address value => c.writeRom address value
  | .writeRam address value => c.writeRam address value
  | .readRamTimed address tCycle => (c.readRamTimed address tCycle).2
  | .writeRamTimed address value tCycle => c.writeRamTimed address value tCycle
  | .advanceRtcSeconds seconds => c.advanceRtcSeconds seconds.toNat
  | .advanceRtcClockTicks ticks => c.advanceRtcClockTicks ticks
  | .restorePersistentState state => (c.restorePersistentState state).2

def run (ops : List Mbc3Op) (c : Mbc3Cartridge) : Mbc3Cartridge := ops.foldl step c

/-- Less than a second's ticks are counted. -/
def SubsecondInRange (c : Mbc3Cartridge) : Prop :=
  c.rtcSubsecondTicks.toNat < mbc3RtcClockTicksPerSecond

variable {c : Mbc3Cartridge}

theorem SubsecondInRange.of_eq {c' : Mbc3Cartridge} (h : c.SubsecondInRange)
    (hsame : c'.rtcSubsecondTicks = c.rtcSubsecondTicks ∨ c'.rtcSubsecondTicks = 0) :
    c'.SubsecondInRange := by
  rcases hsame with hsame | hsame
  · rw [SubsecondInRange, hsame]
    exact h
  · rw [SubsecondInRange, hsame]
    decide

theorem SubsecondInRange.writeRom (h : c.SubsecondInRange) (address : U16) (value : U8) :
    (c.writeRom address value).SubsecondInRange := by
  refine h.of_eq (.inl ?_)
  unfold Mbc3Cartridge.writeRom latchRtcIfNeeded
  split_ifs <;> rfl

theorem SubsecondInRange.writeRamNoting (h : c.SubsecondInRange)
    {note : Mbc3Cartridge → Mbc3Cartridge}
    (hnote : (note c).rtcSubsecondTicks = c.rtcSubsecondTicks) (address : U16) (value : U8) :
    (writeRamNoting note c address value).SubsecondInRange := by
  refine h.of_eq ?_
  unfold Mbc3Cartridge.writeRamNoting
  by_cases henabled : c.ramRtcEnabled = false
  · rw [if_pos henabled]
    exact .inl rfl
  · rw [if_neg henabled]
    cases c.ramOrRtcSelect with
    | ramBank rawBank => exact .inl rfl
    | reservedSelector raw => exact .inl rfl
    | rtcRegister register =>
        dsimp only
        by_cases hrtc : c.hasRtc = true
        · rw [if_pos hrtc, noteRtcRegisterWrite]
          split
          · exact .inr rfl
          · exact .inl hnote
        · rw [if_neg hrtc]
          exact .inl rfl

theorem subsecond_readRamTimed (c : Mbc3Cartridge) (address : U16) (tCycle : Nat) :
    (c.readRamTimed address tCycle).2.rtcSubsecondTicks = c.rtcSubsecondTicks := by
  unfold readRamTimed
  by_cases henabled : c.ramRtcEnabled = false
  · rw [if_pos henabled]
  · rw [if_neg henabled]
    cases c.ramOrRtcSelect with
    | ramBank rawBank => rfl
    | reservedSelector raw => rfl
    | rtcRegister register =>
        dsimp only
        split <;> rfl

theorem SubsecondInRange.restorePersistentState (h : c.SubsecondInRange)
    (state : PersistentCartState) : (c.restorePersistentState state).2.SubsecondInRange := by
  refine h.of_eq ?_
  unfold Mbc3Cartridge.restorePersistentState
  split
  · exact .inl rfl
  · split
    · exact .inl rfl
    · exact .inr rfl
  · split
    · exact .inl rfl
    · exact .inl rfl
  · exact .inr rfl
  · exact .inl rfl
  · exact .inl rfl
  · exact .inl rfl

theorem SubsecondInRange.advanceRtcClockTicks (h : c.SubsecondInRange) (ticks : BitVec 64) :
    (c.advanceRtcClockTicks ticks).SubsecondInRange := by
  unfold Mbc3Cartridge.advanceRtcClockTicks
  split
  · exact h
  · show (BitVec.ofNat 16 _).toNat < mbc3RtcClockTicksPerSecond
    rw [BitVec.toNat_ofNat]
    exact Nat.lt_of_le_of_lt (Nat.mod_le _ _) (Nat.mod_lt _ (by decide))

theorem SubsecondInRange.step (h : c.SubsecondInRange) (op : Mbc3Op) :
    (c.step op).SubsecondInRange := by
  cases op with
  | writeRom address value => exact h.writeRom address value
  | writeRam address value =>
      show (Mbc3Cartridge.writeRamNoting id c address value).SubsecondInRange
      exact h.writeRamNoting rfl address value
  | readRamTimed address tCycle => exact h.of_eq (.inl (subsecond_readRamTimed c address tCycle))
  | writeRamTimed address value tCycle =>
      show (Mbc3Cartridge.writeRamNoting (·.noteRtcAccessTiming tCycle) c address value).SubsecondInRange
      exact h.writeRamNoting rfl address value
  | advanceRtcSeconds seconds =>
      refine h.of_eq (.inl ?_)
      simp only [Mbc3Cartridge.step, Mbc3Cartridge.advanceRtcSeconds]
      split <;> rfl
  | advanceRtcClockTicks ticks => exact h.advanceRtcClockTicks ticks
  | restorePersistentState state => exact h.restorePersistentState state

theorem SubsecondInRange.run (h : c.SubsecondInRange) (ops : List Mbc3Op) :
    (c.run ops).SubsecondInRange := by
  induction ops generalizing c with
  | nil => exact h
  | cons op ops ih => exact ih (h.step op)

/-! ## Ticks -/

/-- Nothing counts in a cartridge without a clock or with a halted one. -/
def Still (c : Mbc3Cartridge) : Prop := c.hasRtc = false ∨ c.rtcLive.halt = true

theorem advanceRtcClockTicks_still (h : c.Still) (ticks : BitVec 64) :
    c.advanceRtcClockTicks ticks = c := by
  rw [advanceRtcClockTicks, if_pos]
  rcases h with h | h
  · rw [h]
    rfl
  · rw [h, Bool.or_true, Bool.true_or]

theorem advanceRtcClockTicks_zero (c : Mbc3Cartridge) : c.advanceRtcClockTicks 0 = c := by
  rw [advanceRtcClockTicks, if_pos]
  simp

/-- Ticks that the sum has room for are split into seconds and a rest. -/
theorem advanceRtcClockTicks_eq (h : ¬ c.Still) {ticks : BitVec 64} (hticks : ticks ≠ 0)
    (hsum : c.rtcSubsecondTicks.toNat + ticks.toNat < 2 ^ 64) :
    c.advanceRtcClockTicks ticks =
      { c with
        rtcSubsecondTicks := BitVec.ofNat 16 ((c.rtcSubsecondTicks.toNat + ticks.toNat) % 32768)
        rtcLive := c.rtcLive.applyElapsedSeconds
          ((c.rtcSubsecondTicks.toNat + ticks.toNat) / 32768) } := by
  rw [Still, not_or, Bool.not_eq_false, Bool.not_eq_true] at h
  have hticks' : ¬ ticks = 0#64 := hticks
  rw [advanceRtcClockTicks, if_neg (by simp [h.1, h.2, hticks']), Nat.mod_eq_of_lt hsum]
  rfl

theorem not_still_advance (h : ¬ c.Still) {ticks : BitVec 64}
    (hsum : c.rtcSubsecondTicks.toNat + ticks.toNat < 2 ^ 64) :
    ¬ (c.advanceRtcClockTicks ticks).Still := by
  by_cases hticks : ticks = 0
  · rw [hticks, advanceRtcClockTicks_zero]
    exact h
  · rw [advanceRtcClockTicks_eq h hticks hsum]
    rw [Still, not_or, Bool.not_eq_false, Bool.not_eq_true] at h ⊢
    refine ⟨h.1, ?_⟩
    by_cases hseconds : (c.rtcSubsecondTicks.toNat + ticks.toNat) / 32768 = 0
    · rw [hseconds, Mbc3RtcPersistentState.applyElapsedSeconds, if_pos (by simp)]
      exact h.2
    · rw [(Mbc3RtcPersistentState.advance_of_sumFits h.2 hseconds
        (Mbc3RtcPersistentState.sumFits_of_lt (Mbc3RtcPersistentState.fits_masked _)
          (by rw [Mbc3RtcPersistentState.maxTotalSeconds]; omega))).2,
        Mbc3RtcPersistentState.halt_iterate]
      exact h.2

theorem advanceRtcClockTicks_add (a b : BitVec 64)
    (hsum : c.rtcSubsecondTicks.toNat + a.toNat + b.toNat < 2 ^ 64) :
    (c.advanceRtcClockTicks a).advanceRtcClockTicks b = c.advanceRtcClockTicks (a + b) := by
  by_cases hstill : c.Still
  · rw [advanceRtcClockTicks_still hstill, advanceRtcClockTicks_still hstill,
      advanceRtcClockTicks_still hstill]
  by_cases ha : a = 0
  · rw [ha, advanceRtcClockTicks_zero]
    congr 1
    exact (BitVec.zero_add b).symm
  by_cases hb : b = 0
  · rw [hb, advanceRtcClockTicks_zero]
    congr 1
    exact (BitVec.add_zero a).symm
  have hadd : (a + b).toNat = a.toNat + b.toNat := by
    rw [BitVec.toNat_add, Nat.mod_eq_of_lt (by omega)]
  have hpos : a.toNat ≠ 0 := fun h => ha (BitVec.eq_of_toNat_eq h)
  have hne : a + b ≠ 0 := by
    intro h
    have hzero := congrArg BitVec.toNat h
    rw [hadd] at hzero
    exact hpos (Nat.eq_zero_of_add_eq_zero_right hzero)
  have hrest : (c.advanceRtcClockTicks a).rtcSubsecondTicks.toNat =
      (c.rtcSubsecondTicks.toNat + a.toNat) % 32768 := by
    rw [advanceRtcClockTicks_eq hstill ha (by omega)]
    show (BitVec.ofNat 16 _).toNat = _
    rw [BitVec.toNat_ofNat]
    omega
  have hseconds : (c.rtcSubsecondTicks.toNat + a.toNat) / 32768 +
      ((c.rtcSubsecondTicks.toNat + a.toNat) % 32768 + b.toNat) / 32768 =
      (c.rtcSubsecondTicks.toNat + (a.toNat + b.toNat)) / 32768 := by omega
  have hticks : ((c.rtcSubsecondTicks.toNat + a.toNat) % 32768 + b.toNat) % 32768 =
      (c.rtcSubsecondTicks.toNat + (a.toNat + b.toNat)) % 32768 := by omega
  rw [advanceRtcClockTicks_eq (not_still_advance hstill (by omega)) hb (by omega), hrest,
    advanceRtcClockTicks_eq hstill hne (by omega), advanceRtcClockTicks_eq hstill ha (by omega),
    hadd, hticks, ← hseconds]
  dsimp only
  rw [Mbc3RtcPersistentState.applyElapsedSeconds_append]
  rw [Mbc3RtcPersistentState.maxTotalSeconds]
  omega

/-- In every run the ticks counted are less than a second.  Ticks that fit with them in a `u64`
can be given in two parts, and move a running clock by as many one-second ticks as there are
whole seconds; a halted clock and its count stand still. -/
theorem clockTicks_compose (rom : List U8) (header : CartridgeHeader)
    (classification : CartridgeClassification) (variant : Mbc3Variant) (hasBattery hasRtc : Bool)
    (ramLen : Option Nat) (ops : List Mbc3Op) :
    let c := (powerOn rom header classification variant hasBattery hasRtc ramLen).run ops
    c.rtcSubsecondTicks.toNat < 32768 ∧
    (∀ a b : BitVec 64, c.rtcSubsecondTicks.toNat + a.toNat + b.toNat < 2 ^ 64 →
      (c.advanceRtcClockTicks a).advanceRtcClockTicks b = c.advanceRtcClockTicks (a + b)) ∧
    (¬ c.Still → ∀ ticks : BitVec 64, c.rtcSubsecondTicks.toNat + ticks.toNat < 2 ^ 64 →
      let seconds := (c.rtcSubsecondTicks.toNat + ticks.toNat) / 32768
      (c.advanceRtcClockTicks ticks).rtcLive = Mbc3RtcPersistentState.tickOneSecond^[seconds]
        (if seconds = 0 then c.rtcLive else c.rtcLive.masked)) ∧
    (c.rtcLive.halt = true → ∀ ticks, c.advanceRtcClockTicks ticks = c) := by
  intro c
  have hrange : c.SubsecondInRange := by
    refine SubsecondInRange.run ?_ ops
    show (0 : U16).toNat < mbc3RtcClockTicksPerSecond
    decide
  refine ⟨hrange, fun a b hsum => advanceRtcClockTicks_add a b hsum, fun hstill ticks hsum => ?_,
    fun hhalt ticks => advanceRtcClockTicks_still (.inr hhalt) ticks⟩
  intro seconds
  have hrunning : c.rtcLive.halt = false := Bool.eq_false_iff.mpr fun hhalt => hstill (.inr hhalt)
  have hlive : (c.advanceRtcClockTicks ticks).rtcLive = c.rtcLive.applyElapsedSeconds seconds := by
    by_cases hticks : ticks = 0
    · have hnone : seconds = 0 := by
        have hlt : c.rtcSubsecondTicks.toNat < 32768 := hrange
        show (c.rtcSubsecondTicks.toNat + ticks.toNat) / 32768 = 0
        rw [hticks]
        exact Nat.div_eq_of_lt hlt
      rw [hticks, advanceRtcClockTicks_zero, hnone, Mbc3RtcPersistentState.applyElapsedSeconds,
        if_pos (by simp)]
    · rw [advanceRtcClockTicks_eq hstill hticks hsum]
  rw [hlive]
  by_cases hseconds : seconds = 0
  · rw [if_pos hseconds, hseconds, Mbc3RtcPersistentState.applyElapsedSeconds, if_pos (by simp)]
    rfl
  · rw [if_neg hseconds]
    refine (Mbc3RtcPersistentState.advance_of_sumFits hrunning hseconds
      (Mbc3RtcPersistentState.sumFits_of_lt (Mbc3RtcPersistentState.fits_masked _) ?_)).2
    have hle : seconds ≤ (2 ^ 64) / 32768 := Nat.div_le_div_right (Nat.le_of_lt hsum)
    rw [Mbc3RtcPersistentState.maxTotalSeconds]
    omega

/-- A fresh cartridge with a clock and no RAM. -/
def clockCartridge : Mbc3Cartridge :=
  powerOn [] { nintendoLogo := [], titleBytes := [], title := [], cgbFlag := decodeCgbFlag 0x00
               cartridgeType := 0x0F, romSize := .decode 0x00, ramSize := .decode 0x00
               destinationCode := 0x00 }
    (.supported 0x0F "MBC3+TIMER+BATTERY" .mbc3) .standard true true none

/-- One tick short of a second, and one and a half seconds more in two parts. -/
theorem clockTicks_compose_parts :
    let c := clockCartridge.run [.advanceRtcClockTicks 32767]
    (c.advanceRtcClockTicks 1).advanceRtcClockTicks 49151 = c.advanceRtcClockTicks 49152 :=
  (clockTicks_compose _ _ _ _ _ _ _ [.advanceRtcClockTicks 32767]).2.1 1 49151 (by decide +kernel)

/-- From the same state a tick and the rest of a `u64` make seconds enough to set the day carry,
and their sum overflows to less than a second. -/
theorem clockTicks_overflow :
    let c := clockCartridge.run [.advanceRtcClockTicks 32767]
    (c.advanceRtcClockTicks 1).advanceRtcClockTicks 0xFFFFFFFFFFFFFFFE ≠
      c.advanceRtcClockTicks (1 + 0xFFFFFFFFFFFFFFFE) := by
  intro c h
  have hcarry := congrArg (fun c => c.rtcLive.carry) h
  have hset : ((c.advanceRtcClockTicks 1).advanceRtcClockTicks
      0xFFFFFFFFFFFFFFFE).rtcLive.carry = true := by
    decide +kernel
  have hclear : (c.advanceRtcClockTicks (1 + 0xFFFFFFFFFFFFFFFE)).rtcLive.carry = false := by
    decide +kernel
  rw [hset, hclear] at hcarry
  cases hcarry

end Mbc3Cartridge

end GbCycle
