import GbCycle.Timer
import GbCycle.Countdown

/-!
# What the timer counts, and when it interrupts

Between events the detector remembers the signal as it is, so an event counts when the signal falls
over it.  Each overflow ends in one interrupt or in one write that cancels it; left alone it is a
countdown, and with it the whole of a timer that nothing is written to.
-/

namespace GbCycle

/-- A write comes after the tick of its T-cycle. -/
def TimerEvent.origin : TimerEvent → TimerSignalChangeOrigin
  | .tick _ => .autonomousTick
  | _ => .mmioWrite

/-- The events that go through the edge detector. -/
def TimerEvent.movesSignal : TimerEvent → Bool
  | .writeTima _ | .writeTma _ => false
  | _ => true

namespace Timer

/-! ## One event -/

/-- The event ends an overflow: the tick on which the reload is due. -/
def reloads (t : Timer) : TimerEvent → Bool
  | .tick _ =>
      match t.overflowState with
      | .idle => false
      | .pending ticksUntilReload => ticksUntilReload ≤ 1
  | _ => false

/-- What the event starts from: the reload comes before the edge. -/
def heldTima (t : Timer) (event : TimerEvent) : U8 := if t.reloads event then t.tma else t.tima

def fallingEdge (t : Timer) (event : TimerEvent) : Bool :=
  t.currentTimerSignal && !(t.step event).1.currentTimerSignal

/-- A falling edge counts, unless an overflow is still pending. -/
def counts (t : Timer) (event : TimerEvent) : Bool :=
  t.fallingEdge event && (!t.overflowState.isPending || t.reloads event)

def overflows (t : Timer) (event : TimerEvent) : Bool :=
  t.counts event && t.heldTima event = 0xFF

/-- A write to `TIMA` in the pending window, which the T-cycle of a reload is not. -/
def cancels (t : Timer) : TimerEvent → Bool
  | .writeTima _ => t.overflowState.isPending && !t.reloadedThisTCycle
  | _ => false

theorem currentTimerSignal_congr {t t' : Timer} (hcounter : t.systemCounter = t'.systemCounter)
    (htac : t.tac = t'.tac) : t.currentTimerSignal = t'.currentTimerSignal := by
  unfold currentTimerSignal selectedCounterBitIsHigh
  rw [hcounter, htac]

/-- The edge detector only moves `TIMA` and the overflow. -/
theorem processTimerSignalEdge_fields (t : Timer) (previous current : Bool)
    (origin : TimerSignalChangeOrigin) :
    (t.processTimerSignalEdge previous current origin).systemCounter = t.systemCounter ∧
      (t.processTimerSignalEdge previous current origin).tac = t.tac ∧
      (t.processTimerSignalEdge previous current origin).tma = t.tma ∧
      (t.processTimerSignalEdge previous current origin).tima =
        t.tima + (if previous && !current && !t.overflowState.isPending then 1 else 0) ∧
      (t.processTimerSignalEdge previous current origin).overflowState =
        if previous && !current && !t.overflowState.isPending && t.tima = 0xFF then
          .pending origin.reloadDelay
        else t.overflowState := by
  unfold processTimerSignalEdge incrementTimaOnFallingEdge
  cases previous && !current
  · simp
  · cases hpending : t.overflowState.isPending
    · by_cases hlast : t.tima = 255#8
      · simp [hlast]
      · simp [hlast]
    · simp

/-- A write to the divider or to `TAC`, through the edge detector. -/
theorem applyTimerSignalChange_fields (t : Timer) (previous : Bool) :
    (t.applyTimerSignalChange previous .mmioWrite).currentTimerSignal = t.currentTimerSignal ∧
      (t.applyTimerSignalChange previous .mmioWrite).previousTimerSignal = t.currentTimerSignal ∧
      (t.applyTimerSignalChange previous .mmioWrite).tma = t.tma ∧
      (t.applyTimerSignalChange previous .mmioWrite).tima =
        t.tima +
          (if previous && !t.currentTimerSignal && !t.overflowState.isPending then 1 else 0) ∧
      (t.applyTimerSignalChange previous .mmioWrite).overflowState =
        if previous && !t.currentTimerSignal && !t.overflowState.isPending && t.tima = 0xFF then
          .pending 3
        else t.overflowState := by
  obtain ⟨hcounter, htac, htma, htima, hoverflow⟩ :=
    t.processTimerSignalEdge_fields previous t.currentTimerSignal .mmioWrite
  exact ⟨currentTimerSignal_congr hcounter htac, rfl, htma, htima, hoverflow⟩

/-- The overflow of a tick, before its edge. -/
def heldOverflow (t : Timer) : TimerEvent → TimerOverflowState
  | .tick _ =>
      match t.overflowState with
      | .idle => .idle
      | .pending ticksUntilReload =>
          if 1 < ticksUntilReload then .pending (ticksUntilReload - 1) else .idle
  | _ => t.overflowState

theorem advanceOverflowPipeline_fields (t : Timer) (speed : CgbSpeedMode) :
    t.advanceOverflowPipeline.2 = t.reloads (.tick speed) ∧
      t.advanceOverflowPipeline.1.systemCounter = t.systemCounter ∧
      t.advanceOverflowPipeline.1.tac = t.tac ∧
      t.advanceOverflowPipeline.1.tma = t.tma ∧
      t.advanceOverflowPipeline.1.tima = t.heldTima (.tick speed) ∧
      t.advanceOverflowPipeline.1.overflowState = t.heldOverflow (.tick speed) := by
  unfold advanceOverflowPipeline heldTima heldOverflow reloads
  cases hoverflow : t.overflowState with
  | idle => exact ⟨rfl, rfl, rfl, rfl, rfl, hoverflow⟩
  | pending n =>
      dsimp only
      by_cases hn : 1 < n
      · have hle : ¬ n ≤ 1 := by omega
        simp only [hn, hle, if_true, decide_false, Bool.false_eq_true, if_false, and_self]
      · have hle : n ≤ 1 := by omega
        simp only [hn, hle, if_true, decide_true, if_false, and_self]

/-- After the pipeline the overflow is pending where an edge does not count. -/
theorem heldOverflow_isPending (t : Timer) (event : TimerEvent) :
    (!(t.heldOverflow event).isPending) =
      (!t.overflowState.isPending || t.reloads event) := by
  unfold heldOverflow reloads
  cases event with
  | tick speed =>
      cases t.overflowState with
      | idle => rfl
      | pending n =>
          dsimp only
          by_cases hn : 1 < n
          · have hle : ¬ n ≤ 1 := by omega
            simp [hn, hle, TimerOverflowState.isPending]
          · have hle : n ≤ 1 := by omega
            simp [hn, hle, TimerOverflowState.isPending]
  | _ => simp

theorem tick_fields (t : Timer) (speed : CgbSpeedMode) :
    (t.step (.tick speed)).2 = t.reloads (.tick speed) ∧
      (t.step (.tick speed)).1.systemCounter = t.systemCounter + 1 ∧
      (t.step (.tick speed)).1.tac = t.tac ∧
      (t.step (.tick speed)).1.tma = t.tma ∧
      (t.step (.tick speed)).1.previousTimerSignal =
        (t.step (.tick speed)).1.currentTimerSignal ∧
      (t.step (.tick speed)).1.tima =
        t.heldTima (.tick speed) + (if t.counts (.tick speed) then 1 else 0) ∧
      (t.step (.tick speed)).1.overflowState =
        if t.overflows (.tick speed) then .pending 4 else t.heldOverflow (.tick speed) := by
  obtain ⟨hinterrupt, hcounter, htac, htma, htima, hoverflow⟩ :=
    ({ t with reloadedThisTCycle := false } : Timer).advanceOverflowPipeline_fields speed
  generalize hp : ({ t with reloadedThisTCycle := false } : Timer).advanceOverflowPipeline.1 = p
    at hcounter htac htma htima hoverflow
  generalize hq : ({ p with systemCounter :=
    p.systemCounter + speed.timerIncrementPerSchedulerTCycle } : Timer) = q
  have hstep : (t.step (.tick speed)).1 =
      { q.processTimerSignalEdge p.currentTimerSignal q.currentTimerSignal .autonomousTick with
        previousTimerSignal := q.currentTimerSignal } := by
    rw [← hq, ← hp]
    rfl
  obtain ⟨hcounter', htac', htma', htima', hoverflow'⟩ :=
    q.processTimerSignalEdge_fields p.currentTimerSignal q.currentTimerSignal .autonomousTick
  have hbefore : p.currentTimerSignal = t.currentTimerSignal :=
    currentTimerSignal_congr hcounter htac
  have hafter : (t.step (.tick speed)).1.currentTimerSignal = q.currentTimerSignal := by
    rw [hstep]
    exact currentTimerSignal_congr hcounter' htac'
  have hqOverflow : q.overflowState = t.heldOverflow (.tick speed) := by
    rw [← hq]
    exact hoverflow
  have hqTima : q.tima = t.heldTima (.tick speed) := by
    rw [← hq]
    exact htima
  have hcounts : (p.currentTimerSignal && !q.currentTimerSignal && !q.overflowState.isPending) =
      t.counts (.tick speed) := by
    rw [hqOverflow, heldOverflow_isPending, hbefore, ← hafter]
    rfl
  rw [hcounts, hqTima] at htima' hoverflow'
  refine ⟨hinterrupt, ?_, ?_, ?_, ?_, ?_, ?_⟩
  · rw [hstep]
    refine hcounter'.trans ?_
    rw [← hq]
    show p.systemCounter + _ = _
    rw [hcounter]
    cases speed <;> rfl
  · rw [hstep]
    refine htac'.trans ?_
    rw [← hq]
    exact htac
  · rw [hstep]
    refine htma'.trans ?_
    rw [← hq]
    exact htma
  · rw [hafter, hstep]
  · rw [hstep]
    exact htima'
  · rw [hstep]
    refine hoverflow'.trans ?_
    rw [hqOverflow]
    rfl

/-- An event moves `TIMA` by the edge that it makes, and the overflow by that. -/
theorem step_fields (t : Timer) {event : TimerEvent} (hmoves : event.movesSignal) :
    (t.step event).1.tma = t.tma ∧
      (t.step event).1.tima = t.heldTima event + (if t.counts event then 1 else 0) ∧
      (t.step event).1.overflowState =
        if t.overflows event then .pending event.origin.reloadDelay
        else t.heldOverflow event := by
  have hwrite : ∀ t' : Timer, t'.tima = t.tima → t'.overflowState = t.overflowState →
      t'.tma = t.tma → (t.step event).1 = t'.applyTimerSignalChange t.currentTimerSignal .mmioWrite →
      t.reloads event = false →
      (t.step event).1.tma = t.tma ∧
      (t.step event).1.tima = t.heldTima event + (if t.counts event then 1 else 0) ∧
      (t.step event).1.overflowState =
        if t.overflows event then .pending 3 else t.overflowState := by
    intro t' htima hoverflow htma hstep hreloads
    obtain ⟨hsignal, -, htma', htima', hoverflow'⟩ :=
      t'.applyTimerSignalChange_fields t.currentTimerSignal
    have hcounts : (t.currentTimerSignal && !t'.currentTimerSignal && !t'.overflowState.isPending) =
        t.counts event := by
      unfold counts fallingEdge
      rw [hstep, hsignal, hoverflow, hreloads, Bool.or_false]
    have hheld : t.heldTima event = t.tima := by
      unfold heldTima
      rw [hreloads, if_neg Bool.false_ne_true]
    unfold overflows
    rw [hcounts, htima] at htima' hoverflow'
    rw [hheld, hstep, htma', htima', hoverflow', htma, hoverflow]
    exact ⟨rfl, rfl, rfl⟩
  cases event with
  | tick speed =>
      obtain ⟨-, -, -, htma, -, htima, hoverflow⟩ := t.tick_fields speed
      exact ⟨htma, htima, hoverflow⟩
  | writeDiv speed =>
      exact hwrite { t with systemCounter := 0, apuFsOffset := 2 } rfl rfl rfl rfl rfl
  | stopResetDivider speed =>
      exact hwrite { t with systemCounter := 0, apuFsOffset := 0 } rfl rfl rfl rfl rfl
  | writeTac value =>
      exact hwrite { t with tac := value &&& timerControlMask } rfl rfl rfl rfl rfl
  | writeTima value => cases hmoves
  | writeTma value => cases hmoves

/-- Between events the detector remembers the signal as it is. -/
theorem previousTimerSignal_step {t : Timer} (h : t.previousTimerSignal = t.currentTimerSignal)
    (event : TimerEvent) :
    (t.step event).1.previousTimerSignal = (t.step event).1.currentTimerSignal := by
  have hwrite : ∀ t' : Timer,
      (t'.applyTimerSignalChange t.currentTimerSignal .mmioWrite).previousTimerSignal =
        (t'.applyTimerSignalChange t.currentTimerSignal .mmioWrite).currentTimerSignal := by
    intro t'
    obtain ⟨hcurrent, hprevious, -⟩ := t'.applyTimerSignalChange_fields t.currentTimerSignal
    rw [hcurrent, hprevious]
  cases event with
  | tick speed =>
      obtain ⟨-, -, -, -, hprevious, -⟩ := t.tick_fields speed
      exact hprevious
  | writeDiv speed => exact hwrite { t with systemCounter := 0, apuFsOffset := 2 }
  | stopResetDivider speed => exact hwrite { t with systemCounter := 0, apuFsOffset := 0 }
  | writeTac value => exact hwrite { t with tac := value &&& timerControlMask }
  | writeTima value =>
      show (t.writeTima value).previousTimerSignal = (t.writeTima value).currentTimerSignal
      unfold writeTima
      dsimp only
      split
      · exact h
      · split <;> exact h
  | writeTma value =>
      show (t.writeTma value).previousTimerSignal = (t.writeTma value).currentTimerSignal
      unfold writeTma
      dsimp only
      split <;> exact h

theorem Reachable.previousTimerSignal {t : Timer} (h : Reachable t) :
    t.previousTimerSignal = t.currentTimerSignal := by
  induction h with
  | new => rfl
  | startup s _ _ => rfl
  | handoff tCycles _ _ => rfl
  | event event _ ih => exact previousTimerSignal_step ih event

theorem Reachable.run {t : Timer} (h : Reachable t) (events : List TimerEvent) :
    Reachable (t.run events) := by
  induction events generalizing t with
  | nil => exact h
  | cons event events ih => exact ih (h.event event)

theorem writeTima_fields (t : Timer) (value : U8) :
    (t.step (.writeTima value)).1.tima = (if t.reloadedThisTCycle then t.tima else value) ∧
      (t.step (.writeTima value)).1.overflowState =
        if t.cancels (.writeTima value) then .idle else t.overflowState := by
  show (t.writeTima value).tima = _ ∧ (t.writeTima value).overflowState = _
  unfold writeTima cancels
  dsimp only
  cases hreloaded : t.reloadedThisTCycle with
  | true => simp
  | false =>
      cases hpending : t.overflowState.isPending with
      | true => simp
      | false => simp

theorem writeTma_fields (t : Timer) (value : U8) :
    (t.step (.writeTma value)).1.tima = (if t.reloadedThisTCycle then value else t.tima) ∧
      (t.step (.writeTma value)).1.overflowState = t.overflowState := by
  show (t.writeTma value).tima = _ ∧ (t.writeTma value).overflowState = _
  unfold writeTma
  dsimp only
  split
  · exact ⟨rfl, rfl⟩
  · exact ⟨rfl, rfl⟩

theorem step_interrupt (t : Timer) (event : TimerEvent) : (t.step event).2 = t.reloads event := by
  cases event with
  | tick speed => exact (t.tick_fields speed).1
  | _ => rfl

/-- In how many places of a run something happens. -/
def tally (happens : Timer → TimerEvent → Bool) (t : Timer) : List TimerEvent → Nat
  | [] => 0
  | event :: events => (happens t event).toNat + tally happens (t.step event).1 events

/-- The T-cycles of a run. -/
def ticks (events : List TimerEvent) : Nat := events.countP fun
  | .tick _ => true
  | _ => false

theorem pending_step {t : Timer} {n : Nat} (hpending : t.overflowState = .pending n)
    {event : TimerEvent} (hcancels : t.cancels event = false) (hticks : ticks [event] < n) :
    (t.step event).1.overflowState = .pending (n - ticks [event]) ∧ (t.step event).2 = false := by
  have hreloads : t.reloads event = false := by
    unfold reloads
    cases event with
    | tick speed =>
        have hn : ¬ n ≤ 1 := by
          have : ticks [TimerEvent.tick speed] = 1 := rfl
          omega
        rw [hpending]
        exact decide_eq_false hn
    | _ => rfl
  refine ⟨?_, by rw [t.step_interrupt, hreloads]⟩
  cases hmoves : event.movesSignal with
  | true =>
      have hoverflows : t.overflows event = false := by
        unfold overflows counts
        rw [hreloads, hpending]
        simp [TimerOverflowState.isPending]
      rw [(t.step_fields hmoves).2.2, hoverflows, if_neg Bool.false_ne_true]
      cases event with
      | tick speed =>
          have hn : 1 < n := hticks
          show t.heldOverflow (.tick speed) = .pending (n - 1)
          unfold heldOverflow
          rw [hpending]
          exact if_pos hn
      | writeTima value => cases hmoves
      | writeTma value => cases hmoves
      | writeDiv speed => exact hpending
      | stopResetDivider speed => exact hpending
      | writeTac value => exact hpending
  | false =>
      cases event with
      | writeTima value =>
          rw [(t.writeTima_fields value).2, hcancels, if_neg Bool.false_ne_true]
          exact hpending
      | writeTma value =>
          rw [(t.writeTma_fields value).2]
          exact hpending
      | tick speed => cases hmoves
      | writeDiv speed => cases hmoves
      | stopResetDivider speed => cases hmoves
      | writeTac value => cases hmoves

/-- An overflow that no write cancels stays pending, with no interrupt, until its ticks are over. -/
theorem pending_run {t : Timer} {n : Nat} (hpending : t.overflowState = .pending n)
    {events : List TimerEvent} (hcancels : t.tally cancels events = 0) (hticks : ticks events < n) :
    (t.run events).overflowState = .pending (n - ticks events) ∧
      t.tally (fun t event => (t.step event).2) events = 0 := by
  induction events generalizing t n with
  | nil => exact ⟨hpending, rfl⟩
  | cons event events ih =>
      have hsplit : ticks (event :: events) = ticks [event] + ticks events := by
        unfold ticks
        rw [List.countP_cons, List.countP_singleton]
        omega
      unfold tally at hcancels
      have hkept : t.cancels event = false := by
        cases h : t.cancels event with
        | true =>
            rw [h] at hcancels
            exact absurd hcancels (by simp)
        | false => rfl
      obtain ⟨hstep, hquiet⟩ := pending_step hpending hkept (by omega)
      obtain ⟨hrun, hquiets⟩ := ih hstep (by omega) (by omega)
      refine ⟨?_, ?_⟩
      · rw [hsplit, ← Nat.sub_sub]
        exact hrun
      · unfold tally
        rw [hquiet, hquiets]
        rfl

/-! ## Left alone -/

/-- The T-cycles between two falling edges of the selected bit. -/
def timerPeriod (tac : U8) : Nat := 2 ^ (selectedTimerBit tac + 1)

/-- How far the counter is between them. -/
def phase (t : Timer) : Nat := t.systemCounter.toNat % timerPeriod t.tac

theorem selectedTimerBit_cases (tac : U8) :
    selectedTimerBit tac = 9 ∨ selectedTimerBit tac = 3 ∨ selectedTimerBit tac = 5 ∨
      selectedTimerBit tac = 7 := by
  unfold selectedTimerBit
  split
  · exact .inl rfl
  · exact .inr (.inl rfl)
  · exact .inr (.inr (.inl rfl))
  · exact .inr (.inr (.inr rfl))

theorem sixteen_le_timerPeriod (tac : U8) : 16 ≤ timerPeriod tac := by
  unfold timerPeriod
  rcases selectedTimerBit_cases tac with h | h | h | h <;> rw [h] <;> decide

theorem phase_lt (t : Timer) : t.phase < timerPeriod t.tac :=
  Nat.mod_lt _ (Nat.lt_of_lt_of_le (by decide) (sixteen_le_timerPeriod t.tac))

/-- The selected bit falls where the phase comes round. -/
theorem bit_falls_iff (counter : U16) (tac : U8) :
    (counter.getLsbD (selectedTimerBit tac) && !(counter + 1).getLsbD (selectedTimerBit tac)) =
        decide (counter.toNat % timerPeriod tac + 1 = timerPeriod tac) ∧
      (counter + 1).toNat % timerPeriod tac =
        if counter.toNat % timerPeriod tac + 1 = timerPeriod tac then 0
        else counter.toNat % timerPeriod tac + 1 := by
  have hcounter := counter.isLt
  have hnext : (counter + 1).toNat = (counter.toNat + 1) % 65536 := by
    rw [BitVec.toNat_add]
    rfl
  unfold timerPeriod
  rw [← BitVec.testBit_toNat, ← BitVec.testBit_toNat, Nat.testBit_eq_decide_div_mod_eq,
    Nat.testBit_eq_decide_div_mod_eq, hnext]
  generalize counter.toNat = n at hcounter
  rw [← decide_not, ← Bool.decide_and, decide_eq_decide]
  rcases selectedTimerBit_cases tac with h | h | h | h <;> rw [h] <;>
    constructor <;> first | omega | (split <;> omega)

/-- The signal of an enabled timer is the selected bit. -/
theorem fallingEdge_tick {t : Timer} (henabled : t.tac &&& timerEnableMask ≠ 0)
    (speed : CgbSpeedMode) :
    t.fallingEdge (.tick speed) = decide (t.phase + 1 = timerPeriod t.tac) ∧
      (t.step (.tick speed)).1.phase =
        if t.phase + 1 = timerPeriod t.tac then 0 else t.phase + 1 := by
  obtain ⟨-, hcounter, htac, -⟩ := t.tick_fields speed
  obtain ⟨hfalls, hphase⟩ := bit_falls_iff t.systemCounter t.tac
  unfold fallingEdge phase currentTimerSignal selectedCounterBitIsHigh
  rw [hcounter, htac, decide_eq_true henabled, Bool.true_and, Bool.true_and]
  exact ⟨hfalls, hphase⟩

/-- An enabled timer that is left alone: what is pending began at a falling edge. -/
structure Free (tma tac : U8) (t : Timer) : Prop where
  enabled : t.tac &&& timerEnableMask ≠ 0
  tma : t.tma = tma
  tac : t.tac = tac
  pending : ∀ n, t.overflowState = .pending n → 0 < n ∧ t.phase + n = 4

/-- The ticks up to and with the next interrupt. -/
def ticksToInterrupt (t : Timer) : Nat :=
  match t.overflowState with
  | .idle => (256 - t.tima.toNat) * timerPeriod t.tac + 4 - t.phase
  | .pending ticksUntilReload => ticksUntilReload

theorem ticksToInterrupt_idle {t : Timer} (h : t.overflowState = .idle) :
    t.ticksToInterrupt = (256 - t.tima.toNat) * timerPeriod t.tac + 4 - t.phase := by
  unfold ticksToInterrupt
  rw [h]

theorem ticksToInterrupt_pending {t : Timer} {n : Nat} (h : t.overflowState = .pending n) :
    t.ticksToInterrupt = n := by
  unfold ticksToInterrupt
  rw [h]

/-- Not less than a period remains of `TIMA`. -/
theorem timerPeriod_le_remaining (tima tac : U8) :
    timerPeriod tac ≤ (256 - tima.toNat) * timerPeriod tac :=
  Nat.le_mul_of_pos_left _ (by have := tima.isLt; omega)

/-- Without a pending overflow a tick counts where the phase comes round. -/
theorem tick_idle {t : Timer} (henabled : t.tac &&& timerEnableMask ≠ 0)
    (hidle : t.overflowState = .idle) (speed : CgbSpeedMode) :
    (t.step (.tick speed)).2 = false ∧
      (t.step (.tick speed)).1.tima =
        t.tima + (if t.phase + 1 = timerPeriod t.tac then 1 else 0) ∧
      (t.step (.tick speed)).1.overflowState =
        if t.phase + 1 = timerPeriod t.tac ∧ t.tima = 0xFF then .pending 4 else .idle := by
  obtain ⟨hinterrupt, -, -, -, -, htima, hoverflow⟩ := t.tick_fields speed
  have hreloads : t.reloads (.tick speed) = false := by
    unfold reloads
    rw [hidle]
  have hheld : t.heldTima (.tick speed) = t.tima := by
    unfold heldTima
    rw [hreloads, if_neg Bool.false_ne_true]
  have hheldOverflow : t.heldOverflow (.tick speed) = .idle := by
    unfold heldOverflow
    rw [hidle]
  have hcounts : t.counts (.tick speed) = decide (t.phase + 1 = timerPeriod t.tac) := by
    unfold counts
    rw [(fallingEdge_tick henabled speed).1, hidle]
    exact Bool.and_true _
  unfold overflows at hoverflow
  rw [hcounts, hheld, hheldOverflow] at hoverflow
  rw [hcounts, hheld] at htima
  refine ⟨hinterrupt.trans hreloads, ?_, ?_⟩
  · rw [htima]
    by_cases hround : t.phase + 1 = timerPeriod t.tac
    · rw [if_pos hround, decide_eq_true hround, if_pos rfl]
    · rw [if_neg hround, decide_eq_false hround, if_neg Bool.false_ne_true]
  · rw [hoverflow, ← Bool.decide_and]
    simp only [decide_eq_true_eq]

/-- While an overflow is pending, and its edge is over, a tick brings it closer to the reload. -/
theorem tick_pending {t : Timer} {n : Nat} (henabled : t.tac &&& timerEnableMask ≠ 0)
    (hpending : t.overflowState = .pending n) (hphase : t.phase + 1 ≠ timerPeriod t.tac)
    (speed : CgbSpeedMode) :
    (t.step (.tick speed)).2 = decide (n ≤ 1) ∧
      (t.step (.tick speed)).1.tima = (if n ≤ 1 then t.tma else t.tima) ∧
      (t.step (.tick speed)).1.overflowState = if 1 < n then .pending (n - 1) else .idle := by
  obtain ⟨hinterrupt, -, -, -, -, htima, hoverflow⟩ := t.tick_fields speed
  have hreloads : t.reloads (.tick speed) = decide (n ≤ 1) := by
    unfold reloads
    rw [hpending]
  have hcounts : t.counts (.tick speed) = false := by
    unfold counts
    rw [(fallingEdge_tick henabled speed).1, decide_eq_false hphase, Bool.false_and]
  refine ⟨hinterrupt.trans hreloads, ?_, ?_⟩
  · rw [htima, hcounts, if_neg Bool.false_ne_true]
    refine (BitVec.add_zero _).trans ?_
    unfold heldTima
    rw [hreloads]
    simp only [decide_eq_true_eq]
  · rw [hoverflow]
    unfold overflows heldOverflow
    rw [hcounts, Bool.false_and, if_neg Bool.false_ne_true, hpending]

theorem Free.step {tma tac : U8} {t : Timer} (h : t.Free tma tac) (speed : CgbSpeedMode) :
    (t.step (.tick speed)).1.Free tma tac ∧
      ((t.step (.tick speed)).2 = true ↔ t.ticksToInterrupt = 1) ∧
      (t.step (.tick speed)).1.ticksToInterrupt =
        if t.ticksToInterrupt = 1 then (256 - tma.toNat) * timerPeriod tac
        else t.ticksToInterrupt - 1 := by
  obtain ⟨-, -, htac, htma, -, -, -⟩ := t.tick_fields speed
  obtain ⟨-, hphase⟩ := fallingEdge_tick h.enabled speed
  have hperiod := sixteen_le_timerPeriod t.tac
  have hlt := t.phase_lt
  have henabled : (t.step (.tick speed)).1.tac &&& timerEnableMask ≠ 0 := by
    rw [htac]
    exact h.enabled
  cases hoverflow : t.overflowState with
  | idle =>
      obtain ⟨hquiet, htima, hnext⟩ := tick_idle h.enabled hoverflow speed
      have hremaining := timerPeriod_le_remaining t.tima t.tac
      have hleft := ticksToInterrupt_idle hoverflow
      have hnotDue : t.ticksToInterrupt ≠ 1 := by omega
      rw [if_neg hnotDue, hquiet]
      by_cases hround : t.phase + 1 = timerPeriod t.tac
      · rw [if_pos hround] at htima hphase
        by_cases hlast : t.tima = 0xFF
        · -- `TIMA` overflows: the reload is four ticks away.
          rw [if_pos ⟨hround, hlast⟩] at hnext
          refine ⟨⟨henabled, htma.trans h.tma, htac.trans h.tac, ?_⟩, by simp [hnotDue], ?_⟩
          · intro m hm
            rw [hnext] at hm
            obtain rfl : 4 = m := TimerOverflowState.pending.inj hm
            omega
          · rw [hlast] at hleft
            have hone : (256 - (0xFF : U8).toNat) * timerPeriod t.tac = timerPeriod t.tac :=
              Nat.one_mul _
            rw [ticksToInterrupt_pending hnext]
            omega
        · -- `TIMA` counts, and one period less is to come.
          rw [if_neg fun hboth => hlast hboth.2] at hnext
          refine ⟨⟨henabled, htma.trans h.tma, htac.trans h.tac, ?_⟩, by simp [hnotDue], ?_⟩
          · intro m hm
            rw [hnext] at hm
            cases hm
          · have htimaLt : t.tima.toNat < 255 := by
              have hbyte := t.tima.isLt
              have hne : t.tima.toNat ≠ 255 := fun heq => hlast (BitVec.eq_of_toNat_eq heq)
              omega
            have hsucc : (t.tima + 1).toNat = t.tima.toNat + 1 := by
              rw [BitVec.toNat_add]
              exact Nat.mod_eq_of_lt (by show t.tima.toNat + 1 < 256; omega)
            have hfewer : (256 - t.tima.toNat) * timerPeriod t.tac =
                (256 - (t.tima.toNat + 1)) * timerPeriod t.tac + timerPeriod t.tac := by
              rw [← Nat.succ_mul]
              congr 1
              omega
            rw [ticksToInterrupt_idle hnext, htima, hsucc, htac, hphase]
            omega
      · rw [if_neg hround] at htima hphase
        rw [if_neg fun hboth => hround hboth.1] at hnext
        refine ⟨⟨henabled, htma.trans h.tma, htac.trans h.tac, ?_⟩, by simp [hnotDue], ?_⟩
        · intro m hm
          rw [hnext] at hm
          cases hm
        · have hsame : (t.tima + 0).toNat = t.tima.toNat := congrArg BitVec.toNat (BitVec.add_zero _)
          rw [ticksToInterrupt_idle hnext, htima, hsame, htac, hphase]
          omega
  | pending n =>
      obtain ⟨hpositive, hsum⟩ := h.pending n hoverflow
      have hround : t.phase + 1 ≠ timerPeriod t.tac := by omega
      obtain ⟨hinterrupt, htima, hnext⟩ := tick_pending h.enabled hoverflow hround speed
      rw [if_neg hround] at hphase
      rw [ticksToInterrupt_pending hoverflow, hinterrupt]
      by_cases hlast : n = 1
      · -- The reload: the whole of `TIMA` is to come.
        subst hlast
        rw [if_neg (by decide)] at hnext
        rw [if_pos (Nat.le_refl 1)] at htima
        have hremaining := timerPeriod_le_remaining tma tac
        refine ⟨⟨henabled, htma.trans h.tma, htac.trans h.tac, ?_⟩, by simp, ?_⟩
        · intro m hm
          rw [hnext] at hm
          cases hm
        · rw [ticksToInterrupt_idle hnext, if_pos rfl, htima, htac, h.tma, h.tac, hphase]
          omega
      · have hmore : 1 < n := by omega
        rw [if_pos hmore] at hnext
        refine ⟨⟨henabled, htma.trans h.tma, htac.trans h.tac, ?_⟩, ?_, ?_⟩
        · intro m hm
          rw [hnext] at hm
          obtain rfl : n - 1 = m := TimerOverflowState.pending.inj hm
          omega
        · rw [decide_eq_true_eq]
          omega
        · rw [ticksToInterrupt_pending hnext, if_neg hlast]

theorem Free.ticksToInterrupt_pos {tma tac : U8} {t : Timer} (h : t.Free tma tac) :
    0 < t.ticksToInterrupt := by
  cases hoverflow : t.overflowState with
  | idle =>
      have hlt := t.phase_lt
      have hremaining := timerPeriod_le_remaining t.tima t.tac
      rw [ticksToInterrupt_idle hoverflow]
      omega
  | pending n =>
      rw [ticksToInterrupt_pending hoverflow]
      exact (h.pending n hoverflow).1

theorem countdown (tma tac : U8) (speed : CgbSpeedMode) :
    Countdown (fun t : Timer => (t.step (.tick speed)).1) (Free tma tac)
      (fun t => (t.step (.tick speed)).2 = true) ticksToInterrupt
      ((256 - tma.toNat) * timerPeriod tac) := by
  refine ⟨fun h => (h.step speed).1, fun h => h.ticksToInterrupt_pos,
    fun h => (h.step speed).2.1, ?_, ?_⟩
  · intro t h hleft
    have hstep := (h.step speed).2.2
    have hpositive := h.ticksToInterrupt_pos
    rw [if_neg hleft] at hstep
    omega
  · intro t h hleft
    have hstep := (h.step speed).2.2
    rw [if_pos hleft] at hstep
    exact hstep

end Timer

end GbCycle
