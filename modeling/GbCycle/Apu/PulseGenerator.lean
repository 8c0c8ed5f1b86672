import GbCycle.Apu.Events
import GbCycle.Countdown

/-!
# The generator of a pulse channel

What decides when the duty of a pulse channel moves is a small part of its state.  Here is that
part with the tick it makes; the channels refine it, and it is a countdown.
-/

namespace GbCycle

structure PulseGenerator where
  firstTriggerPending : Bool
  delay : Nat
  stopped : Bool
  timer : Nat
  dutyStep : U8
  justSampled : Bool
  window : Nat

namespace PulseGenerator

/-- The timer counts. -/
structure Running (g : PulseGenerator) : Prop where
  triggered : g.firstTriggerPending = false
  delayed : g.delay = 0
  enabled : g.stopped = false
  positive : 0 < g.timer

def closeWindow (g : PulseGenerator) : PulseGenerator :=
  if g.justSampled then { g with window := g.window - 1, justSampled := g.window - 1 ≠ 0 } else g

def advance (g : PulseGenerator) (periodValue : U16) : PulseGenerator :=
  { g with
    timer := pulseTimerReload periodValue
    dutyStep := (g.dutyStep + 1) &&& pulseDutyStepMask
    justSampled := true
    window := 3 }

def tick (g : PulseGenerator) (periodValue : U16) (clocked : Bool) : PulseGenerator :=
  let g := if clocked then g.closeWindow else g
  if g.firstTriggerPending then g
  else if 0 < g.delay then { g with delay := g.delay - 1 }
  else if !clocked ∨ g.stopped then g
  else if g.timer - 1 = 0 then g.advance periodValue
  else { g with timer := g.timer - 1 }

end PulseGenerator

def PulseChannelState.generator (p : PulseChannelState) : PulseGenerator :=
  { firstTriggerPending := p.firstTriggerAfterPowerOnPending
    delay := p.triggerDelayTCycles
    stopped := p.timerStoppedByDacDisable
    timer := p.periodTimer
    dutyStep := p.dutyStep
    justSampled := p.justSampled
    window := p.justSampledReloadClocksRemaining }

theorem PulseChannelState.closeSampleWindow_generator (p : PulseChannelState) :
    p.closeSampleWindow.generator = p.generator.closeWindow := by
  unfold closeSampleWindow PulseGenerator.closeWindow
  by_cases h : p.justSampled = true
  · rw [if_pos h, if_pos (show p.generator.justSampled = true from h)]
    rfl
  · rw [if_neg h, if_neg (show ¬ p.generator.justSampled = true from h)]

/-- The channel's timer does to the generator what the generator does. -/
theorem PulseChannelState.tick_generator (p : PulseChannelState) (periodValue : U16)
    (clocked : Bool) :
    (p.tickFastTimerWithClockGate periodValue clocked).generator =
      p.generator.tick periodValue clocked := by
  have hwindow : (if clocked then p.closeSampleWindow else p).generator =
      if clocked then p.generator.closeWindow else p.generator := by
    cases clocked with
    | false => rfl
    | true => exact p.closeSampleWindow_generator
  unfold tickFastTimerWithClockGate PulseGenerator.tick
  rw [← hwindow]
  generalize (if clocked then p.closeSampleWindow else p) = q
  dsimp only [generator]
  by_cases hpending : q.firstTriggerAfterPowerOnPending = true
  · simp only [hpending, if_true]
  · by_cases hdelay : 0 < q.triggerDelayTCycles
    · simp only [hpending, hdelay, if_true, Bool.false_eq_true, if_false]
    · cases clocked with
      | false => simp [hpending, hdelay]
      | true =>
          by_cases hstopped : q.timerStoppedByDacDisable = true
          · simp [hpending, hdelay, hstopped]
          · by_cases hlast : q.periodTimer - 1 = 0
            · simp [hpending, hdelay, hstopped, hlast, advanceDuty, PulseGenerator.advance]
            · simp [hpending, hdelay, hstopped, hlast]

/-! ## The countdown -/

theorem pulseTimerReload_pos (periodValue : U16) : 0 < pulseTimerReload periodValue := by
  have hle : (periodValue &&& pulsePeriodMax).toNat ≤ 2047 := by
    rw [BitVec.toNat_and]
    exact Nat.and_le_right
  unfold pulseTimerReload
  omega

theorem nextDutyStep_ne (dutyStep : U8) : (dutyStep + 1) &&& pulseDutyStepMask ≠ dutyStep := by
  unfold pulseDutyStepMask
  intro h
  have hnat := congrArg BitVec.toNat h
  rw [BitVec.toNat_and, show (7 : U8).toNat = 2 ^ 3 - 1 from rfl,
    Nat.and_two_pow_sub_one_eq_mod, BitVec.toNat_add, show (1 : U8).toNat = 1 from rfl] at hnat
  omega

namespace PulseGenerator

@[simp] theorem closeWindow_firstTriggerPending (g : PulseGenerator) :
    g.closeWindow.firstTriggerPending = g.firstTriggerPending := by
  unfold closeWindow
  split <;> rfl

@[simp] theorem closeWindow_delay (g : PulseGenerator) : g.closeWindow.delay = g.delay := by
  unfold closeWindow
  split <;> rfl

@[simp] theorem closeWindow_stopped (g : PulseGenerator) : g.closeWindow.stopped = g.stopped := by
  unfold closeWindow
  split <;> rfl

@[simp] theorem closeWindow_timer (g : PulseGenerator) : g.closeWindow.timer = g.timer := by
  unfold closeWindow
  split <;> rfl

@[simp] theorem closeWindow_dutyStep (g : PulseGenerator) :
    g.closeWindow.dutyStep = g.dutyStep := by
  unfold closeWindow
  split <;> rfl

/-- A clock that moves the duty has used the timer up, and starts it from the period it finds. -/
theorem tick_moves (g : PulseGenerator) (periodValue : U16)
    (h : (g.tick periodValue true).dutyStep ≠ g.dutyStep) :
    (g.tick periodValue true).Running ∧
      (g.tick periodValue true).timer = pulseTimerReload periodValue ∧
      (g.tick periodValue true).justSampled = true ∧ (g.tick periodValue true).window = 3 := by
  unfold tick at h ⊢
  simp only [if_true, Bool.not_true, Bool.false_eq_true, false_or] at h ⊢
  by_cases hpending : g.closeWindow.firstTriggerPending = true
  · rw [if_pos hpending] at h
    simp at h
  · rw [if_neg hpending] at h ⊢
    by_cases hdelay : 0 < g.closeWindow.delay
    · rw [if_pos hdelay] at h
      simp at h
    · rw [if_neg hdelay] at h ⊢
      by_cases hstopped : g.closeWindow.stopped = true
      · rw [if_pos hstopped] at h
        simp at h
      · rw [if_neg hstopped] at h ⊢
        by_cases hlast : g.closeWindow.timer - 1 = 0
        · rw [if_pos hlast]
          refine ⟨⟨?_, ?_, ?_, pulseTimerReload_pos periodValue⟩, rfl, rfl, rfl⟩
          · exact Bool.eq_false_iff.mpr hpending
          · exact Nat.le_zero.mp (Nat.le_of_not_lt hdelay)
          · exact Bool.eq_false_iff.mpr hstopped
        · rw [if_neg hlast] at h
          simp at h

theorem tick_unclocked {g : PulseGenerator} (hg : g.Running) (periodValue : U16) :
    g.tick periodValue false = g := by
  simp [tick, hg.triggered, hg.delayed]

theorem tick_last {g : PulseGenerator} (hg : g.Running) (periodValue : U16) (hlast : g.timer = 1) :
    g.tick periodValue true = g.closeWindow.advance periodValue := by
  simp [tick, hg.triggered, hg.delayed, hg.enabled, hlast]

theorem tick_counts {g : PulseGenerator} (hg : g.Running) (periodValue : U16)
    (hmore : g.timer ≠ 1) :
    g.tick periodValue true = { g.closeWindow with timer := g.timer - 1 } := by
  have hpositive := hg.positive
  have hrest : ¬ g.timer - 1 = 0 := by omega
  simp [tick, hg.triggered, hg.delayed, hg.enabled, hrest]

theorem Running.tick {g : PulseGenerator} (hg : g.Running) (periodValue : U16) (clocked : Bool) :
    (g.tick periodValue clocked).Running := by
  have hpositive := hg.positive
  cases clocked with
  | false =>
      rw [tick_unclocked hg]
      exact hg
  | true =>
      by_cases hlast : g.timer = 1
      · rw [tick_last hg _ hlast]
        exact ⟨by simpa [advance] using hg.triggered, by simpa [advance] using hg.delayed,
          by simpa [advance] using hg.enabled, pulseTimerReload_pos periodValue⟩
      · rw [tick_counts hg _ hlast]
        refine ⟨by simpa using hg.triggered, by simpa using hg.delayed,
          by simpa using hg.enabled, ?_⟩
        show 0 < g.timer - 1
        omega

variable {S E : Type*} {move : S → E → S} {Allowed : S → E → Prop} {clocks : E → Bool}
  {generator : S → PulseGenerator}

/-- The allowed events of a channel tick its generator or leave it alone. -/
def Drives (move : S → E → S) (Allowed : S → E → Prop) (clocks : E → Bool)
    (generator : S → PulseGenerator) : Prop :=
  ∀ s e, Allowed s e → (clocks e = false ∧ generator (move s e) = generator s) ∨
    ∃ periodValue, generator (move s e) = (generator s).tick periodValue (clocks e)

/-- Such a channel is a countdown of its timer. -/
theorem countdown (h : Drives move Allowed clocks generator) :
    EventCountdown move (fun s => (generator s).Running) Allowed clocks
      (fun s e => clocks e = true ∧ (generator (move s e)).dutyStep ≠ (generator s).dutyStep)
      (fun s => (generator s).timer) where
  inv {s e} hs he := by
    rcases h _ _ he with ⟨-, hkeep⟩ | ⟨periodValue, htick⟩
    · rw [hkeep]
      exact hs
    · rw [htick]
      exact hs.tick periodValue (clocks e)
  fires_iff {s e} hs he := by
    refine and_congr_right fun hclock => ?_
    rcases h _ _ he with ⟨hquiet, -⟩ | ⟨periodValue, htick⟩
    · rw [hquiet] at hclock
      exact absurd hclock Bool.false_ne_true
    · rw [htick, hclock]
      by_cases hlast : (generator s).timer = 1
      · rw [tick_last hs _ hlast]
        simpa [advance, hlast] using nextDutyStep_ne (generator s).dutyStep
      · rw [tick_counts hs _ hlast]
        simp [hlast]
  quiet {s e} hs he hquiet := by
    rcases h _ _ he with ⟨-, hkeep⟩ | ⟨periodValue, htick⟩
    · rw [hkeep]
    · rw [htick, hquiet, tick_unclocked hs]
  count {s e} hs he hclock hmore := by
    rcases h _ _ he with ⟨hquiet, -⟩ | ⟨periodValue, htick⟩
    · rw [hquiet] at hclock
      exact absurd hclock Bool.false_ne_true
    · have hpositive := hs.positive
      rw [htick, hclock, tick_counts hs _ hmore]
      show (generator s).timer - 1 + 1 = (generator s).timer
      omega

/-- The window after a step closes with the last of its clocks. -/
theorem window_run (h : Drives move Allowed clocks generator) {s : S}
    {window : Nat} (hs : (generator s).Running)
    (hsampled : (generator s).justSampled = true ↔ 0 < window)
    (hwindow : 0 < window → (generator s).window = window) {es : List E}
    (hallowed : AllAllowed move Allowed s es) (hlt : es.countP clocks < (generator s).timer) :
    (generator (es.foldl move s)).justSampled = true ↔ es.countP clocks < window := by
  induction es generalizing s window with
  | nil => simpa using hsampled
  | cons first es ih =>
      obtain ⟨hnow, hlater⟩ := hallowed
      rw [List.foldl_cons]
      have hnext := (countdown h).inv hs hnow
      rcases h _ _ hnow with ⟨hquiet, hkeep⟩ | ⟨periodValue, htick⟩
      · rw [List.countP_cons_of_neg (by simp [hquiet])] at hlt ⊢
        exact ih hnext (by rw [hkeep]; exact hsampled) (by rw [hkeep]; exact hwindow) hlater
          (by rw [hkeep]; exact hlt)
      · cases hclock : clocks first with
        | false =>
            rw [hclock, tick_unclocked hs] at htick
            rw [List.countP_cons_of_neg (by simp [hclock])] at hlt ⊢
            exact ih hnext (by rw [htick]; exact hsampled) (by rw [htick]; exact hwindow) hlater
              (by rw [htick]; exact hlt)
        | true =>
            rw [List.countP_cons_of_pos hclock] at hlt ⊢
            rw [hclock, tick_counts hs _ (by omega)] at htick
            have hclosed : (generator s).closeWindow.justSampled = true ↔ 0 < window - 1 := by
              unfold closeWindow
              by_cases hopen : (generator s).justSampled = true
              · have hpositive := hsampled.mp hopen
                rw [if_pos hopen, hwindow hpositive]
                simp only [decide_eq_true_eq]
                omega
              · rw [if_neg hopen]
                have hzero : ¬ 0 < window := fun hpositive => hopen (hsampled.mpr hpositive)
                exact ⟨fun hjust => absurd hjust hopen, fun hpositive => by omega⟩
            have hremaining : 0 < window - 1 →
                (generator s).closeWindow.window = window - 1 := by
              intro hpositive
              unfold closeWindow
              rw [if_pos (hsampled.mpr (by omega)), hwindow (by omega)]
            rw [ih hnext (by rw [htick]; exact hclosed)
              (by rw [htick]; exact hremaining) hlater
              (by rw [htick]; show _ < (generator s).timer - 1; omega)]
            omega

section Moved

variable {s : S} {e e' : E} {es : List E} {periodValue : U16}

/-- The window after such an event is the clocks until the third. -/
theorem window_next (h : Drives move Allowed clocks generator)
    (htick : generator (move s e) = (generator s).tick periodValue true)
    (hmoves : (generator (move s e)).dutyStep ≠ (generator s).dutyStep)
    (hallowed : AllAllowed move Allowed (move s e) es)
    (hlt : es.countP clocks < pulseTimerReload periodValue) :
    (generator (es.foldl move (move s e))).justSampled = true ↔ es.countP clocks < 3 := by
  rw [htick] at hmoves
  obtain ⟨hrunning, htimer, hjust, hwindow⟩ := tick_moves _ periodValue hmoves
  rw [← htick] at hrunning htimer hjust hwindow
  exact window_run h hrunning (iff_of_true hjust (by omega)) (fun _ => hwindow) hallowed
    (by rw [htimer]; exact hlt)

end Moved

end PulseGenerator

end GbCycle
