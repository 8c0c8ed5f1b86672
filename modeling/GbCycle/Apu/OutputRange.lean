import GbCycle.Apu.Output
import GbCycle.Rounding
import Mathlib.Algebra.Order.Ring.Abs
import Mathlib.Tactic.IntervalCases

/-!
# The range of the output

A DAC stays in the analog scale, also while it fades; so the mixer and the master output have their
ranges.  The capacitor is always between its last value and the input, and so it stays in the range
of the master output.  The difference of the two is what the host gets.
-/

namespace GbCycle

/-- A level within some distance of zero. -/
def Within (bound x : Int) : Prop := -bound ≤ x ∧ x ≤ bound

theorem within_zero {bound : Int} (h : 0 ≤ bound) : Within bound 0 := ⟨by omega, h⟩

theorem Within.add {a b x y : Int} (hx : Within a x) (hy : Within b y) : Within (a + b) (x + y) := by
  obtain ⟨hx₁, hx₂⟩ := hx
  obtain ⟨hy₁, hy₂⟩ := hy
  exact ⟨by omega, by omega⟩

theorem Within.sub {a b x y : Int} (hx : Within a x) (hy : Within b y) : Within (a + b) (x - y) := by
  obtain ⟨hx₁, hx₂⟩ := hx
  obtain ⟨hy₁, hy₂⟩ := hy
  exact ⟨by omega, by omega⟩

theorem Within.mul {a b x y : Int} (hx : Within a x) (hy : Within b y) (ha : 0 ≤ a) :
    Within (a * b) (x * y) := by
  refine abs_le.mp ?_
  rw [abs_mul]
  exact mul_le_mul (abs_le.mpr hx) (abs_le.mpr hy) (abs_nonneg y) ha

/-- A cast that changes nothing. -/
theorem asI32_of_within {x : Int} (h : Within (2 ^ 31 - 1) x) : asI32 x = x := by
  obtain ⟨hlower, hupper⟩ := h
  exact Int.bmod_eq_of_le (by omega) (by omega)

/-! ## The DAC -/

theorem dacAnalogOutput_within (digitalOutput : U8) :
    Within analogOne (dacAnalogOutput digitalOutput) := by
  have hdigit : (digitalOutput &&& dacDigitalOutputMask).toNat ≤ 15 := by
    rw [BitVec.toNat_and]
    exact Nat.and_le_right
  unfold dacAnalogOutput analogOne dacAnalogStep
  exact ⟨by omega, by omega⟩

/-- What is left of a fade is not more than the whole. -/
theorem smoothFactorQ16_within (remainingTCycles : Nat) :
    Within 65536 (smoothFactorQ16 remainingTCycles dacOffFadeTCycles) := by
  by_cases hwhole : dacOffFadeTCycles ≤ remainingTCycles
  · unfold smoothFactorQ16
    rw [if_pos hwhole]
    split <;> exact ⟨by decide, by decide⟩
  · have hall : ∀ n < 210, Within 65536 (smoothFactorQ16 n dacOffFadeTCycles) := by
      unfold Within
      decide +kernel
    have hduration : dacOffFadeTCycles = 210 := by decide
    exact hall remainingTCycles (by omega)

theorem scaleByQ16_within {value factor : Int} (hvalue : Within analogOne value)
    (hfactor : Within 65536 factor) : Within analogOne (scaleByQ16 value factor) := by
  have hpositive : 0 < 65536 := by decide
  have hround := roundsTo_roundedQuotient (value * factor) hpositive
  have hproduct := hvalue.mul hfactor (by decide)
  rw [Int.mul_comm analogOne] at hproduct
  obtain ⟨hlower, hupper⟩ := hproduct
  rw [← Int.mul_neg] at hlower
  have hbetween := hround.between hpositive hlower hupper
  have hcast : scaleByQ16 value factor = asI32 (roundedQuotient (value * factor) 65536) := by
    unfold scaleByQ16 divideAndRoundI64 roundedQuotient
    split <;> rfl
  rw [hcast, asI32_of_within ⟨by unfold analogOne at hbetween; omega,
    by unfold analogOne at hbetween; omega⟩]
  exact hbetween

namespace DacChannelState

/-- A DAC, and what it fades from, are in the analog scale. -/
structure InScale (d : DacChannelState) : Prop where
  current : Within analogOne d.currentOutput
  source : Within analogOne d.dischargeSourceOutput

theorem inScale_default : InScale default :=
  ⟨within_zero (by decide), within_zero (by decide)⟩

theorem InScale.preview {d : DacChannelState} (h : d.InScale) (dacEnabled : Bool)
    (digitalOutput : U8) (fadeModel : DacOffFadeModel) :
    (d.preview dacEnabled digitalOutput fadeModel).InScale := by
  unfold DacChannelState.preview
  cases dacEnabled with
  | true => exact ⟨dacAnalogOutput_within digitalOutput, dacAnalogOutput_within digitalOutput⟩
  | false => exact h

theorem InScale.tick {d : DacChannelState} (h : d.InScale) (dacEnabled : Bool)
    (digitalOutput : U8) (consoleModel : ConsoleModel) :
    (d.tick dacEnabled digitalOutput (.forConsoleModel consoleModel)).InScale := by
  unfold DacChannelState.tick
  cases dacEnabled with
  | true => exact ⟨dacAnalogOutput_within digitalOutput, dacAnalogOutput_within digitalOutput⟩
  | false =>
      simp only [Bool.false_eq_true, if_false]
      split
      · exact inScale_default
      · split
        · exact inScale_default
        · exact ⟨scaleByQ16_within h.source (smoothFactorQ16_within _), h.source⟩

end DacChannelState

/-! ## The mixer -/

theorem routedChannelSum_within (nr51 : U8) (routeBit : Fin channelCount → U8)
    {channelDacOutputs : Vector Int channelCount}
    (h : ∀ channel, Within analogOne (channelDacOutputs.get channel)) :
    Within (4 * analogOne) (routedChannelSum nr51 routeBit channelDacOutputs) := by
  have hsum : ∀ channels : List (Fin channelCount), Within (channels.length * analogOne)
      (channels.map fun channel =>
        if nr51 &&& routeBit channel ≠ 0 then channelDacOutputs.get channel else 0).sum := by
    intro channels
    induction channels with
    | nil => exact within_zero (Int.le_refl 0)
    | cons channel channels ih =>
        rw [List.map_cons, List.sum_cons, List.length_cons]
        have hone : Within analogOne
            (if nr51 &&& routeBit channel ≠ 0 then channelDacOutputs.get channel else 0) := by
          split
          · exact h channel
          · exact within_zero (by decide)
        have hboth := hone.add ih
        have hlength : ((channels.length + 1 : Nat) : Int) * analogOne =
            analogOne + channels.length * analogOne := by
          rw [Int.natCast_add, Int.add_mul, Int.add_comm]
          exact congrArg (· + _) (Int.one_mul analogOne)
        rw [hlength]
        exact hboth
  exact hsum (List.finRange channelCount)

theorem nr50VolumeFactor_within (bits : U8) :
    Within 8 (((bits &&& nr50VolumeMask).toNat : Int) + nr50VolumeBias) := by
  have hbits : (bits &&& nr50VolumeMask).toNat ≤ 7 := by
    rw [BitVec.toNat_and]
    exact Nat.and_le_right
  unfold nr50VolumeBias
  exact ⟨by omega, by omega⟩

/-- Both sides of an output. -/
structure ApuStereoOutput.Within (bound : Int) (x : ApuStereoOutput) : Prop where
  left : GbCycle.Within bound x.left
  right : GbCycle.Within bound x.right

theorem ApuStereoOutput.within_default {bound : Int} (h : 0 ≤ bound) :
    ApuStereoOutput.default.Within bound :=
  ⟨within_zero h, within_zero h⟩

theorem masterOutputOf_within (nr50 : U8) {mixer : ApuStereoOutput}
    (h : mixer.Within (4 * analogOne)) (connected : Bool) :
    (masterOutputOf nr50 mixer connected).Within apuInternalMaxAbsOutputSample := by
  unfold masterOutputOf
  cases connected with
  | false => exact ApuStereoOutput.within_default (by decide)
  | true =>
      have hbound : apuInternalMaxAbsOutputSample = 4 * analogOne * 8 := by decide
      rw [hbound]
      exact ⟨h.left.mul (nr50VolumeFactor_within _) (by decide),
        h.right.mul (nr50VolumeFactor_within _) (by decide)⟩

/-! ## The capacitor -/

/-- Truncation leaves a part of a quantity, and a capacitor ends between its value and the input. -/
theorem capacitor_within {bound input capacitor charge : Int}
    (hinput : Within bound input) (hcapacitor : Within bound capacitor)
    (hcharge : 0 ≤ charge ∧ charge ≤ hpfChargeFactorDenominator) :
    Within bound
      (input - ((input - capacitor) * charge).tdiv hpfChargeFactorDenominator) := by
  have hpart : ∀ x : Int, 0 ≤ x → 0 ≤ (x * charge).tdiv hpfChargeFactorDenominator ∧
      (x * charge).tdiv hpfChargeFactorDenominator ≤ x := by
    intro x hx
    have hproduct := Int.mul_nonneg hx hcharge.1
    rw [Int.tdiv_eq_ediv_of_nonneg hproduct]
    refine ⟨Int.ediv_nonneg hproduct (by decide), ?_⟩
    refine Int.ediv_le_of_le_mul (by decide) ?_
    exact Int.mul_le_mul_of_nonneg_left hcharge.2 hx
  obtain ⟨hinput₁, hinput₂⟩ := hinput
  obtain ⟨hcapacitor₁, hcapacitor₂⟩ := hcapacitor
  by_cases hsign : 0 ≤ input - capacitor
  · obtain ⟨hlower, hupper⟩ := hpart _ hsign
    exact ⟨by omega, by omega⟩
  · obtain ⟨hlower, hupper⟩ := hpart (capacitor - input) (by omega)
    have hneg : ((input - capacitor) * charge).tdiv hpfChargeFactorDenominator =
        -((capacitor - input) * charge).tdiv hpfChargeFactorDenominator := by
      rw [← Int.neg_tdiv, ← Int.neg_mul, Int.neg_sub]
    rw [hneg]
    exact ⟨by omega, by omega⟩

theorem HpfChargeModel.numerator_le (m : HpfChargeModel) :
    0 ≤ m.numerator ∧ m.numerator ≤ hpfChargeFactorDenominator := by
  cases m <;> decide

/-! ## The path -/

def OutputPathEvent.VinSilent : OutputPathEvent → Prop
  | .tick master _ => master.vinInput = .default
  | .preview master _ => master.vinInput = .default
  | .startup _ => True

namespace OutputPathState

/-- Every level of the path is in its range. -/
structure InRange (p : OutputPathState) : Prop where
  fade : p.dacOffFadeModel = ⟨dacOffFadeTCycles⟩
  dacs : ∀ channel, (p.channelDacStates.get channel).InScale
  outputs : ∀ channel, Within analogOne (p.channelDacOutputs.get channel)
  mixer : p.mixerOutput.Within (4 * analogOne)
  master : p.masterOutput.Within apuInternalMaxAbsOutputSample
  capacitor : p.hpfCapacitor.Within apuInternalMaxAbsOutputSample
  current : p.currentOutput.Within (2 * apuInternalMaxAbsOutputSample)

theorem inRange_new (consoleModel : ConsoleModel) : (new consoleModel).InRange := by
  refine ⟨rfl, ?_, ?_, ?_, ?_, ?_, ?_⟩
  · intro channel
    rw [show (new consoleModel).channelDacStates.get channel = .default from
      Vector.getElem_replicate _]
    exact DacChannelState.inScale_default
  · intro channel
    rw [show (new consoleModel).channelDacOutputs.get channel = 0 from Vector.getElem_replicate _]
    exact within_zero (by decide)
  all_goals exact ApuStereoOutput.within_default (by decide)

theorem resolveDacs_inScale {p : OutputPathState} (h : p.InRange)
    (channelOutput : ChannelOutputState) (advanceFade : Bool) (channel : Fin channelCount) :
    ((p.resolveDacs channelOutput advanceFade).get channel).InScale := by
  unfold resolveDacs
  rw [show ∀ f : Fin channelCount → DacChannelState, (Vector.ofFn f).get channel = f channel from
    fun f => Vector.getElem_ofFn channel.isLt]
  dsimp only
  rw [h.fade]
  cases advanceFade with
  | true => exact (h.dacs channel).tick _ _ .gameBoy
  | false => exact (h.dacs channel).preview _ _ _

theorem resolveMixState_inRange {p : OutputPathState} (h : p.InRange)
    {master : MasterControlState} (hvin : master.vinInput = .default)
    (channelOutput : ChannelOutputState) (advanceFade : Bool) :
    (p.resolveMixState master channelOutput advanceFade).1.InRange := by
  unfold resolveMixState
  cases master.powered with
  | false =>
      refine ⟨h.fade, ?_, ?_, ?_, ?_, h.capacitor, h.current⟩
      · intro channel
        exact (inRange_new .gameBoy).dacs channel
      · intro channel
        exact (inRange_new .gameBoy).outputs channel
      all_goals exact ApuStereoOutput.within_default (by decide)
  | true =>
      have hdacs := resolveDacs_inScale h channelOutput advanceFade
      have houtputs : ∀ channel, Within analogOne
          (((p.resolveDacs channelOutput advanceFade).map (·.currentOutput)).get channel) := by
        intro channel
        rw [show ((p.resolveDacs channelOutput advanceFade).map (·.currentOutput)).get channel =
          ((p.resolveDacs channelOutput advanceFade).get channel).currentOutput from
            Vector.getElem_map _ _]
        exact (hdacs channel).current
      have hvinOutput : GbCycle.vinAnalogOutput master = .default := by
        unfold GbCycle.vinAnalogOutput
        rw [hvin]
        simp only [ApuStereoOutput.default, ite_self]
      have hmixer : (mixerOutputOf master.nr51 (GbCycle.vinAnalogOutput master)
          ((p.resolveDacs channelOutput advanceFade).map (·.currentOutput))).Within
            (4 * analogOne) := by
        rw [hvinOutput]
        unfold mixerOutputOf ApuStereoOutput.default
        dsimp only
        rw [Int.zero_add, Int.zero_add]
        exact ⟨routedChannelSum_within _ _ houtputs, routedChannelSum_within _ _ houtputs⟩
      exact ⟨h.fade, hdacs, houtputs, hmixer, masterOutputOf_within _ hmixer _, h.capacitor,
        h.current⟩

/-- What is left of the master output over the capacitor fits a host sample as it is. -/
theorem InRange.difference {p : OutputPathState} (h : p.InRange) :
    asI32 (p.masterOutput.left - p.hpfCapacitor.left) =
        p.masterOutput.left - p.hpfCapacitor.left ∧
      asI32 (p.masterOutput.right - p.hpfCapacitor.right) =
        p.masterOutput.right - p.hpfCapacitor.right ∧
      Within (2 * apuInternalMaxAbsOutputSample) (p.masterOutput.left - p.hpfCapacitor.left) ∧
      Within (2 * apuInternalMaxAbsOutputSample) (p.masterOutput.right - p.hpfCapacitor.right) := by
  have hdouble : apuInternalMaxAbsOutputSample + apuInternalMaxAbsOutputSample =
      2 * apuInternalMaxAbsOutputSample := by decide
  have hfits : ∀ x, Within (2 * apuInternalMaxAbsOutputSample) x → asI32 x = x := by
    rintro x ⟨hlower, hupper⟩
    have hbound : 2 * apuInternalMaxAbsOutputSample = 960000000 := by decide
    exact asI32_of_within ⟨by omega, by omega⟩
  have hleft := h.master.left.sub h.capacitor.left
  have hright := h.master.right.sub h.capacitor.right
  rw [hdouble] at hleft hright
  exact ⟨hfits _ hleft, hfits _ hright, hleft, hright⟩

theorem InRange.preview {p : OutputPathState} (h : p.InRange) {master : MasterControlState}
    (hvin : master.vinInput = .default) (channelOutput : ChannelOutputState) :
    (p.preview master channelOutput).InRange := by
  have hresolved := resolveMixState_inRange h hvin channelOutput false
  unfold OutputPathState.preview
  generalize p.resolveMixState master channelOutput false = r at hresolved
  obtain ⟨q, connected⟩ := r
  obtain ⟨hleft, hright, hwithinLeft, hwithinRight⟩ := InRange.difference hresolved
  cases connected with
  | false =>
      exact ⟨hresolved.fade, hresolved.dacs, hresolved.outputs, hresolved.mixer, hresolved.master,
        hresolved.capacitor, ApuStereoOutput.within_default (by decide)⟩
  | true =>
      refine ⟨hresolved.fade, hresolved.dacs, hresolved.outputs, hresolved.mixer,
        hresolved.master, hresolved.capacitor, ?_, ?_⟩
      · show Within _ (asI32 _)
        rw [hleft]
        exact hwithinLeft
      · show Within _ (asI32 _)
        rw [hright]
        exact hwithinRight

theorem InRange.tick {p : OutputPathState} (h : p.InRange) {master : MasterControlState}
    (hvin : master.vinInput = .default) (channelOutput : ChannelOutputState) :
    (p.tick master channelOutput).InRange := by
  have hresolved := resolveMixState_inRange h hvin channelOutput true
  unfold OutputPathState.tick
  generalize p.resolveMixState master channelOutput true = r at hresolved
  obtain ⟨q, connected⟩ := r
  obtain ⟨hleft, hright, hwithinLeft, hwithinRight⟩ := InRange.difference hresolved
  cases connected with
  | false =>
      exact ⟨hresolved.fade, hresolved.dacs, hresolved.outputs, hresolved.mixer, hresolved.master,
        hresolved.capacitor, ApuStereoOutput.within_default (by decide)⟩
  | true =>
      refine ⟨hresolved.fade, hresolved.dacs, hresolved.outputs, hresolved.mixer,
        hresolved.master, ⟨?_, ?_⟩, ?_, ?_⟩
      · exact capacitor_within hresolved.master.left hresolved.capacitor.left
          q.hpfChargeModel.numerator_le
      · exact capacitor_within hresolved.master.right hresolved.capacitor.right
          q.hpfChargeModel.numerator_le
      · show Within _ (asI32 _)
        rw [hleft]
        exact hwithinLeft
      · show Within _ (asI32 _)
        rw [hright]
        exact hwithinRight

theorem InRange.step {p : OutputPathState} (h : p.InRange) {event : OutputPathEvent}
    (hvin : event.VinSilent) : (p.step event).InRange := by
  cases event with
  | tick master channelOutput => exact h.tick hvin channelOutput
  | preview master channelOutput => exact h.preview hvin channelOutput
  | startup consoleModel => exact inRange_new consoleModel

theorem InRange.run {p : OutputPathState} (h : p.InRange) {events : List OutputPathEvent}
    (hvin : ∀ event ∈ events, event.VinSilent) : (p.run events).InRange := by
  induction events generalizing p with
  | nil => exact h
  | cons event events ih =>
      exact ih (h.step (hvin event List.mem_cons_self))
        fun other hother => hvin other (List.mem_cons_of_mem _ hother)

/-- All channels go from one end of the scale to the other, and their DACs are switched off. -/
def fadingRun : List OutputPathEvent :=
  [.tick ⟨true, 0x77, 0xFF, .default⟩ ⟨0x0F, Vector.replicate _ 15⟩,
    .tick ⟨true, 0x77, 0xFF, .default⟩ ⟨0x0F, Vector.replicate _ 0⟩] ++
    .replicate 100 (.tick ⟨true, 0x77, 0xFF, .default⟩ ⟨0x00, Vector.replicate _ 0⟩)

/-- Over any run without a VIN input each DAC is in the analog scale and each capacitor in the range
of the master output; the casts of the next host sample change nothing, and the sample that is out
is not over the maximum that hosts are told. -/
theorem output_range (consoleModel : ConsoleModel) {events : List OutputPathEvent}
    (hvin : ∀ event ∈ events, event.VinSilent) :
    (∀ channel, Within analogOne (((new consoleModel).run events).channelDacOutputs.get channel) ∧
        Within analogOne
          (((new consoleModel).run events).channelDacStates.get channel).currentOutput) ∧
      ((new consoleModel).run events).masterOutput.Within apuInternalMaxAbsOutputSample ∧
      ((new consoleModel).run events).hpfCapacitor.Within apuInternalMaxAbsOutputSample ∧
      (∀ master channelOutput advanceFade, master.vinInput = .default →
        let p := (((new consoleModel).run events).resolveMixState master channelOutput
          advanceFade).1
        asI32 (p.masterOutput.left - p.hpfCapacitor.left) =
            p.masterOutput.left - p.hpfCapacitor.left ∧
          asI32 (p.masterOutput.right - p.hpfCapacitor.right) =
            p.masterOutput.right - p.hpfCapacitor.right) ∧
      ((new consoleModel).run events).currentOutput.Within apuHostMaxAbsSample := by
  have h := (inRange_new consoleModel).run hvin
  refine ⟨fun channel => ⟨h.outputs channel, (h.dacs channel).current⟩, h.master, h.capacitor,
    ?_, ?_⟩
  · intro master channelOutput advanceFade hsilent
    obtain ⟨hleft, hright, -, -⟩ :=
      (resolveMixState_inRange h hsilent channelOutput advanceFade).difference
    exact ⟨hleft, hright⟩
  · have hmaximum : 2 * apuInternalMaxAbsOutputSample ≤ apuHostMaxAbsSample := by decide
    obtain ⟨⟨hl₁, hl₂⟩, hr₁, hr₂⟩ := h.current
    exact ⟨⟨by omega, by omega⟩, by omega, by omega⟩

theorem output_range_fading :
    let p := (new .gameBoy).run fadingRun
    0 < (p.channelDacStates.get ⟨0, by decide⟩).currentOutput ∧
      (p.channelDacStates.get ⟨0, by decide⟩).currentOutput < analogOne ∧
      p.masterOutput.Within apuInternalMaxAbsOutputSample ∧
      p.hpfCapacitor.Within apuInternalMaxAbsOutputSample ∧
      p.currentOutput.Within apuHostMaxAbsSample := by
  intro p
  have hvin : ∀ event ∈ fadingRun, event.VinSilent := by
    intro event hevent
    rcases List.mem_append.mp hevent with hloud | hfade
    · rcases List.mem_pair.mp hloud with rfl | rfl <;> rfl
    · rw [List.eq_of_mem_replicate hfade]
      rfl
  obtain ⟨-, hmaster, hcapacitor, -, houtput⟩ := output_range .gameBoy hvin
  exact ⟨by decide +kernel, by decide +kernel, hmaster, hcapacitor, houtput⟩

end OutputPathState

end GbCycle
