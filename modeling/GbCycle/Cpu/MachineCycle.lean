import GbCycle.Cpu.Arithmetic
import GbCycle.Run
import Mathlib.Tactic.IntervalCases

/-!
# Machine cycles

The core advances by T-cycles, but nothing happens on the first three of each machine
cycle.  `machineCycle` is the work of the fourth, and `machineCycle_eq_ticks` says that four
ticks amount to it.  An `InstructionRun` is then a chain of machine cycles that ends at the
first opcode fetch it reaches; `InstructionRun.ticks` reads it back as a run of T-cycles.
-/

namespace GbCycle

namespace CpuCore

variable {σ : Type} (bus : CpuExternalCallback σ)

/-- One T-cycle of the core together with the machine behind its callback. -/
def tick (x : CpuCore × σ) : CpuCore × σ := x.1.tickTCycle bus x.2

/-- The bus activity of the T-cycle that has just been run. -/
def activity (x : CpuCore × σ) : Option CpuBusActivity := x.1.lastBusActivity

/-- The core as the last T-cycle of a machine cycle finds it. -/
def atLastT (cpu : CpuCore) (state : CpuExecutionState) : CpuCore :=
  { cpu with executionState := state, lastBusActivity := none, lastAddressEvent := none }

/-- A machine cycle of an instruction, from its first T-cycle. -/
def machineCycle (x : CpuCore × σ) : CpuCore × σ :=
  match x.1.executionState with
  | .fetchOpcode _ => completeFetchOpcode bus (x.1.atLastT (.fetchOpcode lastMachineCycleT)) x.2
  | .execute step _ =>
      completeExecuteMachineCycle bus (x.1.atLastT (.execute step lastMachineCycleT)) step x.2
  | _ => x

/-- The core is about to begin a machine cycle of an instruction. -/
def StartsMachineCycle (cpu : CpuCore) : Prop :=
  cpu.executionState = .fetch ∨ ∃ step, cpu.executionState = .execute step 0

/-- Four ticks are one machine cycle: three that only count, and the one that works. -/
theorem machineCycle_eq_ticks {x : CpuCore × σ} (h : StartsMachineCycle x.1) :
    (tick bus)^[4] x = machineCycle bus x ∧
    outputs (tick bus) activity 4 x =
      [none, none, none, (machineCycle bus x).1.lastBusActivity] ∧
    ∀ k, 0 < k → k < 4 → ((tick bus)^[k] x).1.executionState ≠ .fetch := by
  obtain ⟨cpu, s⟩ := x
  rcases cpu with ⟨m, su, r, state, fl, ime, halt, ba, ae, div, sw⟩
  rcases h with h | ⟨step, h⟩ <;> cases h
  · refine ⟨rfl, rfl, fun k h0 h4 => ?_⟩
    interval_cases k <;> exact fun h => nomatch h
  · refine ⟨rfl, rfl, fun k h0 h4 => ?_⟩
    interval_cases k <;> exact fun h => nomatch h

/-- A chain of machine cycles from `x` to the first opcode fetch after it, with the bus
activity of each. -/
inductive InstructionRun : CpuCore × σ → List (Option CpuBusActivity) → CpuCore × σ → Prop
  | finish {x y : CpuCore × σ} :
      StartsMachineCycle x.1 → machineCycle bus x = y → y.1.executionState = .fetch →
      InstructionRun x [y.1.lastBusActivity] y
  | next {x y z : CpuCore × σ} {step : Nat} {activities : List (Option CpuBusActivity)} :
      StartsMachineCycle x.1 → machineCycle bus x = y →
      y.1.executionState = .execute step 0 → InstructionRun y activities z →
      InstructionRun x (y.1.lastBusActivity :: activities) z

/-- The bus activity of a machine cycle, T-cycle by T-cycle. -/
def perTCycle (a : Option CpuBusActivity) : List (Option CpuBusActivity) :=
  [none, none, none, a]

theorem InstructionRun.ticks {x y : CpuCore × σ} {activities : List (Option CpuBusActivity)}
    (h : InstructionRun bus x activities y) :
    (tick bus)^[4 * activities.length] x = y ∧ y.1.executionState = .fetch ∧
    outputs (tick bus) activity (4 * activities.length) x = activities.flatMap perTCycle ∧
    ∀ k, 0 < k → k < 4 * activities.length →
      ((tick bus)^[k] x).1.executionState ≠ .fetch := by
  induction h with
  | finish hx hy hfetch =>
      obtain ⟨h4, ho, hk⟩ := machineCycle_eq_ticks bus hx
      subst hy
      exact ⟨h4, hfetch, ho, hk⟩
  | @next x y z step activities hx hy hstep _ ih =>
      obtain ⟨h4, ho, hk⟩ := machineCycle_eq_ticks bus hx
      obtain ⟨ih4, ihfetch, iho, ihk⟩ := ih
      subst hy
      have hlen : 4 * (activity (machineCycle bus x) :: activities).length
          = 4 + 4 * activities.length := by
        rw [List.length_cons]; omega
      simp only [activity] at hlen
      have hiter : ∀ k, (tick bus)^[4 + k] x = (tick bus)^[k] (machineCycle bus x) := by
        intro k
        rw [Nat.add_comm, Function.iterate_add_apply, h4]
      refine ⟨?_, ihfetch, ?_, ?_⟩
      · rw [hlen, hiter, ih4]
      · rw [hlen, outputs_add, ho, h4, iho]
        rfl
      · intro k h0 hlt
        rw [hlen] at hlt
        rcases Nat.lt_trichotomy k 4 with hk4 | rfl | hk4
        · exact hk k h0 hk4
        · rw [h4, hstep]
          exact fun h => nomatch h
        · obtain ⟨j, rfl⟩ := Nat.exists_eq_add_of_lt hk4
          rw [Nat.add_assoc, hiter]
          exact ihk (j + 1) (Nat.succ_pos j) (by omega)

end CpuCore

end GbCycle
