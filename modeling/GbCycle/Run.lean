import Mathlib.Logic.Function.Iterate
import Mathlib.Tactic.Common

/-!
# Runs of a step function

A deterministic machine is a step function on its states; its run of `n` steps is the
iterate `step^[n]`.  `outputs` collects what an observer sees after each step.  Runs that
are built from several pieces of several steps each compose by the two laws below.
-/

namespace GbCycle

variable {S O : Type*}

/-- What `out` shows after each of the first `n` steps. -/
def outputs (step : S → S) (out : S → O) : Nat → S → List O
  | 0, _ => []
  | n + 1, x => out (step x) :: outputs step out n (step x)

theorem outputs_add (step : S → S) (out : S → O) (m n : Nat) (x : S) :
    outputs step out (m + n) x = outputs step out m x ++ outputs step out n (step^[m] x) := by
  induction m generalizing x with
  | zero => simp only [Nat.zero_add, outputs, List.nil_append, Function.iterate_zero, id_eq]
  | succ m ih =>
      rw [Nat.succ_add, outputs, outputs, ih, List.cons_append, Function.iterate_succ_apply]

/-- An invariant of the step is an invariant of every run. -/
theorem iterate_invariant {step : S → S} {Inv : S → Prop} (h : ∀ x, Inv x → Inv (step x))
    (n : Nat) {x : S} (hx : Inv x) : Inv (step^[n] x) := by
  induction n generalizing x with
  | zero => exact hx
  | succ n ih => rw [Function.iterate_succ_apply]; exact ih (h x hx)

end GbCycle
