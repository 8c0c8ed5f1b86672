import Mathlib.Logic.Function.Iterate
import Mathlib.Tactic.Common

/-!
# Countdowns

A machine that counts down to an event, and starts again from a fixed period when the event comes.
What is left decides when the event comes next; so the events of a run come at the first count and
then at every multiple of the period after it, and at no other step.

Where the machine is driven by events only some of which count, `EventCountdown` says the same of
the next event that fires; what the count starts again from is then left open.
-/

namespace GbCycle

variable {S : Type*} {step : S → S} {Inv : S → Prop} {fires : S → Prop} {left : S → Nat}
  {period : Nat}

/-- In states with the invariant `left` counts the steps up to and with the next that fires. -/
structure Countdown (step : S → S) (Inv : S → Prop) (fires : S → Prop) (left : S → Nat)
    (period : Nat) : Prop where
  inv : ∀ {s}, Inv s → Inv (step s)
  positive : ∀ {s}, Inv s → 0 < left s
  fires_iff : ∀ {s}, Inv s → (fires s ↔ left s = 1)
  count : ∀ {s}, Inv s → left s ≠ 1 → left (step s) + 1 = left s
  reload : ∀ {s}, Inv s → left s = 1 → left (step s) = period

namespace Countdown

/-- After some steps the count has gone round some times. -/
theorem iterate (h : Countdown step Inv fires left period) {s : S} (hs : Inv s) (n : Nat) :
    Inv (step^[n] s) ∧ ∃ rounds, n + left (step^[n] s) = left s + rounds * period ∧
      (rounds = 0 ∨ left (step^[n] s) ≤ period) := by
  induction n with
  | zero => exact ⟨hs, 0, by simp, .inl rfl⟩
  | succ n ih =>
      obtain ⟨hinv, rounds, hleft, hround⟩ := ih
      rw [Function.iterate_succ_apply']
      refine ⟨h.inv hinv, ?_⟩
      by_cases hlast : left (step^[n] s) = 1
      · refine ⟨rounds + 1, ?_, .inr (Nat.le_of_eq (h.reload hinv hlast))⟩
        rw [h.reload hinv hlast, Nat.succ_mul]
        omega
      · have hcount := h.count hinv hlast
        refine ⟨rounds, by omega, ?_⟩
        rcases hround with hzero | hle
        · exact .inl hzero
        · exact .inr (by omega)

end Countdown

/-! ## Runs of events -/

section Events

variable {E : Type*} {move : S → E → S} {Allowed : S → E → Prop} {counts : E → Bool}
  {firesAt : S → E → Prop}

/-- Every event of a run is allowed in the state it finds. -/
def AllAllowed (move : S → E → S) (Allowed : S → E → Prop) : S → List E → Prop
  | _, [] => True
  | s, e :: es => Allowed s e ∧ AllAllowed move Allowed (move s e) es

/-- What holds of every event may be asked of every step. -/
theorem AllAllowed.restrict {P : E → Prop} {s : S} {es : List E} (h : AllAllowed move Allowed s es)
    (hp : ∀ e ∈ es, P e) : AllAllowed move (fun s e => Allowed s e ∧ P e) s es := by
  induction es generalizing s with
  | nil => trivial
  | cons e es ih =>
      exact ⟨⟨h.1, hp e List.mem_cons_self⟩,
        ih h.2 fun e' he' => hp e' (List.mem_cons_of_mem _ he')⟩

theorem AllAllowed.of_append {s : S} {es later : List E}
    (h : AllAllowed move Allowed s (es ++ later)) : AllAllowed move Allowed s es := by
  induction es generalizing s with
  | nil => trivial
  | cons first es ih => exact ⟨h.1, ih h.2⟩

theorem AllAllowed.later {s : S} {es later : List E}
    (h : AllAllowed move Allowed s (es ++ later)) :
    AllAllowed move Allowed (es.foldl move s) later := by
  induction es generalizing s with
  | nil => exact h
  | cons first es ih => exact ih h.2

/-- `left` counts the counting events up to and with the next that fires. -/
structure EventCountdown (move : S → E → S) (Inv : S → Prop) (Allowed : S → E → Prop)
    (counts : E → Bool) (firesAt : S → E → Prop) (left : S → Nat) : Prop where
  inv : ∀ {s e}, Inv s → Allowed s e → Inv (move s e)
  fires_iff : ∀ {s e}, Inv s → Allowed s e → (firesAt s e ↔ counts e = true ∧ left s = 1)
  quiet : ∀ {s e}, Inv s → Allowed s e → counts e = false → left (move s e) = left s
  count : ∀ {s e}, Inv s → Allowed s e → counts e = true → left s ≠ 1 →
    left (move s e) + 1 = left s

end Events

end GbCycle
