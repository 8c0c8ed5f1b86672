import Mathlib.Tactic.Common
import Mathlib.Data.Nat.ModEq

/-!
# Delay lines in a ring

A delay line keeps the last few values that were put into it in a ring of cells.  A cursor
goes round the ring; what it finds in a cell leaves the line, and what comes in takes its
place.  The cells from the cursor on are therefore the values on their way, oldest first, and
a value leaves the line as many steps after it came in as the ring has cells.
-/

namespace Wire

variable {α : Type}

structure DelayLine (α : Type) where
  delay : Nat
  cells : Nat → α
  cursor : Nat

namespace DelayLine

/-- One step: the value that leaves the line, and the line with `x` in its place. -/
def push (line : DelayLine α) (x : α) : α × DelayLine α :=
  (line.cells line.cursor,
    { line with
      cells := fun i => if i = line.cursor then x else line.cells i
      cursor := (line.cursor + 1) % line.delay })

/-- The values that leave the line while others come in. -/
def outputs (line : DelayLine α) : List α → List α
  | [] => []
  | x :: xs => (line.push x).1 :: (line.push x).2.outputs xs

/-- The values on their way, oldest first. -/
structure Pending (line : DelayLine α) (values : List α) : Prop where
  length : values.length = line.delay
  cursor : line.cursor < line.delay
  cells : ∀ j, (hj : j < values.length) →
    line.cells ((line.cursor + j) % line.delay) = values.get ⟨j, hj⟩

variable {line : DelayLine α}

theorem mod_add_ne {cursor j delay : Nat} (hpositive : 0 < j) (hlt : j < delay) :
    (cursor + j) % delay ≠ cursor % delay := by
  intro heq
  have hzero : j ≡ 0 [MOD delay] := Nat.ModEq.add_left_cancel' cursor heq
  have hself : j % delay = 0 % delay := hzero
  rw [Nat.mod_eq_of_lt hlt, Nat.zero_mod] at hself
  omega

/-- The oldest value leaves, and the new one becomes the youngest. -/
theorem Pending.push {value x : α} {values : List α} (h : line.Pending (value :: values)) :
    (line.push x).1 = value ∧ (line.push x).2.Pending (values ++ [x]) := by
  have hlength := h.length
  have hcursor := h.cursor
  rw [List.length_cons] at hlength
  have hmod : line.cursor % line.delay = line.cursor := Nat.mod_eq_of_lt hcursor
  have hshift (j : Nat) : ((line.cursor + 1) % line.delay + j) % line.delay =
      (line.cursor + (j + 1)) % line.delay := by
    rw [Nat.mod_add_mod, Nat.add_assoc, Nat.add_comm 1 j]
  constructor
  · have hfirst := h.cells 0 (by simp)
    rw [Nat.add_zero, hmod] at hfirst
    exact hfirst
  · refine ⟨?_, Nat.mod_lt _ (by omega), fun j hj => ?_⟩
    · rw [List.length_append]
      exact hlength
    · show (if _ = line.cursor then x else line.cells _) = _
      rw [List.length_append, List.length_singleton] at hj
      show (if ((line.cursor + 1) % line.delay + j) % line.delay = line.cursor then x
        else line.cells (((line.cursor + 1) % line.delay + j) % line.delay)) = _
      rw [hshift]
      by_cases hlast : j = values.length
      · have hround : (line.cursor + (j + 1)) % line.delay = line.cursor := by
          rw [hlast, hlength, Nat.add_mod_right, hmod]
        rw [if_pos hround]
        simp [hlast]
      · have hold : (line.cursor + (j + 1)) % line.delay ≠ line.cursor := by
          have hne : (line.cursor + (j + 1)) % line.delay ≠ line.cursor % line.delay :=
            mod_add_ne (Nat.succ_pos j) (by omega)
          rwa [hmod] at hne
        rw [if_neg hold, h.cells (j + 1) (by rw [List.length_cons]; omega)]
        simp only [List.get_eq_getElem, List.getElem_cons_succ]
        rw [List.getElem_append_left (by omega)]

/-- What leaves the line is what was on its way, and then what came in. -/
theorem Pending.outputs_eq {values : List α} (h : line.Pending values) (xs : List α) :
    line.outputs xs = (values ++ xs).take xs.length := by
  induction xs generalizing line values with
  | nil => rw [outputs, List.length_nil, List.take_zero]
  | cons x xs ih =>
      cases values with
      | nil =>
          have hlength := h.length
          have hcursor := h.cursor
          rw [List.length_nil] at hlength
          omega
      | cons value values =>
          obtain ⟨hout, hnext⟩ := h.push (x := x)
          rw [outputs, hout, ih hnext, List.cons_append, List.length_cons, List.take_succ_cons,
            List.append_assoc]
          rfl

/-- A line that starts with the same value in every cell. -/
theorem pending_replicate {a : α} (hdelay : 0 < line.delay) (hcursor : line.cursor = 0)
    (hcells : ∀ i < line.delay, line.cells i = a) :
    line.Pending (List.replicate line.delay a) := by
  refine ⟨List.length_replicate, by omega, fun j hj => ?_⟩
  rw [List.get_eq_getElem, List.getElem_replicate]
  exact hcells _ (Nat.mod_lt _ hdelay)

end DelayLine

end Wire
