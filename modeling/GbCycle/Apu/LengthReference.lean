import GbCycle.Apu.Common
import GbCycle.Countdown

/-!
# What a length counter is for

A length counter silences its channel when it runs out.  It is loaded by one register, switched by
another, reloaded by a trigger that finds it empty, and counts the length steps while it is on.  A
write that switches it on, or that reloads it and leaves it on, in the half of a step after which
no length is clocked counts once more.
-/

namespace GbCycle

structure LengthReference where
  counter : Nat
  enabled : Bool
  deriving Repr, DecidableEq

/-- What an event asks of a length counter. -/
inductive LengthOp where
  | none
  | load (counter : Nat)
  | write (trigger enable nextStepClocksLength : Bool)
  | clock
  | reload
  deriving Repr, DecidableEq

namespace LengthReference

def write (r : LengthReference) (full : Nat) (trigger enable nextStepClocksLength : Bool) :
    LengthReference :=
  let reloaded : Bool := trigger && r.counter = 0
  let counter := if reloaded then full else r.counter
  if nextStepClocksLength = false ∧ enable = true ∧ (r.enabled = false ∨ reloaded = true) ∧
      counter ≠ 0 then
    { counter := if counter = 1 ∧ trigger then full - 1 else counter - 1, enabled := enable }
  else { counter, enabled := enable }

def clock (r : LengthReference) : LengthReference :=
  if r.enabled then { r with counter := r.counter - 1 } else r

def apply (r : LengthReference) (full : Nat) : LengthOp → LengthReference
  | .none => r
  | .load counter => { r with counter }
  | .write trigger enable nextStepClocksLength =>
    r.write full trigger enable nextStepClocksLength
  | .clock => r.clock
  | .reload => if r.counter = 0 then { r with counter := full } else r

/-- The counter reaches zero. -/
def RunsOut (r : LengthReference) (full : Nat) (op : LengthOp) : Prop :=
  r.counter ≠ 0 ∧ (r.apply full op).counter = 0

end LengthReference

section Law

variable {S E : Type*} (step : S → E → S) (Allowed : S → E → Prop) (length : S → LengthReference)
  (active : S → Bool) (full : Nat) (op : S → E → LengthOp)

/-- The reference beside a run. -/
def referenceRun : S → LengthReference → List E → LengthReference
  | _, r, [] => r
  | s, r, e :: es => referenceRun (step s e) (r.apply full (op s e)) es

/-- In every run the channel's counter is the reference's, and an event that concerns the length
silences an active channel exactly when the reference runs out. -/
def ObeysLengthLaw : Prop :=
  ∀ (s : S) (es : List E) (e : E), AllAllowed step Allowed s (es ++ [e]) →
    length (es.foldl step s) = referenceRun step full op s (length s) es ∧
    (op (es.foldl step s) e ≠ .none → active (es.foldl step s) = true →
      (active (step (es.foldl step s) e) = false ↔
        (referenceRun step full op s (length s) es).RunsOut full (op (es.foldl step s) e)))

variable {step Allowed length active full op}

theorem obeysLengthLaw_of_step
    (hlength : ∀ s e, Allowed s e → length (step s e) = (length s).apply full (op s e))
    (hactive : ∀ s e, Allowed s e → op s e ≠ .none → active s = true →
      (active (step s e) = false ↔ (length s).RunsOut full (op s e))) :
    ObeysLengthLaw step Allowed length active full op := by
  intro s es e hallowed
  induction es generalizing s with
  | nil => exact ⟨rfl, fun hop hon => hactive s e hallowed.1 hop hon⟩
  | cons first es ih =>
      obtain ⟨hnow, hlater⟩ := hallowed
      rw [List.foldl_cons, referenceRun, ← hlength s first hnow]
      exact ih (step s first) hlater

end Law

/-! ## The counters of the channels -/

def Nrx4WriteContext.lengthOp (context : Nrx4WriteContext) : LengthOp :=
  .write context.trigger context.lengthEnabled context.nextStepClocksLength

/-- Clocking a counter is what the reference does, and silences when it runs out. -/
theorem clockLengthCounter_eq (l : LengthCounter) (enabled : Bool) (full : Nat) :
    (clockLengthCounter enabled l).counter =
        ((⟨l.counter, enabled⟩ : LengthReference).apply full .clock).counter ∧
      (l.active = true → ((clockLengthCounter enabled l).active = false ↔
        (⟨l.counter, enabled⟩ : LengthReference).RunsOut full .clock)) := by
  unfold LengthReference.RunsOut clockLengthCounter LengthReference.apply LengthReference.clock
  dsimp only
  cases enabled with
  | false =>
      refine ⟨by simp, fun hactive => ?_⟩
      simp [hactive]
  | true =>
      by_cases hzero : l.counter = 0
      · refine ⟨by simp [hzero], fun hactive => by simp [hzero, hactive]⟩
      · refine ⟨by simp [hzero], fun hactive => ?_⟩
        simp only [hzero, hactive, Bool.not_true, Bool.false_eq_true, or_self, if_false, if_true,
          Bool.true_and, decide_eq_false_iff_not, ne_eq, Decidable.not_not, not_false_eq_true,
          true_and]
        omega

theorem shouldApplyExtraLengthClocking_iff (enabled zero was next reloaded : Bool) :
    shouldApplyExtraLengthClockingOnEnable enabled zero was next reloaded = true ↔
      next = false ∧ enabled = true ∧ (was = false ∨ reloaded = true) ∧ zero = false := by
  unfold shouldApplyExtraLengthClockingOnEnable
  cases next <;> cases enabled <;> cases zero <;> simp

/-- The extra clock of a write is the reference's, whichever way the old enable is seen after a
trigger that reloaded. -/
theorem applyExtraLengthClocking_eq (context : Nrx4WriteContext) (r : LengthReference)
    {full : Nat} (hfull : 1 < full) {reloaded wasLengthEnabled : Bool} {counter : Nat}
    (active : Bool) (hreloaded : reloaded = (context.trigger && decide (r.counter = 0)))
    (hcounter : counter = if reloaded then full else r.counter)
    (hwas : wasLengthEnabled = r.enabled ∨ reloaded = true) :
    (applyExtraLengthClocking context wasLengthEnabled reloaded full ⟨counter, active⟩).counter =
        (r.apply full context.lengthOp).counter ∧
      context.lengthEnabled = (r.apply full context.lengthOp).enabled ∧
      (active = true →
        ((applyExtraLengthClocking context wasLengthEnabled reloaded full
          ⟨counter, active⟩).active = false ↔ r.RunsOut full context.lengthOp)) := by
  have hextra : shouldApplyExtraLengthClockingOnEnable context.lengthEnabled (counter = 0)
      wasLengthEnabled context.nextStepClocksLength reloaded = true ↔
      context.nextStepClocksLength = false ∧ context.lengthEnabled = true ∧
        (r.enabled = false ∨ reloaded = true) ∧ counter ≠ 0 := by
    rw [shouldApplyExtraLengthClocking_iff, decide_eq_false_iff_not]
    rcases hwas with rfl | hreload
    · exact Iff.rfl
    · simp only [hreload, or_true, true_and]
  have happly : r.apply full context.lengthOp =
      if context.nextStepClocksLength = false ∧ context.lengthEnabled = true ∧
          (r.enabled = false ∨ reloaded = true) ∧ counter ≠ 0 then
        { counter := if counter = 1 ∧ context.trigger = true then full - 1 else counter - 1
          enabled := context.lengthEnabled }
      else { counter, enabled := context.lengthEnabled } := by
    rw [hcounter, hreloaded]
    rfl
  unfold LengthReference.RunsOut
  rw [happly]
  unfold applyExtraLengthClocking
  by_cases hclocks : context.nextStepClocksLength = false ∧ context.lengthEnabled = true ∧
      (r.enabled = false ∨ reloaded = true) ∧ counter ≠ 0
  · rw [if_pos hclocks, if_neg (by rw [hextra.mpr hclocks]; decide)]
    have hpositive := hclocks.2.2.2
    dsimp only
    by_cases hlast : counter - 1 = 0
    · have hone : counter = 1 := by omega
      rw [if_pos hlast]
      cases htrigger : context.trigger with
      | true =>
          rw [if_pos rfl, if_pos ⟨hone, rfl⟩]
          refine ⟨rfl, rfl, fun hon => ?_⟩
          exact iff_of_false (fun hoff => Bool.false_ne_true (hoff.symm.trans hon))
            (fun hout => by have hzero : full - 1 = 0 := hout.2; omega)
      | false =>
          have hkept : reloaded = false := by rw [hreloaded, htrigger, Bool.false_and]
          rw [hkept, if_neg Bool.false_ne_true] at hcounter
          rw [if_neg Bool.false_ne_true, if_neg (fun habsurd => Bool.false_ne_true habsurd.2)]
          exact ⟨rfl, rfl, fun _ => iff_of_true rfl ⟨by rw [← hcounter]; exact hpositive, hlast⟩⟩
    · rw [if_neg hlast, if_neg (fun habsurd => hlast (by omega))]
      refine ⟨rfl, rfl, fun hon => ?_⟩
      exact iff_of_false (fun hoff => Bool.false_ne_true (hoff.symm.trans hon))
        (fun hout => hlast hout.2)
  · have hnot : shouldApplyExtraLengthClockingOnEnable context.lengthEnabled (counter = 0)
        wasLengthEnabled context.nextStepClocksLength reloaded = false :=
      Bool.eq_false_iff.mpr fun habsurd => hclocks (hextra.mp habsurd)
    rw [if_neg hclocks, if_pos (by rw [hnot]; rfl)]
    refine ⟨rfl, rfl, fun hon => ?_⟩
    refine iff_of_false (fun hoff => Bool.false_ne_true (hoff.symm.trans hon)) ?_
    rintro ⟨hpositive, hzero⟩
    have hzero : counter = 0 := hzero
    rw [hcounter] at hzero
    split at hzero
    · omega
    · exact hpositive hzero

end GbCycle
