import Mathlib.Tactic.Common

/-!
# Decoders that read a stream from the front

A decoder takes items off the front of a stream and fails or returns a value with what is
left.  Its type carries the one law every such decoder has: what it does depends only on the
items it takes.  So a decoder is a relation between values and words, `d.Decodes w a`, which
follows the decoder's own structure, and no word a decoder accepts is a proper prefix of
another one.
-/

namespace Wire

variable {ε β : Type}

/-- Where a decoder is: how many items it has taken, and those it has not. -/
structure Cursor (β : Type) where
  offset : Nat
  rest : List β

structure Decoder (ε β α : Type) where
  run : Cursor β → Except ε (α × Cursor β)
  /-- A success depends on the items it takes and on nothing else. -/
  run_ok : ∀ {c a c'}, run c = .ok (a, c') → ∃ w, c.rest = w ++ c'.rest ∧
    ∀ offset rest, run ⟨offset, w ++ rest⟩ = .ok (a, ⟨offset + w.length, rest⟩)

namespace Decoder

variable {α γ : Type}

/-- The decoder takes exactly the word `w` and returns `a`. -/
def Decodes (d : Decoder ε β α) (w : List β) (a : α) : Prop :=
  ∀ offset rest, d.run ⟨offset, w ++ rest⟩ = .ok (a, ⟨offset + w.length, rest⟩)

/-! ## The decoders there are -/

protected def pure (a : α) : Decoder ε β α where
  run c := .ok (a, c)
  run_ok := by
    rintro c a' c' h
    obtain ⟨rfl, rfl⟩ := Prod.mk.inj (Except.ok.inj h)
    exact ⟨[], rfl, fun offset rest => rfl⟩

/-- Nothing is decoded. -/
def fail (e : ε) : Decoder ε β α where
  run _ := .error e
  run_ok := nofun

protected def bind (d : Decoder ε β α) (f : α → Decoder ε β γ) : Decoder ε β γ where
  run c :=
    match d.run c with
    | .error e => .error e
    | .ok (a, c') => (f a).run c'
  run_ok := by
    rintro c b c'' h
    cases hd : d.run c with
    | error e => rw [hd] at h; cases h
    | ok ac =>
        obtain ⟨a, c'⟩ := ac
        rw [hd] at h
        obtain ⟨w, hw, hrun⟩ := d.run_ok hd
        obtain ⟨w', hw', hrun'⟩ := (f a).run_ok h
        refine ⟨w ++ w', by rw [hw, hw', List.append_assoc], fun offset rest => ?_⟩
        rw [List.append_assoc, hrun]
        dsimp only
        rw [hrun', List.length_append, Nat.add_assoc]

instance : Monad (Decoder ε β) where
  pure := Decoder.pure
  bind := Decoder.bind

/-- The next `n` items; `eof offset needed remaining` is the error if there are fewer. -/
def take (eof : Nat → Nat → Nat → ε) (n : Nat) : Decoder ε β (List β) where
  run c :=
    if c.rest.length < n then .error (eof c.offset n c.rest.length)
    else .ok (c.rest.take n, ⟨c.offset + n, c.rest.drop n⟩)
  run_ok := by
    rintro c a c' h
    split at h
    · cases h
    · next hlen =>
        obtain ⟨rfl, rfl⟩ := Prod.mk.inj (Except.ok.inj h)
        have hn : (c.rest.take n).length = n := by
          rw [List.length_take]
          omega
        refine ⟨c.rest.take n, (List.take_append_drop n c.rest).symm, fun offset rest => ?_⟩
        generalize c.rest.take n = w at hn
        subst hn
        rw [if_neg (by rw [List.length_append]; omega), List.take_left, List.drop_left]

/-! ## A decoder as a relation -/

@[simp] theorem decodes_pure {a b : α} {w : List β} :
    (pure a : Decoder ε β α).Decodes w b ↔ w = [] ∧ a = b := by
  constructor
  · intro h
    have hrun := Except.ok.inj (h 0 [])
    obtain ⟨rfl, hcursor⟩ := Prod.mk.inj hrun
    exact ⟨by simpa using congrArg Cursor.rest hcursor, rfl⟩
  · rintro ⟨rfl, rfl⟩
    exact fun offset rest => rfl

@[simp] theorem decodes_fail {e : ε} {w : List β} {a : α} :
    ¬ (fail e : Decoder ε β α).Decodes w a := by
  intro h
  cases h 0 []

theorem decodes_bind {d : Decoder ε β α} {f : α → Decoder ε β γ} {w : List β} {b : γ} :
    (d >>= f).Decodes w b ↔ ∃ w₁ w₂ a, w = w₁ ++ w₂ ∧ d.Decodes w₁ a ∧ (f a).Decodes w₂ b := by
  constructor
  · intro h
    have hrun : (d.bind f).run ⟨0, w ++ []⟩ = _ := h 0 []
    simp only [Decoder.bind] at hrun
    cases hd : d.run ⟨0, w ++ []⟩ with
    | error e => rw [hd] at hrun; cases hrun
    | ok ac =>
        obtain ⟨a, c'⟩ := ac
        rw [hd] at hrun
        obtain ⟨w₁, hw₁, hdec₁⟩ := d.run_ok hd
        obtain ⟨w₂, hw₂, hdec₂⟩ := (f a).run_ok hrun
        refine ⟨w₁, w₂, a, ?_, hdec₁, hdec₂⟩
        rw [hw₂, List.append_nil, List.append_nil] at hw₁
        exact hw₁
  · rintro ⟨w₁, w₂, a, rfl, h₁, h₂⟩ offset rest
    show (d.bind f).run _ = _
    simp only [Decoder.bind, List.append_assoc]
    rw [h₁]
    dsimp only
    rw [h₂, List.length_append, Nat.add_assoc]

theorem Decodes.bind {d : Decoder ε β α} {f : α → Decoder ε β γ} {w₁ w₂ : List β} {a : α}
    {b : γ} (h₁ : d.Decodes w₁ a) (h₂ : (f a).Decodes w₂ b) : (d >>= f).Decodes (w₁ ++ w₂) b :=
  decodes_bind.mpr ⟨w₁, w₂, a, rfl, h₁, h₂⟩

@[simp] theorem decodes_take {eof : Nat → Nat → Nat → ε} {n : Nat} {w v : List β} :
    (take eof n).Decodes w v ↔ w = v ∧ w.length = n := by
  constructor
  · intro h
    have hrun : (take eof n).run ⟨0, w ++ []⟩ = _ := h 0 []
    simp only [take, List.append_nil] at hrun
    split at hrun
    · cases hrun
    · obtain ⟨hv, hcursor⟩ := Prod.mk.inj (Except.ok.inj hrun)
      have hdrop := congrArg Cursor.rest hcursor
      have hle : w.length ≤ n := List.drop_eq_nil_iff.mp hdrop
      exact ⟨by rw [← hv, List.take_of_length_le hle], by omega⟩
  · rintro ⟨rfl, rfl⟩ offset rest
    show (if _ then _ else _) = _
    rw [if_neg (by rw [List.length_append]; omega), List.take_left, List.drop_left]

theorem decodes_ite {p : Prop} [Decidable p] {d d' : Decoder ε β α} {w : List β} {a : α} :
    (if p then d else d').Decodes w a ↔ p ∧ d.Decodes w a ∨ ¬ p ∧ d'.Decodes w a := by
  split <;> simp only [*, true_and, false_and, or_false, false_or, not_true_eq_false,
    not_false_eq_true]

/-- A run that succeeds has decoded a word, and the rest is what is left. -/
theorem run_eq_ok {d : Decoder ε β α} {c c' : Cursor β} {a : α} :
    d.run c = .ok (a, c') ↔
      ∃ w, c.rest = w ++ c'.rest ∧ c'.offset = c.offset + w.length ∧ d.Decodes w a := by
  obtain ⟨offset, bytes⟩ := c
  obtain ⟨offset', rest⟩ := c'
  constructor
  · intro h
    obtain ⟨w, hw, hdec⟩ := d.run_ok h
    dsimp only at hw
    have hrun := hdec offset rest
    rw [← hw, h] at hrun
    exact ⟨w, hw, congrArg (·.2.offset) (Except.ok.inj hrun), hdec⟩
  · rintro ⟨w, hw, hoffset, hdec⟩
    dsimp only at hw hoffset
    rw [hw, hoffset]
    exact hdec offset rest

/-- A word decodes to one value. -/
theorem Decodes.unique {d : Decoder ε β α} {w : List β} {a a' : α} (h : d.Decodes w a)
    (h' : d.Decodes w a') : a = a' := by
  have heq := (h 0 []).symm.trans (h' 0 [])
  exact (Prod.mk.inj (Except.ok.inj heq)).1

/-- No word that is decoded is a proper prefix of another one. -/
theorem Decodes.prefix_free {d : Decoder ε β α} {w w' : List β} {a a' : α}
    (h : d.Decodes w a) (h' : d.Decodes w' a') (hle : w <+: w') : w = w' := by
  obtain ⟨rest, rfl⟩ := hle
  have hlong := h' 0 []
  rw [List.append_assoc, h 0 (rest ++ [])] at hlong
  have hrest : rest = [] := by simpa using congrArg (·.2.rest) (Except.ok.inj hlong)
  rw [hrest, List.append_nil]

end Decoder

end Wire
