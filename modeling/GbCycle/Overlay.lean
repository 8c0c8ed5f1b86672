/-!
# Overlays

An overlay assigns a value to some cells and leaves the others alone.  Of several overlays in
order the last one that covers a cell decides about it.  A step on some state paints an overlay
where it keeps the state's invariant and changes what is seen of it by the overlay; steps in a
row, and the steps of a loop, paint their overlays over one another.
-/

namespace Overlay

variable {ι α β σ : Type}

/-- The last of some overlays that covers a cell. -/
def last (os : List (ι → Option α)) : ι → Option α := fun i => os.reverse.findSome? fun o => o i

@[simp] theorem last_nil (i : ι) : last ([] : List (ι → Option α)) i = none := rfl

theorem last_append (os os' : List (ι → Option α)) (i : ι) :
    last (os ++ os') i = (last os' i).or (last os i) := by
  unfold last
  rw [List.reverse_append, List.findSome?_append]

@[simp] theorem last_singleton (o : ι → Option α) : last [o] = o := by
  funext i
  unfold last
  rw [List.reverse_singleton, List.findSome?_singleton]

theorem last_cons (o : ι → Option α) (os : List (ι → Option α)) (i : ι) :
    last (o :: os) i = (last os i).or (o i) := by
  rw [← List.singleton_append, last_append, last_singleton]

/-- A cell that is covered by no overlay. -/
theorem last_eq_none {os : List (ι → Option α)} {i : ι} (h : ∀ o ∈ os, o i = none) :
    last os i = none := by
  unfold last
  rw [List.findSome?_eq_none_iff]
  intro o ho
  exact h o (List.mem_reverse.mp ho)

/-- A cell that is covered by one overlay of a loop at most. -/
theorem last_map_of_unique {xs : List β} {o : β → ι → Option α} {i : ι} {x : β} (hx : x ∈ xs)
    (hunique : ∀ y ∈ xs, y ≠ x → o y i = none) : last (xs.map o) i = o x i := by
  induction xs with
  | nil => cases hx
  | cons y xs ih =>
      rw [List.map_cons, last_cons]
      by_cases hmem : x ∈ xs
      · rw [ih hmem fun z hz => hunique z (List.mem_cons_of_mem _ hz)]
        by_cases hyx : y = x
        · rw [hyx, Option.or_self]
        · rw [hunique y List.mem_cons_self hyx, Option.or_none]
      · obtain rfl := (List.mem_cons.mp hx).resolve_right hmem
        rw [last_eq_none, Option.none_or]
        intro o' ho'
        obtain ⟨z, hz, rfl⟩ := List.mem_map.mp ho'
        refine hunique z (List.mem_cons_of_mem _ hz) ?_
        rintro rfl
        exact hmem hz

/-! ## Painting -/

/-- What is seen once an overlay is laid over it. -/
def paint (o : ι → Option α) (f : ι → α) : ι → α := fun i => (o i).getD (f i)

theorem paint_paint (o o' : ι → Option α) (f : ι → α) :
    paint o' (paint o f) = paint (fun i => (o' i).or (o i)) f := by
  funext i
  show (o' i).getD ((o i).getD (f i)) = ((o' i).or (o i)).getD (f i)
  cases o' i <;> rfl

theorem paint_last_append (os os' : List (ι → Option α)) (f : ι → α) :
    paint (last (os ++ os')) f = paint (last os') (paint (last os) f) := by
  rw [paint_paint]
  congr 1
  funext i
  exact last_append os os' i

/-- The step keeps the invariant and changes what is seen by the overlay. -/
def Paints (inv : σ → Prop) (view : σ → ι → α) (step : σ → Option σ) (o : ι → Option α) : Prop :=
  ∀ s, inv s → ∃ s', step s = some s' ∧ inv s' ∧ view s' = paint o (view s)

variable {inv : σ → Prop} {view : σ → ι → α} {step next : σ → Option σ} {o o' : ι → Option α}

theorem Paints.congr (h : Paints inv view step o) (heq : ∀ i, o i = o' i) :
    Paints inv view step o' := by
  obtain rfl : o = o' := funext heq
  exact h

/-- A step that does nothing. -/
theorem paints_skip : Paints inv view some fun _ => none := fun s hs => ⟨s, rfl, hs, rfl⟩

theorem Paints.bind (h : Paints inv view step o) (h' : Paints inv view next o') :
    Paints inv view (fun s => (step s).bind next) fun i => (o' i).or (o i) := by
  intro s hs
  obtain ⟨s₁, hstep, hs₁, hview₁⟩ := h s hs
  obtain ⟨s₂, hnext, hs₂, hview₂⟩ := h' s₁ hs₁
  refine ⟨s₂, ?_, hs₂, ?_⟩
  · show (step s).bind next = some s₂
    rw [hstep]
    exact hnext
  · rw [hview₂, hview₁, paint_paint]

/-- A step that is taken under a condition. -/
theorem Paints.ite {c : Prop} [Decidable c] (h : c → Paints inv view step o) :
    Paints inv view (fun s => if c then step s else some s) fun i => if c then o i else none := by
  by_cases hc : c
  · simp only [if_pos hc]
    exact h hc
  · simp only [if_neg hc]
    exact paints_skip

/-- The steps of a loop. -/
theorem Paints.foldlM {step : σ → β → Option σ} {o : β → ι → Option α} {xs : List β}
    (h : ∀ x ∈ xs, Paints inv view (fun s => step s x) (o x)) :
    Paints inv view (fun s => xs.foldlM step s) (last (xs.map o)) := by
  induction xs with
  | nil => exact paints_skip
  | cons x xs ih =>
      have hrest := ih fun y hy => h y (List.mem_cons_of_mem _ hy)
      refine ((h x List.mem_cons_self).bind hrest).congr fun i => ?_
      rw [List.map_cons, last_cons]

end Overlay
