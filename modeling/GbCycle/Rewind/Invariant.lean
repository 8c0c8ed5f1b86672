import GbCycle.Rewind.Buffer

/-!
# What the rewind buffer holds over a whole run

One machine, stepped, recorded and rewound in any order.  The invariant says of the entries
that their cycles increase and never pass the machine, that the running total is the sum of
their sizes, and that the limits hold as soon as there are two of them.  Two more facts carry
it.  Every entry is a capture of some machine at the entry's cycle, so a rewind takes the
machine to that cycle.  And an entry at the machine's own cycle has the size a capture would
have now, because only a rewind comes back to a cycle and it drops what was recorded there; so
a replacement, which prunes nothing, does not push the total over its limit.
-/

namespace GbCycle

open RewindMachine

namespace MachineRewindBuffer

variable {μ : Type} [RewindMachine μ] {config : MachineRewindConfig}

/-- The sizes of some entries together. -/
def heldBytes (entries : List (MachineRewindEntry μ)) : Nat :=
  (entries.map MachineRewindEntry.estimatedBytes).sum

@[simp] theorem heldBytes_nil : heldBytes ([] : List (MachineRewindEntry μ)) = 0 := rfl

@[simp] theorem heldBytes_append (l l' : List (MachineRewindEntry μ)) :
    heldBytes (l ++ l') = heldBytes l + heldBytes l' := by
  simp [heldBytes]

@[simp] theorem heldBytes_singleton (e : MachineRewindEntry μ) :
    heldBytes [e] = e.estimatedBytes := by
  simp [heldBytes]

theorem heldBytes_cons (e : MachineRewindEntry μ) (l : List (MachineRewindEntry μ)) :
    heldBytes (e :: l) = e.estimatedBytes + heldBytes l := by
  simp [heldBytes]

theorem saturatingAdd_of_lt {w a b : Nat} (h : a + b < 2 ^ w) : saturatingAdd w a b = a + b := by
  unfold saturatingAdd
  omega

/-- Cycles increase from the oldest entry to the newest. -/
def Increasing (entries : List (MachineRewindEntry μ)) : Prop :=
  entries.Pairwise fun e e' => e.nextTCycle < e'.nextTCycle

/-- The two limits, for a buffer with entries. -/
def WithinLimits (b : MachineRewindBuffer μ) : Prop :=
  (∀ oldest ∈ b.entries.head?, ∀ newest ∈ b.entries.getLast?,
    newest.nextTCycle - oldest.nextTCycle ≤ b.config.targetHistoryTCycles) ∧
  b.estimatedBytes ≤ b.config.maxEstimatedBytes

/-! ## Dropping entries -/

theorem estimatedBytes_popFrontEvicted {b : MachineRewindBuffer μ}
    (hbytes : b.estimatedBytes = heldBytes b.entries) :
    b.popFrontEvicted.estimatedBytes = heldBytes b.popFrontEvicted.entries := by
  unfold popFrontEvicted
  split
  · exact hbytes
  · next entry rest h =>
      rw [h, heldBytes_cons] at hbytes
      show b.estimatedBytes - entry.estimatedBytes = heldBytes rest
      omega

/-- What a loop that evicts leaves: a suffix with the newest entry, the sum over it, and no
reason to go on. -/
theorem evictLoop_spec (exceeds : MachineRewindBuffer μ → Bool) (fuel : Nat)
    (b : MachineRewindBuffer μ) (hfuel : b.entries.length ≤ fuel)
    (hbytes : b.estimatedBytes = heldBytes b.entries) :
    (evictLoop exceeds fuel b).config = b.config ∧
    (evictLoop exceeds fuel b).entries <:+ b.entries ∧
    (evictLoop exceeds fuel b).entries.getLast? = b.entries.getLast? ∧
    (evictLoop exceeds fuel b).estimatedBytes = heldBytes (evictLoop exceeds fuel b).entries ∧
    ((evictLoop exceeds fuel b).entries.length ≤ 1 ∨ exceeds (evictLoop exceeds fuel b) = false) := by
  induction fuel generalizing b with
  | zero => exact ⟨rfl, List.suffix_rfl, rfl, hbytes, .inl (Nat.le_trans hfuel (by decide))⟩
  | succ fuel ih =>
      rw [evictLoop]
      by_cases hmore : 1 < b.entries.length ∧ exceeds b = true
      · rw [if_pos hmore]
        have hlength : b.popFrontEvicted.entries.length ≤ fuel := by
          rw [popFrontEvicted_entries, List.length_tail]
          omega
        obtain ⟨hconfig, hsuffix, hlast, hbytes', hdone⟩ :=
          ih b.popFrontEvicted hlength (estimatedBytes_popFrontEvicted hbytes)
        rw [popFrontEvicted_config] at hconfig
        rw [popFrontEvicted_entries] at hsuffix hlast
        refine ⟨hconfig, hsuffix.trans b.entries.tail_suffix, hlast.trans ?_, hbytes', hdone⟩
        rw [List.getLast?_tail, if_neg (by omega)]
      · rw [if_neg hmore]
        refine ⟨rfl, List.suffix_rfl, rfl, hbytes, ?_⟩
        by_cases hlength : 1 < b.entries.length
        · exact .inr (by simpa [hlength] using hmore)
        · exact .inl (by omega)

theorem evictWhile_spec (exceeds : MachineRewindBuffer μ → Bool) (b : MachineRewindBuffer μ)
    (hbytes : b.estimatedBytes = heldBytes b.entries) :
    (b.evictWhile exceeds).config = b.config ∧
    (b.evictWhile exceeds).entries <:+ b.entries ∧
    (b.evictWhile exceeds).entries.getLast? = b.entries.getLast? ∧
    (b.evictWhile exceeds).estimatedBytes = heldBytes (b.evictWhile exceeds).entries ∧
    ((b.evictWhile exceeds).entries.length ≤ 1 ∨ exceeds (b.evictWhile exceeds) = false) :=
  evictLoop_spec exceeds _ b (Nat.le_refl _) hbytes

/-- The oldest entry of a suffix is no older. -/
theorem Increasing.head_le {l l' : List (MachineRewindEntry μ)} (h : Increasing l)
    (hsuffix : l' <:+ l) {e e' : MachineRewindEntry μ} (he : l.head? = some e)
    (he' : l'.head? = some e') : e.nextTCycle ≤ e'.nextTCycle := by
  obtain ⟨rest, rfl⟩ := List.head?_eq_some_iff.mp he
  have hmem : e' ∈ e :: rest := hsuffix.mem (List.mem_of_mem_head? he')
  rcases List.mem_cons.mp hmem with rfl | hrest
  · exact Nat.le_refl _
  · exact Nat.le_of_lt ((List.pairwise_cons.mp h).1 _ hrest)

/-- The newest entry survives every prune, and the limits hold after it. -/
theorem enforceLimits_spec {b : MachineRewindBuffer μ} (hincreasing : Increasing b.entries)
    (hbytes : b.estimatedBytes = heldBytes b.entries) :
    b.enforceLimits.config = b.config ∧
    b.enforceLimits.entries <:+ b.entries ∧
    b.enforceLimits.entries.getLast? = b.entries.getLast? ∧
    b.enforceLimits.estimatedBytes = heldBytes b.enforceLimits.entries ∧
    (b.enforceLimits.entries.length ≤ 1 ∨ b.enforceLimits.WithinLimits) := by
  unfold enforceLimits
  split
  · next hempty =>
      rw [List.getLast?_eq_none_iff] at hempty
      exact ⟨rfl, List.suffix_rfl, rfl, hbytes, .inl (by simp [hempty])⟩
  · next newest hnewest =>
      obtain ⟨hconfig₁, hsuffix₁, hlast₁, hbytes₁, hdone₁⟩ :=
        evictWhile_spec (historyOver newest.nextTCycle) b hbytes
      generalize b.evictWhile (historyOver newest.nextTCycle) = b₁ at *
      obtain ⟨hconfig₂, hsuffix₂, hlast₂, hbytes₂, hdone₂⟩ := evictWhile_spec bytesOver b₁ hbytes₁
      generalize b₁.evictWhile bytesOver = b₂ at *
      refine ⟨hconfig₂.trans hconfig₁, hsuffix₂.trans hsuffix₁, hlast₂.trans hlast₁, hbytes₂, ?_⟩
      by_cases hlength : b₂.entries.length ≤ 1
      · exact .inl hlength
      have hhistory := hdone₁.resolve_left fun h =>
        hlength (Nat.le_trans hsuffix₂.length_le h)
      have hbytesOver := hdone₂.resolve_left hlength
      refine .inr ⟨fun oldest₂ holdest₂ newest₂ hnewest₂ => ?_, ?_⟩
      · -- the second loop only makes the oldest entry newer
        obtain ⟨oldest₁, holdest₁⟩ : ∃ e, b₁.entries.head? = some e := by
          cases hb₁ : b₁.entries with
          | nil => rw [hb₁] at hsuffix₂; simp [List.suffix_nil.mp hsuffix₂] at holdest₂
          | cons e rest => exact ⟨e, rfl⟩
        have hincreasing₁ : Increasing b₁.entries := hincreasing.sublist hsuffix₁.sublist
        have hle := hincreasing₁.head_le hsuffix₂ holdest₁ holdest₂
        rw [hlast₂, hlast₁, hnewest, Option.mem_some_iff] at hnewest₂
        simp only [historyOver, holdest₁, decide_eq_false_iff_not, Nat.not_lt] at hhistory
        rw [← hnewest₂, hconfig₂]
        omega
      · simpa [bytesOver] using hbytesOver

theorem estimatedBytes_popBack {b : MachineRewindBuffer μ}
    (hbytes : b.estimatedBytes = heldBytes b.entries) :
    b.popBack.estimatedBytes = heldBytes b.popBack.entries := by
  unfold popBack
  split
  · exact hbytes
  · next entry h =>
      obtain ⟨init, hinit⟩ := List.getLast?_eq_some_iff.mp h
      rw [hinit, heldBytes_append, heldBytes_singleton] at hbytes
      show b.estimatedBytes - entry.estimatedBytes = heldBytes b.entries.dropLast
      rw [hinit, List.dropLast_concat]
      omega

theorem popBackLoop_spec (len fuel : Nat) (b : MachineRewindBuffer μ)
    (hfuel : b.entries.length ≤ fuel) (hbytes : b.estimatedBytes = heldBytes b.entries) :
    (popBackLoop len fuel b).config = b.config ∧
    (popBackLoop len fuel b).entries = b.entries.take len ∧
    (popBackLoop len fuel b).estimatedBytes = heldBytes (popBackLoop len fuel b).entries := by
  induction fuel generalizing b with
  | zero =>
      have hlength : b.entries.length ≤ len := Nat.le_trans hfuel (Nat.zero_le _)
      exact ⟨rfl, (List.take_of_length_le hlength).symm, hbytes⟩
  | succ fuel ih =>
      rw [popBackLoop]
      by_cases hmore : len < b.entries.length
      · rw [if_pos hmore]
        have hlength : b.popBack.entries.length ≤ fuel := by
          rw [popBack_entries, List.length_dropLast]
          omega
        obtain ⟨hconfig, hentries, hbytes'⟩ := ih b.popBack hlength (estimatedBytes_popBack hbytes)
        rw [popBack_config] at hconfig
        refine ⟨hconfig, ?_, hbytes'⟩
        rw [hentries, popBack_entries, List.dropLast_eq_take, List.take_take]
        congr 1
        omega
      · rw [if_neg hmore]
        exact ⟨rfl, (List.take_of_length_le (by omega)).symm, hbytes⟩

theorem popBackTo_spec (len : Nat) (b : MachineRewindBuffer μ)
    (hbytes : b.estimatedBytes = heldBytes b.entries) :
    (b.popBackTo len).config = b.config ∧
    (b.popBackTo len).entries = b.entries.take len ∧
    (b.popBackTo len).estimatedBytes = heldBytes (b.popBackTo len).entries :=
  popBackLoop_spec len _ b (Nat.le_refl _) hbytes

/-! ## The invariant -/

/-- The newest entry is a capture of the machine. -/
def NewestIs (b : MachineRewindBuffer μ) (machine : μ) : Prop :=
  ∃ e, b.entries.getLast? = some e ∧ e.state = captureSaveState machine ∧
    e.nextTCycle = RewindMachine.nextTCycle machine

/-- What holds of a buffer and the machine it records. -/
structure Holds (config : MachineRewindConfig) (b : MachineRewindBuffer μ) (machine : μ) :
    Prop where
  configured : b.config = config
  captured : ∀ e ∈ b.entries, ∃ m₀, e.state = captureSaveState m₀ ∧
    e.nextTCycle = RewindMachine.nextTCycle m₀
  increasing : Increasing b.entries
  notAhead : ∀ e ∈ b.entries, e.nextTCycle ≤ RewindMachine.nextTCycle machine
  bytes : b.estimatedBytes = heldBytes b.entries
  current : ∀ e ∈ b.entries, e.nextTCycle = RewindMachine.nextTCycle machine →
    e.estimatedBytes = deepSizeBytes (captureSaveState machine)
  limits : b.entries.length ≤ 1 ∨ b.WithinLimits

/-- The other fields of the buffer do not matter. -/
theorem Holds.congr {b b' : MachineRewindBuffer μ} {machine : μ} (h : Holds config b machine)
    (hconfig : b'.config = b.config) (hentries : b'.entries = b.entries)
    (hbytes : b'.estimatedBytes = b.estimatedBytes) : Holds config b' machine := by
  obtain ⟨configured, captured, increasing, notAhead, bytes, current, limits⟩ := h
  unfold WithinLimits at limits
  rw [← hentries] at captured increasing notAhead bytes current limits
  rw [← hbytes] at bytes limits
  rw [← hconfig] at configured limits
  exact ⟨configured, captured, increasing, notAhead, bytes, current, limits⟩

theorem holds_new (config : MachineRewindConfig) (machine : μ) :
    Holds config (new config) machine where
  configured := rfl
  captured _ he := absurd he List.not_mem_nil
  increasing := .nil
  notAhead _ he := absurd he List.not_mem_nil
  bytes := rfl
  current _ he := absurd he List.not_mem_nil
  limits := .inl (Nat.zero_le _)

/-- A step leaves every entry behind. -/
theorem Holds.step {b : MachineRewindBuffer μ} {machine machine' : μ} (h : Holds config b machine)
    {input : HostInput μ} (hstep : RewindMachine.step machine input = some machine') :
    Holds config b machine' := by
  have hlt := nextTCycle_step input hstep
  refine ⟨h.configured, h.captured, h.increasing, fun e he => ?_, h.bytes, fun e he heq => ?_, h.limits⟩
  · exact Nat.le_of_lt (Nat.lt_of_le_of_lt (h.notAhead e he) hlt)
  · have hle := h.notAhead e he
    omega

/-- A capture at a new cycle is appended, and then the limits are enforced. -/
theorem Holds.pushBack {b : MachineRewindBuffer μ} {machine : μ} (h : Holds config b machine)
    (captureKind : MachineRewindCaptureKind)
    (hfits : heldBytes b.entries + deepSizeBytes (captureSaveState machine) < 2 ^ 64)
    (hnew : ∀ e ∈ b.entries, e.nextTCycle < RewindMachine.nextTCycle machine) :
    Holds config (b.pushBack (capture machine captureKind)).enforceLimits machine ∧
    (b.pushBack (capture machine captureKind)).enforceLimits.entries.getLast? =
      some (capture machine captureKind) := by
  have hcycle : (capture machine captureKind).nextTCycle = RewindMachine.nextTCycle machine :=
    metadata_capture machine
  have hbytes : (b.pushBack (capture machine captureKind)).estimatedBytes =
      heldBytes (b.pushBack (capture machine captureKind)).entries := by
    show saturatingAdd 64 b.estimatedBytes (deepSizeBytes (captureSaveState machine)) = _
    rw [h.bytes, saturatingAdd_of_lt hfits]
    show _ = heldBytes (b.entries ++ [capture machine captureKind])
    rw [heldBytes_append, heldBytes_singleton]
    rfl
  have hincreasing : Increasing (b.pushBack (capture machine captureKind)).entries := by
    refine List.pairwise_append.mpr ⟨h.increasing, List.pairwise_singleton _ _, ?_⟩
    intro e he e' he'
    rw [List.mem_singleton.mp he', hcycle]
    exact hnew e he
  obtain ⟨hconfig, hsuffix, hlast, hbytes', hlimits⟩ := enforceLimits_spec hincreasing hbytes
  have hmem : ∀ e ∈ (b.pushBack (capture machine captureKind)).enforceLimits.entries,
      e ∈ b.entries ∨ e = capture machine captureKind := fun e he => by
    simpa [MachineRewindBuffer.pushBack] using hsuffix.mem he
  refine ⟨⟨hconfig.trans h.configured, fun e he => ?_, hincreasing.sublist hsuffix.sublist, fun e he => ?_, hbytes',
    fun e he heq => ?_, hlimits⟩, hlast.trans List.getLast?_concat⟩
  · rcases hmem e he with hold | rfl
    · exact h.captured e hold
    · exact ⟨machine, rfl, hcycle⟩
  · rcases hmem e he with hold | rfl
    · exact h.notAhead e hold
    · exact Nat.le_of_eq hcycle
  · rcases hmem e he with hold | rfl
    · exact h.current e hold heq
    · rfl

/-- A capture at the cycle of the newest entry takes its place, with its size. -/
theorem Holds.replaceBack {b : MachineRewindBuffer μ} {machine : μ} {captureKind}
    {init : List (MachineRewindEntry μ)} {latest : MachineRewindEntry μ} (h : Holds config b machine)
    (hfits : heldBytes b.entries + deepSizeBytes (captureSaveState machine) < 2 ^ 64)
    (hentries : b.entries = init ++ [latest])
    (hlatest : latest.nextTCycle = RewindMachine.nextTCycle machine) :
    Holds config (b.replaceBack latest (capture machine captureKind)) machine ∧
    (b.replaceBack latest (capture machine captureKind)).NewestIs machine := by
  have hcycle : (capture machine captureKind).nextTCycle = RewindMachine.nextTCycle machine :=
    metadata_capture machine
  have hmem : latest ∈ b.entries := hentries ▸ List.mem_append_right _ (.head _)
  have hsize : latest.estimatedBytes = (capture machine captureKind).estimatedBytes :=
    h.current latest hmem hlatest
  obtain ⟨entry, hentry⟩ : ∃ e : MachineRewindEntry μ, e =
      { capture machine captureKind with
        captureKind :=
          if captureKind = .frameBoundary then .frameBoundary else latest.captureKind } :=
    ⟨_, rfl⟩
  have hnew : (b.replaceBack latest (capture machine captureKind)).entries = init ++ [entry] := by
    show b.entries.dropLast ++ [_] = _
    rw [hentries, List.dropLast_concat, hentry]
    rfl
  have hentryCycle : entry.nextTCycle = latest.nextTCycle := by rw [hentry, hlatest]; exact hcycle
  have hentrySize : entry.estimatedBytes = latest.estimatedBytes := by rw [hentry, hsize]
  have hbytes : (b.replaceBack latest (capture machine captureKind)).estimatedBytes =
      b.estimatedBytes := by
    show saturatingAdd 64 (b.estimatedBytes - latest.estimatedBytes)
      (capture machine captureKind).estimatedBytes = _
    have hheld := h.bytes
    rw [hentries, heldBytes_append, heldBytes_singleton] at hheld hfits
    rw [← hsize, saturatingAdd_of_lt (by omega)]
    omega
  have hincreasing := h.increasing
  rw [Increasing, hentries, List.pairwise_append] at hincreasing
  refine ⟨⟨h.configured, fun e he => ?_, ?_, fun e he => ?_, ?_, fun e he heq => ?_, ?_⟩,
    entry, ?_, ?_, ?_⟩
  · rw [hnew, List.mem_append, List.mem_singleton] at he
    rcases he with hold | rfl
    · exact h.captured e (hentries ▸ List.mem_append_left _ hold)
    · exact ⟨machine, by rw [hentry]; rfl, hentryCycle.trans hlatest⟩
  · rw [Increasing, hnew, List.pairwise_append]
    refine ⟨hincreasing.1, List.pairwise_singleton _ _, fun e he e' he' => ?_⟩
    rw [List.mem_singleton.mp he', hentryCycle]
    exact hincreasing.2.2 e he latest (.head _)
  · rw [hnew, List.mem_append, List.mem_singleton] at he
    rcases he with hold | rfl
    · exact h.notAhead e (hentries ▸ List.mem_append_left _ hold)
    · exact Nat.le_of_eq (hentryCycle.trans hlatest)
  · rw [hbytes, h.bytes, hnew, hentries, heldBytes_append, heldBytes_append,
      heldBytes_singleton, heldBytes_singleton, hentrySize]
  · rw [hnew, List.mem_append, List.mem_singleton] at he
    rcases he with hold | rfl
    · exact h.current e (hentries ▸ List.mem_append_left _ hold) heq
    · rw [hentry]
      rfl
  · rcases h.limits with hlength | ⟨hhistory, hmax⟩
    · left
      rw [hnew, List.length_append, List.length_singleton]
      rwa [hentries, List.length_append, List.length_singleton] at hlength
    · refine .inr ⟨fun oldest holdest newest hnewest => ?_, by rw [hbytes]; exact hmax⟩
      rw [hnew, List.getLast?_concat, Option.mem_some_iff] at hnewest
      rw [← hnewest, hentryCycle]
      rw [hnew] at holdest
      cases init with
      | nil =>
          rw [List.nil_append, List.head?_singleton, Option.mem_some_iff] at holdest
          rw [← holdest, hentryCycle, Nat.sub_self]
          exact Nat.zero_le _
      | cons first rest =>
          exact hhistory oldest (by rw [hentries]; exact holdest) latest
            (by rw [hentries, List.getLast?_concat]; rfl)
  · rw [hnew, List.getLast?_concat]
  · rw [hentry]
    rfl
  · exact hentryCycle.trans hlatest

/-- Recording keeps the invariant, and its capture is then the newest entry. -/
theorem Holds.pushCapture {b : MachineRewindBuffer μ} {machine : μ} (h : Holds config b machine)
    (captureKind : MachineRewindCaptureKind)
    (hfits : heldBytes b.entries + deepSizeBytes (captureSaveState machine) < 2 ^ 64) :
    Holds config (b.pushCapture machine captureKind).2 machine ∧
    (b.pushCapture machine captureKind).2.NewestIs machine := by
  have hcycle : (capture machine captureKind).nextTCycle = RewindMachine.nextTCycle machine :=
    metadata_capture machine
  unfold MachineRewindBuffer.pushCapture
  rcases hlast : b.entries.getLast? with _ | latest
  · have hempty := List.getLast?_eq_none_iff.mp hlast
    obtain ⟨hholds, hnewest⟩ := h.pushBack captureKind hfits
      (by rw [hempty]; exact fun e he => absurd he List.not_mem_nil)
    exact ⟨hholds, _, hnewest, rfl, hcycle⟩
  · obtain ⟨init, hentries⟩ := List.getLast?_eq_some_iff.mp hlast
    have hle : ∀ e ∈ b.entries, e.nextTCycle ≤ latest.nextTCycle := by
      intro e he
      have hincreasing := h.increasing
      rw [hentries] at he hincreasing
      rcases List.mem_append.mp he with hold | hnew
      · exact Nat.le_of_lt ((List.pairwise_append.mp hincreasing).2.2 e hold latest (.head _))
      · exact Nat.le_of_eq (congrArg _ (List.mem_singleton.mp hnew))
    have hmem : latest ∈ b.entries := hentries ▸ List.mem_append_right _ (.head _)
    have hlatest := h.notAhead latest hmem
    simp only [hcycle]
    by_cases hsame : latest.nextTCycle = RewindMachine.nextTCycle machine
    · rw [if_pos hsame]
      exact h.replaceBack hfits hentries hsame
    · rw [if_neg hsame]
      obtain ⟨hholds, hnewest⟩ := h.pushBack captureKind hfits
        fun e he => Nat.lt_of_le_of_lt (hle e he) (Nat.lt_of_le_of_ne hlatest hsame)
      exact ⟨hholds, _, hnewest, rfl, hcycle⟩

theorem Holds.recordFrameBoundary {b : MachineRewindBuffer μ} {machine : μ}
    (h : Holds config b machine)
    (hfits : heldBytes b.entries + deepSizeBytes (captureSaveState machine) < 2 ^ 64) :
    Holds config (b.recordFrameBoundary machine).2 machine ∧
    (b.recordFrameBoundary machine).2.NewestIs machine := by
  have hstart : Holds config (b.beginFrame machine) machine := h.congr rfl rfl rfl
  obtain ⟨hholds, hnewest⟩ := hstart.pushCapture .frameBoundary hfits
  unfold MachineRewindBuffer.recordFrameBoundary
  split
  · next hpush =>
      rw [hpush] at hholds hnewest
      exact ⟨hholds.congr rfl rfl rfl, hnewest⟩
  · next hpush =>
      rw [hpush] at hholds hnewest
      exact ⟨hholds, hnewest⟩

theorem Holds.recordSubframe {b : MachineRewindBuffer μ} {machine : μ} (h : Holds config b machine)
    (hfits : heldBytes b.entries + deepSizeBytes (captureSaveState machine) < 2 ^ 64) :
    Holds config (b.recordSubframe machine).2 machine ∧
    ((b.recordSubframe machine).2.entries = b.entries ∨
      (b.recordSubframe machine).2.NewestIs machine) := by
  obtain ⟨hholds, hnewest⟩ := h.pushCapture .subframe hfits
  unfold MachineRewindBuffer.recordSubframe
  by_cases hdue : b.shouldRecordSubframe (RewindMachine.nextTCycle machine) = true
  · rw [if_pos hdue]
    split
    · next hpush =>
        rw [hpush] at hholds hnewest
        exact ⟨hholds.congr rfl rfl rfl, .inr hnewest⟩
    · next hpush =>
        rw [hpush] at hholds hnewest
        exact ⟨hholds, .inr hnewest⟩
  · rw [if_neg hdue]
    exact ⟨h.congr rfl rfl rfl, .inl rfl⟩

/-- Dropping the newest entries, down to one that is left out too, keeps what the machine of
that entry needs. -/
theorem Holds.take {b : MachineRewindBuffer μ} {machine machine' : μ} (h : Holds config b machine)
    {index : Nat} {target : MachineRewindEntry μ} (htarget : b.entries[index]? = some target)
    (hmachine : RewindMachine.nextTCycle machine' = target.nextTCycle) :
    Holds config (b.popBackTo index) machine' := by
  obtain ⟨hconfig, hentries, hbytes⟩ := popBackTo_spec index b h.bytes
  have hsublist : (b.entries.take index).Sublist b.entries := List.take_sublist _ _
  have hbehind : ∀ e ∈ (b.popBackTo index).entries,
      e.nextTCycle < RewindMachine.nextTCycle machine' := by
    intro e he
    rw [hentries, List.mem_take_iff_getElem] at he
    obtain ⟨i, hi, rfl⟩ := he
    obtain ⟨hindex, rfl⟩ := List.getElem?_eq_some_iff.mp htarget
    rw [hmachine]
    exact List.pairwise_iff_getElem.mp h.increasing i index _ hindex (by omega)
  refine ⟨hconfig.trans h.configured, fun e he => ?_, ?_,
    fun e he => Nat.le_of_lt (hbehind e he), hbytes, fun e he heq => ?_, ?_⟩
  · exact h.captured e (hsublist.mem (hentries ▸ he))
  · rw [hentries]
    exact h.increasing.sublist hsublist
  · exact absurd heq (Nat.ne_of_lt (hbehind e he))
  · by_cases hlength : (b.popBackTo index).entries.length ≤ 1
    · exact .inl hlength
    rw [hentries, List.length_take] at hlength
    obtain ⟨hhistory, hmax⟩ := h.limits.resolve_left (by omega)
    refine .inr ⟨fun oldest holdest newest hnewest => ?_, ?_⟩
    · -- the newest entry left is no newer than the newest one before
      obtain ⟨latest, hlatest⟩ : ∃ e, b.entries.getLast? = some e := by
        cases hlast : b.entries.getLast? with
        | none => rw [List.getLast?_eq_none_iff.mp hlast] at hlength; simp at hlength
        | some e => exact ⟨e, rfl⟩
      rw [hentries] at holdest hnewest
      have hnewestMem := hsublist.mem (List.mem_of_mem_getLast? hnewest)
      have hle : newest.nextTCycle ≤ latest.nextTCycle := by
        obtain ⟨init, hinit⟩ := List.getLast?_eq_some_iff.mp hlatest
        have hincreasing := h.increasing
        rw [hinit] at hnewestMem hincreasing
        rcases List.mem_append.mp hnewestMem with hold | hnew
        · exact Nat.le_of_lt ((List.pairwise_append.mp hincreasing).2.2 _ hold latest (.head _))
        · exact Nat.le_of_eq (congrArg _ (List.mem_singleton.mp hnew))
      rw [List.head?_take, if_neg (by omega)] at holdest
      have hbound := hhistory oldest holdest latest hlatest
      rw [hconfig]
      omega
    · have hsum : heldBytes b.entries =
          heldBytes (b.entries.take index) + heldBytes (b.entries.drop index) := by
        rw [← heldBytes_append, List.take_append_drop]
      rw [hbytes, hentries, hconfig]
      have hheld := h.bytes
      omega

/-- A rewind drops the entry it restores and all newer ones. -/
theorem Holds.rewindOne {b : MachineRewindBuffer μ} {machine : μ} (h : Holds config b machine) :
    Holds config (b.rewindOne machine).2.2 (b.rewindOne machine).2.1 := by
  unfold MachineRewindBuffer.rewindOne
  split
  · exact h
  · next target htarget =>
      split
      · next error machine' hrestore =>
          have hsame := restoreSaveState_error (congrArg Prod.fst hrestore)
          rw [hrestore] at hsame
          obtain rfl : machine' = machine := hsame
          exact h
      · next machine' hrestore =>
          obtain ⟨m₀, hstate, hcycle⟩ := h.captured target (List.mem_of_getElem? htarget)
          rw [hstate] at hrestore
          have hmachine := (nextTCycle_restore hrestore).trans hcycle.symm
          exact (h.take htarget hmachine).congr rfl rfl rfl

end MachineRewindBuffer

/-! ## Runs -/

/-- A machine with the buffer that records it. -/
structure RewindSession (μ : Type) [RewindMachine μ] where
  machine : μ
  buffer : MachineRewindBuffer μ

inductive RewindCall (μ : Type) [RewindMachine μ] where
  | step (input : HostInput μ)
  | recordFrameBoundary
  | recordSubframe
  | rewindOne

namespace RewindSession

variable {μ : Type} [RewindMachine μ]

/-- The captures held and one more are distinct objects of one address space, whose sizes are
counted in a `usize`: where they do not fit, the copy of the machine is never made. -/
def HasRoom (s : RewindSession μ) : Prop :=
  MachineRewindBuffer.heldBytes s.buffer.entries +
    deepSizeBytes (captureSaveState s.machine) < 2 ^ 64

instance (s : RewindSession μ) : Decidable s.HasRoom := inferInstanceAs (Decidable (_ < _))

/-- One call, or nothing when the step does not return or a capture finds no room. -/
def call (s : RewindSession μ) : RewindCall μ → Option (RewindSession μ)
  | .step input => (RewindMachine.step s.machine input).map fun machine => { s with machine }
  | .recordFrameBoundary =>
      if s.HasRoom then some { s with buffer := (s.buffer.recordFrameBoundary s.machine).2 }
      else none
  | .recordSubframe =>
      if s.HasRoom then some { s with buffer := (s.buffer.recordSubframe s.machine).2 }
      else none
  | .rewindOne =>
      let (_, machine, buffer) := s.buffer.rewindOne s.machine
      some { machine, buffer }

def run (s : RewindSession μ) : List (RewindCall μ) → Option (RewindSession μ)
  | [] => some s
  | c :: calls => (s.call c).bind fun s' => s'.run calls

theorem holds_call {config : MachineRewindConfig} {s s' : RewindSession μ} {c : RewindCall μ}
    (h : s.buffer.Holds config s.machine) (hcall : s.call c = some s') :
    s'.buffer.Holds config s'.machine := by
  cases c with
  | step input =>
      obtain ⟨machine, hstep, rfl⟩ := Option.map_eq_some_iff.mp hcall
      exact h.step hstep
  | recordFrameBoundary =>
      by_cases hroom : s.HasRoom
      · rw [call, if_pos hroom, Option.some.injEq] at hcall
        rw [← hcall]
        exact (h.recordFrameBoundary hroom).1
      · rw [call, if_neg hroom] at hcall
        cases hcall
  | recordSubframe =>
      by_cases hroom : s.HasRoom
      · rw [call, if_pos hroom, Option.some.injEq] at hcall
        rw [← hcall]
        exact (h.recordSubframe hroom).1
      · rw [call, if_neg hroom] at hcall
        cases hcall
  | rewindOne =>
      cases hcall
      exact h.rewindOne

theorem holds_run {config : MachineRewindConfig} {s s' : RewindSession μ}
    {calls : List (RewindCall μ)} (h : s.buffer.Holds config s.machine)
    (hrun : s.run calls = some s') : s'.buffer.Holds config s'.machine := by
  induction calls generalizing s with
  | nil =>
      cases hrun
      exact h
  | cons c calls ih =>
      obtain ⟨s₁, hcall, hrest⟩ := Option.bind_eq_some_iff.mp hrun
      exact ih (holds_call h hcall) hrest

/-- After any calls the cycles of the entries increase and do not pass the machine, the total
is the sum of their sizes, and with two entries or more both limits hold.  A capture of the
machine, whatever it prunes, is then the newest entry. -/
theorem rewindBuffer_invariant (config : MachineRewindConfig) (machine : μ)
    (calls : List (RewindCall μ)) (s : RewindSession μ)
    (hrun : run { machine, buffer := .new config } calls = some s) :
    s.buffer.entries.Pairwise (fun e e' => e.nextTCycle < e'.nextTCycle) ∧
    (∀ e ∈ s.buffer.entries, e.nextTCycle ≤ nextTCycle s.machine) ∧
    s.buffer.estimatedBytes = (s.buffer.entries.map (·.estimatedBytes)).sum ∧
    (s.buffer.entries.length ≤ 1 ∨
      (∀ oldest ∈ s.buffer.entries.head?, ∀ newest ∈ s.buffer.entries.getLast?,
        newest.nextTCycle - oldest.nextTCycle ≤ config.targetHistoryTCycles) ∧
      s.buffer.estimatedBytes ≤ config.maxEstimatedBytes) ∧
    (∀ s', s.call .recordFrameBoundary = some s' → s'.buffer.NewestIs s.machine) ∧
    (∀ s', s.call .recordSubframe = some s' →
      s'.buffer.entries = s.buffer.entries ∨ s'.buffer.NewestIs s.machine) := by
  have h := holds_run (MachineRewindBuffer.holds_new config machine) hrun
  refine ⟨h.increasing, h.notAhead, h.bytes, ?_, fun s' hcall => ?_, fun s' hcall => ?_⟩
  · have hlimits := h.limits
    rw [MachineRewindBuffer.WithinLimits, h.configured] at hlimits
    exact hlimits
  · by_cases hroom : s.HasRoom
    · rw [call, if_pos hroom, Option.some.injEq] at hcall
      rw [← hcall]
      exact (h.recordFrameBoundary hroom).2
    · rw [call, if_neg hroom] at hcall
      cases hcall
  · by_cases hroom : s.HasRoom
    · rw [call, if_pos hroom, Option.some.injEq] at hcall
      rw [← hcall]
      exact (h.recordSubframe hroom).2
    · rw [call, if_neg hroom] at hcall
      cases hcall

end RewindSession

/-! A machine that is nothing but its cycle, recorded twice in one frame, rewound and recorded
again. -/

instance : RewindMachine Nat where
  SaveState := Nat
  RestoreError := Empty
  HostInput := Unit
  nextTCycle := id
  step m _ := some (m + 1)
  captureSaveState := id
  validateSaveStateMetadata _ _ := .ok ()
  validateCartridgeSaveState _ _ := .ok ()
  writeSaveState _ state := state
  metadataNextTCycle := id
  deepSizeBytes _ := 8
  nextTCycle_step _ h := Option.some.inj h ▸ Nat.lt_succ_self _
  metadata_capture _ := rfl
  nextTCycle_write _ _ := rfl

theorem RewindSession.rewindBuffer_invariant_counter :
    let config : MachineRewindConfig :=
      { targetHistoryTCycles := 100, maxEstimatedBytes := 20, subframeCadence := .everyTCycles 1 }
    ∃ s : RewindSession Nat,
      RewindSession.run { machine := 0, buffer := .new config }
        [.recordFrameBoundary, .step (), .recordSubframe, .step (), .rewindOne, .step (),
          .recordSubframe] = some s ∧
      s.buffer.entries.map (·.nextTCycle) = [0, 2] ∧
      s.buffer.estimatedBytes = (s.buffer.entries.map (·.estimatedBytes)).sum := by
  intro config
  have hcycles : (RewindSession.run { machine := 0, buffer := .new config }
      [.recordFrameBoundary, .step (), .recordSubframe, .step (), .rewindOne, .step (),
        .recordSubframe]).map (fun s => s.buffer.entries.map (·.nextTCycle)) = some [0, 2] := by
    decide +kernel
  obtain ⟨s, hs, hentries⟩ := Option.map_eq_some_iff.mp hcycles
  exact ⟨s, hs, hentries, (RewindSession.rewindBuffer_invariant config 0 _ s hs).2.2.1⟩

end GbCycle
