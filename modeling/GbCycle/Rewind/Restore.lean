import Mathlib.Data.List.Induction
import GbCycle.Rewind.Invariant
import GbCycle.Rewind.Machine

/-!
# What a rewind restores

Of a buffer that has only been recorded and rewound, `rewind_one` looks at no more than the
newest entry and the one before it, and that is enough: the cycles increase and do not pass the
machine, so at most the newest entry is at the machine's own cycle, and all others are older.
The entry that is restored is therefore the latest one that is strictly older than the machine.

There is one case in which none is older and something is restored all the same: a buffer with a
single entry, taken at the machine's own cycle.  The source skips the present state only when
there is another entry to go back to.
-/

namespace GbCycle

open RewindMachine

namespace MachineRewindBuffer

variable {μ : Type} [RewindMachine μ] {config : MachineRewindConfig}

/-- The entries that are strictly older than the machine. -/
def older (b : MachineRewindBuffer μ) (machine : μ) : List (MachineRewindEntry μ) :=
  b.entries.filter fun e => e.nextTCycle < RewindMachine.nextTCycle machine

theorem older_eq_of_forall {l : List (MachineRewindEntry μ)} {now : Nat}
    (h : ∀ e ∈ l, e.nextTCycle < now) : l.filter (fun e => e.nextTCycle < now) = l := by
  rw [List.filter_eq_self]
  intro e he
  exact decide_eq_true (h e he)

/-- At most the newest entry is at the machine's own cycle. -/
theorem Holds.entries_eq_older {b : MachineRewindBuffer μ} {machine : μ}
    (h : Holds config b machine) :
    b.entries = b.older machine ∨
    ∃ current, b.entries = b.older machine ++ [current] ∧
      current.nextTCycle = RewindMachine.nextTCycle machine := by
  rcases hlast : b.entries.getLast? with _ | newest
  · have hempty := List.getLast?_eq_none_iff.mp hlast
    left
    rw [older, hempty, List.filter_nil]
  obtain ⟨init, hinit⟩ := List.getLast?_eq_some_iff.mp hlast
  have hincreasing := h.increasing
  rw [hinit] at hincreasing
  have hinitOlder : ∀ e ∈ init, e.nextTCycle < newest.nextTCycle := fun e he =>
    (List.pairwise_append.mp hincreasing).2.2 e he newest (.head _)
  have hnewest : newest.nextTCycle ≤ RewindMachine.nextTCycle machine :=
    h.notAhead newest (hinit ▸ List.mem_append_right _ (.head _))
  rcases Nat.lt_or_eq_of_le hnewest with hlt | heq
  · left
    refine (older_eq_of_forall fun e he => ?_).symm
    rw [hinit, List.mem_append, List.mem_singleton] at he
    rcases he with hold | rfl
    · exact Nat.lt_trans (hinitOlder e hold) hlt
    · exact hlt
  · right
    refine ⟨newest, ?_, heq⟩
    rw [older, hinit, List.filter_append, older_eq_of_forall fun e he => heq ▸ hinitOlder e he,
      List.filter_cons_of_neg (by simp [heq]), List.filter_nil, List.append_nil]

/-! ## The entry that is restored -/

/-- The index of the latest older entry, when there is one. -/
theorem Holds.targetIndex_older {b : MachineRewindBuffer μ} {machine : μ}
    (h : Holds config b machine) (holder : b.older machine ≠ []) :
    b.targetIndex machine = (b.older machine).length - 1 := by
  have hpos : 0 < (b.older machine).length := List.length_pos_of_ne_nil holder
  rcases h.entries_eq_older with hall | ⟨current, hentries, hcurrent⟩
  · have hlast : b.entries.getLast?.map MachineRewindEntry.nextTCycle ≠
        some (RewindMachine.nextTCycle machine) := by
      intro heq
      obtain ⟨newest, hnewest, hcycle⟩ := Option.map_eq_some_iff.mp heq
      have hmem := List.mem_of_mem_getLast? hnewest
      rw [hall, older, List.mem_filter, decide_eq_true_eq] at hmem
      exact absurd hcycle (Nat.ne_of_lt hmem.2)
    rw [targetIndex, if_neg fun hskip => hlast hskip.2, ← hall]
  · rw [targetIndex, hentries, List.getLast?_concat, Option.map_some, hcurrent,
      List.length_append, List.length_singleton, if_pos ⟨by omega, rfl⟩]
    omega

/-- The latest older entry is the one `rewind_one` picks. -/
theorem Holds.getElem?_targetIndex {b : MachineRewindBuffer μ} {machine : μ}
    (h : Holds config b machine) {target : MachineRewindEntry μ}
    (htarget : (b.older machine).getLast? = some target) :
    b.entries[b.targetIndex machine]? = some target ∧
    b.entries.take (b.targetIndex machine) = (b.older machine).dropLast := by
  have hne : b.older machine ≠ [] := by
    intro hempty
    rw [hempty] at htarget
    cases htarget
  have hpos : 0 < (b.older machine).length := List.length_pos_of_ne_nil hne
  have hindex := h.targetIndex_older hne
  have hprefix : b.older machine <+: b.entries := by
    rcases h.entries_eq_older with hall | ⟨current, hentries, -⟩
    · exact ⟨[], (List.append_nil _).trans hall.symm⟩
    · exact ⟨[current], hentries.symm⟩
  obtain ⟨rest, hrest⟩ := hprefix
  rw [hindex, ← hrest, List.getElem?_append_left (by omega), List.take_append_of_le_length (by omega),
    ← List.dropLast_eq_take, ← List.getLast?_eq_getElem?]
  exact ⟨htarget, rfl⟩

/-- With no older entry there is at most one entry, at the machine's own cycle. -/
theorem Holds.entries_of_not_older {b : MachineRewindBuffer μ} {machine : μ}
    (h : Holds config b machine) (holder : b.older machine = []) {current : MachineRewindEntry μ}
    (hcurrent : b.entries.getLast? = some current) :
    b.entries = [current] ∧ current.nextTCycle = RewindMachine.nextTCycle machine := by
  rcases h.entries_eq_older with hall | ⟨e, hentries, hcycle⟩
  · rw [hall, holder] at hcurrent
    cases hcurrent
  · rw [holder, List.nil_append] at hentries
    rw [hentries, List.getLast?_singleton, Option.some.injEq] at hcurrent
    subst hcurrent
    exact ⟨hentries, hcycle⟩

/-! ## The call -/

/-- A restore that fails loses nothing. -/
theorem rewindOne_error {b : MachineRewindBuffer μ} {machine : μ} {target : MachineRewindEntry μ}
    {error : RestoreError μ} (htarget : b.entries[b.targetIndex machine]? = some target)
    (hrestore : (restoreSaveState machine target.state).1 = .error error) :
    b.rewindOne machine = (.error error, machine, b) := by
  have hresult : restoreSaveState machine target.state = (.error error, machine) :=
    Prod.ext hrestore (restoreSaveState_error hrestore)
  unfold rewindOne
  simp only [htarget, hresult]

/-- A restore that succeeds drops the entry and all newer ones, and counts the bytes that are
left. -/
theorem Holds.rewindOne_ok {b : MachineRewindBuffer μ} {machine machine' : μ}
    {target : MachineRewindEntry μ} (h : Holds config b machine)
    (htarget : b.entries[b.targetIndex machine]? = some target)
    (hrestore : restoreSaveState machine target.state = (.ok (), machine')) :
    ∃ b', b.rewindOne machine =
      (.ok (some
        { captureKind := target.captureKind
          restoredNextTCycle := target.nextTCycle
          estimatedBytes := target.estimatedBytes
          remainingSnapshots := b.targetIndex machine }), machine', b') ∧
      b'.entries = b.entries.take (b.targetIndex machine) ∧
      b'.estimatedBytes = heldBytes b'.entries ∧
      RewindMachine.nextTCycle machine' = target.nextTCycle := by
  obtain ⟨m₀, hstate, hcycle⟩ := h.captured target (List.mem_of_getElem? htarget)
  obtain ⟨-, hentries, hbytes⟩ := popBackTo_spec (b.targetIndex machine) b h.bytes
  have hlands : RewindMachine.nextTCycle machine' = target.nextTCycle := by
    rw [hstate] at hrestore
    exact (nextTCycle_restore hrestore).trans hcycle.symm
  refine ⟨(b.rewindOne machine).2.2, ?_, ?_, ?_, hlands⟩
  · unfold MachineRewindBuffer.rewindOne
    simp only [htarget, hrestore]
  · unfold MachineRewindBuffer.rewindOne
    simp only [htarget, hrestore]
    exact hentries
  · unfold MachineRewindBuffer.rewindOne
    simp only [htarget, hrestore]
    exact hbytes

/-- Whatever a successful rewind restores was held, and only what is older than it is left. -/
theorem Holds.rewindOne_some {b b' : MachineRewindBuffer μ} {machine machine' : μ}
    {restored : MachineRewindRestore} (h : Holds config b machine)
    (hrewind : b.rewindOne machine = (.ok (some restored), machine', b')) :
    ∃ target ∈ b.entries, restoreSaveState machine target.state = (.ok (), machine') ∧
      RewindMachine.nextTCycle machine' = target.nextTCycle ∧
      b'.entries.Sublist b.entries ∧
      ∀ e ∈ b'.entries, e.nextTCycle < RewindMachine.nextTCycle machine' := by
  rcases htarget : b.entries[b.targetIndex machine]? with _ | target
  · rw [MachineRewindBuffer.rewindOne, htarget] at hrewind
    cases hrewind
  rcases hrestore : restoreSaveState machine target.state with ⟨error | _, machine₁⟩
  · rw [rewindOne_error htarget (congrArg Prod.fst hrestore)] at hrewind
    cases hrewind
  obtain ⟨b₁, hcall, hentries, -, hlands⟩ := h.rewindOne_ok htarget hrestore
  rw [hcall] at hrewind
  cases hrewind
  refine ⟨target, List.mem_of_getElem? htarget, hrestore, hlands, ?_, fun e he => ?_⟩
  · rw [hentries]
    exact List.take_sublist _ _
  · rw [hentries, List.mem_take_iff_getElem] at he
    obtain ⟨i, hi, rfl⟩ := he
    obtain ⟨hindex, rfl⟩ := List.getElem?_eq_some_iff.mp htarget
    rw [hlands]
    exact List.pairwise_iff_getElem.mp h.increasing i _ _ hindex (by omega)

end MachineRewindBuffer

namespace RewindSession

variable {μ : Type} [RewindMachine μ]

/-! ## Rewinding again and again -/

/-- The sessions after each of `n` rewinds that all restore something. -/
def rewindTimes : Nat → RewindSession μ → Option (List (RewindSession μ))
  | 0, _ => some []
  | n + 1, s =>
      match s.buffer.rewindOne s.machine with
      | (.ok (some _), machine, buffer) =>
          (rewindTimes n { machine, buffer }).map ({ machine, buffer } :: ·)
      | _ => none

/-- Each rewind after the first lands before the one before it, on an entry held at the
start. -/
theorem rewindTimes_decreasing {config : MachineRewindConfig} (n : Nat) (s : RewindSession μ)
    (h : s.buffer.Holds config s.machine) (landings : List (RewindSession μ))
    (hrewinds : s.rewindTimes n = some landings) :
    landings.Pairwise (fun s₁ s₂ => nextTCycle s₂.machine < nextTCycle s₁.machine) ∧
    ∀ s' ∈ landings, ∃ e ∈ s.buffer.entries, nextTCycle s'.machine = e.nextTCycle ∧
      ∃ m, restoreSaveState m e.state = (.ok (), s'.machine) := by
  induction n generalizing s landings with
  | zero =>
      cases hrewinds
      exact ⟨.nil, fun _ hs' => absurd hs' List.not_mem_nil⟩
  | succ n ih =>
      rw [rewindTimes] at hrewinds
      split at hrewinds
      · next restored machine buffer hrewind =>
          obtain ⟨rest, hrest, rfl⟩ := Option.map_eq_some_iff.mp hrewinds
          obtain ⟨target, htarget, hrestore, hlands, hsublist, hbelow⟩ := h.rewindOne_some hrewind
          have h' : buffer.Holds config machine := by
            have hkept := h.rewindOne
            rw [hrewind] at hkept
            exact hkept
          obtain ⟨hdecreasing, hheld⟩ := ih { machine, buffer } h' rest hrest
          refine ⟨List.pairwise_cons.mpr ⟨fun s' hs' => ?_, hdecreasing⟩, fun s' hs' => ?_⟩
          · obtain ⟨e, he, hcycle, -⟩ := hheld s' hs'
            rw [hcycle]
            exact hbelow e he
          · rcases List.mem_cons.mp hs' with rfl | hlater
            · exact ⟨target, htarget, hlands, s.machine, hrestore⟩
            · obtain ⟨e, he, hcycle, hrestored⟩ := hheld s' hlater
              exact ⟨e, hsublist.mem he, hcycle, hrestored⟩
      · cases hrewinds

/-! ## Every entry was captured in the run -/

/-- The entry is the capture that some recording call of the run made. -/
def CapturedIn (s₀ : RewindSession μ) (calls : List (RewindCall μ)) (e : MachineRewindEntry μ) :
    Prop :=
  ∃ before call s₁, before ++ [call] <+: calls ∧
    (call = .recordFrameBoundary ∨ call = .recordSubframe) ∧ s₀.run before = some s₁ ∧
    e.state = captureSaveState s₁.machine ∧ e.nextTCycle = nextTCycle s₁.machine

theorem CapturedIn.append {s₀ : RewindSession μ} {calls : List (RewindCall μ)}
    {e : MachineRewindEntry μ} (h : CapturedIn s₀ calls e) (later : List (RewindCall μ)) :
    CapturedIn s₀ (calls ++ later) e := by
  obtain ⟨before, call, s₁, hprefix, hrest⟩ := h
  exact ⟨before, call, s₁, hprefix.trans (List.prefix_append _ _), hrest⟩

end RewindSession

namespace MachineRewindBuffer

variable {μ : Type} [RewindMachine μ]

theorem evictLoop_suffix (exceeds : MachineRewindBuffer μ → Bool) (fuel : Nat)
    (b : MachineRewindBuffer μ) : (evictLoop exceeds fuel b).entries <:+ b.entries := by
  induction fuel generalizing b with
  | zero => exact List.suffix_rfl
  | succ fuel ih =>
      rw [evictLoop]
      split
      · have hsuffix := ih b.popFrontEvicted
        rw [popFrontEvicted_entries] at hsuffix
        exact hsuffix.trans b.entries.tail_suffix
      · exact List.suffix_rfl

theorem enforceLimits_suffix (b : MachineRewindBuffer μ) :
    b.enforceLimits.entries <:+ b.entries := by
  unfold enforceLimits
  split
  · exact List.suffix_rfl
  · exact (evictLoop_suffix _ _ _).trans (evictLoop_suffix _ _ _)

/-- What recording adds is a capture of the machine. -/
theorem mem_pushCapture {b : MachineRewindBuffer μ} {machine : μ}
    {captureKind : MachineRewindCaptureKind} {e : MachineRewindEntry μ}
    (he : e ∈ (b.pushCapture machine captureKind).2.entries) :
    e ∈ b.entries ∨ e.state = captureSaveState machine ∧
      e.nextTCycle = RewindMachine.nextTCycle machine := by
  have hcycle : (capture machine captureKind).nextTCycle = RewindMachine.nextTCycle machine :=
    metadata_capture machine
  have hpush : e ∈ (b.pushBack (capture machine captureKind)).enforceLimits.entries →
      e ∈ b.entries ∨ e.state = captureSaveState machine ∧
        e.nextTCycle = RewindMachine.nextTCycle machine := by
    intro hmem
    rcases List.mem_append.mp ((enforceLimits_suffix _).mem hmem) with hold | hnew
    · exact .inl hold
    · rw [List.mem_singleton.mp hnew]
      exact .inr ⟨rfl, hcycle⟩
  unfold pushCapture at he
  split at he
  · exact hpush he
  · next latest hlatest =>
      dsimp only at he
      by_cases hsame : latest.nextTCycle = (capture machine captureKind).nextTCycle
      · rw [if_pos hsame] at he
        rcases List.mem_append.mp he with hold | hnew
        · exact .inl (b.entries.dropLast_sublist.mem hold)
        · rw [List.mem_singleton.mp hnew]
          exact .inr ⟨rfl, hcycle⟩
      · rw [if_neg hsame] at he
        exact hpush he

theorem mem_recordFrameBoundary {b : MachineRewindBuffer μ} {machine : μ}
    {e : MachineRewindEntry μ} (he : e ∈ (b.recordFrameBoundary machine).2.entries) :
    e ∈ b.entries ∨ e.state = captureSaveState machine ∧
      e.nextTCycle = RewindMachine.nextTCycle machine := by
  have hpush : e ∈ ((b.beginFrame machine).pushCapture machine .frameBoundary).2.entries := by
    unfold recordFrameBoundary at he
    split at he
    · next hpush =>
        rw [hpush]
        exact he
    · next hpush =>
        rw [hpush]
        exact he
  have hmem := mem_pushCapture hpush
  exact hmem

theorem mem_recordSubframe {b : MachineRewindBuffer μ} {machine : μ}
    {e : MachineRewindEntry μ} (he : e ∈ (b.recordSubframe machine).2.entries) :
    e ∈ b.entries ∨ e.state = captureSaveState machine ∧
      e.nextTCycle = RewindMachine.nextTCycle machine := by
  unfold recordSubframe at he
  by_cases hdue : b.shouldRecordSubframe (RewindMachine.nextTCycle machine) = true
  · rw [if_pos hdue] at he
    refine mem_pushCapture (?_ : e ∈ (b.pushCapture machine .subframe).2.entries)
    split at he
    · next hpush =>
        rw [hpush]
        exact he
    · next hpush =>
        rw [hpush]
        exact he
  · rw [if_neg hdue] at he
    exact .inl he

theorem popBackLoop_keeps_front (len fuel : Nat) (b : MachineRewindBuffer μ) :
    (popBackLoop len fuel b).entries <+: b.entries := by
  induction fuel generalizing b with
  | zero => exact List.prefix_rfl
  | succ fuel ih =>
      rw [popBackLoop]
      split
      · have hprefix := ih b.popBack
        rw [popBack_entries] at hprefix
        exact hprefix.trans b.entries.dropLast_prefix
      · exact List.prefix_rfl

theorem mem_rewindOne {b : MachineRewindBuffer μ} {machine : μ} {e : MachineRewindEntry μ}
    (he : e ∈ (b.rewindOne machine).2.2.entries) : e ∈ b.entries := by
  unfold rewindOne at he
  split at he
  · exact he
  · split at he
    · exact he
    · exact (popBackLoop_keeps_front _ _ b).mem he

end MachineRewindBuffer

namespace RewindSession

variable {μ : Type} [RewindMachine μ]

/-- A call leaves entries that were there, or the capture it makes. -/
theorem mem_call {s s' : RewindSession μ} {c : RewindCall μ} (hcall : s.call c = some s')
    {e : MachineRewindEntry μ} (he : e ∈ s'.buffer.entries) :
    e ∈ s.buffer.entries ∨ (c = .recordFrameBoundary ∨ c = .recordSubframe) ∧
      e.state = captureSaveState s.machine ∧ e.nextTCycle = nextTCycle s.machine := by
  cases c with
  | step input =>
      obtain ⟨machine, -, rfl⟩ := Option.map_eq_some_iff.mp hcall
      exact .inl he
  | recordFrameBoundary =>
      by_cases hroom : s.HasRoom
      · rw [call, if_pos hroom, Option.some.injEq] at hcall
        rw [← hcall] at he
        exact (MachineRewindBuffer.mem_recordFrameBoundary he).imp_right (⟨.inl rfl, ·⟩)
      · rw [call, if_neg hroom] at hcall
        cases hcall
  | recordSubframe =>
      by_cases hroom : s.HasRoom
      · rw [call, if_pos hroom, Option.some.injEq] at hcall
        rw [← hcall] at he
        exact (MachineRewindBuffer.mem_recordSubframe he).imp_right (⟨.inr rfl, ·⟩)
      · rw [call, if_neg hroom] at hcall
        cases hcall
  | rewindOne =>
      cases hcall
      exact .inl (MachineRewindBuffer.mem_rewindOne he)

theorem run_append (s : RewindSession μ) (calls later : List (RewindCall μ)) :
    s.run (calls ++ later) = (s.run calls).bind fun s' => s'.run later := by
  induction calls generalizing s with
  | nil => rfl
  | cons c calls ih =>
      rw [List.cons_append, run, run, Option.bind_assoc]
      congr 1
      funext s'
      exact ih s'

/-- A run from an empty buffer holds only captures of its own. -/
theorem capturedIn_run {s₀ s : RewindSession μ} (hempty : s₀.buffer.entries = [])
    (calls : List (RewindCall μ)) (hrun : s₀.run calls = some s) :
    ∀ e ∈ s.buffer.entries, CapturedIn s₀ calls e := by
  induction calls using List.reverseRecOn generalizing s with
  | nil =>
      cases hrun
      rw [hempty]
      exact fun e he => absurd he List.not_mem_nil
  | append_singleton calls c ih =>
      rw [run_append] at hrun
      obtain ⟨s₁, hbefore, hlast⟩ := Option.bind_eq_some_iff.mp hrun
      obtain ⟨s₂, hcall, hdone⟩ := Option.bind_eq_some_iff.mp hlast
      cases hdone
      intro e he
      rcases mem_call hcall he with hold | ⟨hrecord, hstate, hcycle⟩
      · exact (ih hbefore e hold).append [c]
      · exact ⟨calls, c, s₁, List.prefix_rfl, hrecord, hbefore, hstate, hcycle⟩

/-! ## The whole of it -/

/-- After any calls, a rewind restores the latest entry that is strictly older than the machine
and keeps exactly the older ones before it.  With none older, the only entry there can be is one
of the machine's own cycle, and it is restored and dropped in the same way; an empty buffer and a
restore that fails change nothing.  Rewinds that follow each other land on ever earlier cycles,
each on a capture of the run. -/
theorem rewindOne_restores (config : MachineRewindConfig) (machine : μ)
    (calls : List (RewindCall μ)) (s : RewindSession μ)
    (hrun : run { machine, buffer := .new config } calls = some s) :
    let older := s.buffer.entries.filter fun e => e.nextTCycle < nextTCycle s.machine
    (∀ error machine' buffer', s.buffer.rewindOne s.machine = (.error error, machine', buffer') →
      machine' = s.machine ∧ buffer' = s.buffer) ∧
    (∀ target, older.getLast? = some target →
      (∀ error, (restoreSaveState s.machine target.state).1 = .error error →
        s.buffer.rewindOne s.machine = (.error error, s.machine, s.buffer)) ∧
      ∀ machine', restoreSaveState s.machine target.state = (.ok (), machine') →
        ∃ buffer', s.buffer.rewindOne s.machine =
          (.ok (some
            { captureKind := target.captureKind
              restoredNextTCycle := target.nextTCycle
              estimatedBytes := target.estimatedBytes
              remainingSnapshots := older.length - 1 }), machine', buffer') ∧
          buffer'.entries = older.dropLast ∧
          buffer'.estimatedBytes = (buffer'.entries.map (·.estimatedBytes)).sum ∧
          nextTCycle machine' = target.nextTCycle) ∧
    (older = [] → s.buffer.entries.getLast? = none →
      s.buffer.rewindOne s.machine = (.ok none, s.machine, s.buffer)) ∧
    (older = [] → ∀ current, s.buffer.entries.getLast? = some current →
      s.buffer.entries = [current] ∧ current.nextTCycle = nextTCycle s.machine ∧
      (∀ error, (restoreSaveState s.machine current.state).1 = .error error →
        s.buffer.rewindOne s.machine = (.error error, s.machine, s.buffer)) ∧
      ∀ machine', restoreSaveState s.machine current.state = (.ok (), machine') →
        ∃ buffer', s.buffer.rewindOne s.machine =
          (.ok (some
            { captureKind := current.captureKind
              restoredNextTCycle := current.nextTCycle
              estimatedBytes := current.estimatedBytes
              remainingSnapshots := 0 }), machine', buffer') ∧
          buffer'.entries = [] ∧ buffer'.estimatedBytes = 0 ∧
          nextTCycle machine' = current.nextTCycle) ∧
    ∀ n landings, s.rewindTimes n = some landings →
      landings.Pairwise (fun s₁ s₂ => nextTCycle s₂.machine < nextTCycle s₁.machine) ∧
      ∀ s' ∈ landings, ∃ e ∈ s.buffer.entries, nextTCycle s'.machine = e.nextTCycle ∧
        (∃ m, restoreSaveState m e.state = (.ok (), s'.machine)) ∧
        CapturedIn { machine, buffer := .new config } calls e := by
  intro older
  have h := holds_run (MachineRewindBuffer.holds_new config machine) hrun
  refine ⟨fun error machine' buffer' hrewind => ?_, fun target htarget => ?_,
    fun holder hlast => ?_, fun holder current hlast => ?_, fun n landings hrewinds => ?_⟩
  · unfold MachineRewindBuffer.rewindOne at hrewind
    split at hrewind
    · cases hrewind
    · split at hrewind
      · next hrestore =>
          have hsame := restoreSaveState_error (congrArg Prod.fst hrestore)
          rw [hrestore] at hsame
          cases hrewind
          exact ⟨hsame, rfl⟩
      · cases hrewind
  · have hne : s.buffer.older s.machine ≠ [] := by
      intro hempty
      change (s.buffer.older s.machine).getLast? = some target at htarget
      rw [hempty] at htarget
      cases htarget
    obtain ⟨hindex, htake⟩ := h.getElem?_targetIndex htarget
    refine ⟨fun error => MachineRewindBuffer.rewindOne_error hindex, fun machine' hrestore => ?_⟩
    obtain ⟨buffer', hcall, hentries, hbytes, hlands⟩ := h.rewindOne_ok hindex hrestore
    rw [h.targetIndex_older hne] at hcall
    exact ⟨buffer', hcall, hentries.trans htake, hbytes, hlands⟩
  · rw [List.getLast?_eq_none_iff] at hlast
    unfold MachineRewindBuffer.rewindOne
    rw [hlast, List.getElem?_nil]
  · obtain ⟨hentries, hcycle⟩ := h.entries_of_not_older holder hlast
    have hzero : s.buffer.targetIndex s.machine = 0 := by
      rw [MachineRewindBuffer.targetIndex, hentries]
      rfl
    have hindex : s.buffer.entries[s.buffer.targetIndex s.machine]? = some current := by
      rw [hzero, hentries]
      rfl
    refine ⟨hentries, hcycle, fun error => MachineRewindBuffer.rewindOne_error hindex,
      fun machine' hrestore => ?_⟩
    obtain ⟨buffer', hcall, hleft, hbytes, hlands⟩ := h.rewindOne_ok hindex hrestore
    rw [hzero] at hcall hleft
    rw [List.take_zero] at hleft
    rw [hleft] at hbytes
    exact ⟨buffer', hcall, hleft, hbytes, hlands⟩
  · obtain ⟨hdecreasing, hheld⟩ := rewindTimes_decreasing n s h landings hrewinds
    refine ⟨hdecreasing, fun s' hs' => ?_⟩
    obtain ⟨e, he, hcycle, hrestored⟩ := hheld s' hs'
    exact ⟨e, he, hcycle, hrestored, capturedIn_run rfl calls hrun e he⟩

/-! A CGB whose boot ROM hands over to the compatibility mode in the first T-cycle. -/

/-- Devices without a state. -/
instance : MachineDevices Unit where
  SaveState := Unit
  CartridgeRuntimeSaveStateError := Empty
  HostInput := Unit
  cartridgeSaveStateMetadata _ := { state := .empty, romFingerprint := none }
  bootSaveStateMetadata _ :=
    { startupMode := .realBoot, bootRomMapped := true, bootRomFingerprint := none }
  stepTCycle _ _ devices _ := (.gbCompatible, devices)
  captureSaveState := id
  validateCartridge _ _ := .ok ()
  restoreSaveState _ state := state
  inlineBytes := 8
  dynamicPayloadBytes _ := 0

def bootingMachine : Machine Unit where
  config :=
    { consoleModel := .gameBoyColor, operatingMode := .cgb, revision := .cpuCgbE
      hostPlatform := .handheld, sgbProfile := none, startupMode := .realBoot
      compatibility :=
        { executionMode := .strict, validationPolicy := .strict, heuristicPolicy := .disabled
          overridePolicy :=
            { forcedConsoleModel := none, forcedOperatingMode := none, forcedHostPlatform := none
              forcedStartupMode := none }
          diagnosticPolicy := .standard } }
  nextTCycle := 0
  devices := ()

/-- Why a rewind would be refused. -/
def refusal (s : RewindSession (Machine Unit)) : Option (MachineSaveStateRestoreError Empty) :=
  match (s.buffer.rewindOne s.machine).1 with
  | .error error => some error
  | .ok _ => none

theorem refusal_eq_some {s : RewindSession (Machine Unit)}
    {error : MachineSaveStateRestoreError Empty} :
    refusal s = some error ↔ (s.buffer.rewindOne s.machine).1 = .error error := by
  unfold refusal
  split
  · next herror =>
      rw [herror]
      exact ⟨fun h => congrArg _ (Option.some.inj h), fun h => congrArg _ (Except.error.inj h)⟩
  · next hok =>
      rw [hok]
      exact ⟨nofun, nofun⟩

/-- Four captures, a rewind that skips the present one and a second that goes on from there.  The
third is refused, since the boot ROM was still running then, and loses nothing. -/
theorem rewindOne_restores_handover :
    let config : MachineRewindConfig :=
      { targetHistoryTCycles := 100, maxEstimatedBytes := 100, subframeCadence := .everyTCycles 1 }
    let calls : List (RewindCall (Machine Unit)) :=
      [.recordFrameBoundary, .step (), .recordSubframe, .step (), .recordSubframe, .step (),
        .recordFrameBoundary]
    ∃ s : RewindSession (Machine Unit), ∃ landings,
      run { machine := bootingMachine, buffer := .new config } calls = some s ∧
      s.rewindTimes 2 = some landings ∧
      landings.map (·.machine.nextTCycle) = [2, 1] ∧
      landings.Pairwise (fun s₁ s₂ => nextTCycle s₂.machine < nextTCycle s₁.machine) ∧
      ∃ s', run { machine := bootingMachine, buffer := .new config }
          (calls ++ [.rewindOne, .rewindOne]) = some s' ∧
        s'.buffer.entries.map (·.nextTCycle) = [0] ∧
        s'.buffer.rewindOne s'.machine =
          (.error (.operatingModeMismatch .cgb .gbCompatible), s'.machine, s'.buffer) := by
  intro config calls
  have hcycles : ((run { machine := bootingMachine, buffer := .new config } calls).bind
      fun s => (s.rewindTimes 2).map fun landings => landings.map (·.machine.nextTCycle)) =
        some [2, 1] := by
    decide +kernel
  obtain ⟨s, hs, hlandings⟩ := Option.bind_eq_some_iff.mp hcycles
  obtain ⟨landings, hrewinds, hmachines⟩ := Option.map_eq_some_iff.mp hlandings
  have hrefused : (run { machine := bootingMachine, buffer := .new config }
      (calls ++ [.rewindOne, .rewindOne])).map
        (fun s => (s.buffer.entries.map (·.nextTCycle), refusal s)) =
      some ([0], some (.operatingModeMismatch .cgb .gbCompatible)) := by
    decide +kernel
  obtain ⟨s', hs', hresult⟩ := Option.map_eq_some_iff.mp hrefused
  obtain ⟨hleft, hrefusal⟩ := Prod.mk.inj hresult
  have herror := refusal_eq_some.mp hrefusal
  obtain ⟨hmachine, hbuffer⟩ := (rewindOne_restores config bootingMachine _ s' hs').1 _ _ _
    (Prod.ext herror rfl)
  exact ⟨s, landings, hs, hrewinds, hmachines,
    ((rewindOne_restores config bootingMachine calls s hs).2.2.2.2 2 landings hrewinds).1,
    s', hs', hleft, Prod.ext herror (Prod.ext hmachine hbuffer)⟩

/-- A buffer with only the present state restores it and drops it. -/
theorem rewindOne_restores_present :
    ∃ (config : MachineRewindConfig) (s : RewindSession Nat),
      run { machine := 0, buffer := .new config } [.recordFrameBoundary] = some s ∧
      (∀ e ∈ s.buffer.entries, ¬ e.nextTCycle < nextTCycle s.machine) ∧
      s.buffer.entries ≠ [] ∧ (s.buffer.rewindOne s.machine).2.2.entries = [] := by
  let config : MachineRewindConfig :=
    { targetHistoryTCycles := 100, maxEstimatedBytes := 100, subframeCadence := .disabled }
  have hentries : (run { machine := 0, buffer := .new config } [.recordFrameBoundary]).map
      (fun s => (s.machine, s.buffer.entries.map (·.nextTCycle),
        (s.buffer.rewindOne s.machine).2.2.entries.length)) = some (0, [0], 0) := by
    decide +kernel
  obtain ⟨s, hs, hsome⟩ := Option.map_eq_some_iff.mp hentries
  obtain ⟨hmachine, hcycles, hlength⟩ : s.machine = 0 ∧
      s.buffer.entries.map (·.nextTCycle) = [0] ∧
      (s.buffer.rewindOne s.machine).2.2.entries.length = 0 := by
    simpa only [Prod.mk.injEq] using hsome
  refine ⟨config, s, hs, fun e he => ?_, fun hempty => ?_, List.length_eq_zero_iff.mp hlength⟩
  · rw [hmachine]
    exact Nat.not_lt_zero _
  · rw [hempty] at hcycles
    cases hcycles

end RewindSession

end GbCycle
