import GbCycle.Rewind.Restore
import Mathlib.Data.List.Chain

/-!
# The cadence of subframe snapshots

Between two frame boundaries the buffer is stepped and asked for subframe snapshots, at whatever
cycles the calls come.  `Paced` is what the snapshots taken so far say about the counters of the
buffer and about their own spacing; a call that is due keeps the machine as the newest entry.
-/

namespace GbCycle

open RewindMachine (HostInput nextTCycle captureSaveState deepSizeBytes)

variable {μ : Type} [RewindMachine μ]

namespace MachineRewindBuffer

/-! ## What recording leaves alone -/

/-- The fields that the cadence looks at. -/
structure SameCadence (b b' : MachineRewindBuffer μ) : Prop where
  config : b'.config = b.config
  frameStart : b'.currentFrameStartTCycle = b.currentFrameStartTCycle
  recorded : b'.subframesRecordedThisFrame = b.subframesRecordedThisFrame
  last : b'.lastSubframeTCycle = b.lastSubframeTCycle
  skipped : b'.skippedSubframes = b.skippedSubframes

theorem SameCadence.refl (b : MachineRewindBuffer μ) : SameCadence b b :=
  ⟨rfl, rfl, rfl, rfl, rfl⟩

theorem SameCadence.trans {b b' b'' : MachineRewindBuffer μ} (h : SameCadence b b')
    (h' : SameCadence b' b'') : SameCadence b b'' where
  config := h'.config.trans h.config
  frameStart := h'.frameStart.trans h.frameStart
  recorded := h'.recorded.trans h.recorded
  last := h'.last.trans h.last
  skipped := h'.skipped.trans h.skipped

theorem sameCadence_popFrontEvicted (b : MachineRewindBuffer μ) :
    SameCadence b b.popFrontEvicted := by
  unfold popFrontEvicted
  split
  · exact .refl b
  · exact ⟨rfl, rfl, rfl, rfl, rfl⟩

theorem sameCadence_evictLoop (exceeds : MachineRewindBuffer μ → Bool) (fuel : Nat)
    (b : MachineRewindBuffer μ) : SameCadence b (evictLoop exceeds fuel b) := by
  induction fuel generalizing b with
  | zero => exact .refl b
  | succ fuel ih =>
      unfold evictLoop
      split
      · exact (sameCadence_popFrontEvicted b).trans (ih b.popFrontEvicted)
      · exact .refl b

theorem sameCadence_enforceLimits (b : MachineRewindBuffer μ) :
    SameCadence b b.enforceLimits := by
  unfold enforceLimits evictWhile
  split
  · exact .refl b
  · exact (sameCadence_evictLoop _ _ b).trans (sameCadence_evictLoop _ _ _)

theorem sameCadence_pushCapture (b : MachineRewindBuffer μ) (machine : μ)
    (captureKind : MachineRewindCaptureKind) :
    SameCadence b (b.pushCapture machine captureKind).2 := by
  have happended : SameCadence b (b.pushBack (capture machine captureKind)) :=
    ⟨rfl, rfl, rfl, rfl, rfl⟩
  have hpush := happended.trans (sameCadence_enforceLimits _)
  unfold pushCapture
  dsimp only
  split
  · exact hpush
  · split
    · exact ⟨rfl, rfl, rfl, rfl, rfl⟩
    · exact hpush

/-- A capture appends an entry unless the newest one is of the same cycle. -/
theorem pushCapture_fst (b : MachineRewindBuffer μ) (machine : μ)
    (captureKind : MachineRewindCaptureKind) :
    (b.pushCapture machine captureKind).1 = true ↔
      ∀ latest ∈ b.entries.getLast?, latest.nextTCycle ≠ nextTCycle machine := by
  have hcycle : (capture machine captureKind).nextTCycle = nextTCycle machine :=
    RewindMachine.metadata_capture machine
  unfold pushCapture
  dsimp only
  rw [hcycle]
  cases b.entries.getLast? with
  | none => simp
  | some latest =>
      dsimp only
      by_cases hsame : latest.nextTCycle = nextTCycle machine
      · rw [if_pos hsame]
        simp [hsame]
      · rw [if_neg hsame]
        simp [hsame]

/-! ## One call -/

/-- A call that takes a snapshot, and one that does not. -/
theorem recordSubframe_cases (b : MachineRewindBuffer μ) (machine : μ) :
    ((b.recordSubframe machine).1 = true ∧
      b.shouldRecordSubframe (nextTCycle machine) = true ∧
      SameCadence b (b.pushCapture machine .subframe).2 ∧
      (b.recordSubframe machine).2 = (b.pushCapture machine .subframe).2.noteSubframe machine) ∨
    ((b.recordSubframe machine).1 = false ∧
      (b.recordSubframe machine).2.config = b.config ∧
      (b.recordSubframe machine).2.currentFrameStartTCycle = b.currentFrameStartTCycle ∧
      (b.recordSubframe machine).2.subframesRecordedThisFrame = b.subframesRecordedThisFrame ∧
      (b.recordSubframe machine).2.lastSubframeTCycle = b.lastSubframeTCycle) := by
  have hsame := sameCadence_pushCapture b machine .subframe
  unfold recordSubframe
  by_cases hdue : b.shouldRecordSubframe (nextTCycle machine) = true
  · rw [if_pos hdue]
    split
    · next hpush =>
        rw [hpush] at hsame ⊢
        exact .inl ⟨rfl, hdue, hsame, rfl⟩
    · next hpush =>
        rw [hpush] at hsame
        exact .inr ⟨rfl, hsame.config, hsame.frameStart, hsame.recorded, hsame.last⟩
  · rw [if_neg hdue]
    exact .inr ⟨rfl, rfl, rfl, rfl, rfl⟩

/-- A due call makes a capture of the machine the newest entry; it is a new snapshot unless the
buffer has an entry of this cycle already, and it never counts as skipped. -/
theorem Holds.recordSubframe_due {config : MachineRewindConfig} {b : MachineRewindBuffer μ}
    {machine : μ} (h : Holds config b machine)
    (hfits : heldBytes b.entries + deepSizeBytes (captureSaveState machine) < 2 ^ 64)
    (hdue : b.shouldRecordSubframe (nextTCycle machine) = true) :
    (b.recordSubframe machine).2.NewestIs machine ∧
      (b.recordSubframe machine).2.skippedSubframes = b.skippedSubframes ∧
      ((b.recordSubframe machine).1 = true ↔
        ∀ latest ∈ b.entries.getLast?, latest.nextTCycle ≠ nextTCycle machine) := by
  obtain ⟨-, hnewest⟩ := h.pushCapture .subframe hfits
  have hsame := sameCadence_pushCapture b machine .subframe
  rw [← pushCapture_fst b machine .subframe]
  unfold MachineRewindBuffer.recordSubframe
  rw [if_pos hdue]
  split
  · next hpush =>
      rw [hpush] at hnewest hsame ⊢
      exact ⟨hnewest, hsame.skipped, Iff.rfl⟩
  · next hpush =>
      rw [hpush] at hnewest hsame ⊢
      exact ⟨hnewest, hsame.skipped, Iff.rfl⟩

end MachineRewindBuffer

namespace RewindSession

/-! ## Runs within a frame -/

/-- The calls between two frame boundaries. -/
def InFrame : RewindCall μ → Prop
  | .step _ | .recordSubframe => True
  | .recordFrameBoundary | .rewindOne => False

/-- Whether a call takes a subframe snapshot. -/
def takes (s : RewindSession μ) : RewindCall μ → Bool
  | .recordSubframe => (s.buffer.recordSubframe s.machine).1
  | _ => false

/-- The cycles of the subframe snapshots that some calls take. -/
def taken (s : RewindSession μ) : List (RewindCall μ) → List Nat
  | [] => []
  | c :: calls =>
      match s.call c with
      | none => []
      | some s' => (if s.takes c then [nextTCycle s.machine] else []) ++ s'.taken calls

/-- What the snapshots of a frame say of the buffer, and of each other.  `before` is the last
snapshot of the frames before. -/
structure Paced (config : MachineRewindConfig) (start : Nat) (before : Option Nat)
    (snapshots : List Nat) (s : RewindSession μ) : Prop where
  configured : s.buffer.config = config
  started : start ≤ nextTCycle s.machine
  frameStart : s.buffer.currentFrameStartTCycle = some start
  last : s.buffer.lastSubframeTCycle = snapshots.getLast?.or before
  fixed : ∀ n, config.subframeCadence = .fixedPerFrame n → n < 2 ^ 16 →
    s.buffer.subframesRecordedThisFrame = snapshots.length ∧ snapshots.length ≤ n ∧
      ∀ k (hk : k < snapshots.length),
        start + (k + 1) * (dmgTCyclesPerFrame / (n + 1)) ≤ snapshots[k]
  every : ∀ i, config.subframeCadence = .everyTCycles i →
    (before.toList ++ snapshots).IsChain (fun a b => a + i ≤ b)

/-- When the next snapshot is due, in a frame with some snapshots so far. -/
def Due (config : MachineRewindConfig) (start : Nat) (before : Option Nat)
    (snapshots : List Nat) (now : Nat) : Prop :=
  match config.subframeCadence with
  | .disabled => False
  | .everyTCycles i => 0 < i ∧ ((snapshots.getLast?.or before).getD start) + i ≤ now
  | .fixedPerFrame n =>
      snapshots.length < n ∧
        start + (snapshots.length + 1) * (dmgTCyclesPerFrame / (n + 1)) ≤ now

/-- The buffer records exactly when a snapshot is due. -/
theorem Paced.shouldRecordSubframe_iff {config : MachineRewindConfig} {start : Nat}
    {before : Option Nat} {snapshots : List Nat} {s : RewindSession μ}
    (h : Paced config start before snapshots s)
    (hn : ∀ n, config.subframeCadence = .fixedPerFrame n → n < 2 ^ 16) :
    s.buffer.shouldRecordSubframe (nextTCycle s.machine) = true ↔
      Due config start before snapshots (nextTCycle s.machine) := by
  have hstarted := h.started
  unfold MachineRewindBuffer.shouldRecordSubframe Due
  rw [h.configured, h.frameStart, h.last]
  dsimp only
  cases hcadence : config.subframeCadence with
  | disabled => simp [MachineRewindSubframeCadence.normalized]
  | everyTCycles i =>
      dsimp only
      have hanchor : ((snapshots.getLast?.or before).or (some start)).or
          (s.buffer.entries.getLast?.map MachineRewindEntry.nextTCycle) =
            some ((snapshots.getLast?.or before).getD start) := by
        cases snapshots.getLast?.or before <;> rfl
      cases i with
      | zero => simp [MachineRewindSubframeCadence.normalized]
      | succ i =>
          simp only [MachineRewindSubframeCadence.normalized, hanchor, decide_eq_true_eq]
          omega
  | fixedPerFrame n =>
      dsimp only
      obtain ⟨hrecorded, hle, -⟩ := h.fixed n hcadence (hn n hcadence)
      have hlt := hn n hcadence
      cases n with
      | zero => simp [MachineRewindSubframeCadence.normalized]
      | succ n =>
          simp only [MachineRewindSubframeCadence.normalized, hrecorded]
          by_cases hmore : snapshots.length < n + 1
          · rw [if_neg (by omega), MachineRewindBuffer.saturatingAdd_of_lt (by omega),
              MachineRewindBuffer.saturatingAdd_of_lt (by omega), decide_eq_true_eq, Nat.mul_comm]
            omega
          · rw [if_pos (by omega)]
            simp [hmore]

/-- A snapshot that is taken when it is due keeps the spacing. -/
theorem Paced.snapshot {config : MachineRewindConfig} {start : Nat} {before : Option Nat}
    {snapshots : List Nat} {s : RewindSession μ} (h : Paced config start before snapshots s)
    (hdue : Due config start before snapshots (nextTCycle s.machine))
    (b : MachineRewindBuffer μ) (hsame : s.buffer.SameCadence b) :
    Paced config start before (snapshots ++ [nextTCycle s.machine])
      { s with buffer := b.noteSubframe s.machine } := by
  have hconfig : b.config = config := hsame.config.trans h.configured
  refine ⟨hconfig, h.started, hsame.frameStart.trans h.frameStart, ?_, ?_, ?_⟩
  · rw [List.getLast?_concat]
    rfl
  · intro n hcadence hn
    unfold Due at hdue
    rw [hcadence] at hdue
    obtain ⟨hmore, hcycle⟩ := hdue
    obtain ⟨hrecorded, -, hspaced⟩ := h.fixed n hcadence hn
    have hcount : (b.noteSubframe s.machine).subframesRecordedThisFrame =
        saturatingAdd 16 b.subframesRecordedThisFrame 1 := by
      unfold MachineRewindBuffer.noteSubframe
      dsimp only
      rw [hconfig, hcadence]
      cases n with
      | zero => exact absurd hmore (Nat.not_lt_zero _)
      | succ n => rfl
    refine ⟨?_, ?_, ?_⟩
    · show (b.noteSubframe s.machine).subframesRecordedThisFrame = _
      rw [hcount, hsame.recorded, hrecorded, List.length_append, List.length_singleton,
        MachineRewindBuffer.saturatingAdd_of_lt (by omega)]
    · rw [List.length_append, List.length_singleton]
      omega
    · intro k hk
      rw [List.getElem_append]
      split
      · exact hspaced k _
      · rw [List.length_append, List.length_singleton] at hk
        rw [List.getElem_singleton, show k = snapshots.length by omega]
        exact hcycle
  · intro i hcadence
    unfold Due at hdue
    rw [hcadence] at hdue
    obtain ⟨-, hcycle⟩ := hdue
    rw [← List.append_assoc]
    refine (h.every i hcadence).append (.singleton _) ?_
    intro last hlast now hnow
    cases hnow
    have hlastSnapshot : snapshots.getLast?.or before = some last := by
      rw [List.getLast?_append] at hlast
      cases before with
      | none => simpa using hlast
      | some cycle => simpa using hlast
    rw [hlastSnapshot] at hcycle
    exact hcycle

/-- One call of a frame. -/
theorem Paced.call {config : MachineRewindConfig} {start : Nat} {before : Option Nat}
    {snapshots : List Nat} {s s' : RewindSession μ} {c : RewindCall μ}
    (h : Paced config start before snapshots s)
    (hn : ∀ n, config.subframeCadence = .fixedPerFrame n → n < 2 ^ 16) (hc : InFrame c)
    (hcall : s.call c = some s') :
    Paced config start before
      (snapshots ++ if s.takes c then [nextTCycle s.machine] else []) s' := by
  cases c with
  | step input =>
      obtain ⟨machine, hstep, rfl⟩ := Option.map_eq_some_iff.mp hcall
      unfold takes
      rw [if_neg Bool.false_ne_true, List.append_nil]
      have hlt := RewindMachine.nextTCycle_step input hstep
      exact ⟨h.configured, Nat.le_of_lt (Nat.lt_of_le_of_lt h.started hlt), h.frameStart, h.last,
        h.fixed, h.every⟩
  | recordSubframe =>
      by_cases hroom : s.HasRoom
      · rw [RewindSession.call, if_pos hroom, Option.some.injEq] at hcall
        subst hcall
        unfold takes
        rcases s.buffer.recordSubframe_cases s.machine with
          ⟨htakes, hdue, hsame, hbuffer⟩ | ⟨hidle, hconfig, hframe, hrecorded, hlast⟩
        · rw [htakes, if_pos rfl, hbuffer]
          exact h.snapshot ((h.shouldRecordSubframe_iff hn).mp hdue) _ hsame
        · rw [hidle, if_neg Bool.false_ne_true, List.append_nil]
          refine ⟨hconfig.trans h.configured, h.started, hframe.trans h.frameStart,
            hlast.trans h.last, ?_, h.every⟩
          intro n hcadence hlt
          obtain ⟨hcount, hrest⟩ := h.fixed n hcadence hlt
          exact ⟨hrecorded.trans hcount, hrest⟩
      · rw [RewindSession.call, if_neg hroom] at hcall
        cases hcall
  | recordFrameBoundary => cases hc
  | rewindOne => cases hc

/-- The calls of a frame. -/
theorem Paced.run {config : MachineRewindConfig} {start : Nat} {before : Option Nat}
    {snapshots : List Nat} {s s' : RewindSession μ} {calls : List (RewindCall μ)}
    (h : Paced config start before snapshots s)
    (hn : ∀ n, config.subframeCadence = .fixedPerFrame n → n < 2 ^ 16)
    (hcalls : ∀ c ∈ calls, InFrame c) (hrun : s.run calls = some s') :
    Paced config start before (snapshots ++ s.taken calls) s' := by
  induction calls generalizing s snapshots with
  | nil =>
      cases hrun
      unfold taken
      rw [List.append_nil]
      exact h
  | cons c calls ih =>
      obtain ⟨s₁, hcall, hrest⟩ := Option.bind_eq_some_iff.mp hrun
      have hfirst := h.call hn (hcalls c (List.mem_cons_self ..)) hcall
      have hlater := ih hfirst (fun c' hc' => hcalls c' (List.mem_cons_of_mem _ hc')) hrest
      rw [List.append_assoc] at hlater
      unfold taken
      rw [hcall]
      exact hlater

/-- A frame begins with no snapshots. -/
theorem paced_recordFrameBoundary {config : MachineRewindConfig} {s s' : RewindSession μ}
    (hconfig : s.buffer.config = config) (hcall : s.call .recordFrameBoundary = some s') :
    Paced config (nextTCycle s.machine) s.buffer.lastSubframeTCycle [] s' ∧
      s'.machine = s.machine := by
  by_cases hroom : s.HasRoom
  · rw [call, if_pos hroom, Option.some.injEq] at hcall
    subst hcall
    have hsame := MachineRewindBuffer.sameCadence_pushCapture (s.buffer.beginFrame s.machine)
      s.machine .frameBoundary
    have hbuffer : (s.buffer.recordFrameBoundary s.machine).2.config = config ∧
        (s.buffer.recordFrameBoundary s.machine).2.currentFrameStartTCycle =
          some (nextTCycle s.machine) ∧
        (s.buffer.recordFrameBoundary s.machine).2.subframesRecordedThisFrame = 0 ∧
        (s.buffer.recordFrameBoundary s.machine).2.lastSubframeTCycle =
          s.buffer.lastSubframeTCycle := by
      unfold MachineRewindBuffer.recordFrameBoundary
      split
      · next hpush =>
          rw [hpush] at hsame
          exact ⟨hsame.config.trans hconfig, hsame.frameStart, hsame.recorded, hsame.last⟩
      · next hpush =>
          rw [hpush] at hsame
          exact ⟨hsame.config.trans hconfig, hsame.frameStart, hsame.recorded, hsame.last⟩
    obtain ⟨hconfigured, hframe, hrecorded, hlast⟩ := hbuffer
    refine ⟨⟨hconfigured, Nat.le_refl _, hframe, hlast, ?_, ?_⟩, rfl⟩
    · intro n _ _
      refine ⟨hrecorded, Nat.zero_le _, ?_⟩
      rintro k ⟨⟩
    · intro i _
      rw [List.append_nil]
      cases s.buffer.lastSubframeTCycle with
      | none => exact .nil
      | some cycle => exact .singleton _
  · rw [call, if_neg hroom] at hcall
    cases hcall

/-! ## The cadence -/

/-- From a frame boundary on, after any calls before it, until the next one or a rewind.  Of a
fixed number of snapshots a frame no more are taken, and each of them not before its share of the
frame has passed; at a fixed interval each is at least that far after the last, also over the frame
boundary.  A call that comes when a snapshot is due, or later, makes the machine the newest entry:
by a new snapshot, unless the buffer has an entry of this very cycle, which is then replaced. -/
theorem subframe_cadence (config : MachineRewindConfig)
    (hn : ∀ n, config.subframeCadence = .fixedPerFrame n → n < 2 ^ 16) (machine : μ)
    (history calls : List (RewindCall μ)) (hcalls : ∀ c ∈ calls, InFrame c)
    {s₀ s₁ s : RewindSession μ} (hhistory : run { machine, buffer := .new config } history = some s₀)
    (hframe : s₀.call .recordFrameBoundary = some s₁) (hrun : s₁.run calls = some s) :
    let start := nextTCycle s₁.machine
    let before := s₀.buffer.lastSubframeTCycle
    let snapshots := s₁.taken calls
    (∀ n, config.subframeCadence = .fixedPerFrame n → snapshots.length ≤ n ∧
      ∀ k (hk : k < snapshots.length),
        start + (k + 1) * (dmgTCyclesPerFrame / (n + 1)) ≤ snapshots[k]) ∧
    (∀ i, config.subframeCadence = .everyTCycles i →
      (before.toList ++ snapshots).IsChain (fun a b => a + i ≤ b)) ∧
    (Due config start before snapshots (nextTCycle s.machine) →
      ∀ s', s.call .recordSubframe = some s' →
        s'.buffer.NewestIs s.machine ∧
        s'.buffer.skippedSubframes = s.buffer.skippedSubframes ∧
        (s.takes .recordSubframe = true ↔
          ∀ latest ∈ s.buffer.entries.getLast?, latest.nextTCycle ≠ nextTCycle s.machine)) := by
  intro start before snapshots
  have hholds₀ := holds_run (MachineRewindBuffer.holds_new config machine) hhistory
  have hholds := holds_run (holds_call hholds₀ hframe) hrun
  obtain ⟨hstart, hmachine⟩ := paced_recordFrameBoundary hholds₀.configured hframe
  have hpaced : Paced config start before snapshots s := by
    have h := hstart.run hn hcalls hrun
    rw [List.nil_append, ← hmachine] at h
    exact h
  refine ⟨?_, hpaced.every, ?_⟩
  · intro n hcadence
    exact (hpaced.fixed n hcadence (hn n hcadence)).2
  · intro hdue s' hcall
    by_cases hroom : s.HasRoom
    · rw [call, if_pos hroom, Option.some.injEq] at hcall
      subst hcall
      exact hholds.recordSubframe_due hroom ((hpaced.shouldRecordSubframe_iff hn).mpr hdue)
    · rw [call, if_neg hroom] at hcall
      cases hcall

/-- A frame of a machine that is only its cycle, with a snapshot every second cycle: one is taken
late, and the next is due. -/
theorem subframe_cadence_counter :
    let config : MachineRewindConfig :=
      { targetHistoryTCycles := 100, maxEstimatedBytes := 100, subframeCadence := .everyTCycles 2 }
    let calls : List (RewindCall Nat) :=
      [.step (), .recordSubframe, .step (), .step (), .recordSubframe, .step (), .step ()]
    ∃ s₁ s : RewindSession Nat,
      (RewindSession.mk 0 (.new config)).call .recordFrameBoundary = some s₁ ∧
      s₁.run calls = some s ∧ s₁.taken calls = [3] ∧
      (s₁.taken calls).IsChain (fun a b => a + 2 ≤ b) ∧
      ∀ s', s.call .recordSubframe = some s' → s'.buffer.NewestIs s.machine := by
  intro config calls
  have hframe : ((RewindSession.mk 0 (.new config)).call .recordFrameBoundary).bind
      (fun s₁ => (s₁.run calls).map fun s =>
        (s₁.taken calls, nextTCycle s₁.machine, nextTCycle s.machine)) = some ([3], 0, 5) := by
    decide +kernel
  obtain ⟨s₁, hcall, hrest⟩ := Option.bind_eq_some_iff.mp hframe
  obtain ⟨s, hrun, hresult⟩ := Option.map_eq_some_iff.mp hrest
  obtain ⟨htaken, -, hnow⟩ : s₁.taken calls = [3] ∧ nextTCycle s₁.machine = 0 ∧
      nextTCycle s.machine = 5 := by
    simpa only [Prod.mk.injEq] using hresult
  have hinFrame : ∀ c ∈ calls, InFrame c := by
    intro c hc
    simp only [calls, List.mem_cons, List.not_mem_nil, or_false] at hc
    rcases hc with rfl | rfl | rfl | rfl | rfl | rfl | rfl <;> trivial
  obtain ⟨-, hevery, hdue⟩ := subframe_cadence config (by rintro n ⟨⟩) 0 [] calls hinFrame
    rfl hcall hrun
  refine ⟨s₁, s, hcall, hrun, htaken, hevery 2 rfl, ?_⟩
  intro s' hrecord
  rw [htaken, hnow] at hdue
  exact (hdue ⟨Nat.zero_lt_two, Nat.le_refl 5⟩ s' hrecord).1

end RewindSession

end GbCycle
