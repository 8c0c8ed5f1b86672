import GbCycle.Dma.Events

/-!
# The slot of the DMA controller

What a tick does depends on what the slot holds.  Where a VRAM transfer is running, the tick
moves it on by one cycle; where none is, the tick copies nothing to VRAM and publishes
nothing.  Which of the two holds is settled by the runs that lead to a state: `Coherent`
collects what is true of the slot in every reachable state.
-/

namespace GbCycle

namespace DmaTransferState

/-- The slot holds a transfer that is running, or waiting for its last publication. -/
inductive Holds (p : DmaTransferProgress) : DmaTransferState → Prop where
  | starting (h : p.elapsedTCycles = 0) : Holds p (.starting p)
  | active (h : p.isComplete = false) : Holds p (.active p)
  | completed (h : p.isComplete = true) : Holds p (.completed p)

/-- A VRAM transfer in the slot is over, and published if it was an H-blank block. -/
def Quiet (s : DmaTransferState) : Prop :=
  ∀ p, s.progress = some p → p.transfer.kind.isVram = true →
    s = .completed p ∧ p.completedBytes = p.transfer.totalBytes ∧
      (p.transfer.kind = .hdma → p.hasUnpublishedCompletedBlocks = false)

theorem Holds.progress_eq {p : DmaTransferProgress} {s : DmaTransferState} (h : Holds p s) :
    s.progress = some p := by
  cases h <;> rfl

theorem quiet_of_oam {s : DmaTransferState} {p : DmaTransferProgress}
    (hprogress : s.progress = some p) (hkind : p.transfer.kind = .oam) : s.Quiet := by
  intro p' hprogress' hvram
  obtain rfl := Option.some.inj (hprogress.symm.trans hprogress')
  rw [hkind] at hvram
  cases hvram

end DmaTransferState

namespace DmaTransferProgress

variable {p : DmaTransferProgress} {m : Nat} {speedMode : CgbSpeedMode}

/-- The counter is far from saturating while a VRAM transfer waits for a publication. -/
theorem advance_elapsed (h : p.transfer.IsVram m speedMode)
    (hlt : p.elapsedTCycles < publicationTCycle m speedMode) :
    p.advanceOneTCycle.elapsedTCycles = p.elapsedTCycles + 1 := by
  have hm := h.bounded
  show min (p.elapsedTCycles + 1) 0xFFFF = _
  unfold publicationTCycle at hlt
  rcases blockTCycles_cases speedMode with ⟨hb, -⟩ | ⟨hb, -⟩ <;> rw [hb] at hlt <;> omega

/-- The bytes of a transfer that is over stay the same. -/
theorem completedBytes_of_over {p' : DmaTransferProgress}
    (hover : p.completedBytes = p.transfer.totalBytes) (htransfer : p'.transfer = p.transfer)
    (hle : p.elapsedTCycles ≤ p'.elapsedTCycles) : p'.completedBytes = p.transfer.totalBytes := by
  unfold completedBytes at hover ⊢
  rw [htransfer]
  by_cases hdelay : p.elapsedTCycles < p.transfer.timing.firstByteDelayTCycles
  · rw [if_pos hdelay] at hover
    rw [← hover]
    show (if _ then 0 else min _ 0) = 0
    rw [Nat.min_zero, ite_self]
  · rw [if_neg hdelay] at hover
    rw [if_neg (by omega)]
    have hdiv : (p.elapsedTCycles - p.transfer.timing.firstByteDelayTCycles) /
          p.transfer.timing.tCyclesPerByte ≤
        (p'.elapsedTCycles - p.transfer.timing.firstByteDelayTCycles) /
          p.transfer.timing.tCyclesPerByte := Nat.div_le_div_right (by omega)
    omega

end DmaTransferProgress

namespace DmaController

open DmaTransferProgress

/-! ## What is true of the slot in every reachable state -/

/-- A waiting restart is an OAM transfer.  A VRAM transfer in the slot is one the controller
makes, has run its time once it is completed, and belongs to an active H-blank transfer as long
as it is a block that is not published. -/
structure Coherent (d : DmaController) : Prop where
  restart : ∀ p, d.pendingRestart = some p → p.transfer.kind = .oam
  shaped : ∀ p, d.transferState.progress = some p → p.transfer.kind.isVram = true →
    ∃ m speedMode, p.transfer.IsVram m speedMode
  finished : ∀ p, d.transferState = .completed p → p.transfer.kind.isVram = true →
    p.isComplete = true
  block : ∀ p, d.transferState.progress = some p → p.transfer.kind = .hdma →
    p.publishedCompletedBlocks = 0 → ∃ t, d.vramDmaState = .hBlankActive t

theorem coherent_new (model : ConsoleModel) : (new model).Coherent where
  restart := nofun
  shaped := nofun
  finished := nofun
  block := nofun

/-- The transfer of the slot stays, and its progress is kept or advanced. -/
theorem advanceTransferState_progress {s : DmaTransferState} {p' : DmaTransferProgress}
    (h : (advanceTransferState s).progress = some p') :
    ∃ p, s.progress = some p ∧ (p' = p ∧ advanceTransferState s = s ∨ p' = p.advanceOneTCycle) := by
  cases s with
  | idle => cases h
  | starting p =>
      refine ⟨p, rfl, .inr ?_⟩
      simp only [advanceTransferState] at h
      split at h <;> exact (Option.some.inj h).symm
  | active p =>
      refine ⟨p, rfl, .inr ?_⟩
      simp only [advanceTransferState] at h
      split at h <;> exact (Option.some.inj h).symm
  | completed p =>
      refine ⟨p, rfl, ?_⟩
      simp only [advanceTransferState] at h ⊢
      split at h
      · exact .inr (Option.some.inj h).symm
      · next hkeep =>
          rw [if_neg hkeep]
          exact .inl ⟨(Option.some.inj h).symm, rfl⟩

theorem isComplete_advance {p : DmaTransferProgress} {m : Nat} {speedMode : CgbSpeedMode}
    (h : p.transfer.IsVram m speedMode) (hcomplete : p.isComplete = true) :
    p.advanceOneTCycle.isComplete = true := by
  have hm := h.bounded
  have h' : p.advanceOneTCycle.transfer.IsVram m speedMode := h
  rw [isComplete, totalTCycles_eq h, decide_eq_true_eq] at hcomplete
  rw [isComplete, totalTCycles_eq h', decide_eq_true_eq]
  show _ ≤ min (p.elapsedTCycles + 1) 0xFFFF
  rcases blockTCycles_cases speedMode with ⟨hb, -⟩ | ⟨hb, -⟩ <;> rw [hb] at hcomplete ⊢ <;> omega

/-- A block that is not published after a cycle was not published before it. -/
theorem published_of_advance {p : DmaTransferProgress} {m : Nat} {speedMode : CgbSpeedMode}
    (h : p.transfer.IsVram m speedMode)
    (hzero : p.advanceOneTCycle.publishedCompletedBlocks = 0) :
    p.publishedCompletedBlocks = 0 := by
  have hm := h.positive
  have h' : p.advanceOneTCycle.transfer.IsVram m speedMode := h
  rw [publishedCompletedBlocks_eq h'] at hzero
  rw [publishedCompletedBlocks_eq h]
  have helapsed : p.advanceOneTCycle.elapsedTCycles = min (p.elapsedTCycles + 1) 0xFFFF := rfl
  rw [helapsed] at hzero
  rcases blockTCycles_cases speedMode with ⟨hb, -⟩ | ⟨hb, -⟩ <;> rw [hb] at hzero ⊢ <;> omega

theorem publishBlocks_frame (d : DmaController) (kind : DmaTransferKind) (blocks : Nat) :
    (d.publishBlocks kind blocks).transferState = d.transferState ∧
    (d.publishBlocks kind blocks).pendingRestart = d.pendingRestart ∧
    (d.publishBlocks kind blocks).vramDmaLastServedWindow = d.vramDmaLastServedWindow := by
  unfold publishBlocks
  split <;> exact ⟨rfl, rfl, rfl⟩

theorem applyVramDmaProgressSideEffects_frame (d : DmaController)
    (previous current : DmaTransferState) :
    (d.applyVramDmaProgressSideEffects previous current).transferState = d.transferState ∧
    (d.applyVramDmaProgressSideEffects previous current).pendingRestart = d.pendingRestart := by
  unfold applyVramDmaProgressSideEffects
  split
  · exact ⟨rfl, rfl⟩
  · simp only
    split
    · split
      · exact ⟨rfl, rfl⟩
      · exact ⟨(d.publishBlocks_frame _ _).1, (d.publishBlocks_frame _ _).2.1⟩
    · exact ⟨rfl, rfl⟩

theorem tickTransfer_frame (d : DmaController) :
    d.tickTransfer.2.transferState = advanceTransferState d.transferState ∧
    d.tickTransfer.2.pendingRestart = d.pendingRestart :=
  applyVramDmaProgressSideEffects_frame _ _ _

/-- Without a published block the tick leaves the VRAM registers and state alone. -/
theorem tickTransfer_of_notPublished {d : DmaController}
    (h : ∀ p p', d.transferState.progress = some p →
      (advanceTransferState d.transferState).progress = some p' →
      p'.transfer.kind.isVram = true →
      p'.publishedCompletedBlocks ≤ p.publishedCompletedBlocks) :
    d.tickTransfer.2 = { d with transferState := advanceTransferState d.transferState } := by
  show applyVramDmaProgressSideEffects _ _ _ = _
  unfold applyVramDmaProgressSideEffects
  split
  · rfl
  · next p' hp' =>
      obtain ⟨p, hp, _⟩ := advanceTransferState_progress hp'
      simp only
      by_cases hvram : p'.transfer.kind.isVram = true
      · have hle := h p p' hp hp' hvram
        rw [if_pos hvram, hp]
        simp only [Option.map_some, Option.getD_some]
        rw [if_pos (by omega)]
      · rw [if_neg hvram]

/-- The effect of a tick on the slot's coherence, whatever the slot holds. -/
theorem Coherent.tickTransfer {d : DmaController} (h : d.Coherent) :
    d.tickTransfer.2.Coherent := by
  obtain ⟨hslot, hpending⟩ := d.tickTransfer_frame
  refine ⟨fun p hp => h.restart p (hpending ▸ hp), fun p' hp' hvram => ?_, fun p' hp' hvram => ?_,
    fun p' hp' hkind hzero => ?_⟩
  · rw [hslot] at hp'
    obtain ⟨p, hp, ⟨rfl, _⟩ | rfl⟩ := advanceTransferState_progress hp'
    · exact h.shaped p' hp hvram
    · exact h.shaped p hp hvram
  · rw [hslot] at hp'
    have hprogress : (advanceTransferState d.transferState).progress = some p' := by rw [hp']; rfl
    obtain ⟨p, hp, hcase⟩ := advanceTransferState_progress hprogress
    cases hstate : d.transferState with
    | idle => rw [hstate] at hp; cases hp
    | starting q =>
        rw [hstate] at hp'
        simp only [advanceTransferState] at hp'
        split at hp' <;> cases hp'
    | active q =>
        rw [hstate] at hp'
        simp only [advanceTransferState] at hp'
        split at hp'
        · next hcomplete =>
            cases hp'
            exact hcomplete
        · cases hp'
    | completed q =>
        obtain rfl : q = p := by rw [hstate] at hp; exact Option.some.inj hp
        rcases hcase with ⟨rfl, _⟩ | rfl
        · exact h.finished p' hstate hvram
        · obtain ⟨m, speedMode, hshape⟩ := h.shaped q hp hvram
          exact isComplete_advance hshape (h.finished q hstate hvram)
  · rw [hslot] at hp'
    have hvram : p'.transfer.kind.isVram = true := by rw [hkind]; rfl
    obtain ⟨p, hp, hcase⟩ := advanceTransferState_progress hp'
    have hbefore : p.transfer = p'.transfer ∧ p.publishedCompletedBlocks = 0 := by
      rcases hcase with ⟨rfl, _⟩ | rfl
      · exact ⟨rfl, hzero⟩
      · obtain ⟨m, speedMode, hshape⟩ := h.shaped p hp hvram
        exact ⟨rfl, published_of_advance hshape hzero⟩
    obtain ⟨t, ht⟩ := h.block p hp (hbefore.1 ▸ hkind) hbefore.2
    rw [tickTransfer_of_notPublished]
    · exact ⟨t, ht⟩
    · intro q q' hq hq' _
      obtain rfl := Option.some.inj (hp'.symm.trans hq')
      rw [hzero]
      exact Nat.zero_le _

theorem Coherent.startHdmaBlockIfEligible {d : DmaController} (h : d.Coherent)
    (context : VramDmaRuntimeContext) : (d.startHdmaBlockIfEligible context).Coherent := by
  unfold DmaController.startHdmaBlockIfEligible
  split
  · exact h
  · split
    · next t ht =>
        simp only
        split
        · exact h
        · refine ⟨h.restart, fun p hp _ => ?_, nofun, fun p hp _ _ => ⟨t, ht⟩⟩
          obtain rfl := Option.some.inj hp
          exact ⟨1, _, DmaTransfer.hdma_isVram t context.speedMode⟩
    all_goals exact h

theorem Coherent.tickTCycle {d : DmaController} (h : d.Coherent)
    (context : VramDmaRuntimeContext) : (d.tickTCycle context).2.Coherent := by
  have hstart := h.startHdmaBlockIfEligible context
  unfold DmaController.tickTCycle
  generalize d.startHdmaBlockIfEligible context = d₁ at hstart ⊢
  simp only
  split
  · exact hstart.tickTransfer
  · next restart hrestart =>
      have hkind := hstart.restart restart hrestart
      split
      · refine Coherent.tickTransfer ⟨fun p hp => ?_, hstart.shaped, hstart.finished, hstart.block⟩
        obtain rfl := Option.some.inj hp
        exact hkind
      · refine ⟨nofun, fun p hp hvram => ?_, nofun, fun p hp hhdma => ?_⟩
        · obtain rfl := Option.some.inj hp
          rw [show restart.advanceOneTCycle.transfer.kind = _ from hkind] at hvram
          cases hvram
        · obtain rfl := Option.some.inj hp
          rw [show restart.advanceOneTCycle.transfer.kind = _ from hkind] at hhdma
          cases hhdma

theorem Coherent.writeFf46 {d : DmaController} (h : d.Coherent) (value : U8) :
    (d.writeFf46 value).Coherent := by
  unfold DmaController.writeFf46
  simp only
  split
  · refine ⟨fun p hp => ?_, h.shaped, h.finished, h.block⟩
    obtain rfl := Option.some.inj hp
    rfl
  · refine ⟨nofun, fun p hp hvram => ?_, nofun, fun p hp hkind => ?_⟩
    · obtain rfl := Option.some.inj hp
      cases hvram
    · obtain rfl := Option.some.inj hp
      cases hkind

theorem Coherent.startVramDma {d : DmaController} (h : d.Coherent) (value : U8)
    (speedMode : CgbSpeedMode) : (d.startVramDma value speedMode).Coherent := by
  unfold DmaController.startVramDma
  have hmask : (value &&& 0x7F).toNat ≤ 127 := by
    rw [BitVec.toNat_and]
    exact Nat.and_le_right
  have hblocks := VramDmaTransfer.new_blocks .generalPurpose d.vramDmaRegisters
    (Nat.succ_pos (value &&& 0x7F).toNat)
  simp only
  split
  · refine ⟨nofun, fun p hp _ => ?_, nofun, fun p hp hkind => ?_⟩
    · obtain rfl := Option.some.inj hp
      exact ⟨_, speedMode, DmaTransfer.gdma_isVram speedMode hblocks.1
        (Nat.le_trans hblocks.2 (by omega))⟩
    · obtain rfl := Option.some.inj hp
      cases hkind
  · exact ⟨h.restart, h.shaped, h.finished, fun _ _ _ _ => ⟨_, rfl⟩⟩

theorem Coherent.writeHdma5ForSpeed {d : DmaController} (h : d.Coherent) (value : U8)
    (speedMode : CgbSpeedMode) : (d.writeHdma5ForSpeed value speedMode).Coherent := by
  unfold DmaController.writeHdma5ForSpeed
  split
  · split
    · by_cases hkind : d.transferState.currentTransfer.map DmaTransfer.kind = some .hdma
      · rw [if_pos hkind]
        exact ⟨h.restart, nofun, nofun, nofun⟩
      · rw [if_neg hkind]
        refine ⟨h.restart, h.shaped, h.finished, fun p hp hhdma => ?_⟩
        refine absurd ?_ hkind
        show (d.transferState.progress.map _).map _ = _
        rw [show d.transferState.progress = some p from hp]
        exact congrArg some hhdma
    · exact h
  all_goals exact h.startVramDma value speedMode

theorem Coherent.event {d d' : DmaController} {e : DmaEvent} {copies : List DmaCopy}
    (h : d.Coherent) (hevent : d.event e = some (copies, d')) : d'.Coherent := by
  cases e with
  | tick context =>
      cases hevent
      exact h.tickTCycle context
  | writeFf46 value =>
      obtain ⟨-, heq⟩ := cpuWrite_eq_some.mp hevent
      cases heq
      exact h.writeFf46 value
  | writeHdma5 value speedMode =>
      obtain ⟨-, heq⟩ := cpuWrite_eq_some.mp hevent
      cases heq
      exact h.writeHdma5ForSpeed value speedMode
  | _ value =>
      obtain ⟨-, heq⟩ := cpuWrite_eq_some.mp hevent
      cases heq
      exact ⟨h.restart, h.shaped, h.finished, h.block⟩

theorem Coherent.run {d d' : DmaController} {es : List DmaEvent} {copies : List DmaCopy}
    (h : d.Coherent) (hrun : d.run es = some (copies, d')) : d'.Coherent := by
  induction es generalizing d copies with
  | nil =>
      cases hrun
      exact h
  | cons e es ih =>
      obtain ⟨_, d₁, rest, hevent, hrest, heq⟩ := run_cons_eq_some.mp hrun
      cases heq
      exact ih (h.event hevent) hrest

end DmaController

end GbCycle
