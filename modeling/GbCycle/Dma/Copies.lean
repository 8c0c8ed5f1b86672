import GbCycle.Dma.Slot

/-!
# VRAM DMA copies every block exactly once

A transfer that `HDMA5` latches is followed through a run.  At each moment some bytes are
copied, some blocks are published, and some blocks are due: the slot is on its way to publish
them.  Either the slot is busy with the transfer, and then the copied bytes and the published
blocks are those of its progress, or it is not, and then every copied byte is published.

This breaks where the slot is taken from a block that is complete but not yet published, by a
write of `FF46` or by a new H-blank window, and where a block begins while an OAM transfer
waits for the slot.  In every run without these the transfer is copied once and in order; a run
with an `FF46` write in the gap copies its block twice.
-/

namespace GbCycle

namespace VramDmaTransfer

/-- The latched transfer once some blocks are published. -/
def after (t : VramDmaTransfer) (published : Nat) : VramDmaTransfer :=
  { t with
    sourceStart := t.sourceStart + BitVec.ofNat 16 (16 * published)
    destinationStart := t.destinationStart + BitVec.ofNat 16 (16 * published)
    remainingBlocks := t.totalBlocks - published }

/-- The controller's state for it. -/
def stateAfter (t : VramDmaTransfer) (published : Nat) : VramDmaState :=
  match t.mode with
  | .generalPurpose =>
      if published = t.totalBlocks then .generalPurposeComplete (t.after published)
      else .generalPurposeActive (t.after published)
  | .hBlank =>
      if published = t.totalBlocks then .inactive 0x7F else .hBlankActive (t.after published)

/-- The endpoints that are written back. -/
def registersAfter (t : VramDmaTransfer) (published : Nat) : VramDmaRegisters :=
  .setEndpoints (t.after published).sourceStart (t.after published).destinationStart

/-- The addresses of byte `i`. -/
def copyAt (t : VramDmaTransfer) (i : Nat) : DmaCopy :=
  (t.sourceStart + BitVec.ofNat 16 i, t.destinationStart + BitVec.ofNat 16 i)

/-- The first `k` bytes, each once and in order. -/
def copies (t : VramDmaTransfer) (k : Nat) : List DmaCopy := (List.range k).map t.copyAt

theorem copies_succ (t : VramDmaTransfer) (k : Nat) :
    t.copies (k + 1) = t.copies k ++ [t.copyAt k] := by
  rw [copies, List.range_succ, List.map_append]
  rfl

theorem length_copies (t : VramDmaTransfer) (k : Nat) : (t.copies k).length = k := by
  rw [copies, List.length_map, List.length_range]

theorem advance_after (t : VramDmaTransfer) {p j : Nat} (h : p + j ≤ t.totalBlocks) :
    (t.after p).advanceCompletedBlocks j = t.after (p + j) := by
  have hmin : min j (t.totalBlocks - p) = j := by omega
  have hbytes : BitVec.ofNat 16 (16 * (p + j)) =
      BitVec.ofNat 16 (16 * p) + BitVec.ofNat 16 (j * vramDmaBlockBytes) := by
    rw [← BitVec.ofNat_add, vramDmaBlockBytes]
    congr 1
    omega
  have hremaining : t.totalBlocks - p - j = t.totalBlocks - (p + j) := by omega
  simp only [advanceCompletedBlocks, after, hmin, hbytes, hremaining, BitVec.add_assoc]

end VramDmaTransfer

namespace DmaController

open DmaTransferProgress DmaTransferState

/-- Where a transfer stands: `k` bytes are copied and `p` blocks published, and `due` blocks
will be published within `wait` ticks. -/
inductive Phase (t : VramDmaTransfer) :
    (k p due wait : Nat) → DmaController → Prop where
  | still {d : DmaController} {p : Nat} (state : d.vramDmaState = t.stateAfter p)
      (le : p ≤ t.totalBlocks) (mode : p < t.totalBlocks → t.mode = .hBlank)
      (quiet : d.transferState.Quiet) : Phase t (16 * p) p p 0 d
  | running {d : DmaController} {q m : Nat} {speedMode : CgbSpeedMode}
      {progress : DmaTransferProgress}
      (state : d.vramDmaState = t.stateAfter (q + progress.publishedCompletedBlocks))
      (slot : d.transferState.Holds progress)
      (vram : progress.transfer.IsVram m speedMode)
      (kind : progress.transfer.kind =
        match t.mode with | .generalPurpose => .gdma | .hBlank => .hdma)
      (source : progress.transfer.sourceStart = t.sourceStart + BitVec.ofNat 16 (16 * q))
      (destination : progress.transfer.destinationStart =
        t.destinationStart + BitVec.ofNat 16 (16 * q))
      (le : q + m ≤ t.totalBlocks) (whole : t.mode = .generalPurpose → q + m = t.totalBlocks)
      (early : progress.elapsedTCycles < publicationTCycle m speedMode)
      (restart : d.pendingRestart = none) :
      Phase t (16 * q + progress.completedBytes) (q + progress.publishedCompletedBlocks) (q + m)
        (publicationTCycle m speedMode - progress.elapsedTCycles) d

/-- What an event makes of a transfer: the copied bytes continue the list, no publication is
undone, the endpoints follow the publications, and a due block comes nearer or is published. -/
def Advances (t : VramDmaTransfer) (k p due wait : Nat) (d : DmaController) (e : DmaEvent)
    (copied : List DmaCopy) (d' : DmaController) : Prop :=
  ∃ k' p' due' wait', Phase t k' p' due' wait' d' ∧
    t.copies k ++ copied = t.copies k' ∧ p ≤ p' ∧
    (e.writesEndpoint = false → d.vramDmaRegisters = t.registersAfter p →
      d'.vramDmaRegisters = t.registersAfter p') ∧
    (wait' + [e].countP DmaEvent.isTick ≤ wait ∧ due' = due ∨ due ≤ p')

/-! ## A tick with a quiet slot -/

/-- A general-purpose transfer that is no longer active publishes nothing. -/
theorem applyVramDmaProgressSideEffects_gdma {d : DmaController}
    {previous current : DmaTransferState} {p : DmaTransferProgress}
    (hcurrent : current.progress = some p) (hkind : p.transfer.kind = .gdma)
    (hstate : ∀ t, d.vramDmaState ≠ .generalPurposeActive t) :
    d.applyVramDmaProgressSideEffects previous current = d := by
  have hpublish : ∀ blocks, d.publishBlocks .gdma blocks = d := by
    intro blocks
    unfold publishBlocks
    split
    · next heq _ => exact absurd heq (hstate _)
    · next heq => cases heq
    · rfl
  unfold applyVramDmaProgressSideEffects
  rw [hcurrent]
  simp only [hkind, hpublish, ite_self]

theorem vramCopies_oam {previous current : DmaTransferState} {p : DmaTransferProgress}
    (hcurrent : current.progress = some p) (hkind : p.transfer.kind.isVram = false) :
    vramCopies (transferWorkForCurrentTCycle previous current) = [] := by
  unfold transferWorkForCurrentTCycle
  rw [hcurrent]
  cases previous.progress with
  | none => rfl
  | some q =>
      simp only
      split
      · rfl
      · show (if p.transfer.kind.isVram then _ else _) = _
        rw [hkind]
        rfl

/-- The slot copies nothing to VRAM and publishes nothing for an active H-blank transfer. -/
theorem tickTransfer_quiet {d : DmaController} (hquiet : d.transferState.Quiet)
    (hcoherent : d.Coherent) (hstate : ∀ t, d.vramDmaState ≠ .generalPurposeActive t) :
    vramCopies d.tickTransfer.1 = [] ∧
    d.tickTransfer.2 = { d with transferState := advanceTransferState d.transferState } ∧
    (advanceTransferState d.transferState).Quiet := by
  cases hprogress : d.transferState.progress with
  | none =>
      have hidle : d.transferState = .idle := by
        cases hslot : d.transferState with
        | idle => rfl
        | _ => rw [hslot] at hprogress; cases hprogress
      unfold tickTransfer
      rw [hidle]
      exact ⟨rfl, rfl, nofun⟩
  | some p =>
      by_cases hvram : p.transfer.kind.isVram = true
      · obtain ⟨hslot, hover, hpublished⟩ := hquiet p hprogress hvram
        obtain ⟨m, speedMode, hshape⟩ := hcoherent.shaped p hprogress hvram
        by_cases hadvance : p.hasUnpublishedCompletedBlocks = true
        · -- the last block of a general-purpose transfer that is no longer active
          have hgdma : p.transfer.kind = .gdma := by
            cases hkind : p.transfer.kind with
            | oam => rw [hkind] at hvram; cases hvram
            | gdma => rfl
            | hdma => rw [hpublished hkind] at hadvance; cases hadvance
          have hnext : advanceTransferState d.transferState = .completed p.advanceOneTCycle := by
            rw [hslot]
            simp only [advanceTransferState]
            rw [hvram, hadvance]
            rfl
          have hbytes : p.advanceOneTCycle.completedBytes = p.transfer.totalBytes := by
            refine completedBytes_of_over hover rfl ?_
            have hearly : p.elapsedTCycles < publicationTCycle m speedMode := by
              by_contra hlate
              rw [hasUnpublishedCompletedBlocks, decide_eq_true_eq] at hadvance
              have hblocks := completedBlocks_eq hshape
              have hdone := (published_of_le hshape (Nat.le_of_not_lt hlate)).1
              omega
            rw [advance_elapsed hshape hearly]
            exact Nat.le_succ _
          have hkind : p.advanceOneTCycle.transfer.kind = .gdma := hgdma
          refine ⟨?_, ?_, ?_⟩
          · show vramCopies (transferWorkForCurrentTCycle d.transferState _) = []
            rw [hnext, hslot]
            show vramCopies (if _ ≤ _ then none else _) = []
            rw [if_pos (by rw [hbytes, hover])]
            rfl
          · exact applyVramDmaProgressSideEffects_gdma (by rw [hnext]; rfl) hkind hstate
          · rw [hnext]
            intro p' hp' _
            obtain rfl := Option.some.inj hp'
            exact ⟨rfl, hbytes, fun hhdma => absurd (hkind.symm.trans hhdma) (by decide)⟩
        · have hnext : advanceTransferState d.transferState = d.transferState := by
            rw [hslot]
            simp only [advanceTransferState]
            rw [if_neg (by simp [hadvance])]
          refine ⟨?_, ?_, by rw [hnext]; exact hquiet⟩
          · show vramCopies (transferWorkForCurrentTCycle d.transferState _) = []
            rw [hnext, hslot]
            show vramCopies (if _ ≤ _ then none else _) = []
            rw [if_pos (Nat.le_refl _)]
            rfl
          · refine tickTransfer_of_notPublished fun q q' hq hq' _ => ?_
            rw [hnext, hq] at hq'
            rw [Option.some.inj hq']
      · have hvram' : p.transfer.kind.isVram = false := Bool.eq_false_iff.mpr hvram
        have hnotVram : ∀ p', (advanceTransferState d.transferState).progress = some p' →
            p'.transfer.kind.isVram = false := by
          intro p' hp'
          obtain ⟨q, hq, hcase⟩ := advanceTransferState_progress hp'
          obtain rfl := Option.some.inj (hprogress.symm.trans hq)
          rcases hcase with ⟨rfl, _⟩ | rfl
          · exact hvram'
          · exact hvram'
        refine ⟨?_, ?_, fun p' hp' hv => ?_⟩
        · show vramCopies (transferWorkForCurrentTCycle _ _) = []
          cases hcurrent : (advanceTransferState d.transferState).progress with
          | none =>
              unfold transferWorkForCurrentTCycle
              rw [hcurrent, hprogress]
              rfl
          | some p' => exact vramCopies_oam hcurrent (hnotVram p' hcurrent)
        · refine tickTransfer_of_notPublished fun q q' _ hq' hv => ?_
          rw [hnotVram q' hq'] at hv
          cases hv
        · rw [hnotVram p' hp'] at hv
          cases hv

/-! ## A tick of a running transfer -/

theorem holds_advance {s : DmaTransferState} {p : DmaTransferProgress} {m : Nat}
    {speedMode : CgbSpeedMode} (h : s.Holds p) (hvram : p.transfer.IsVram m speedMode)
    (hearly : p.elapsedTCycles < publicationTCycle m speedMode) :
    (advanceTransferState s).Holds p.advanceOneTCycle := by
  have hvram' : p.advanceOneTCycle.transfer.IsVram m speedMode := hvram
  have helapsed := advance_elapsed hvram hearly
  cases h with
  | starting hzero =>
      simp only [advanceTransferState]
      rw [isCpuBusRestrictionActive_of_isVram hvram']
      refine .active ?_
      have hm := hvram.positive
      rw [isComplete, totalTCycles_eq hvram', decide_eq_false_iff_not, helapsed, hzero]
      rcases blockTCycles_cases speedMode with ⟨hb, -⟩ | ⟨hb, -⟩ <;> rw [hb] <;> omega
  | active hrunning =>
      simp only [advanceTransferState]
      by_cases hcomplete : p.advanceOneTCycle.isComplete = true
      · rw [if_pos hcomplete]
        exact .completed hcomplete
      · rw [if_neg hcomplete]
        exact .active (Bool.eq_false_iff.mpr hcomplete)
  | completed hcomplete =>
      simp only [advanceTransferState]
      rw [hvram.kind, hasUnpublished_of_isComplete hvram hcomplete hearly]
      exact .completed (isComplete_advance hvram hcomplete)

theorem quiet_of_published {s : DmaTransferState} {p : DmaTransferProgress} {m : Nat}
    {speedMode : CgbSpeedMode} (h : s.Holds p) (hvram : p.transfer.IsVram m speedMode)
    (hlate : publicationTCycle m speedMode ≤ p.elapsedTCycles) : s.Quiet := by
  obtain ⟨hpublished, hbytes⟩ := published_of_le hvram hlate
  intro p' hp' _
  obtain rfl := Option.some.inj (h.progress_eq.symm.trans hp')
  refine ⟨?_, hbytes.trans hvram.totalBytes.symm, fun _ => ?_⟩
  · unfold publicationTCycle at hlate
    cases h with
    | starting hzero => omega
    | active hrunning =>
        rw [isComplete, totalTCycles_eq hvram, decide_eq_false_iff_not] at hrunning
        omega
    | completed _ => rfl
  · have hblocks := completedBlocks_eq hvram
    rw [hasUnpublishedCompletedBlocks, decide_eq_false_iff_not]
    omega

/-- The tick copies the next byte, if one is due. -/
theorem copies_tickTransfer {t : VramDmaTransfer} {d : DmaController} {q m : Nat}
    {speedMode : CgbSpeedMode} {progress : DmaTransferProgress}
    (slot : d.transferState.Holds progress) (vram : progress.transfer.IsVram m speedMode)
    (source : progress.transfer.sourceStart = t.sourceStart + BitVec.ofNat 16 (16 * q))
    (destination : progress.transfer.destinationStart =
      t.destinationStart + BitVec.ofNat 16 (16 * q))
    (early : progress.elapsedTCycles < publicationTCycle m speedMode) :
    t.copies (16 * q + progress.completedBytes) ++ vramCopies d.tickTransfer.1 =
      t.copies (16 * q + progress.advanceOneTCycle.completedBytes) := by
  have hslot' := holds_advance slot vram early
  have helapsed := advance_elapsed vram early
  obtain ⟨hbytes, -⟩ := next_spec vram
    (show progress.advanceOneTCycle.transfer = progress.transfer from rfl) helapsed
  have hwork : d.tickTransfer.1 =
      if progress.advanceOneTCycle.completedBytes ≤ progress.completedBytes then none
      else some { transfer := progress.transfer
                  byteIndex := progress.advanceOneTCycle.completedBytes - 1 } := by
    show transferWorkForCurrentTCycle _ _ = _
    unfold transferWorkForCurrentTCycle
    rw [slot.progress_eq, hslot'.progress_eq]
    rfl
  rw [hwork]
  rcases hbytes with hsame | hnext
  · rw [if_pos (Nat.le_of_eq hsame), hsame]
    exact List.append_nil _
  · rw [if_neg (by omega), hnext, ← Nat.add_assoc, VramDmaTransfer.copies_succ]
    congr 1
    show (if progress.transfer.kind.isVram then _ else _) = _
    rw [vram.kind, if_pos rfl]
    have haddress : DmaTransferWork.sourceAddress
          { transfer := progress.transfer, byteIndex := progress.completedBytes + 1 - 1 } =
        progress.transfer.sourceStart + BitVec.ofNat 16 progress.completedBytes := by
      unfold DmaTransferWork.sourceAddress DmaTransfer.sourceAddressForByte
      have hkind := vram.kind
      cases h : progress.transfer.kind with
      | oam => rw [h] at hkind; cases hkind
      | gdma => rfl
      | hdma => rfl
    rw [haddress, source]
    show [(_, progress.transfer.destinationStart + BitVec.ofNat 16 progress.completedBytes)] = _
    rw [destination, BitVec.add_assoc, BitVec.add_assoc, ← BitVec.ofNat_add]
    rfl

theorem publishBlocks_one {t : VramDmaTransfer} {d : DmaController} {p : Nat}
    (hstate : d.vramDmaState = t.stateAfter p) (hlt : p < t.totalBlocks) :
    (d.publishBlocks (match t.mode with | .generalPurpose => .gdma | .hBlank => .hdma)
      1).vramDmaState = t.stateAfter (p + 1) ∧
    (d.publishBlocks (match t.mode with | .generalPurpose => .gdma | .hBlank => .hdma)
      1).vramDmaRegisters = t.registersAfter (p + 1) := by
  have hadvance : (t.after p).advanceCompletedBlocks 1 = t.after (p + 1) := t.advance_after hlt
  have hremaining : (t.after (p + 1)).remainingBlocks = 0 ↔ p + 1 = t.totalBlocks := by
    show t.totalBlocks - (p + 1) = 0 ↔ _
    omega
  unfold VramDmaTransfer.stateAfter at hstate ⊢
  unfold publishBlocks
  cases hmode : t.mode with
  | generalPurpose =>
      rw [hmode] at hstate
      simp only at hstate ⊢
      rw [if_neg (Nat.ne_of_lt hlt)] at hstate
      rw [hstate]
      simp only [hadvance, hremaining]
      exact ⟨trivial, rfl⟩
  | hBlank =>
      rw [hmode] at hstate
      simp only at hstate ⊢
      rw [if_neg (Nat.ne_of_lt hlt)] at hstate
      rw [hstate]
      simp only [hadvance, hremaining]
      exact ⟨trivial, rfl⟩

/-- One cycle of a running transfer: it stays in the slot until its last block is published. -/
theorem advances_tickTransfer {t : VramDmaTransfer} {d : DmaController} {q m : Nat}
    {speedMode : CgbSpeedMode} {progress : DmaTransferProgress}
    (context : VramDmaRuntimeContext)
    (state : d.vramDmaState = t.stateAfter (q + progress.publishedCompletedBlocks))
    (slot : d.transferState.Holds progress) (vram : progress.transfer.IsVram m speedMode)
    (kind : progress.transfer.kind =
      match t.mode with | .generalPurpose => .gdma | .hBlank => .hdma)
    (source : progress.transfer.sourceStart = t.sourceStart + BitVec.ofNat 16 (16 * q))
    (destination : progress.transfer.destinationStart =
      t.destinationStart + BitVec.ofNat 16 (16 * q))
    (le : q + m ≤ t.totalBlocks) (whole : t.mode = .generalPurpose → q + m = t.totalBlocks)
    (early : progress.elapsedTCycles < publicationTCycle m speedMode)
    (restart : d.pendingRestart = none) :
    Advances t (16 * q + progress.completedBytes) (q + progress.publishedCompletedBlocks) (q + m)
      (publicationTCycle m speedMode - progress.elapsedTCycles) d (.tick context)
      (vramCopies d.tickTransfer.1) d.tickTransfer.2 := by
  have helapsed := advance_elapsed vram early
  have hslot' := holds_advance slot vram early
  have hcopies := copies_tickTransfer slot vram source destination early
  have hlt := published_lt vram early
  obtain ⟨-, hpublished, -, -⟩ := next_spec vram
    (show progress.advanceOneTCycle.transfer = progress.transfer from rfl) helapsed
  have hvram' : progress.advanceOneTCycle.transfer.IsVram m speedMode := vram
  generalize hnext : progress.advanceOneTCycle = next at *
  have htransfer : next.transfer = progress.transfer := by rw [← hnext]; rfl
  obtain ⟨hslot, hrestart⟩ := d.tickTransfer_frame
  -- the VRAM state and the endpoints follow the published blocks
  have hstate : d.tickTransfer.2.vramDmaState = t.stateAfter (q + next.publishedCompletedBlocks) ∧
      (d.vramDmaRegisters = t.registersAfter (q + progress.publishedCompletedBlocks) →
        d.tickTransfer.2.vramDmaRegisters =
          t.registersAfter (q + next.publishedCompletedBlocks)) := by
    rcases hpublished with hsame | hone
    · rw [tickTransfer_of_notPublished, hsame]
      · exact ⟨state, id⟩
      · intro p₁ p₂ hp₁ hp₂ _
        obtain rfl := Option.some.inj (slot.progress_eq.symm.trans hp₁)
        obtain rfl := Option.some.inj (hslot'.progress_eq.symm.trans hp₂)
        exact Nat.le_of_eq hsame
    · have hpublish := publishBlocks_one
        (d := { d with transferState := advanceTransferState d.transferState }) state (by omega)
      have heq : d.tickTransfer.2 =
          { d with transferState := advanceTransferState d.transferState }.publishBlocks
            (match t.mode with | .generalPurpose => .gdma | .hBlank => .hdma) 1 := by
        show applyVramDmaProgressSideEffects _ _ _ = _
        unfold applyVramDmaProgressSideEffects
        rw [hslot'.progress_eq, slot.progress_eq]
        simp only [Option.map_some, Option.getD_some]
        rw [hvram'.kind, if_pos rfl, if_neg (by omega), htransfer, kind, hone,
          Nat.add_sub_cancel_left]
      rw [heq, hone, ← Nat.add_assoc]
      exact ⟨hpublish.1, fun _ => hpublish.2⟩
  by_cases hearly' : next.elapsedTCycles < publicationTCycle m speedMode
  · refine ⟨_, _, _, _, .running hstate.1 (by rw [hslot]; exact hslot') hvram'
      (by rw [htransfer]; exact kind) (by rw [htransfer]; exact source)
      (by rw [htransfer]; exact destination) le whole hearly' (hrestart.trans restart),
      hcopies, by omega, fun _ => hstate.2, .inl ⟨?_, rfl⟩⟩
    show publicationTCycle m speedMode - next.elapsedTCycles + 1 ≤ _
    omega
  · have hlate := Nat.le_of_not_lt hearly'
    obtain ⟨hall, hbytes⟩ := published_of_le hvram' hlate
    rw [hall] at hstate hpublished
    rw [hbytes, ← Nat.mul_add] at hcopies
    have hquiet : d.tickTransfer.2.transferState.Quiet := by
      rw [hslot]
      exact quiet_of_published hslot' hvram' hlate
    refine ⟨_, _, _, _, .still hstate.1 le (fun hmore => ?_) hquiet, hcopies, by omega,
      fun _ => hstate.2, .inr (Nat.le_refl _)⟩
    cases hmode : t.mode with
    | generalPurpose => have hwhole := whole hmode; omega
    | hBlank => rfl

/-! ## Events -/

/-- The phase does not depend on the HDMA registers, the source page or the served window. -/
theorem Phase.congr {t : VramDmaTransfer} {k p due wait : Nat} {d d' : DmaController}
    (h : Phase t k p due wait d) (hstate : d'.vramDmaState = d.vramDmaState)
    (hslot : d'.transferState = d.transferState) (hrestart : d'.pendingRestart = d.pendingRestart) :
    Phase t k p due wait d' := by
  cases h with
  | still state le mode quiet => exact .still (hstate.trans state) le mode (hslot ▸ quiet)
  | running state slot vram kind source destination le whole early restart =>
      exact .running (hstate.trans state) (hslot ▸ slot) vram kind source destination le whole
        early (hrestart.trans restart)

theorem startHdmaBlockIfEligible_of_not {d : DmaController} {context : VramDmaRuntimeContext}
    (h : d.startsBlock context = false) : d.startHdmaBlockIfEligible context = d := by
  unfold startsBlock at h
  unfold startHdmaBlockIfEligible
  by_cases hblocked : (d.transferState.isInFlight || context.cpuHalted) = true
  · rw [if_pos hblocked]
  · rw [if_neg hblocked]
    rw [Bool.eq_false_iff.mpr hblocked, Bool.not_false, Bool.true_and] at h
    cases hstate : d.vramDmaState with
    | hBlankActive u =>
        rw [hstate] at h
        simp only at h ⊢
        rw [if_pos]
        rcases Bool.and_eq_false_iff.mp h with hnone | hserved
        · exact .inl (by simpa using hnone)
        · exact .inr (by simpa using hserved)
    | _ => rfl

theorem startHdmaBlockIfEligible_of_starts {d : DmaController} {context : VramDmaRuntimeContext}
    (h : d.startsBlock context = true) :
    ∃ u, d.vramDmaState = .hBlankActive u ∧
      d.startHdmaBlockIfEligible context =
        { d with
          vramDmaLastServedWindow := context.hblankWindow
          transferState := .starting (.new (.hdmaBlockForSpeed u context.speedMode)) } := by
  unfold startsBlock at h
  unfold startHdmaBlockIfEligible
  obtain ⟨hfree, hwindow⟩ := (Bool.and_eq_true _ _).mp h
  rw [if_neg (by simpa using hfree)]
  cases hstate : d.vramDmaState with
  | hBlankActive u =>
      rw [hstate] at hwindow
      simp only [Bool.and_eq_true, bne_iff_ne, ne_eq] at hwindow
      refine ⟨u, rfl, ?_⟩
      simp only
      rw [if_neg (by rintro (hnone | hserved); exacts [hwindow.1 hnone, hwindow.2 hserved])]
  | _ => rw [hstate] at hwindow; cases hwindow

theorem tickTCycle_of_idle {d : DmaController} {context : VramDmaRuntimeContext}
    (hstart : d.startsBlock context = false) (hrestart : d.pendingRestart = none) :
    d.tickTCycle context = d.tickTransfer := by
  unfold tickTCycle
  rw [startHdmaBlockIfEligible_of_not hstart]
  simp only [hrestart]

/-- A still transfer is not an active general-purpose one. -/
theorem ne_generalPurposeActive {t : VramDmaTransfer} {d : DmaController} {p : Nat}
    (state : d.vramDmaState = t.stateAfter p) (le : p ≤ t.totalBlocks)
    (mode : p < t.totalBlocks → t.mode = .hBlank) :
    ∀ u, d.vramDmaState ≠ .generalPurposeActive u := by
  intro u hu
  rw [state, VramDmaTransfer.stateAfter] at hu
  cases hmode : t.mode with
  | generalPurpose =>
      rw [hmode] at hu
      by_cases hall : p = t.totalBlocks
      · simp only at hu
        rw [if_pos hall] at hu
        cases hu
      · have hblank := mode (by omega)
        rw [hmode] at hblank
        cases hblank
  | hBlank =>
      rw [hmode] at hu
      simp only at hu
      split at hu <;> cases hu

/-- An active H-blank transfer still has blocks to copy. -/
theorem stateAfter_hBlankActive {t u : VramDmaTransfer} {p : Nat} (le : p ≤ t.totalBlocks)
    (h : t.stateAfter p = .hBlankActive u) :
    t.mode = .hBlank ∧ p < t.totalBlocks ∧ u = t.after p := by
  unfold VramDmaTransfer.stateAfter at h
  cases hmode : t.mode with
  | generalPurpose =>
      rw [hmode] at h
      simp only at h
      split at h <;> cases h
  | hBlank =>
      rw [hmode] at h
      simp only at h
      by_cases hall : p = t.totalBlocks
      · rw [if_pos hall] at h
        cases h
      · rw [if_neg hall] at h
        exact ⟨rfl, Nat.lt_of_le_of_ne le hall, (VramDmaState.hBlankActive.inj h).symm⟩

theorem Phase.tick_still {t : VramDmaTransfer} {d : DmaController} {p : Nat}
    {context : VramDmaRuntimeContext} (state : d.vramDmaState = t.stateAfter p)
    (le : p ≤ t.totalBlocks) (mode : p < t.totalBlocks → t.mode = .hBlank)
    (quiet : d.transferState.Quiet) (hcoherent : d.Coherent)
    (hkeeps : d.keepsSlot (.tick context) = true) :
    Advances t (16 * p) p p 0 d (.tick context) (vramCopies (d.tickTCycle context).1)
      (d.tickTCycle context).2 := by
  have hstate := ne_generalPurposeActive state le mode
  by_cases hstart : d.startsBlock context = true
  · -- a block begins, and the slot takes its first cycle
    obtain ⟨u, hu, heq⟩ := startHdmaBlockIfEligible_of_starts hstart
    obtain ⟨hmode, hlt, rfl⟩ := stateAfter_hBlankActive le (state.symm.trans hu)
    have hrestart : d.pendingRestart = none := by
      rw [keepsSlot, hstart] at hkeeps
      simp only [Bool.true_and, Bool.not_or, Bool.and_eq_true, Bool.not_eq_true',
        Option.isSome_eq_false_iff, Option.isNone_iff_eq_none] at hkeeps
      exact hkeeps.2
    have htick : d.tickTCycle context = (d.startHdmaBlockIfEligible context).tickTransfer := by
      unfold tickTCycle
      rw [heq]
      simp only [hrestart]
    have hvram := DmaTransfer.hdma_isVram (t.after p) context.speedMode
    have hnew := new_spec hvram
    obtain ⟨k', p', due', wait', hphase, hcopies, hle, hregisters, _⟩ :=
      advances_tickTransfer (t := t) (d := d.startHdmaBlockIfEligible context) (q := p) (m := 1)
        context (by rw [heq, hnew.1]; exact state) (by rw [heq]; exact .starting rfl) hvram
        (by rw [hmode]; rfl) rfl rfl hlt (by rw [hmode]; nofun)
        hnew.2.2 (by rw [heq]; exact hrestart)
    rw [hnew.1] at hle hregisters
    rw [hnew.2.1] at hcopies
    rw [htick]
    refine ⟨k', p', due', wait', hphase, hcopies, hle, fun hw hr => hregisters hw ?_, .inr hle⟩
    rw [heq]
    exact hr
  · have hstart' := Bool.eq_false_iff.mpr hstart
    cases hrestart : d.pendingRestart with
    | none =>
        rw [tickTCycle_of_idle hstart' hrestart]
        obtain ⟨hcopies, heq, hquiet⟩ := tickTransfer_quiet quiet hcoherent hstate
        rw [hcopies, heq]
        exact ⟨_, _, _, _, .still state le mode hquiet, List.append_nil _, Nat.le_refl _,
          fun _ => id, .inr (Nat.le_refl _)⟩
    | some restart =>
        have hkind := hcoherent.restart restart hrestart
        have htick : d.tickTCycle context =
            if !restart.advanceOneTCycle.isCpuBusRestrictionActive then
              { d with pendingRestart := some restart.advanceOneTCycle }.tickTransfer
            else (none, { d with
              pendingRestart := none, transferState := .active restart.advanceOneTCycle }) := by
          unfold tickTCycle
          rw [startHdmaBlockIfEligible_of_not hstart']
          simp only [hrestart]
        rw [htick]
        split
        · obtain ⟨hcopies, heq, hquiet⟩ := tickTransfer_quiet
            (d := { d with pendingRestart := some restart.advanceOneTCycle }) quiet
            ⟨fun r hr => by obtain rfl := Option.some.inj hr; exact hkind, hcoherent.shaped,
              hcoherent.finished, hcoherent.block⟩ hstate
          rw [hcopies, heq]
          exact ⟨_, _, _, _, .still state le mode hquiet, List.append_nil _, Nat.le_refl _,
            fun _ => id, .inr (Nat.le_refl _)⟩
        · exact ⟨_, _, _, _, .still state le mode (quiet_of_oam rfl hkind), List.append_nil _,
            Nat.le_refl _, fun _ => id, .inr (Nat.le_refl _)⟩

/-- A running VRAM transfer stalls the CPU, or waits for its publication. -/
theorem stalled_or_pending {t : VramDmaTransfer} {d : DmaController} {q m : Nat}
    {speedMode : CgbSpeedMode} {progress : DmaTransferProgress}
    (state : d.vramDmaState = t.stateAfter (q + progress.publishedCompletedBlocks))
    (slot : d.transferState.Holds progress) (vram : progress.transfer.IsVram m speedMode)
    (kind : progress.transfer.kind =
      match t.mode with | .generalPurpose => .gdma | .hBlank => .hdma)
    (le : q + m ≤ t.totalBlocks)
    (early : progress.elapsedTCycles < publicationTCycle m speedMode) :
    d.transferState.isInFlight = true ∧ d.cpuStallActive = true ∨
    d.publicationPending = true := by
  have hstall : d.transferState.isInFlight = true → d.cpuStallActive = true := by
    intro hflight
    unfold cpuStallActive
    rw [hflight, slot.progress_eq]
    simp only [isCpuBusRestrictionActive_of_isVram vram, Bool.true_and]
    rcases vram.stalls with hpolicy | hpolicy <;> rw [hpolicy]
  have hlt := published_lt vram early
  cases hslot : d.transferState with
  | idle => rw [hslot] at slot; cases slot
  | starting _ => rw [hslot] at hstall; exact .inl ⟨rfl, hstall rfl⟩
  | active _ => rw [hslot] at hstall; exact .inl ⟨rfl, hstall rfl⟩
  | completed p =>
      rw [hslot] at slot
      cases slot with
      | completed hcomplete =>
          right
          have hunpublished := hasUnpublished_of_isComplete vram hcomplete early
          unfold publicationPending
          rw [hslot, state, VramDmaTransfer.stateAfter]
          cases hmode : t.mode with
          | generalPurpose =>
              rw [hmode] at kind
              simp only
              rw [if_neg (by omega)]
              show (progress.transfer.kind == .gdma && progress.hasUnpublishedCompletedBlocks) = true
              rw [kind, hunpublished]
              rfl
          | hBlank =>
              rw [hmode] at kind
              simp only
              rw [if_neg (by omega)]
              show (progress.transfer.kind == .hdma && progress.hasUnpublishedCompletedBlocks) = true
              rw [kind, hunpublished]
              rfl

theorem Phase.event {t : VramDmaTransfer} {k p due wait : Nat} {d d' : DmaController}
    {e : DmaEvent} {copied : List DmaCopy} (h : Phase t k p due wait d) (hcoherent : d.Coherent)
    (hevent : d.event e = some (copied, d')) (htransfer : d.keepsTransfer e = true)
    (hslot : d.keepsSlot e = true) : Advances t k p due wait d e copied d' := by
  cases e with
  | tick context =>
      cases hevent
      cases h with
      | still state le mode quiet =>
          exact Phase.tick_still state le mode quiet hcoherent hslot
      | running state slot vram kind source destination le whole early restart =>
          have hstart : d.startsBlock context = false := by
            rcases stalled_or_pending state slot vram kind le early with ⟨hflight, _⟩ | hpending
            · unfold startsBlock
              rw [hflight]
              rfl
            · rw [keepsSlot, hpending] at hslot
              simpa using hslot
          rw [tickTCycle_of_idle hstart restart]
          exact advances_tickTransfer context state slot vram kind source destination le whole
            early restart
  | writeFf46 value =>
      obtain ⟨hstall, heq⟩ := cpuWrite_eq_some.mp hevent
      cases heq
      cases h with
      | still state le mode quiet =>
          refine ⟨_, _, _, _, .still (p := p) ?_ le mode ?_, List.append_nil _, Nat.le_refl _,
            fun _ hr => ?_, .inr (Nat.le_refl _)⟩ <;> unfold DmaController.writeFf46
          · simp only
            split <;> exact state
          · simp only
            split
            · exact quiet
            · exact quiet_of_oam rfl rfl
          · simp only
            split <;> exact hr
      | running state slot vram kind source destination le whole early restart =>
          rcases stalled_or_pending state slot vram kind le early with ⟨_, hstalled⟩ | hpending
          · rw [hstall] at hstalled
            cases hstalled
          · rw [keepsSlot, hpending] at hslot
            cases hslot
  | writeHdma5 value speedMode =>
      obtain ⟨-, heq⟩ := cpuWrite_eq_some.mp hevent
      cases heq
      have hignored : d.writeHdma5ForSpeed value speedMode = d := by
        unfold keepsTransfer at htransfer
        unfold DmaController.writeHdma5ForSpeed
        cases hstate : d.vramDmaState with
        | hBlankActive u =>
            rw [hstate] at htransfer
            simp only [bne_iff_ne, ne_eq] at htransfer
            simp only
            rw [if_neg htransfer]
        | _ => rw [hstate] at htransfer; cases htransfer
      rw [hignored]
      exact ⟨k, p, due, wait, h, List.append_nil _, Nat.le_refl _, fun _ => id,
        .inl ⟨Nat.le_refl _, rfl⟩⟩
  | _ value =>
      obtain ⟨-, heq⟩ := cpuWrite_eq_some.mp hevent
      cases heq
      exact ⟨k, p, due, wait, h.congr rfl rfl rfl, List.append_nil _, Nat.le_refl _, nofun,
        .inl ⟨Nat.le_refl _, rfl⟩⟩

/-! ## Runs -/

/-- No program writes `HDMA1` to `HDMA4` in the run. -/
def keepsEndpoints (es : List DmaEvent) : Prop := ∀ e ∈ es, e.writesEndpoint = false

/-- Nothing is due that has no wait before it. -/
theorem Phase.due_le {t : VramDmaTransfer} {k p due : Nat} {d : DmaController} {wait : Nat}
    (h : Phase t k p due wait d) (hwait : wait = 0) : due ≤ p := by
  cases h with
  | still state le mode quiet => exact Nat.le_refl _
  | running state slot vram kind source destination le whole early restart => omega

theorem Phase.run {t : VramDmaTransfer} {k p due wait : Nat} {d d' : DmaController}
    {es : List DmaEvent} {copied : List DmaCopy} (h : Phase t k p due wait d)
    (hcoherent : d.Coherent) (hrun : d.run es = some (copied, d'))
    (htransfer : d.along keepsTransfer es = true) (hslot : d.along keepsSlot es = true) :
    ∃ k' p' due' wait', Phase t k' p' due' wait' d' ∧
      t.copies k ++ copied = t.copies k' ∧ p ≤ p' ∧
      (keepsEndpoints es → d.vramDmaRegisters = t.registersAfter p →
        d'.vramDmaRegisters = t.registersAfter p') ∧
      (wait ≤ DmaEvent.ticks es → due ≤ p') := by
  induction es generalizing k p due wait d copied with
  | nil =>
      cases hrun
      exact ⟨k, p, due, wait, h, List.append_nil _, Nat.le_refl _, fun _ => id,
        fun hwait => h.due_le (Nat.le_zero.mp hwait)⟩
  | cons e es ih =>
      obtain ⟨first, d₁, rest, hevent, hrest, heq⟩ := run_cons_eq_some.mp hrun
      cases heq
      obtain ⟨htransfer₀, htransfer₁⟩ := along_cons hevent htransfer
      obtain ⟨hslot₀, hslot₁⟩ := along_cons hevent hslot
      obtain ⟨k₁, p₁, due₁, wait₁, hphase₁, hcopies₁, hle₁, hregisters₁, hdue₁⟩ :=
        h.event hcoherent hevent htransfer₀ hslot₀
      obtain ⟨k₂, p₂, due₂, wait₂, hphase₂, hcopies₂, hle₂, hregisters₂, hdue₂⟩ :=
        ih hphase₁ (hcoherent.event hevent) hrest htransfer₁ hslot₁
      refine ⟨k₂, p₂, due₂, wait₂, hphase₂, ?_, Nat.le_trans hle₁ hle₂, fun hkeeps hr => ?_,
        fun hwait => ?_⟩
      · rw [← List.append_assoc, hcopies₁, hcopies₂]
      · exact hregisters₂ (fun e' he' => hkeeps e' (.tail _ he'))
          (hregisters₁ (hkeeps e (.head _)) hr)
      · rcases hdue₁ with ⟨hwait₁, hdue⟩ | hpublished
        · rw [← hdue]
          refine hdue₂ ?_
          have hticks : DmaEvent.ticks (e :: es) =
              [e].countP DmaEvent.isTick + DmaEvent.ticks es :=
            @List.countP_append _ DmaEvent.isTick [e] es
          omega
        · exact Nat.le_trans hpublished hle₂

/-- What is true of the counts in any phase. -/
theorem Phase.bounds {t : VramDmaTransfer} {k p due wait : Nat} {d : DmaController}
    (h : Phase t k p due wait d) :
    16 * p ≤ k ∧ k ≤ 16 * due ∧ due ≤ t.totalBlocks ∧ wait ≤ 64 * t.totalBlocks + 12 ∧
      d.vramDmaState = t.stateAfter p := by
  cases h with
  | still state le mode quiet =>
      exact ⟨Nat.le_refl _, Nat.le_refl _, le, Nat.zero_le _, state⟩
  | @running d q m speedMode progress state slot vram kind source destination le whole early
      restart =>
      have hblocks := completedBlocks_eq vram
      have hbytes := completedBytes_eq vram
      have hpublished := publishedCompletedBlocks_eq vram
      have hm := vram.positive
      unfold publicationTCycle at early ⊢
      refine ⟨?_, ?_, le, ?_, state⟩
      · rcases blockTCycles_cases speedMode with ⟨hb, hr⟩ | ⟨hb, hr⟩ <;>
          rw [hb] at hpublished <;> rw [hr] at hbytes <;> omega
      · omega
      · rcases blockTCycles_cases speedMode with ⟨hb, -⟩ | ⟨hb, -⟩ <;> rw [hb] <;> omega

/-! ## The transfer that `HDMA5` starts -/

/-- The transfer that `HDMA5` latches. -/
def latchedTransfer (d : DmaController) (value : U8) : VramDmaTransfer :=
  .new (if value &&& 0x80 = 0 then .generalPurpose else .hBlank) d.vramDmaRegisters
    ((value &&& 0x7F).toNat + 1)

/-- The first `k` bytes are copied, each once and in order, and the controller stands where
`published` blocks leave it. -/
def TransferredOnce (t : VramDmaTransfer) (published : Nat) (copied : List DmaCopy)
    (d : DmaController) : Prop :=
  ∃ k, copied = t.copies k ∧ 16 * published ≤ k ∧ k ≤ 16 * t.totalBlocks ∧
    published ≤ t.totalBlocks ∧ d.vramDmaState = t.stateAfter published

/-- A controller that some run has led to. -/
def Reachable (d : DmaController) : Prop :=
  ∃ model es copied, (new model).run es = some (copied, d)

theorem Reachable.coherent {d : DmaController} (h : d.Reachable) : d.Coherent := by
  obtain ⟨model, es, copied, hrun⟩ := h
  exact (coherent_new model).run hrun

theorem after_zero {t : VramDmaTransfer} (h : t.remainingBlocks = t.totalBlocks) :
    t.after 0 = t := by
  obtain ⟨mode, source, destination, total, remaining⟩ := t
  simp only [VramDmaTransfer.after, Nat.mul_zero, Nat.sub_zero] at h ⊢
  rw [h]
  simp

theorem latchedTransfer_blocks (d : DmaController) (value : U8) :
    0 < (d.latchedTransfer value).totalBlocks ∧ (d.latchedTransfer value).totalBlocks ≤ 128 := by
  have hmask : (value &&& 0x7F).toNat ≤ 127 := by
    rw [BitVec.toNat_and]
    exact Nat.and_le_right
  obtain ⟨hpositive, hbounded⟩ := VramDmaTransfer.new_blocks
    (if value &&& 0x80 = 0 then .generalPurpose else .hBlank) d.vramDmaRegisters
    (Nat.succ_pos (value &&& 0x7F).toNat)
  exact ⟨hpositive, Nat.le_trans hbounded (Nat.succ_le_succ hmask)⟩

/-- Where no VRAM transfer runs, no H-blank block is left in the slot either. -/
theorem quiet_of_inactive {d : DmaController} (hcoherent : d.Coherent)
    (hinactive : ∀ u, d.vramDmaState ≠ .hBlankActive u) (hstall : d.cpuStallActive = false) :
    d.transferState.Quiet := by
  intro p hp hvram
  obtain ⟨m, speedMode, hshape⟩ := hcoherent.shaped p hp hvram
  have hflight : d.transferState.isInFlight = false := by
    by_contra hflight
    rw [Bool.not_eq_false] at hflight
    unfold cpuStallActive at hstall
    rw [hflight, hp] at hstall
    simp only [isCpuBusRestrictionActive_of_isVram hshape, Bool.true_and] at hstall
    rcases hshape.stalls with hpolicy | hpolicy <;> rw [hpolicy] at hstall <;> cases hstall
  have hslot : d.transferState = .completed p := by
    cases hcase : d.transferState <;> rw [hcase] at hp hflight
    · cases hp
    · cases hflight
    · cases hflight
    · exact congrArg _ (Option.some.inj hp)
  have hcomplete := hcoherent.finished p hslot hvram
  refine ⟨hslot, (completedBytes_of_isComplete hshape hcomplete).trans hshape.totalBytes.symm,
    fun hkind => ?_⟩
  by_contra hunpublished
  rw [Bool.not_eq_false, hasUnpublishedCompletedBlocks, decide_eq_true_eq] at hunpublished
  have hblocks := completedBlocks_eq hshape
  rw [hshape.single hkind] at hblocks
  obtain ⟨u, hu⟩ := hcoherent.block p hp hkind (by omega)
  exact hinactive u hu

/-- A transfer starts with nothing copied and nothing published. -/
theorem phase_startVramDma {d : DmaController} (hcoherent : d.Coherent)
    (hinactive : ∀ u, d.vramDmaState ≠ .hBlankActive u) (hstall : d.cpuStallActive = false)
    (value : U8) (speedMode : CgbSpeedMode) :
    (∃ due wait, Phase (d.latchedTransfer value) 0 0 due wait (d.startVramDma value speedMode)) ∧
    (d.startVramDma value speedMode).vramDmaRegisters =
      (d.latchedTransfer value).registersAfter 0 := by
  obtain ⟨hpositive, hbounded⟩ := d.latchedTransfer_blocks value
  have hafter : (d.latchedTransfer value).after 0 = d.latchedTransfer value := after_zero rfl
  have hregisters : (d.latchedTransfer value).registersAfter 0 = d.vramDmaRegisters := by
    show VramDmaRegisters.setEndpoints ((d.latchedTransfer value).after 0).sourceStart
      ((d.latchedTransfer value).after 0).destinationStart = _
    rw [hafter]
    exact d.vramDmaRegisters.setEndpoints_self
  have hstate : ∀ mode, (d.latchedTransfer value).mode = mode →
      (d.latchedTransfer value).stateAfter 0 =
        match mode with
        | .generalPurpose => .generalPurposeActive (d.latchedTransfer value)
        | .hBlank => .hBlankActive (d.latchedTransfer value) := by
    intro mode hmode
    unfold VramDmaTransfer.stateAfter
    rw [hmode, hafter]
    cases mode with
    | generalPurpose => exact if_neg (Nat.ne_of_lt hpositive)
    | hBlank => exact if_neg (Nat.ne_of_lt hpositive)
  rw [hregisters]
  by_cases hclear : value &&& 0x80 = 0
  · have hmode : (d.latchedTransfer value).mode = .generalPurpose := if_pos hclear
    have hstart : d.startVramDma value speedMode =
        { d with
          vramDmaState := .generalPurposeActive (d.latchedTransfer value)
          vramDmaLastServedWindow := .none
          transferState := .starting (.new (.gdmaForSpeed (d.latchedTransfer value) speedMode))
          pendingRestart := none } := by
      unfold startVramDma latchedTransfer
      rw [if_pos hclear, if_pos hclear]
    have hvram := DmaTransfer.gdma_isVram (t := d.latchedTransfer value) speedMode hpositive
      hbounded
    have hnew := new_spec hvram
    have hphase : Phase (d.latchedTransfer value) _ _ _ _ (d.startVramDma value speedMode) :=
      .running (q := 0) (m := (d.latchedTransfer value).totalBlocks)
        (by rw [hstart, hnew.1]; exact (hstate _ hmode).symm) (by rw [hstart]; exact .starting rfl)
        hvram (by rw [hmode]; rfl) (by simp [DmaTransferProgress.new, DmaTransfer.gdmaForSpeed])
        (by simp [DmaTransferProgress.new, DmaTransfer.gdmaForSpeed]) (by omega) (by omega)
        hnew.2.2 (by rw [hstart])
    rw [hnew.1, hnew.2.1] at hphase
    exact ⟨⟨_, _, hphase⟩, by rw [hstart]⟩
  · have hmode : (d.latchedTransfer value).mode = .hBlank := if_neg hclear
    have hstart : d.startVramDma value speedMode =
        { d with
          vramDmaState := .hBlankActive (d.latchedTransfer value)
          vramDmaLastServedWindow := .none } := by
      unfold startVramDma latchedTransfer
      rw [if_neg hclear, if_neg hclear]
    have hquiet := quiet_of_inactive hcoherent hinactive hstall
    exact ⟨⟨0, 0, .still (p := 0) (by rw [hstart]; exact (hstate _ hmode).symm)
      (Nat.zero_le _) (fun _ => hmode) (by rw [hstart]; exact hquiet)⟩, by rw [hstart]⟩

/-- In every run that keeps the slot a transfer copies its bytes once and in order, the state
and the endpoints advance by exactly the published blocks, and the blocks of the bytes copied
so far are published once enough more cycles have passed. -/
theorem vramDma_transfersOnce {d : DmaController} (hreachable : d.Reachable)
    (hinactive : ∀ u, d.vramDmaState ≠ .hBlankActive u) (hstall : d.cpuStallActive = false)
    (value : U8) (speedMode : CgbSpeedMode) {es : List DmaEvent} {copied : List DmaCopy}
    {d' : DmaController} (hrun : (d.startVramDma value speedMode).run es = some (copied, d'))
    (htransfer : (d.startVramDma value speedMode).along keepsTransfer es = true)
    (hslot : (d.startVramDma value speedMode).along keepsSlot es = true) :
    ∃ published, TransferredOnce (d.latchedTransfer value) published copied d' ∧
      (keepsEndpoints es →
        d'.vramDmaRegisters = (d.latchedTransfer value).registersAfter published) ∧
      ∀ later more d'', d'.run later = some (more, d'') →
        d'.along keepsTransfer later = true → d'.along keepsSlot later = true →
        64 * (d.latchedTransfer value).totalBlocks + 12 ≤ DmaEvent.ticks later →
        ∃ published', TransferredOnce (d.latchedTransfer value) published' (copied ++ more) d'' ∧
          copied.length ≤ 16 * published' := by
  have hcoherent := hreachable.coherent
  obtain ⟨⟨due₀, wait₀, hphase₀⟩, hregisters₀⟩ :=
    phase_startVramDma hcoherent hinactive hstall value speedMode
  have hcoherent₀ := hcoherent.startVramDma value speedMode
  obtain ⟨k, p, due, wait, hphase, hcopied, -, hregisters, -⟩ :=
    hphase₀.run hcoherent₀ hrun htransfer hslot
  obtain ⟨hpublished, hdue, hall, hwait, hstate⟩ := hphase.bounds
  have hcopied' : copied = (d.latchedTransfer value).copies k := hcopied
  refine ⟨p, ⟨k, hcopied', hpublished, by omega, by omega, hstate⟩,
    fun hkeeps => hregisters hkeeps hregisters₀, fun later more d'' hlater hlt hls hticks => ?_⟩
  obtain ⟨k', p', due', wait', hphase', hcopied'', -, -, hdue'⟩ :=
    hphase.run (hcoherent₀.run hrun) hlater hlt hls
  obtain ⟨hpublished', hdue'', hall', -, hstate'⟩ := hphase'.bounds
  refine ⟨p', ⟨k', by rw [hcopied', hcopied''], hpublished', by omega, by omega, hstate'⟩, ?_⟩
  rw [hcopied', VramDmaTransfer.length_copies]
  have hle := hdue' (Nat.le_trans hwait hticks)
  omega

/-! ## The slot is lost

One block is copied in the H-blank of line 3, and the program writes `FF46` in the cycle in
which the CPU is released.  The OAM transfer takes the slot before the publication, and the
H-blank of line 4 copies the block again. -/

def hBlankOfLine (ly : U8) : VramDmaRuntimeContext where
  lcdEnabled := true
  ppuMode := .hBlank
  ppuLy := ly
  ppuLineDot := 300
  ppuMode0StartDot := 252
  cpuHalted := false
  speedMode := .normal

def oamWriteInTheGap : List DmaEvent :=
  .replicate 37 (.tick (hBlankOfLine 3)) ++
    .writeFf46 0xC0 :: .replicate 685 (.tick (hBlankOfLine 4))

theorem vramDma_copiesTwice :
    ∃ copied d',
      ((new .gameBoyColor).startVramDma 0x80 .normal).run oamWriteInTheGap = some (copied, d') ∧
      ((new .gameBoyColor).startVramDma 0x80 .normal).along keepsTransfer oamWriteInTheGap = true ∧
      ¬ ∃ published, TransferredOnce ((new .gameBoyColor).latchedTransfer 0x80) published copied
        d' := by
  have hlength : (((new .gameBoyColor).startVramDma 0x80 .normal).run oamWriteInTheGap).map
      (fun r => r.1.length) = some 32 := by decide +kernel
  obtain ⟨⟨copied, d'⟩, hrun, hcopied⟩ := Option.map_eq_some_iff.mp hlength
  refine ⟨copied, d', hrun, by decide +kernel, ?_⟩
  rintro ⟨published, k, rfl, -, hk, -⟩
  rw [VramDmaTransfer.length_copies] at hcopied
  have hblocks : ((new .gameBoyColor).latchedTransfer 0x80).totalBlocks = 1 := by decide
  omega

theorem reachable_new (model : ConsoleModel) : (new model).Reachable := ⟨model, [], [], rfl⟩

/-- Without the write the block is copied once and published. -/
theorem vramDma_transfersOnce_line :
    ∃ copied d',
      ((new .gameBoyColor).startVramDma 0x80 .normal).run
        (.replicate 60 (.tick (hBlankOfLine 3))) = some (copied, d') ∧
      copied.length = 16 ∧
      TransferredOnce ((new .gameBoyColor).latchedTransfer 0x80) 1 copied d' ∧
      d'.vramDmaRegisters = ((new .gameBoyColor).latchedTransfer 0x80).registersAfter 1 := by
  have hafter : (((new .gameBoyColor).startVramDma 0x80 .normal).run
      (.replicate 60 (.tick (hBlankOfLine 3)))).map (fun r => (r.1.length, r.2.vramDmaState)) =
        some (16, .inactive 0x7F) := by decide +kernel
  obtain ⟨⟨copied, d'⟩, hrun, hsame⟩ := Option.map_eq_some_iff.mp hafter
  obtain ⟨hlength, hdone⟩ := Prod.mk.inj hsame
  obtain ⟨published, honce, hregisters, -⟩ :=
    vramDma_transfersOnce (reachable_new .gameBoyColor) nofun rfl 0x80 .normal hrun
      (by decide +kernel) (by decide +kernel)
  have hpublished : published = 1 := by
    obtain ⟨k, -, -, -, hle, hstate⟩ := honce
    have hblocks : ((new .gameBoyColor).latchedTransfer 0x80).totalBlocks = 1 := by decide
    rw [hblocks] at hle
    rcases Nat.le_one_iff_eq_zero_or_eq_one.mp hle with rfl | rfl
    · cases hdone.symm.trans hstate
    · rfl
  have hkeeps : keepsEndpoints (.replicate 60 (.tick (hBlankOfLine 3))) := by
    intro e he
    rw [List.eq_of_mem_replicate he]
    rfl
  subst hpublished
  exact ⟨copied, d', hrun, hlength, honce, hregisters hkeeps⟩

end DmaController

end GbCycle
