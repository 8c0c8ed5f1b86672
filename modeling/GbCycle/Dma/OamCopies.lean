import GbCycle.Dma.Copies

/-!
# OAM DMA copies every byte exactly once

A write of `FF46` starts a transfer of 160 bytes.  Where another transfer is in flight the new
one waits beside it, counting its delay, and the old one goes on copying until the delay is
over.  We follow a run with a history: the writes so far, each with the number of bytes its
transfer has copied.  At most two entries of it still grow, the transfer in the slot and the
last one written, and never both.

Nothing but a later write of `FF46` or the start of a general-purpose transfer stops a transfer
before its last byte.
-/

namespace GbCycle

/-- A write of `FF46`: the number of ticks before it and the page. -/
structure OamWrite where
  tCycle : Nat
  page : U8
  deriving Repr, DecidableEq

/-- The tick that copies a byte, its source and its destination. -/
abbrev OamCopy := Nat × U16 × U16

/-- The bytes that a transfer has copied `n` ticks after its write. -/
def oamDue (n : Nat) : Nat := if n < 8 then 0 else min 160 ((n - 8) / 4 + 1)

/-- Byte `k` comes `8 + 4 * k` ticks after the write. -/
def OamWrite.copyAt (w : OamWrite) (k : Nat) : OamCopy :=
  (w.tCycle + 8 + 4 * k, normalizeOamSourceAddress (BitVec.ofNat 16 (256 * w.page.toNat + k)),
    BitVec.ofNat 16 (0xFE00 + k))

/-- The first bytes of the transfer, each once and in order. -/
def OamWrite.copies (w : OamWrite) (count : Nat) : List OamCopy := (List.range count).map w.copyAt

/-- The writes so far, each with the number of bytes copied for it. -/
abbrev OamHistory := List (OamWrite × Nat)

namespace OamHistory

def writes (h : OamHistory) : List OamWrite := h.map Prod.fst

def copies (h : OamHistory) : List OamCopy := h.flatMap fun x => x.1.copies x.2

end OamHistory

/-- The addresses of the OAM byte that a tick copies. -/
def oamCopy : Option DmaTransferWork → Option (U16 × U16)
  | none => none
  | some work =>
      if work.transfer.kind = .oam then some (work.sourceAddress, work.destinationAddress)
      else none

namespace DmaEvent

/-- The ticks of one event. -/
def duration (e : DmaEvent) : Nat := if e.isTick then 1 else 0

theorem add_ticks_cons (now : Nat) (e : DmaEvent) (es : List DmaEvent) :
    now + ticks (e :: es) = now + e.duration + ticks es := by
  unfold ticks duration
  rw [List.countP_cons]
  omega

def oamWrites (now : Nat) : DmaEvent → List OamWrite
  | .writeFf46 value => [{ tCycle := now, page := value }]
  | _ => []

end DmaEvent

/-- The writes of `FF46` in a run. -/
def oamWrites (now : Nat) : List DmaEvent → List OamWrite
  | [] => []
  | e :: es => e.oamWrites now ++ oamWrites (now + e.duration) es

theorem oamWrites_eq_nil {now : Nat} {es : List DmaEvent}
    (h : ∀ value, DmaEvent.writeFf46 value ∉ es) : oamWrites now es = [] := by
  induction es generalizing now with
  | nil => rfl
  | cons e es ih =>
      have hfirst : e.oamWrites now = [] := by
        cases e with
        | writeFf46 value => exact absurd (List.mem_cons_self ..) (h value)
        | _ => rfl
      rw [oamWrites, hfirst, ih fun value hmem => h value (List.mem_cons_of_mem _ hmem)]
      rfl

namespace DmaController

def oamCopiesOf (d : DmaController) (now : Nat) : DmaEvent → List OamCopy
  | .tick context => ((oamCopy (d.tickTCycle context).1).map (now + 1, ·)).toList
  | _ => []

/-- The OAM bytes that a run copies, in order. -/
def oamCopies (d : DmaController) (now : Nat) : List DmaEvent → List OamCopy
  | [] => []
  | e :: es =>
      d.oamCopiesOf now e ++
        match d.event e with
        | none => []
        | some r => r.2.oamCopies (now + e.duration) es

/-- The event is not a write of `HDMA5` that starts a general-purpose transfer. -/
def keepsOam (d : DmaController) : DmaEvent → Bool
  | .writeHdma5 value _ =>
      value &&& 0x80 != 0 ||
        match d.vramDmaState with
        | .hBlankActive _ => true
        | .inactive _ | .generalPurposeActive _ | .generalPurposeComplete _ => false
  | _ => true

end DmaController

/-! ## Counting bytes -/

theorem oamDue_of_lt {n : Nat} (h : n < 8) : oamDue n = 0 := if_pos h

theorem oamDue_of_le {n : Nat} (h : 644 ≤ n) : oamDue n = 160 := by
  rw [oamDue, if_neg (by omega)]
  omega

/-- The bytes copied are those whose time has come. -/
theorem lt_oamDue {k n : Nat} : k < oamDue n ↔ k < 160 ∧ 8 + 4 * k ≤ n := by
  unfold oamDue
  split <;> omega

theorem oamDue_le (n : Nat) : oamDue n ≤ 160 := by
  unfold oamDue
  split
  · exact Nat.zero_le _
  · exact Nat.min_le_left _ _

/-- A cycle adds a byte, at its own time, or none. -/
theorem oamDue_succ (n : Nat) :
    oamDue (n + 1) = oamDue n ∨
      oamDue (n + 1) = oamDue n + 1 ∧ n + 1 = 8 + 4 * oamDue n := by
  unfold oamDue
  split <;> split <;> omega

namespace OamWrite

theorem copies_succ (w : OamWrite) (count : Nat) :
    w.copies (count + 1) = w.copies count ++ [w.copyAt count] := by
  rw [copies, List.range_succ, List.map_append]
  rfl

theorem copies_zero (w : OamWrite) : w.copies 0 = [] := rfl

end OamWrite

theorem OamHistory.copies_append (h h' : OamHistory) :
    OamHistory.copies (h ++ h') = h.copies ++ h'.copies := List.flatMap_append

theorem OamHistory.copies_single (w : OamWrite) (count : Nat) :
    OamHistory.copies [(w, count)] = w.copies count := List.append_nil _

/-- Writes whose transfer never took the slot have copied nothing. -/
theorem OamHistory.copies_unstarted (ws : List OamWrite) :
    OamHistory.copies (ws.map (·, 0)) = [] := by
  rw [OamHistory.copies, List.flatMap_map, List.flatMap_eq_nil_iff]
  intro w _
  exact w.copies_zero

/-- How a history goes on: some writes come after it, and its transfers copy some bytes. -/
structure OamHistory.Continues (h h' : OamHistory) (copied : List OamCopy)
    (written : List OamWrite) : Prop where
  writes : h'.writes = h.writes ++ written
  copies : h'.copies = h.copies ++ copied
  bounded : (∀ x ∈ h, x.2 ≤ 160) → ∀ x ∈ h', x.2 ≤ 160

namespace OamHistory

theorem Continues.refl (h : OamHistory) : h.Continues h [] [] :=
  ⟨(List.append_nil _).symm, (List.append_nil _).symm, id⟩

theorem Continues.trans {h h' h'' : OamHistory} {copied copied' : List OamCopy}
    {written written' : List OamWrite} (first : h.Continues h' copied written)
    (second : h'.Continues h'' copied' written') :
    h.Continues h'' (copied ++ copied') (written ++ written') where
  writes := by rw [second.writes, first.writes, List.append_assoc]
  copies := by rw [second.copies, first.copies, List.append_assoc]
  bounded := second.bounded ∘ first.bounded

/-- A new write has copied nothing. -/
theorem continues_write (h : OamHistory) (w : OamWrite) : h.Continues (h ++ [(w, 0)]) [] [w] where
  writes := List.map_append
  copies := by
    rw [copies_append, copies_single]
    rfl
  bounded hall x hx := by
    rcases List.mem_append.mp hx with hold | hnew
    · exact hall x hold
    · obtain rfl := List.mem_singleton.mp hnew
      exact Nat.zero_le _

/-- A transfer copies more bytes, and those written after it have copied none. -/
theorem continues_copy (h : OamHistory) (w : OamWrite) (ws : List OamWrite) {count count' : Nat}
    {copied : List OamCopy} (hcopied : w.copies count' = w.copies count ++ copied)
    (hle : count' ≤ 160) :
    OamHistory.Continues (h ++ (w, count) :: ws.map (·, 0)) (h ++ (w, count') :: ws.map (·, 0))
      copied [] where
  writes := by
    rw [List.append_nil]
    simp only [OamHistory.writes, List.map_append, List.map_cons]
  copies := by
    have hcopies (count : Nat) :
        OamHistory.copies (h ++ (w, count) :: ws.map (·, 0)) = h.copies ++ w.copies count := by
      rw [show h ++ (w, count) :: ws.map (·, 0) = h ++ [(w, count)] ++ ws.map (·, 0) by simp,
        copies_append, copies_append, copies_single, copies_unstarted, List.append_nil]
    rw [hcopies, hcopies, hcopied, List.append_assoc]
  bounded hall x hx := by
    rcases List.mem_append.mp hx with hold | hnew
    · exact hall x (List.mem_append_left _ hold)
    · rcases List.mem_cons.mp hnew with rfl | hlater
      · exact hle
      · exact hall x (List.mem_append_right _ (List.mem_cons_of_mem _ hlater))

end OamHistory

/-! ## An OAM transfer in the slot -/

namespace DmaTransferState

/-- The slot has run the transfer of a page for `n` cycles. -/
inductive RunsOam (page : U8) (n : Nat) : DmaTransferState → Prop where
  | starting (early : n < 5) : RunsOam page n (.starting ⟨.oam page, n⟩)
  | active (late : 5 ≤ n) (running : n < 648) : RunsOam page n (.active ⟨.oam page, n⟩)

/-- No OAM transfer is in flight in the slot. -/
def FreeOfOam (s : DmaTransferState) : Prop :=
  ∀ p, s.progress = some p → p.transfer.kind = .oam → s = .completed p

variable {s : DmaTransferState} {page : U8} {n : Nat}

theorem RunsOam.lt (h : s.RunsOam page n) : n < 648 := by
  cases h with
  | starting early => omega
  | active late running => exact running

theorem RunsOam.progress_eq (h : s.RunsOam page n) : s.progress = some ⟨.oam page, n⟩ := by
  cases h <;> rfl

theorem RunsOam.isInFlight (h : s.RunsOam page n) : s.isInFlight = true := by
  cases h <;> rfl

theorem freeOfOam_of_vram {p : DmaTransferProgress} (hprogress : s.progress = some p)
    (hkind : p.transfer.kind ≠ .oam) : s.FreeOfOam := by
  intro p' hprogress' hkind'
  obtain rfl := Option.some.inj (hprogress.symm.trans hprogress')
  exact absurd hkind' hkind

theorem freeOfOam_completed (p : DmaTransferProgress) : (DmaTransferState.completed p).FreeOfOam := by
  intro p' hprogress _
  obtain rfl := Option.some.inj hprogress
  rfl

theorem advanceOneTCycle_oam (h : n < 648) :
    DmaTransferProgress.advanceOneTCycle ⟨.oam page, n⟩ = ⟨.oam page, n + 1⟩ := by
  show DmaTransferProgress.mk (.oam page) (min (n + 1) 0xFFFF) = _
  rw [Nat.min_eq_left (by omega)]

theorem isCpuBusRestrictionActive_oam :
    DmaTransferProgress.isCpuBusRestrictionActive ⟨.oam page, n⟩ = true ↔ 5 ≤ n :=
  decide_eq_true_iff

theorem isComplete_oam : DmaTransferProgress.isComplete ⟨.oam page, n⟩ = true ↔ 648 ≤ n :=
  decide_eq_true_iff

theorem oam_sourceStart (page : U8) :
    (DmaTransfer.oam page).sourceStart = BitVec.ofNat 16 (256 * page.toNat) := by
  refine BitVec.eq_of_toNat_eq ?_
  have hpage := page.isLt
  show (U16.ofByte page <<< 8).toNat = _
  rw [BitVec.toNat_shiftLeft, U16.ofByte, BitVec.toNat_setWidth, BitVec.toNat_ofNat,
    Nat.shiftLeft_eq]
  omega

theorem completedBytes_oam (n : Nat) :
    DmaTransferProgress.completedBytes ⟨.oam page, n⟩ = oamDue n := by
  show (if n < 8 then 0 else min (1 + (n - 8) / 4) 160) = oamDue n
  rw [oamDue, Nat.min_comm, Nat.add_comm 1]

/-- The transfer goes on, or is completed after its last cycle. -/
theorem RunsOam.advance (h : s.RunsOam page n) :
    (n + 1 < 648 ∧ (DmaController.advanceTransferState s).RunsOam page (n + 1)) ∨
    (n + 1 = 648 ∧ DmaController.advanceTransferState s = .completed ⟨.oam page, 648⟩) := by
  cases h with
  | starting early =>
      refine .inl ⟨by omega, ?_⟩
      rw [DmaController.advanceTransferState, advanceOneTCycle_oam (by omega)]
      by_cases hlate : 5 ≤ n + 1
      · rw [if_pos (isCpuBusRestrictionActive_oam.mpr hlate)]
        exact .active hlate (by omega)
      · rw [if_neg (mt isCpuBusRestrictionActive_oam.mp hlate)]
        exact .starting (by omega)
  | active late running =>
      rw [DmaController.advanceTransferState, advanceOneTCycle_oam running]
      by_cases hcomplete : 648 ≤ n + 1
      · obtain rfl : n = 647 := by omega
        exact .inr ⟨rfl, rfl⟩
      · refine .inl ⟨by omega, ?_⟩
        rw [if_neg (mt isComplete_oam.mp hcomplete)]
        exact .active (by omega) (by omega)

theorem RunsOam.advance_progress (h : s.RunsOam page n) :
    (DmaController.advanceTransferState s).progress = some ⟨.oam page, n + 1⟩ := by
  rcases h.advance with ⟨-, hrun⟩ | ⟨hend, hdone⟩
  · exact hrun.progress_eq
  · rw [hdone, hend]
    rfl

/-- The byte that a cycle of a running transfer copies goes to the end of its list. -/
theorem RunsOam.copies (h : s.RunsOam page n) (tCycle : Nat) :
    (OamWrite.mk tCycle page).copies (oamDue (n + 1)) =
      (OamWrite.mk tCycle page).copies (oamDue n) ++
        ((oamCopy (DmaController.transferWorkForCurrentTCycle s
          (DmaController.advanceTransferState s))).map (tCycle + n + 1, ·)).toList := by
  unfold DmaController.transferWorkForCurrentTCycle
  rw [h.progress_eq, h.advance_progress]
  simp only [completedBytes_oam]
  rcases oamDue_succ n with hsame | ⟨hnext, htime⟩
  · rw [if_pos (by omega), hsame]
    exact (List.append_nil _).symm
  · have hlast : oamDue n + 1 - 1 = oamDue n := Nat.add_sub_cancel _ _
    rw [if_neg (by omega), hnext, hlast, OamWrite.copies_succ]
    congr 2
    refine Prod.ext ?_ (Prod.ext ?_ ?_)
    · show tCycle + 8 + 4 * oamDue n = tCycle + n + 1
      omega
    · show normalizeOamSourceAddress _ = normalizeOamSourceAddress _
      rw [BitVec.ofNat_add, ← oam_sourceStart]
    · exact BitVec.ofNat_add _ _

/-- A slot without an OAM transfer copies none of its bytes, and stays so. -/
theorem FreeOfOam.advance (h : s.FreeOfOam) :
    (DmaController.advanceTransferState s).FreeOfOam ∧
    oamCopy (DmaController.transferWorkForCurrentTCycle s
      (DmaController.advanceTransferState s)) = none := by
  cases hprogress : (DmaController.advanceTransferState s).progress with
  | none =>
      refine ⟨fun p hp => ?_, ?_⟩
      · rw [hprogress] at hp
        cases hp
      · unfold DmaController.transferWorkForCurrentTCycle
        rw [hprogress]
        cases s.progress <;> rfl
  | some p' =>
      obtain ⟨p, hp, hcase⟩ := DmaController.advanceTransferState_progress hprogress
      have htransfer : p'.transfer = p.transfer := by
        rcases hcase with ⟨rfl, -⟩ | rfl <;> rfl
      by_cases hkind : p.transfer.kind = .oam
      · obtain rfl := h p hp hkind
        have hstill : DmaController.advanceTransferState (.completed p) = .completed p := by
          rw [DmaController.advanceTransferState, if_neg]
          rw [hkind]
          intro hvram
          cases hvram
        rw [hstill]
        refine ⟨h, ?_⟩
        unfold DmaController.transferWorkForCurrentTCycle
        simp only [progress, Nat.le_refl, if_true]
        rfl
      · refine ⟨freeOfOam_of_vram hprogress (htransfer ▸ hkind), ?_⟩
        unfold DmaController.transferWorkForCurrentTCycle
        rw [hprogress, hp]
        simp only
        split
        · rfl
        · exact if_neg (htransfer ▸ hkind)

end DmaTransferState

/-! ## The phases of the controller -/

namespace DmaController

open DmaTransferState

/-- Where the transfers of a history stand.  A history is `live` while nothing but a write of
`FF46` has come after its last entry. -/
inductive OamPhase (now : Nat) : (live : Bool) → OamHistory → DmaController → Prop where
  | free {h : OamHistory} {d : DmaController} (slot : d.transferState.FreeOfOam)
      (restart : d.pendingRestart = none) : OamPhase now false h d
  | done {h : OamHistory} {w : OamWrite} {d : DmaController} (slot : d.transferState.FreeOfOam)
      (restart : d.pendingRestart = none) (late : w.tCycle + 648 ≤ now) :
      OamPhase now true (h ++ [(w, 160)]) d
  | running {h : OamHistory} {w : OamWrite} {n : Nat} {d : DmaController}
      (slot : d.transferState.RunsOam w.page n) (restart : d.pendingRestart = none)
      (time : now = w.tCycle + n) : OamPhase now true (h ++ [(w, oamDue n)]) d
  | waiting {h : OamHistory} {w : OamWrite} {n : Nat} {d : DmaController}
      (slot : d.transferState.FreeOfOam) (restart : d.pendingRestart = some ⟨.oam w.page, n⟩)
      (early : n < 5) (time : now = w.tCycle + n) : OamPhase now true (h ++ [(w, 0)]) d
  | replacing {h : OamHistory} {w₀ w : OamWrite} {ws : List OamWrite} {n₀ n : Nat}
      {d : DmaController} (slot : d.transferState.RunsOam w₀.page n₀)
      (restart : d.pendingRestart = some ⟨.oam w.page, n⟩) (early : n < 5)
      (time₀ : now = w₀.tCycle + n₀) (time : now = w.tCycle + n) :
      OamPhase now true (h ++ (w₀, oamDue n₀) :: (ws ++ [w]).map (·, 0)) d

variable {now : Nat} {live : Bool} {h : OamHistory} {d d' : DmaController}

theorem OamPhase.congr (hphase : OamPhase now live h d)
    (hslot : d'.transferState = d.transferState) (hrestart : d'.pendingRestart = d.pendingRestart) :
    OamPhase now live h d' := by
  cases hphase with
  | free slot restart => exact .free (hslot ▸ slot) (hrestart.trans restart)
  | done slot restart late => exact .done (hslot ▸ slot) (hrestart.trans restart) late
  | running slot restart time => exact .running (hslot ▸ slot) (hrestart.trans restart) time
  | waiting slot restart early time =>
      exact .waiting (hslot ▸ slot) (hrestart.trans restart) early time
  | replacing slot restart early time₀ time =>
      exact .replacing (hslot ▸ slot) (hrestart.trans restart) early time₀ time

/-- The history of a phase after a write that copies nothing yet. -/
theorem OamPhase.writeFf46 (hphase : OamPhase now live h d) (value : U8) :
    OamPhase now true (h ++ [(⟨now, value⟩, 0)]) (d.writeFf46 value) := by
  have hstart (hfree : d.transferState.isInFlight = false) :
      OamPhase now true (h ++ [(⟨now, value⟩, 0)]) (d.writeFf46 value) := by
    have hwrite : d.writeFf46 value =
        { d with
          sourcePageLatch := value
          transferState := .starting ⟨.oam value, 0⟩
          pendingRestart := none } := by
      unfold DmaController.writeFf46
      simp only [hfree]
      rfl
    rw [hwrite]
    exact .running (w := ⟨now, value⟩) (n := 0) (.starting (by omega)) rfl rfl
  have hwait (hslot : d.transferState.FreeOfOam) :
      OamPhase now true (h ++ [(⟨now, value⟩, 0)]) (d.writeFf46 value) := by
    cases hflight : d.transferState.isInFlight with
    | false => exact hstart hflight
    | true =>
        have hwrite : d.writeFf46 value =
            { d with
              sourcePageLatch := value
              pendingRestart := some ⟨.oam value, 0⟩ } := by
          unfold DmaController.writeFf46
          simp only [hflight]
          rfl
        rw [hwrite]
        exact .waiting (w := ⟨now, value⟩) (n := 0) hslot rfl (by omega) rfl
  have hpending {page : U8} {n : Nat} (hslot : d.transferState.RunsOam page n) :
      d.writeFf46 value =
        { d with
          sourcePageLatch := value
          pendingRestart := some ⟨.oam value, 0⟩ } := by
    unfold DmaController.writeFf46
    simp only [hslot.isInFlight]
    rfl
  cases hphase with
  | free slot restart => exact hwait slot
  | done slot restart late => exact hwait slot
  | @running h w n d slot restart time =>
      rw [hpending slot]
      have hreplacing : OamPhase now true
          (h ++ (w, oamDue n) :: ([] ++ [(⟨now, value⟩ : OamWrite)]).map (·, 0))
          { d with sourcePageLatch := value, pendingRestart := some ⟨.oam value, 0⟩ } :=
        .replacing slot rfl (by omega) time rfl
      rw [List.append_assoc]
      exact hreplacing
  | waiting slot restart early time => exact hwait slot
  | @replacing h w₀ w ws n₀ n d slot restart early time₀ time =>
      rw [hpending slot]
      have hreplacing : OamPhase now true
          (h ++ (w₀, oamDue n₀) :: (ws ++ [w] ++ [(⟨now, value⟩ : OamWrite)]).map (·, 0))
          { d with sourcePageLatch := value, pendingRestart := some ⟨.oam value, 0⟩ } :=
        .replacing slot rfl (by omega) time₀ rfl
      rw [List.map_append, ← List.cons_append, ← List.append_assoc] at hreplacing
      exact hreplacing

/-- An H-blank block takes the slot only where no OAM transfer is in flight. -/
theorem startHdmaBlockIfEligible_oam (d : DmaController) (context : VramDmaRuntimeContext) :
    (d.startHdmaBlockIfEligible context).pendingRestart = d.pendingRestart ∧
    (d.transferState.isInFlight = true →
      (d.startHdmaBlockIfEligible context).transferState = d.transferState) ∧
    (d.transferState.FreeOfOam →
      (d.startHdmaBlockIfEligible context).transferState.FreeOfOam) := by
  unfold DmaController.startHdmaBlockIfEligible
  by_cases hblocked : (d.transferState.isInFlight || context.cpuHalted) = true
  · rw [if_pos hblocked]
    exact ⟨rfl, fun _ => rfl, id⟩
  · rw [if_neg hblocked]
    have hidle : ¬ d.transferState.isInFlight = true := fun hflight => by
      rw [hflight] at hblocked
      exact hblocked rfl
    split
    · simp only
      split
      · exact ⟨rfl, fun _ => rfl, id⟩
      · exact ⟨rfl, fun hflight => absurd hflight hidle, fun _ => freeOfOam_of_vram rfl nofun⟩
    all_goals exact ⟨rfl, fun _ => rfl, id⟩

/-- A tick of the slot alone. -/
theorem OamPhase.tickTransfer (hphase : OamPhase now live h d) (hrestart : d.pendingRestart = none) :
    ∃ h', OamPhase (now + 1) live h' d.tickTransfer.2 ∧
      h.Continues h' ((oamCopy d.tickTransfer.1).map (now + 1, ·)).toList [] := by
  obtain ⟨hslot, hpending⟩ := d.tickTransfer_frame
  have hquiet (slot : d.transferState.FreeOfOam) :
      h.Continues h ((oamCopy d.tickTransfer.1).map (now + 1, ·)).toList [] := by
    have hcopy : oamCopy d.tickTransfer.1 = none := slot.advance.2
    rw [hcopy]
    exact .refl h
  cases hphase with
  | free slot restart =>
      exact ⟨_, .free (hslot ▸ slot.advance.1) (hpending.trans restart), hquiet slot⟩
  | done slot restart late =>
      exact ⟨_, .done (hslot ▸ slot.advance.1) (hpending.trans restart) (by omega), hquiet slot⟩
  | @running h w n d slot restart time =>
      have hcopies := slot.copies w.tCycle
      rw [← time] at hcopies
      have hgrow := OamHistory.continues_copy h w [] hcopies (oamDue_le _)
      rcases slot.advance with ⟨-, hrun⟩ | ⟨hend, hdone⟩
      · exact ⟨_, .running (hslot ▸ hrun) (hpending.trans restart) (by omega), hgrow⟩
      · have hall : oamDue (n + 1) = 160 := oamDue_of_le (by omega)
        rw [hall] at hgrow
        exact ⟨_, .done (by rw [hslot, hdone]; exact freeOfOam_completed _)
          (hpending.trans restart) (by omega), hgrow⟩
  | waiting slot restart early time => rw [hrestart] at restart; cases restart
  | replacing slot restart early time₀ time => rw [hrestart] at restart; cases restart

theorem OamPhase.start (hphase : OamPhase now live h d) (context : VramDmaRuntimeContext) :
    OamPhase now live h (d.startHdmaBlockIfEligible context) := by
  obtain ⟨hrestart, hrun, hfree⟩ := d.startHdmaBlockIfEligible_oam context
  cases hphase with
  | free slot restart => exact .free (hfree slot) (hrestart.trans restart)
  | done slot restart late => exact .done (hfree slot) (hrestart.trans restart) late
  | running slot restart time =>
      exact .running ((hrun slot.isInFlight).symm ▸ slot) (hrestart.trans restart) time
  | waiting slot restart early time =>
      exact .waiting (hfree slot) (hrestart.trans restart) early time
  | replacing slot restart early time₀ time =>
      exact .replacing ((hrun slot.isInFlight).symm ▸ slot) (hrestart.trans restart) early time₀ time

/-- A tick while a write waits: the slot goes on, until the delay of the write is over. -/
theorem OamPhase.tick_pending (hphase : OamPhase now live h d) {p : DmaTransferProgress}
    (hrestart : d.pendingRestart = some p) :
    (p.advanceOneTCycle.isCpuBusRestrictionActive = false ∧
      ∃ h', OamPhase (now + 1) live h'
          { d with pendingRestart := some p.advanceOneTCycle }.tickTransfer.2 ∧
        h.Continues h' ((oamCopy { d with
          pendingRestart := some p.advanceOneTCycle }.tickTransfer.1).map (now + 1, ·)).toList []) ∨
    (p.advanceOneTCycle.isCpuBusRestrictionActive = true ∧
      OamPhase (now + 1) live h
        { d with pendingRestart := none, transferState := .active p.advanceOneTCycle }) := by
  obtain ⟨hslot, hpending⟩ :=
    { d with pendingRestart := some p.advanceOneTCycle }.tickTransfer_frame
  cases hphase with
  | free slot restart => rw [restart] at hrestart; cases hrestart
  | done slot restart late => rw [restart] at hrestart; cases hrestart
  | running slot restart time => rw [restart] at hrestart; cases hrestart
  | @waiting h w n d slot restart early time =>
      obtain rfl := Option.some.inj (restart.symm.trans hrestart)
      rw [advanceOneTCycle_oam (by omega)] at hslot hpending ⊢
      by_cases hlate : 5 ≤ n + 1
      · refine .inr ⟨isCpuBusRestrictionActive_oam.mpr hlate, ?_⟩
        have hrunning : OamPhase (now + 1) true (h ++ [(w, oamDue (n + 1))])
            { d with pendingRestart := none, transferState := .active ⟨.oam w.page, n + 1⟩ } :=
          .running (.active hlate (by omega)) rfl (by omega)
        rw [oamDue_of_lt (by omega)] at hrunning
        exact hrunning
      · refine .inl ⟨Bool.eq_false_iff.mpr (mt isCpuBusRestrictionActive_oam.mp hlate),
          h ++ [(w, 0)], .waiting (hslot ▸ slot.advance.1) hpending (by omega) (by omega), ?_⟩
        have hcopy : oamCopy { d with
            pendingRestart := some ⟨.oam w.page, n + 1⟩ }.tickTransfer.1 = none := slot.advance.2
        rw [hcopy]
        exact .refl _
  | @replacing h w₀ w ws n₀ n d slot restart early time₀ time =>
      obtain rfl := Option.some.inj (restart.symm.trans hrestart)
      rw [advanceOneTCycle_oam (by omega)] at hslot hpending ⊢
      by_cases hlate : 5 ≤ n + 1
      · refine .inr ⟨isCpuBusRestrictionActive_oam.mpr hlate, ?_⟩
        have hrunning : OamPhase (now + 1) true
            (h ++ (w₀, oamDue n₀) :: ws.map (·, 0) ++ [(w, oamDue (n + 1))])
            { d with pendingRestart := none, transferState := .active ⟨.oam w.page, n + 1⟩ } :=
          .running (.active hlate (by omega)) rfl (by omega)
        have hnone : oamDue (n + 1) = 0 := oamDue_of_lt (by omega)
        rw [hnone, List.append_assoc, List.cons_append] at hrunning
        rw [List.map_append]
        exact hrunning
      · refine .inl ⟨Bool.eq_false_iff.mpr (mt isCpuBusRestrictionActive_oam.mp hlate), ?_⟩
        have hcopies := slot.copies w₀.tCycle
        rw [← time₀] at hcopies
        have hgrow := OamHistory.continues_copy h w₀ (ws ++ [w]) hcopies (oamDue_le _)
        rcases slot.advance with ⟨-, hrun⟩ | ⟨hend, hdone⟩
        · exact ⟨_, .replacing (hslot ▸ hrun) hpending (by omega) (by omega) (by omega), hgrow⟩
        · have hwaiting : OamPhase (now + 1) true
              (h ++ (w₀, oamDue (n₀ + 1)) :: ws.map (·, 0) ++ [(w, 0)])
              { d with pendingRestart := some ⟨.oam w.page, n + 1⟩ }.tickTransfer.2 :=
            .waiting (by rw [hslot, hdone]; exact freeOfOam_completed _) hpending (by omega)
              (by omega)
          refine ⟨_, hwaiting, ?_⟩
          rw [List.append_assoc, List.cons_append]
          rw [List.map_append] at hgrow ⊢
          exact hgrow

theorem OamPhase.tick (hphase : OamPhase now live h d) (context : VramDmaRuntimeContext) :
    ∃ h', OamPhase (now + 1) live h' (d.tickTCycle context).2 ∧
      h.Continues h' ((oamCopy (d.tickTCycle context).1).map (now + 1, ·)).toList [] := by
  have hstart := hphase.start context
  unfold DmaController.tickTCycle
  generalize d.startHdmaBlockIfEligible context = d₁ at hstart ⊢
  simp only
  split
  · next hrestart => exact hstart.tickTransfer hrestart
  · next p hrestart =>
      rcases hstart.tick_pending hrestart with ⟨hearly, hstep⟩ | ⟨hlate, hstep⟩
      · rw [hearly]
        exact hstep
      · rw [hlate]
        exact ⟨h, hstep, .refl h⟩

/-- A write of `HDMA5` leaves OAM transfers alone, unless it starts a general-purpose one. -/
theorem OamPhase.writeHdma5 (hphase : OamPhase now live h d) (value : U8)
    (speedMode : CgbSpeedMode) :
    ∃ live', OamPhase now live' h (d.writeHdma5ForSpeed value speedMode) ∧
      (d.keepsOam (.writeHdma5 value speedMode) = true → live' = live) := by
  have hstart (hinactive : d.keepsOam (.writeHdma5 value speedMode) = (value &&& 0x80 != 0)) :
      ∃ live', OamPhase now live' h (d.startVramDma value speedMode) ∧
        (d.keepsOam (.writeHdma5 value speedMode) = true → live' = live) := by
    unfold startVramDma
    rw [hinactive]
    by_cases hclear : value &&& 0x80 = 0
    · refine ⟨false, ?_, fun hset => absurd hclear (bne_iff_ne.mp hset)⟩
      rw [if_pos hclear]
      exact .free (freeOfOam_of_vram rfl nofun) rfl
    · refine ⟨live, ?_, fun _ => rfl⟩
      rw [if_neg hclear]
      exact hphase.congr rfl rfl
  unfold DmaController.writeHdma5ForSpeed
  cases hstate : d.vramDmaState with
  | hBlankActive u =>
      refine ⟨live, ?_, fun _ => rfl⟩
      simp only
      by_cases hclear : value &&& 0x80 = 0
      · rw [if_pos hclear]
        by_cases hkind : d.transferState.currentTransfer.map DmaTransfer.kind = some .hdma
        · rw [if_pos hkind]
          have hrun {page : U8} {n : Nat} (slot : d.transferState.RunsOam page n) : False := by
            rw [currentTransfer, slot.progress_eq] at hkind
            cases hkind
          cases hphase with
          | free slot restart => exact .free nofun restart
          | done slot restart late => exact .done nofun restart late
          | running slot restart time => exact (hrun slot).elim
          | waiting slot restart early time => exact .waiting nofun restart early time
          | replacing slot restart early time₀ time => exact (hrun slot).elim
        · rw [if_neg hkind]
          exact hphase.congr rfl rfl
      · rw [if_neg hclear]
        exact hphase
  | inactive _ => exact hstart (by unfold keepsOam; rw [hstate]; exact Bool.or_false _)
  | generalPurposeActive _ => exact hstart (by unfold keepsOam; rw [hstate]; exact Bool.or_false _)
  | generalPurposeComplete _ =>
      exact hstart (by unfold keepsOam; rw [hstate]; exact Bool.or_false _)

theorem OamPhase.event {e : DmaEvent} {copied : List DmaCopy} (hphase : OamPhase now live h d)
    (hevent : d.event e = some (copied, d')) :
    ∃ live' h', OamPhase (now + e.duration) live' h' d' ∧
      h.Continues h' (d.oamCopiesOf now e) (e.oamWrites now) ∧
      (d.keepsOam e = true → live = true → live' = true) := by
  cases e with
  | tick context =>
      cases hevent
      obtain ⟨h', hphase', hcontinues⟩ := hphase.tick context
      exact ⟨live, h', hphase', hcontinues, fun _ => id⟩
  | writeFf46 value =>
      obtain ⟨-, heq⟩ := cpuWrite_eq_some.mp hevent
      cases heq
      exact ⟨true, _, hphase.writeFf46 value, h.continues_write _, fun _ _ => rfl⟩
  | writeHdma5 value speedMode =>
      obtain ⟨-, heq⟩ := cpuWrite_eq_some.mp hevent
      cases heq
      obtain ⟨live', hphase', hkeeps⟩ := hphase.writeHdma5 value speedMode
      exact ⟨live', h, hphase', .refl h, fun hkeep hlive => (hkeeps hkeep).trans hlive⟩
  | _ value =>
      obtain ⟨-, heq⟩ := cpuWrite_eq_some.mp hevent
      cases heq
      exact ⟨live, h, hphase.congr rfl rfl, .refl h, fun _ => id⟩

theorem OamPhase.run {es : List DmaEvent} {copied : List DmaCopy} (hphase : OamPhase now live h d)
    (hrun : d.run es = some (copied, d')) :
    ∃ live' h', OamPhase (now + DmaEvent.ticks es) live' h' d' ∧
      h.Continues h' (d.oamCopies now es) (oamWrites now es) ∧
      (d.along keepsOam es = true → live = true → live' = true) := by
  induction es generalizing now live h d copied with
  | nil =>
      cases hrun
      exact ⟨live, h, hphase, .refl h, fun _ => id⟩
  | cons e es ih =>
      obtain ⟨first, d₁, rest, hevent, hrest, heq⟩ := run_cons_eq_some.mp hrun
      cases heq
      obtain ⟨live₁, h₁, hphase₁, hcontinues₁, hlive₁⟩ := hphase.event hevent
      obtain ⟨live₂, h₂, hphase₂, hcontinues₂, hlive₂⟩ := ih hphase₁ hrest
      have hticks := DmaEvent.add_ticks_cons now e es
      refine ⟨live₂, h₂, hticks ▸ hphase₂, ?_, fun halong hlive => ?_⟩
      · have hcopies : d.oamCopies now (e :: es) =
            d.oamCopiesOf now e ++ d₁.oamCopies (now + e.duration) es := by
          rw [oamCopies, hevent]
        rw [hcopies]
        exact hcontinues₁.trans hcontinues₂
      · obtain ⟨hfirst, hrest⟩ := along_cons hevent halong
        exact hlive₂ hrest (hlive₁ hfirst hlive)

/-- The last entry of a live history has copied what its time allows, and after its last cycle
the controller is done with it. -/
theorem OamPhase.last (hphase : OamPhase now true h d) :
    ∃ h₀ w, h = h₀ ++ [(w, oamDue (now - w.tCycle))] ∧ w.tCycle ≤ now ∧
      (w.tCycle + 648 ≤ now → d.transferState.FreeOfOam ∧ d.pendingRestart = none) := by
  cases hphase with
  | @done h w d slot restart late =>
      refine ⟨h, w, ?_, by omega, fun _ => ⟨slot, restart⟩⟩
      rw [oamDue_of_le (by omega)]
  | @running h w n d slot restart time =>
      have hn : now - w.tCycle = n := by omega
      have hlt := slot.lt
      exact ⟨h, w, by rw [hn], by omega, fun hlate => absurd hlate (by omega)⟩
  | @waiting h w n d slot restart early time =>
      refine ⟨h, w, ?_, by omega, fun hlate => absurd hlate (by omega)⟩
      rw [oamDue_of_lt (by omega)]
  | @replacing h w₀ w ws n₀ n d slot restart early time₀ time =>
      refine ⟨h ++ (w₀, oamDue n₀) :: ws.map (·, 0), w, ?_, by omega,
        fun hlate => absurd hlate (by omega)⟩
      rw [oamDue_of_lt (show now - w.tCycle < 8 by omega), List.map_append, List.append_assoc,
        List.cons_append]
      rfl

/-! ## Runs -/

theorem run_append_eq_some {es es' : List DmaEvent} {r : List DmaCopy × DmaController} :
    d.run (es ++ es') = some r ↔
      ∃ copied d₁ rest, d.run es = some (copied, d₁) ∧ d₁.run es' = some rest ∧
        r = (copied ++ rest.1, rest.2) := by
  induction es generalizing d r with
  | nil =>
      constructor
      · intro hrun
        exact ⟨[], d, r, rfl, hrun, rfl⟩
      · rintro ⟨copied, d₁, rest, hnil, hrun, rfl⟩
        cases hnil
        exact hrun
  | cons e es ih =>
      rw [List.cons_append, run_cons_eq_some]
      constructor
      · rintro ⟨copied, d₁, rest, hevent, hrun, rfl⟩
        obtain ⟨copied', d₂, rest', hrun', hrest, rfl⟩ := ih.mp hrun
        exact ⟨copied ++ copied', d₂, rest',
          run_cons_eq_some.mpr ⟨copied, d₁, _, hevent, hrun', rfl⟩, hrest,
          Prod.ext (List.append_assoc _ _ _).symm rfl⟩
      · rintro ⟨copied, d₁, rest, hrun, hrest, rfl⟩
        obtain ⟨copied', d₂, rest', hevent, hrun', heq⟩ := run_cons_eq_some.mp hrun
        cases heq
        exact ⟨copied', d₂, _, hevent, ih.mpr ⟨_, _, _, hrun', hrest, rfl⟩,
          Prod.ext (List.append_assoc _ _ _) rfl⟩

theorem oamCopies_append {es es' : List DmaEvent} {copied : List DmaCopy} {d₁ : DmaController}
    (hrun : d.run es = some (copied, d₁)) :
    d.oamCopies now (es ++ es') =
      d.oamCopies now es ++ d₁.oamCopies (now + DmaEvent.ticks es) es' := by
  induction es generalizing now d copied with
  | nil =>
      cases hrun
      rfl
  | cons e es ih =>
      obtain ⟨first, d₂, rest, hevent, hrest, heq⟩ := run_cons_eq_some.mp hrun
      cases heq
      have hticks := DmaEvent.add_ticks_cons now e es
      have hcons (tail : List DmaEvent) : d.oamCopies now (e :: tail) =
          d.oamCopiesOf now e ++ d₂.oamCopies (now + e.duration) tail := by
        rw [oamCopies, hevent]
      rw [List.cons_append, hcons, hcons, ih hrest, hticks, List.append_assoc]

theorem oamPhase_new (model : ConsoleModel) : OamPhase 0 false [] (new model) := .free nofun rfl

/-- The last write of `FF46` in a run copies its 160 bytes in order, byte `k` with the tick
`8 + 4 * k` after the write, and then no more; the writes before it have copied a first part of
theirs.  Only a general-purpose transfer that starts after the write could stop it. -/
theorem oamDma_copiesOnce (model : ConsoleModel) {before after : List DmaEvent} {value : U8}
    {copied₀ copied : List DmaCopy} {d d' : DmaController}
    (hbefore : (new model).run (before ++ [.writeFf46 value]) = some (copied₀, d))
    (hafter : d.run after = some (copied, d')) (hlast : ∀ later, DmaEvent.writeFf46 later ∉ after)
    (hkeeps : d.along keepsOam after = true) :
    ∃ (h : OamHistory) (count : Nat), h.writes = oamWrites 0 before ∧ (∀ x ∈ h, x.2 ≤ 160) ∧
      (new model).oamCopies 0 (before ++ .writeFf46 value :: after) =
        h.copies ++ (OamWrite.mk (DmaEvent.ticks before) value).copies count ∧
      (∀ k, k < count ↔ k < 160 ∧ 8 + 4 * k ≤ DmaEvent.ticks after) ∧
      (648 ≤ DmaEvent.ticks after → d'.transferState.FreeOfOam ∧ d'.pendingRestart = none) := by
  obtain ⟨copied₁, d₁, rest, hrun₁, hwrite, -⟩ := run_append_eq_some.mp hbefore
  obtain ⟨written, d₂, rest₂, hevent, hnil, hwritten⟩ := run_cons_eq_some.mp hwrite
  obtain ⟨-, heq⟩ := cpuWrite_eq_some.mp hevent
  cases heq
  cases hnil
  obtain rfl : d = d₁.writeFf46 value := congrArg Prod.snd (Option.some.inj
    (hbefore.symm.trans (run_append_eq_some.mpr ⟨copied₁, d₁, rest, hrun₁, hwrite, rfl⟩))) |>.trans
      (congrArg Prod.snd hwritten)
  obtain ⟨live₁, h₁, hphase₁, hcontinues₁, -⟩ := (oamPhase_new model).run hrun₁
  rw [Nat.zero_add] at hphase₁
  obtain ⟨live, h₂, hphase₂, hcontinues₂, hlive⟩ := (hphase₁.writeFf46 value).run hafter
  rw [hlive hkeeps rfl] at hphase₂
  obtain ⟨h, w, rfl, hle, hdone⟩ := hphase₂.last
  have hwrites : OamHistory.writes h ++ [w] =
      oamWrites 0 before ++ [⟨DmaEvent.ticks before, value⟩] := by
    have hsame := hcontinues₂.writes
    rw [oamWrites_eq_nil hlast, List.append_nil, OamHistory.writes, OamHistory.writes, List.map_append,
      List.map_append] at hsame
    rw [show oamWrites 0 before = h₁.writes from hcontinues₁.writes.symm]
    exact hsame
  obtain ⟨hearlier, hw⟩ := List.append_inj' hwrites rfl
  obtain rfl := List.singleton_inj.mp hw
  have htime : DmaEvent.ticks before + DmaEvent.ticks after - DmaEvent.ticks before =
      DmaEvent.ticks after := Nat.add_sub_cancel_left _ _
  have hcopies : (new model).oamCopies 0 (before ++ .writeFf46 value :: after) =
      OamHistory.copies h ++ (OamWrite.mk (DmaEvent.ticks before) value).copies
        (oamDue (DmaEvent.ticks after)) := by
    have hsame := hcontinues₂.copies
    simp only [OamHistory.copies_append, OamHistory.copies_single, OamWrite.copies_zero,
      List.append_nil, htime] at hsame
    rw [oamCopies_append hrun₁, oamCopies, hevent, Nat.zero_add, hsame]
    rw [show (new model).oamCopies 0 before = h₁.copies from hcontinues₁.copies.symm]
    rfl
  have hbounded := hcontinues₂.bounded ((h₁.continues_write _).bounded
    (hcontinues₁.bounded nofun))
  exact ⟨h, _, hearlier, fun x hx => hbounded x (List.mem_append_left _ hx), hcopies,
    fun k => lt_oamDue, fun hlate => hdone (Nat.add_le_add_left hlate _)⟩

/-- A write that replaces another one after 20 ticks. -/
def oamWriteTwice : List DmaEvent := .writeFf46 0xC0 :: .replicate 20 (.tick (hBlankOfLine 3))

theorem oamDma_copiesOnce_twice :
    ∃ (h : OamHistory) (count : Nat), h.writes = oamWrites 0 oamWriteTwice ∧
      (∀ x ∈ h, x.2 ≤ 160) ∧
      (new .gameBoy).oamCopies 0 (oamWriteTwice ++ .writeFf46 0xF0 ::
          .replicate 20 (.tick (hBlankOfLine 3))) =
        h.copies ++ (OamWrite.mk (DmaEvent.ticks oamWriteTwice) 0xF0).copies count ∧
      ∀ k, k < count ↔ k < 160 ∧ 8 + 4 * k ≤ 20 := by
  have hruns : ((new .gameBoy).run (oamWriteTwice ++ [.writeFf46 0xF0])).bind (fun r =>
      (r.2.run (.replicate 20 (.tick (hBlankOfLine 3)))).map fun _ =>
        r.2.along keepsOam (.replicate 20 (.tick (hBlankOfLine 3)))) = some true := by
    decide +kernel
  obtain ⟨⟨copied₀, d⟩, hbefore, hmap⟩ := Option.bind_eq_some_iff.mp hruns
  obtain ⟨⟨copied, d'⟩, hafter, hkeeps⟩ := Option.map_eq_some_iff.mp hmap
  obtain ⟨h, count, hwrites, hbounded, hcopies, hcount, -⟩ :=
    oamDma_copiesOnce .gameBoy hbefore hafter (fun later hmem => by
      cases List.eq_of_mem_replicate hmem) hkeeps
  exact ⟨h, count, hwrites, hbounded, hcopies, hcount⟩

end DmaController

end GbCycle
