import GbCycle.Dma.Progress

/-!
# What happens to the DMA controller

A run is any sequence of ticks and register writes, where the CPU writes nothing while it is
stalled.  What a run copies to VRAM is the list of its source and destination addresses.

Two predicates on events say how a run may treat a transfer.  `keepsTransfer` leaves out the
writes of `HDMA5` that cancel or replace it.  `keepsSlot` leaves out the two ways in which a
block that is complete but not yet published, or one that is about to run, loses the slot.
-/

namespace GbCycle

inductive DmaEvent where
  | tick (context : VramDmaRuntimeContext)
  | writeFf46 (value : U8)
  | writeHdma1 (value : U8)
  | writeHdma2 (value : U8)
  | writeHdma3 (value : U8)
  | writeHdma4 (value : U8)
  | writeHdma5 (value : U8) (speedMode : CgbSpeedMode)
  deriving Repr, DecidableEq

namespace DmaEvent

def isTick : DmaEvent → Bool
  | .tick _ => true
  | _ => false

def writesEndpoint : DmaEvent → Bool
  | .writeHdma1 _ | .writeHdma2 _ | .writeHdma3 _ | .writeHdma4 _ => true
  | .tick _ | .writeFf46 _ | .writeHdma5 .. => false

/-- The number of ticks of a run. -/
def ticks (es : List DmaEvent) : Nat := es.countP isTick

end DmaEvent

/-- Source and destination of a byte. -/
abbrev DmaCopy := U16 × U16

def vramCopies : Option DmaTransferWork → List DmaCopy
  | none => []
  | some work =>
      if work.transfer.kind.isVram then [(work.sourceAddress, work.destinationAddress)] else []

namespace DmaController

/-- A write of the CPU, which a stalled CPU does not make. -/
def cpuWrite (d d' : DmaController) : Option (List DmaCopy × DmaController) :=
  if d.cpuStallActive then none else some ([], d')

def event (d : DmaController) : DmaEvent → Option (List DmaCopy × DmaController)
  | .tick context => some (vramCopies (d.tickTCycle context).1, (d.tickTCycle context).2)
  | .writeFf46 value => d.cpuWrite (d.writeFf46 value)
  | .writeHdma1 value => d.cpuWrite (d.writeHdma1 value)
  | .writeHdma2 value => d.cpuWrite (d.writeHdma2 value)
  | .writeHdma3 value => d.cpuWrite (d.writeHdma3 value)
  | .writeHdma4 value => d.cpuWrite (d.writeHdma4 value)
  | .writeHdma5 value speedMode => d.cpuWrite (d.writeHdma5ForSpeed value speedMode)

/-- The copies of a run, in order, and the controller after it. -/
def run (d : DmaController) : List DmaEvent → Option (List DmaCopy × DmaController)
  | [] => some ([], d)
  | e :: es =>
      (d.event e).bind fun r => (r.2.run es).map fun rest => (r.1 ++ rest.1, rest.2)

/-- A condition on the state before each event of a run. -/
def along (P : DmaController → DmaEvent → Bool) (d : DmaController) : List DmaEvent → Bool
  | [] => true
  | e :: es =>
      P d e &&
        match d.event e with
        | none => true
        | some r => along P r.2 es

theorem cpuWrite_eq_some {d d' : DmaController} {r : List DmaCopy × DmaController} :
    d.cpuWrite d' = some r ↔ d.cpuStallActive = false ∧ r = ([], d') := by
  unfold cpuWrite
  cases hstall : d.cpuStallActive with
  | false => simp [eq_comm]
  | true => simp

theorem run_cons_eq_some {d : DmaController} {e : DmaEvent} {es : List DmaEvent}
    {r : List DmaCopy × DmaController} :
    d.run (e :: es) = some r ↔
      ∃ copies d₁ rest, d.event e = some (copies, d₁) ∧ d₁.run es = some rest ∧
        r = (copies ++ rest.1, rest.2) := by
  show ((d.event e).bind fun r => (r.2.run es).map fun rest => (r.1 ++ rest.1, rest.2)) = _ ↔ _
  rw [Option.bind_eq_some_iff]
  constructor
  · rintro ⟨⟨copies, d₁⟩, hevent, hrest⟩
    obtain ⟨rest, hrun, heq⟩ := Option.map_eq_some_iff.mp hrest
    exact ⟨copies, d₁, rest, hevent, hrun, heq.symm⟩
  · rintro ⟨copies, d₁, rest, hevent, hrun, rfl⟩
    exact ⟨(copies, d₁), hevent, Option.map_eq_some_iff.mpr ⟨rest, hrun, rfl⟩⟩

theorem along_cons {P : DmaController → DmaEvent → Bool} {d d₁ : DmaController} {e : DmaEvent}
    {es : List DmaEvent} {copies : List DmaCopy} (hevent : d.event e = some (copies, d₁))
    (h : d.along P (e :: es) = true) : P d e = true ∧ d₁.along P es = true := by
  rw [along, hevent, Bool.and_eq_true] at h
  exact h

/-! ## Which events leave a transfer alone -/

/-- `HDMA5` is written only where the write is ignored. -/
def keepsTransfer (d : DmaController) : DmaEvent → Bool
  | .writeHdma5 value _ =>
      match d.vramDmaState with
      | .hBlankActive _ => value &&& 0x80 != 0
      | .inactive _ | .generalPurposeActive _ | .generalPurposeComplete _ => false
  | _ => true

/-- The active transfer has copied a block that is not yet published, and the CPU runs. -/
def publicationPending (d : DmaController) : Bool :=
  match d.vramDmaState, d.transferState with
  | .hBlankActive _, .completed progress =>
      progress.transfer.kind == .hdma && progress.hasUnpublishedCompletedBlocks
  | .generalPurposeActive _, .completed progress =>
      progress.transfer.kind == .gdma && progress.hasUnpublishedCompletedBlocks
  | _, _ => false

/-- The tick begins an H-blank block. -/
def startsBlock (d : DmaController) (context : VramDmaRuntimeContext) : Bool :=
  !(d.transferState.isInFlight || context.cpuHalted) &&
    match d.vramDmaState with
    | .hBlankActive _ =>
        context.hblankWindow != .none && d.vramDmaLastServedWindow != context.hblankWindow
    | .inactive _ | .generalPurposeActive _ | .generalPurposeComplete _ => false

/-- No OAM transfer is written while a publication is pending, and no block begins while one
is, or while an OAM transfer waits for the slot. -/
def keepsSlot (d : DmaController) : DmaEvent → Bool
  | .writeFf46 _ => !d.publicationPending
  | .tick context =>
      !(d.startsBlock context && (d.publicationPending || d.pendingRestart.isSome))
  | _ => true

end DmaController

end GbCycle
