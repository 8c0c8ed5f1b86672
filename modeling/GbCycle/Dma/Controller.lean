import GbCycle.Dma.Vram
import GbCycle.Model

/-!
# The DMA controller

One slot holds the transfer that is running or has last run, of whichever kind, and an OAM
transfer that is written while another is in flight waits beside it.  A tick starts an H-blank
block if it may, then advances the slot, copies at most one byte and publishes the blocks that
have become due.
-/

namespace GbCycle

structure DmaController where
  consoleModel : ConsoleModel
  sourcePageLatch : U8
  transferState : DmaTransferState
  pendingRestart : Option DmaTransferProgress
  vramDmaRegisters : VramDmaRegisters
  vramDmaState : VramDmaState
  vramDmaLastServedWindow : VramDmaHBlankWindow
  deriving DecidableEq

namespace DmaController

def new (consoleModel : ConsoleModel) : DmaController where
  consoleModel
  sourcePageLatch := 0
  transferState := .idle
  pendingRestart := none
  vramDmaRegisters := .initial
  vramDmaState := .inactive 0x7F
  vramDmaLastServedWindow := .none

/-- The CPU does nothing while this holds. -/
def cpuStallActive (d : DmaController) : Bool :=
  d.transferState.isInFlight &&
    match d.transferState.progress with
    | none => false
    | some progress =>
        progress.isCpuBusRestrictionActive &&
          match progress.transfer.cpuImpactPolicy with
          | .cpuFullyStalledUntilDone | .cpuStalledPerBlock => true
          | .noCpuStallButBusRestriction => false

/-! ## Register writes -/

def writeFf46 (d : DmaController) (value : U8) : DmaController :=
  let restartedTransfer := DmaTransferProgress.new (.oam value)
  if d.transferState.isInFlight then
    { d with sourcePageLatch := value, pendingRestart := some restartedTransfer }
  else
    { d with
      sourcePageLatch := value
      transferState := .starting restartedTransfer
      pendingRestart := none }

def writeHdma1 (d : DmaController) (value : U8) : DmaController :=
  { d with vramDmaRegisters := d.vramDmaRegisters.writeHdma1 value }

def writeHdma2 (d : DmaController) (value : U8) : DmaController :=
  { d with vramDmaRegisters := d.vramDmaRegisters.writeHdma2 value }

def writeHdma3 (d : DmaController) (value : U8) : DmaController :=
  { d with vramDmaRegisters := d.vramDmaRegisters.writeHdma3 value }

def writeHdma4 (d : DmaController) (value : U8) : DmaController :=
  { d with vramDmaRegisters := d.vramDmaRegisters.writeHdma4 value }

/-- What `HDMA5` does when no H-blank transfer is active. -/
def startVramDma (d : DmaController) (value : U8) (speedMode : CgbSpeedMode) : DmaController :=
  let blocks := (value &&& 0x7F).toNat + 1
  if value &&& 0x80 = 0 then
    let transfer := VramDmaTransfer.new .generalPurpose d.vramDmaRegisters blocks
    { d with
      vramDmaState := .generalPurposeActive transfer
      vramDmaLastServedWindow := .none
      transferState := .starting (.new (.gdmaForSpeed transfer speedMode))
      pendingRestart := none }
  else
    { d with
      vramDmaState := .hBlankActive (.new .hBlank d.vramDmaRegisters blocks)
      vramDmaLastServedWindow := .none }

/-- A clear bit 7 cancels an active H-blank transfer, a set one leaves it alone. -/
def writeHdma5ForSpeed (d : DmaController) (value : U8) (speedMode : CgbSpeedMode) :
    DmaController :=
  match d.vramDmaState with
  | .hBlankActive _ =>
      if value &&& 0x80 = 0 then
        { d with
          vramDmaState := .inactive (value &&& 0x7F)
          transferState :=
            if d.transferState.currentTransfer.map DmaTransfer.kind = some .hdma then .idle
            else d.transferState }
      else d
  | .inactive _ | .generalPurposeActive _ | .generalPurposeComplete _ =>
      d.startVramDma value speedMode

/-! ## Ticks -/

def startHdmaBlockIfEligible (d : DmaController) (context : VramDmaRuntimeContext) :
    DmaController :=
  if d.transferState.isInFlight || context.cpuHalted then d
  else
    match d.vramDmaState with
    | .hBlankActive transfer =>
        let window := context.hblankWindow
        if window = .none ∨ d.vramDmaLastServedWindow = window then d
        else
          { d with
            vramDmaLastServedWindow := window
            transferState := .starting (.new (.hdmaBlockForSpeed transfer context.speedMode)) }
    | .inactive _ | .generalPurposeActive _ | .generalPurposeComplete _ => d

/-- A completed VRAM transfer goes on counting until its last block is published. -/
def advanceTransferState : DmaTransferState → DmaTransferState
  | .idle => .idle
  | .completed progress =>
      if progress.transfer.kind.isVram && progress.hasUnpublishedCompletedBlocks then
        .completed progress.advanceOneTCycle
      else .completed progress
  | .starting progress =>
      if progress.advanceOneTCycle.isCpuBusRestrictionActive then .active progress.advanceOneTCycle
      else .starting progress.advanceOneTCycle
  | .active progress =>
      if progress.advanceOneTCycle.isComplete then .completed progress.advanceOneTCycle
      else .active progress.advanceOneTCycle

def transferWorkForCurrentTCycle (previous current : DmaTransferState) :
    Option DmaTransferWork :=
  match previous.progress, current.progress with
  | some previousProgress, some currentProgress =>
      if currentProgress.completedBytes ≤ previousProgress.completedBytes then none
      else
        some
          { transfer := currentProgress.transfer
            byteIndex := currentProgress.completedBytes - 1 }
  | _, _ => none

/-- The endpoints and the remaining count after some published blocks. -/
def publishBlocks (d : DmaController) (kind : DmaTransferKind) (completedBlocks : Nat) :
    DmaController :=
  match d.vramDmaState, kind with
  | .generalPurposeActive activeTransfer, .gdma =>
      let updatedTransfer := activeTransfer.advanceCompletedBlocks completedBlocks
      { d with
        vramDmaRegisters :=
          .setEndpoints updatedTransfer.sourceStart updatedTransfer.destinationStart
        vramDmaState :=
          if updatedTransfer.remainingBlocks = 0 then .generalPurposeComplete updatedTransfer
          else .generalPurposeActive updatedTransfer }
  | .hBlankActive activeTransfer, .hdma =>
      let updatedTransfer := activeTransfer.advanceCompletedBlocks completedBlocks
      { d with
        vramDmaRegisters :=
          .setEndpoints updatedTransfer.sourceStart updatedTransfer.destinationStart
        vramDmaState :=
          if updatedTransfer.remainingBlocks = 0 then .inactive 0x7F
          else .hBlankActive updatedTransfer }
  | _, _ => d

def applyVramDmaProgressSideEffects (d : DmaController) (previous current : DmaTransferState) :
    DmaController :=
  match current.progress with
  | none => d
  | some currentProgress =>
      if currentProgress.transfer.kind.isVram then
        let previouslyPublished :=
          (previous.progress.map DmaTransferProgress.publishedCompletedBlocks).getD 0
        let completedBlocks := currentProgress.publishedCompletedBlocks - previouslyPublished
        if completedBlocks = 0 then d
        else d.publishBlocks currentProgress.transfer.kind completedBlocks
      else d

/-- The slot's own tick, after H-blank blocks and restarts have had their say. -/
def tickTransfer (d : DmaController) : Option DmaTransferWork × DmaController :=
  let current := advanceTransferState d.transferState
  (transferWorkForCurrentTCycle d.transferState current,
    { d with transferState := current }.applyVramDmaProgressSideEffects d.transferState current)

/-- `tick_t_cycle_with_vram_dma_context`. -/
def tickTCycle (d : DmaController) (context : VramDmaRuntimeContext) :
    Option DmaTransferWork × DmaController :=
  let d := d.startHdmaBlockIfEligible context
  match d.pendingRestart with
  | none => d.tickTransfer
  | some pendingRestart =>
      let advancedRestart := pendingRestart.advanceOneTCycle
      if !advancedRestart.isCpuBusRestrictionActive then
        { d with pendingRestart := some advancedRestart }.tickTransfer
      else (none, { d with pendingRestart := none, transferState := .active advancedRestart })

end DmaController

end GbCycle
