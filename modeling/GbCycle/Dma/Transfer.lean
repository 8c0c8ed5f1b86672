import GbCycle.Speed

/-!
# DMA transfers and their progress

A transfer is a run of bytes with fixed timing, and its progress is the number of T-cycles it
has been running.  Everything else is a function of the two: the bytes copied, the blocks they
complete, and the blocks published.  A block is published some cycles after its last byte, and
the CPU is released in between.
-/

namespace GbCycle

inductive DmaTransferKind where
  | oam
  | gdma
  | hdma
  deriving Repr, DecidableEq

namespace DmaTransferKind

def isVram : DmaTransferKind → Bool
  | .gdma | .hdma => true
  | .oam => false

end DmaTransferKind

inductive DmaCpuImpactPolicy where
  | noCpuStallButBusRestriction
  | cpuFullyStalledUntilDone
  | cpuStalledPerBlock
  deriving Repr, DecidableEq

def oamDmaDestinationStart : U16 := 0xFE00
def oamDmaTransferBytes : Nat := 160
def oamDmaFirstByteDelayTCycles : Nat := 8
def oamDmaCpuBusRestrictionDelayTCycles : Nat := 5
def oamDmaTCyclesPerByte : Nat := 4
def oamDmaTotalTCycles : Nat := 648
def dmgOamDmaEchoAliasOffset : U16 := 0x2000
def vramDmaBlockBytes : Nat := 0x10
def vramDmaNormalSpeedFirstByteDelayTCycles : Nat := 2
def vramDmaCpuBusRestrictionDelayTCycles : Nat := 0
def vramDmaNormalSpeedTCyclesPerByte : Nat := 2
def vramDmaCpuReleaseTCycles : Nat := 5
def vramDmaPublicationTCycles : Nat := 12

structure DmaTransferTiming where
  totalTCycles : Nat
  firstByteDelayTCycles : Nat
  cpuBusRestrictionDelayTCycles : Nat
  tCyclesPerByte : Nat
  deriving Repr, DecidableEq

structure DmaTransfer where
  kind : DmaTransferKind
  sourceStart : U16
  destinationStart : U16
  totalBytes : Nat
  blockSize : Nat
  timing : DmaTransferTiming
  cpuImpactPolicy : DmaCpuImpactPolicy
  deriving Repr, DecidableEq

def normalizeOamSourceAddress (address : U16) : U16 :=
  if 0xE000 ≤ address then address - dmgOamDmaEchoAliasOffset else address

def vramDmaFirstByteDelayTCycles : CgbSpeedMode → Nat
  | .normal => vramDmaNormalSpeedFirstByteDelayTCycles
  | .double => vramDmaNormalSpeedFirstByteDelayTCycles * 2

def vramDmaTCyclesPerByte : CgbSpeedMode → Nat
  | .normal => vramDmaNormalSpeedTCyclesPerByte
  | .double => vramDmaNormalSpeedTCyclesPerByte * 2

def vramDmaBodyTCycles (totalBytes : Nat) (speedMode : CgbSpeedMode) : Nat :=
  if totalBytes = 0 then 0
  else vramDmaFirstByteDelayTCycles speedMode + (totalBytes - 1) * vramDmaTCyclesPerByte speedMode

def vramDmaTiming (totalBytes : Nat) (speedMode : CgbSpeedMode) : DmaTransferTiming where
  totalTCycles :=
    if totalBytes = 0 then 0
    else vramDmaBodyTCycles totalBytes speedMode + vramDmaCpuReleaseTCycles
  firstByteDelayTCycles := vramDmaFirstByteDelayTCycles speedMode
  cpuBusRestrictionDelayTCycles := vramDmaCpuBusRestrictionDelayTCycles
  tCyclesPerByte := vramDmaTCyclesPerByte speedMode

namespace DmaTransfer

def oam (sourcePage : U8) : DmaTransfer where
  kind := .oam
  sourceStart := U16.ofByte sourcePage <<< 8
  destinationStart := oamDmaDestinationStart
  totalBytes := oamDmaTransferBytes
  blockSize := 1
  timing :=
    { totalTCycles := oamDmaTotalTCycles
      firstByteDelayTCycles := oamDmaFirstByteDelayTCycles
      cpuBusRestrictionDelayTCycles := oamDmaCpuBusRestrictionDelayTCycles
      tCyclesPerByte := oamDmaTCyclesPerByte }
  cpuImpactPolicy := .noCpuStallButBusRestriction

def sourceAddressForByte (t : DmaTransfer) (byteIndex : Nat) : U16 :=
  match t.kind with
  | .oam => normalizeOamSourceAddress (t.sourceStart + BitVec.ofNat 16 byteIndex)
  | .gdma | .hdma => t.sourceStart + BitVec.ofNat 16 byteIndex

def destinationAddressForByte (t : DmaTransfer) (byteIndex : Nat) : U16 :=
  t.destinationStart + BitVec.ofNat 16 byteIndex

end DmaTransfer

/-! ## Progress -/

structure DmaTransferProgress where
  transfer : DmaTransfer
  elapsedTCycles : Nat
  deriving Repr, DecidableEq

namespace DmaTransferProgress

def new (transfer : DmaTransfer) : DmaTransferProgress := { transfer, elapsedTCycles := 0 }

def isCpuBusRestrictionActive (p : DmaTransferProgress) : Bool :=
  p.transfer.timing.cpuBusRestrictionDelayTCycles ≤ p.elapsedTCycles

def completedBytes (p : DmaTransferProgress) : Nat :=
  let firstByteDelayTCycles := p.transfer.timing.firstByteDelayTCycles
  if p.elapsedTCycles < firstByteDelayTCycles then 0
  else
    min (1 + (p.elapsedTCycles - firstByteDelayTCycles) / p.transfer.timing.tCyclesPerByte)
      p.transfer.totalBytes

def completedBlocks (p : DmaTransferProgress) : Nat := p.completedBytes / p.transfer.blockSize

def publishedCompletedBlocks (p : DmaTransferProgress) : Nat :=
  let completedBlocks := p.completedBlocks
  if completedBlocks = 0 then 0
  else
    let completedBytes := completedBlocks * p.transfer.blockSize
    let lastByteElapsedTCycles := p.transfer.timing.firstByteDelayTCycles +
      (completedBytes - 1) * p.transfer.timing.tCyclesPerByte
    let releaseElapsedTCycles := lastByteElapsedTCycles + vramDmaPublicationTCycles
    if releaseElapsedTCycles ≤ p.elapsedTCycles then completedBlocks else completedBlocks - 1

def hasUnpublishedCompletedBlocks (p : DmaTransferProgress) : Bool :=
  p.publishedCompletedBlocks < p.completedBlocks

def isComplete (p : DmaTransferProgress) : Bool :=
  p.transfer.timing.totalTCycles ≤ p.elapsedTCycles

/-- The count saturates at the largest `u16`. -/
def advanceOneTCycle (p : DmaTransferProgress) : DmaTransferProgress :=
  { p with elapsedTCycles := min (p.elapsedTCycles + 1) 0xFFFF }

end DmaTransferProgress

/-! ## The slot of the controller -/

inductive DmaTransferState where
  | idle
  | starting (progress : DmaTransferProgress)
  | active (progress : DmaTransferProgress)
  | completed (progress : DmaTransferProgress)
  deriving Repr, DecidableEq

namespace DmaTransferState

def progress : DmaTransferState → Option DmaTransferProgress
  | .idle => none
  | .starting progress | .active progress | .completed progress => some progress

def currentTransfer (s : DmaTransferState) : Option DmaTransfer :=
  s.progress.map DmaTransferProgress.transfer

def isInFlight : DmaTransferState → Bool
  | .starting _ | .active _ => true
  | .idle | .completed _ => false

end DmaTransferState

/-- The byte that a tick copies. -/
structure DmaTransferWork where
  transfer : DmaTransfer
  byteIndex : Nat
  deriving Repr, DecidableEq

namespace DmaTransferWork

def sourceAddress (w : DmaTransferWork) : U16 := w.transfer.sourceAddressForByte w.byteIndex

def destinationAddress (w : DmaTransferWork) : U16 :=
  w.transfer.destinationAddressForByte w.byteIndex

end DmaTransferWork

end GbCycle
