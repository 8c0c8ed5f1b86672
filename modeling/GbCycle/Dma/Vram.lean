import GbCycle.Dma.Transfer

/-!
# VRAM DMA: registers, latched transfers and H-blank windows

`HDMA1` to `HDMA4` hold the endpoints of the next transfer, with the bits that the hardware
ignores masked away; the masks are part of the type.  A write of `HDMA5` latches them into a
`VramDmaTransfer`, which then counts its blocks on its own and writes the endpoints back each
time a block is published.
-/

namespace GbCycle

structure VramDmaRegisters where
  sourceHigh : U8
  sourceLow : U8
  destinationHigh : U8
  destinationLow : U8
  sourceLow_aligned : sourceLow &&& 0x0F = 0
  destinationHigh_masked : destinationHigh &&& 0xE0 = 0
  destinationLow_aligned : destinationLow &&& 0x0F = 0
  deriving DecidableEq

theorem and_F0_and_0F (value : U8) : value &&& 0xF0 &&& 0x0F = 0 := by
  rw [BitVec.and_assoc]
  exact BitVec.and_zero

theorem and_1F_and_E0 (value : U8) : value &&& 0x1F &&& 0xE0 = 0 := by
  rw [BitVec.and_assoc]
  exact BitVec.and_zero

namespace VramDmaRegisters

/-- `VramDmaRegisters::default`. -/
def initial : VramDmaRegisters where
  sourceHigh := 0xFF
  sourceLow := 0xF0
  destinationHigh := 0x1F
  destinationLow := 0xF0
  sourceLow_aligned := by decide
  destinationHigh_masked := by decide
  destinationLow_aligned := by decide

def sourceStart (r : VramDmaRegisters) : U16 :=
  (U16.ofByte r.sourceHigh <<< 8) ||| U16.ofByte r.sourceLow

def destinationStart (r : VramDmaRegisters) : U16 :=
  (0x8000 : U16) ||| (U16.ofByte r.destinationHigh <<< 8) ||| U16.ofByte r.destinationLow

def writeHdma1 (r : VramDmaRegisters) (value : U8) : VramDmaRegisters :=
  { r with sourceHigh := value }

def writeHdma2 (r : VramDmaRegisters) (value : U8) : VramDmaRegisters :=
  { r with sourceLow := value &&& 0xF0, sourceLow_aligned := and_F0_and_0F value }

def writeHdma3 (r : VramDmaRegisters) (value : U8) : VramDmaRegisters :=
  { r with
    destinationHigh := value &&& 0x1F
    destinationHigh_masked := and_1F_and_E0 value }

def writeHdma4 (r : VramDmaRegisters) (value : U8) : VramDmaRegisters :=
  { r with destinationLow := value &&& 0xF0, destinationLow_aligned := and_F0_and_0F value }

def setEndpoints (source destination : U16) : VramDmaRegisters where
  sourceHigh := source.high
  sourceLow := source.low &&& 0xF0
  destinationHigh := destination.high &&& 0x1F
  destinationLow := destination.low &&& 0xF0
  sourceLow_aligned := and_F0_and_0F _
  destinationHigh_masked := and_1F_and_E0 _
  destinationLow_aligned := and_F0_and_0F _

end VramDmaRegisters

inductive VramDmaMode where
  | generalPurpose
  | hBlank
  deriving Repr, DecidableEq

structure VramDmaTransfer where
  mode : VramDmaMode
  sourceStart : U16
  destinationStart : U16
  totalBlocks : Nat
  remainingBlocks : Nat
  deriving Repr, DecidableEq

def vramDmaDestinationEnd : Nat := 0x9FFF

def clipVramDmaBlocksForDestination (destinationStart : U16) (requestedBlocks : Nat) : Nat :=
  let bytesUntilOverflow := vramDmaDestinationEnd + 1 - destinationStart.toNat
  let blocksUntilOverflow := bytesUntilOverflow / vramDmaBlockBytes
  if blocksUntilOverflow < requestedBlocks then blocksUntilOverflow else requestedBlocks

namespace VramDmaTransfer

def new (mode : VramDmaMode) (registers : VramDmaRegisters) (blocks : Nat) : VramDmaTransfer :=
  let totalBlocks := clipVramDmaBlocksForDestination registers.destinationStart blocks
  { mode
    sourceStart := registers.sourceStart
    destinationStart := registers.destinationStart
    totalBlocks
    remainingBlocks := totalBlocks }

def remainingBytes (t : VramDmaTransfer) : Nat := t.remainingBlocks * vramDmaBlockBytes

def remainingBlocksMinusOne (t : VramDmaTransfer) : U8 := BitVec.ofNat 8 (t.remainingBlocks - 1)

def advanceCompletedBlocks (t : VramDmaTransfer) (completedBlocks : Nat) : VramDmaTransfer :=
  let completedBlocks := min completedBlocks t.remainingBlocks
  let completedBytes := BitVec.ofNat 16 (completedBlocks * vramDmaBlockBytes)
  { t with
    sourceStart := t.sourceStart + completedBytes
    destinationStart := t.destinationStart + completedBytes
    remainingBlocks := t.remainingBlocks - completedBlocks }

end VramDmaTransfer

namespace DmaTransfer

def gdmaForSpeed (transfer : VramDmaTransfer) (speedMode : CgbSpeedMode) : DmaTransfer where
  kind := .gdma
  sourceStart := transfer.sourceStart
  destinationStart := transfer.destinationStart
  totalBytes := transfer.remainingBytes
  blockSize := vramDmaBlockBytes
  timing := vramDmaTiming transfer.remainingBytes speedMode
  cpuImpactPolicy := .cpuFullyStalledUntilDone

def hdmaBlockForSpeed (transfer : VramDmaTransfer) (speedMode : CgbSpeedMode) :
    DmaTransfer where
  kind := .hdma
  sourceStart := transfer.sourceStart
  destinationStart := transfer.destinationStart
  totalBytes := vramDmaBlockBytes
  blockSize := vramDmaBlockBytes
  timing := vramDmaTiming vramDmaBlockBytes speedMode
  cpuImpactPolicy := .cpuStalledPerBlock

end DmaTransfer

inductive VramDmaState where
  | inactive (hdma5ReadLow : U8)
  | generalPurposeActive (transfer : VramDmaTransfer)
  | generalPurposeComplete (transfer : VramDmaTransfer)
  | hBlankActive (transfer : VramDmaTransfer)
  deriving Repr, DecidableEq

namespace VramDmaState

def readHdma5 : VramDmaState → U8
  | .inactive hdma5ReadLow => 0x80 ||| (hdma5ReadLow &&& 0x7F)
  | .generalPurposeActive transfer => transfer.remainingBlocksMinusOne
  | .generalPurposeComplete _ => 0xFF
  | .hBlankActive transfer => transfer.remainingBlocksMinusOne

end VramDmaState

/-! ## Windows -/

inductive PpuAccessMode where
  | hBlank
  | vBlank
  | oamScan
  | drawing
  deriving Repr, DecidableEq

inductive VramDmaHBlankWindow where
  | none
  | lcdDisabled
  | visibleHBlank (ly : U8)
  deriving Repr, DecidableEq

/-- What a tick sees of the PPU, the CPU and the speed switch. -/
structure VramDmaRuntimeContext where
  lcdEnabled : Bool
  ppuMode : PpuAccessMode
  ppuLy : U8
  ppuLineDot : Nat
  ppuMode0StartDot : Nat
  cpuHalted : Bool
  speedMode : CgbSpeedMode
  deriving Repr, DecidableEq

/-- `VramDmaHBlankWindow::from_ppu_bus_state`. -/
def VramDmaRuntimeContext.hblankWindow (c : VramDmaRuntimeContext) : VramDmaHBlankWindow :=
  if !c.lcdEnabled then .lcdDisabled
  else if c.ppuLy < 144 && c.ppuMode == .hBlank && c.ppuMode0StartDot + 2 < c.ppuLineDot then
    .visibleHBlank c.ppuLy
  else .none

end GbCycle
