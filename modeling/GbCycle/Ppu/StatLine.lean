import GbCycle.Dma.Vram
import GbCycle.Ppu.Sprites

/-!
# The raster and the STAT interrupt line

The PPU counts dots and lines, and from where it is, from `LYC` and from the enables of `STAT` it
computes the level of the STAT line.  A rising level requests an interrupt.  The level is stored,
and it is computed afresh at every tick and at most register writes, with some sources a few dots
early and others held back after the LCD has been switched on.

The pixel pipeline decides at which dot of a visible line mode 0 starts.  It is not modelled: the
dot comes with each event that can move it.
-/

namespace GbCycle

def lcdcEnableBit : U8 := 0x80
def statWritableEnableMask : U8 := 0x78
def statLycInterruptEnableBit : U8 := 0x40
def statMode2InterruptEnableBit : U8 := 0x20
def statMode1InterruptEnableBit : U8 := 0x10
def statMode0InterruptEnableBit : U8 := 0x08
def dotsPerScanline : Nat := 456
def totalScanlines : Nat := 154
def mode3BaselineDots : Nat := 172
def mode0StartDot : Nat := mode2Dots + mode3BaselineDots
def lcdReenableInitialLineDot : Nat := 0
def dmgRealBootPowerOnLcdEnableInitialLineDot : Nat := 92
def lcdReenableLine0TotalDots : Nat := dotsPerScanline - 8
def lcdReenableLine0Mode3StartDot : Nat := mode2Dots - 8
def lcdReenableLine0Mode0RestoreDot : Nat := lcdReenableLine0Mode3StartDot + mode3BaselineDots
def cpuLcdcEnableEffectDelayTCycles : Nat := 5
def cgbBootEntryLineDot : Nat := 173
def line153Lyc153CompareStartDot : Nat := 3
def line153Lyc153CompareEndDot : Nat := 5
def line153Lyc0CompareStartDot : Nat := 12
def line153Lyc0StatIrqPretriggerDot : Nat := line153Lyc0CompareStartDot - 4
def cgbLine153Lyc153CompareStartDot : Nat := 1
def cgbLine153Lyc153CompareEndDot : Nat := 5
def cgbLine153Lyc0CompareStartDot : Nat := 9
def cgbLine153Lyc0StatIrqPretriggerDot : Nat := cgbLine153Lyc0CompareStartDot - 1
def cgbLineEndLycCompareBlankDots : Nat := 3
def dmgMode2VblankEntryStatPretriggerDots : Nat := 4
def cgbCompatMode2VblankEntryStatPretriggerDots : Nat := 4

def PpuAccessMode.fromStatBits (bits : U8) : PpuAccessMode :=
  if bits &&& 0x03 = 0 then .hBlank
  else if bits &&& 0x03 = 1 then .vBlank
  else if bits &&& 0x03 = 2 then .oamScan
  else .drawing

inductive PpuRegisterWriteSource where
  | immediate
  | cpuMmioCommit
  deriving Repr, DecidableEq

/-! ## The phase after the LCD is switched on -/

inductive PpuLcdRestartPhase where
  | inactive
  | firstLineAfterEnable
  deriving Repr, DecidableEq

namespace PpuLcdRestartPhase

def isFirstLineAfterEnableActive (p : PpuLcdRestartPhase) (ly : Nat) : Bool :=
  p == .firstLineAfterEnable && ly == 0

/-- The mode of the first line after the LCD has been switched on. -/
def rasterMode (p : PpuLcdRestartPhase) (ly lineDot : Nat) : Option PpuAccessMode :=
  if p.isFirstLineAfterEnableActive ly then
    some (if lineDot < lcdReenableLine0Mode3StartDot then .hBlank
      else if lineDot < lcdReenableLine0Mode0RestoreDot then .drawing
      else .hBlank)
  else none

def advance (p : PpuLcdRestartPhase) (ly : Nat) : PpuLcdRestartPhase :=
  if p.isFirstLineAfterEnableActive ly then p else .inactive

end PpuLcdRestartPhase

def accessModeFromRaster (ly lineDot mode0StartDot : Nat) : PpuAccessMode :=
  if visibleScanlines ≤ ly then .vBlank
  else if lineDot < mode2Dots then .oamScan
  else if lineDot < mode0StartDot then .drawing
  else .hBlank

/-! ## The state -/

structure StatState where
  irqLine : Bool
  lcdDisabledLycCoincidence : Bool
  suppressMode0PretriggerUntilVblank : Bool
  startupMode0IrqPhaseActive : Bool
  realBootHandoffMode0ScxSeamPhaseActive : Bool
  line153Lyc0StatIrqPretriggerPending : Bool
  dot0LycStatIrqEdgePending : Bool
  dmgStatWriteQuirkBlocksLine153Lyc0 : Bool
  lycCompareLatch : Bool
  deriving Repr, DecidableEq

/-- A bit of the pending requests, and whether it is still hidden from `IF` reads of the CPU. -/
structure PendingRequest where
  pending : Bool
  hidden : Bool
  deriving Repr, DecidableEq

namespace PendingRequest

def none : PendingRequest := ⟨false, false⟩

/-- `queue_interrupt_request_with_cpu_if_visibility`. -/
def queue (cpuIfVisible : Bool) : PendingRequest := ⟨true, !cpuIfVisible⟩

end PendingRequest

/-- The part of the PPU that the raster and the STAT line are computed from. -/
structure Ppu where
  consoleModel : ConsoleModel
  operatingMode : OperatingMode
  lcdc : U8
  statInterruptEnable : U8
  lcdEnabled : Bool
  lcdEnablePendingDelayTCycles : Nat
  scx : U8
  ly : Nat
  lineDot : Nat
  lyc : U8
  lcdRestartPhase : PpuLcdRestartPhase
  startupModeLatch : Option PpuAccessMode
  statState : StatState
  vBlankRequest : PendingRequest
  lcdStatRequest : PendingRequest
  dmgRealBootPowerOnLcdEnablePhaseActive : Bool
  /-- Where the pixel pipeline starts mode 0 on a visible line. -/
  pipelineMode0StartDot : Nat
  deriving Repr, DecidableEq

structure PpuStartupState where
  lcdc : U8
  stat : U8
  scx : U8
  ly : U8
  lyc : U8
  deriving Repr, DecidableEq

namespace Ppu

def new (consoleModel : ConsoleModel) : Ppu where
  consoleModel
  operatingMode := consoleModel.defaultOperatingMode
  lcdc := 0
  statInterruptEnable := 0
  lcdEnabled := false
  lcdEnablePendingDelayTCycles := 0
  scx := 0
  ly := 0
  lineDot := 0
  lyc := 0
  lcdRestartPhase := .inactive
  startupModeLatch := none
  statState := ⟨false, false, false, false, false, false, false, false, false⟩
  vBlankRequest := .none
  lcdStatRequest := .none
  dmgRealBootPowerOnLcdEnablePhaseActive := false
  pipelineMode0StartDot := GbCycle.mode0StartDot

/-! ## Modes -/

def currentMode0StartDot (p : Ppu) : Nat :=
  if visibleScanlines ≤ p.ly then mode0StartDot else p.pipelineMode0StartDot

def isRestartFirstLineActive (p : Ppu) : Bool := p.lcdRestartPhase.isFirstLineAfterEnableActive p.ly

def currentScanlineLength (p : Ppu) : Nat :=
  if p.isRestartFirstLineActive then lcdReenableLine0TotalDots else dotsPerScanline

def currentAccessMode (p : Ppu) : PpuAccessMode :=
  if !p.lcdEnabled then .hBlank
  else match p.lcdRestartPhase.rasterMode p.ly p.lineDot with
    | some mode => mode
    | none =>
        if p.startupModeLatch.isNone && decide (visibleScanlines ≤ p.ly) then .vBlank
        else if p.startupModeLatch.isNone && decide (p.lineDot < mode2Dots) then .oamScan
        else p.startupModeLatch.getD
          (accessModeFromRaster p.ly p.lineDot p.currentMode0StartDot)

/-- The columns of `SCX` whose mode 0 request comes late in some phases. -/
def scxSeam (p : Ppu) : Bool := p.scx &&& 0x07 == 3 || p.scx &&& 0x07 == 7

/-! ## The comparison with `LYC` -/

def lycCompareBlankedAtLineEnd (p : Ppu) : Bool :=
  p.consoleModel.isCgbFamily &&
    decide (p.currentScanlineLength ≤ p.lineDot + cgbLineEndLycCompareBlankDots)

def liveLyForLycCompare (p : Ppu) : Option Nat :=
  if p.consoleModel.isCgbFamily && p.ly == totalScanlines - 1 then
    if cgbLine153Lyc153CompareStartDot ≤ p.lineDot ∧ p.lineDot < cgbLine153Lyc153CompareEndDot then
      some (totalScanlines - 1)
    else if cgbLine153Lyc0CompareStartDot ≤ p.lineDot then
      if p.lycCompareBlankedAtLineEnd then none else some 0
    else none
  else if p.ly == totalScanlines - 1 then
    if line153Lyc153CompareStartDot ≤ p.lineDot ∧ p.lineDot < line153Lyc153CompareEndDot then
      some (totalScanlines - 1)
    else if line153Lyc0CompareStartDot ≤ p.lineDot then some 0
    else none
  else if p.lycCompareBlankedAtLineEnd then none
  else if p.ly == 0 then some 0
  else if p.lineDot == 0 then none
  else some p.ly

def liveLycCoincidence (p : Ppu) : Bool := p.liveLyForLycCompare == some p.lyc.toNat

def updateLycCompareLatch (p : Ppu) : Ppu :=
  match p.liveLyForLycCompare with
  | some compareLy =>
      { p with statState := { p.statState with lycCompareLatch := compareLy == p.lyc.toNat } }
  | none => p

def regularLineDot0CompareWindow (p : Ppu) : Bool :=
  p.lineDot == 0 && p.ly != totalScanlines - 1

def lycCoincidenceForIrqLine (p : Ppu) : Bool :=
  if !p.lcdEnabled then p.statState.lcdDisabledLycCoincidence
  else match p.liveLyForLycCompare with
    | some compareLy => compareLy == p.lyc.toNat
    | none =>
        if p.regularLineDot0CompareWindow then p.ly == p.lyc.toNat
        else p.statState.lycCompareLatch

def lcdEnablePendingLycRiseSource (p : Ppu) : Bool :=
  p.lcdEnablePendingDelayTCycles == 2 &&
    p.statInterruptEnable &&& statLycInterruptEnableBit != 0 &&
    !p.statState.lcdDisabledLycCoincidence && p.liveLycCoincidence

/-! ## The sources -/

def dmgStatWriteQuirkBlocksLine153Lyc0 (p : Ppu) : Bool :=
  p.consoleModel.isDmgFamily && p.statState.dmgStatWriteQuirkBlocksLine153Lyc0

def dmgStatWriteQuirkBlocksLine153Lyc0StatSource (p : Ppu) : Bool :=
  p.dmgStatWriteQuirkBlocksLine153Lyc0 && p.ly == totalScanlines - 1 && p.lyc == 0 &&
    decide (line153Lyc0StatIrqPretriggerDot ≤ p.lineDot)

def line153Lyc0StatIrqPretriggerSource (p : Ppu) : Bool :=
  if p.statInterruptEnable &&& statLycInterruptEnableBit == 0 || !p.lcdEnabled ||
      p.ly != totalScanlines - 1 || p.lyc != 0 then false
  else if p.consoleModel.isCgbFamily then
    decide (cgbLine153Lyc0StatIrqPretriggerDot ≤ p.lineDot ∧
      p.lineDot < cgbLine153Lyc0CompareStartDot)
  else
    !p.dmgStatWriteQuirkBlocksLine153Lyc0 &&
      decide (line153Lyc0StatIrqPretriggerDot ≤ p.lineDot ∧
        p.lineDot < line153Lyc0CompareStartDot)

def currentMode0StatIrqStartDot (p : Ppu) : Nat :=
  if p.statState.startupMode0IrqPhaseActive then
    saturatingAdd 16 p.currentMode0StartDot (if p.scxSeam then 64 else 60)
  else if !p.statState.suppressMode0PretriggerUntilVblank then p.currentMode0StartDot
  else if p.scx &&& 0x07 == 3 then saturatingAdd 16 p.currentMode0StartDot 4
  else if p.scx &&& 0x07 == 7 then saturatingAdd 16 p.currentMode0StartDot 1
  else p.currentMode0StartDot

def lcdReenableLine0Mode0IrqDot (p : Ppu) : Nat :=
  lcdReenableLine0Mode0RestoreDot + saturatingAdd 8 (p.scx &&& 0x07).toNat 3 / 4 * 4

def currentStatIrqAccessMode (p : Ppu) : PpuAccessMode :=
  if p.isRestartFirstLineActive &&
      (decide (p.lineDot < lcdReenableLine0Mode3StartDot) ||
        decide (p.lineDot < p.lcdReenableLine0Mode0IrqDot)) then .drawing
  else if !p.isRestartFirstLineActive && p.statState.startupMode0IrqPhaseActive &&
      p.currentAccessMode == .hBlank && decide (p.lineDot < p.currentMode0StatIrqStartDot) then
    .drawing
  else if !p.isRestartFirstLineActive && p.statState.suppressMode0PretriggerUntilVblank &&
      p.scxSeam && p.currentAccessMode == .hBlank &&
      decide (p.lineDot < p.currentMode0StatIrqStartDot) then .drawing
  else p.currentAccessMode

/-- Whether the four dots before mode 0 count, in the current phase. -/
def ordinaryPretriggerAllowed (p : Ppu) : Bool :=
  !p.statState.suppressMode0PretriggerUntilVblank && !p.statState.startupMode0IrqPhaseActive &&
    !(p.statState.realBootHandoffMode0ScxSeamPhaseActive && p.scxSeam)

def ordinaryMode2StatPretriggerSource (p : Ppu) : Bool :=
  p.statInterruptEnable &&& statMode2InterruptEnableBit != 0 && p.lcdEnabled &&
    decide (p.ly + 1 < visibleScanlines) && decide (p.currentScanlineLength ≤ p.lineDot + 4)

def ordinaryMode2StatPretriggerEdge (p : Ppu) : Bool :=
  p.statInterruptEnable &&& statMode2InterruptEnableBit != 0 && p.lcdEnabled &&
    decide (p.ly + 1 < visibleScanlines) && p.lineDot + 4 == p.currentScanlineLength

def mode2VblankEntryStatPretriggerDots (p : Ppu) : Option Nat :=
  if p.consoleModel.isDmgFamily then some dmgMode2VblankEntryStatPretriggerDots
  else if p.consoleModel.isCgbFamily && p.operatingMode.usesDmgSoftwareContract then
    some cgbCompatMode2VblankEntryStatPretriggerDots
  else none

def mode2VblankEntryStatSource (p : Ppu) : Bool :=
  match p.mode2VblankEntryStatPretriggerDots with
  | none => false
  | some pretriggerDots =>
      p.statInterruptEnable &&& statMode2InterruptEnableBit != 0 && p.lcdEnabled &&
        p.ly + 1 == visibleScanlines && p.currentAccessMode == .hBlank &&
        p.lineDot + pretriggerDots == p.currentScanlineLength

def modeSource (p : Ppu) : Bool :=
  match p.currentStatIrqAccessMode with
  | .hBlank => p.statInterruptEnable &&& statMode0InterruptEnableBit != 0
  | .vBlank => p.statInterruptEnable &&& statMode1InterruptEnableBit != 0
  | .oamScan => p.statInterruptEnable &&& statMode2InterruptEnableBit != 0
  | .drawing => false

def mode0PretriggerSource (p : Ppu) : Bool :=
  p.statInterruptEnable &&& statMode0InterruptEnableBit != 0 && p.ordinaryPretriggerAllowed &&
    decide (p.ly < visibleScanlines) && decide (p.lineDot < p.currentMode0StartDot) &&
    decide (p.currentMode0StartDot ≤ p.lineDot + 4)

def coincidenceSource (p : Ppu) : Bool :=
  p.statInterruptEnable &&& statLycInterruptEnableBit != 0 && p.lycCoincidenceForIrqLine &&
    !p.dmgStatWriteQuirkBlocksLine153Lyc0StatSource

def ordinaryStatIrqLine (p : Ppu) : Bool :=
  if p.statInterruptEnable == 0 then false
  else if !p.lcdEnabled then p.coincidenceSource || p.lcdEnablePendingLycRiseSource
  else if p.statInterruptEnable &&& (statMode0InterruptEnableBit ||| statMode1InterruptEnableBit |||
      statMode2InterruptEnableBit) == 0 then
    p.coincidenceSource || p.line153Lyc0StatIrqPretriggerSource
  else
    p.coincidenceSource || p.line153Lyc0StatIrqPretriggerSource || p.modeSource ||
      p.mode0PretriggerSource || p.ordinaryMode2StatPretriggerSource ||
      p.mode2VblankEntryStatSource

def computeStatIrqLine (p : Ppu) (quirkActive : Bool) : Bool := p.ordinaryStatIrqLine || quirkActive

/-! ## Requests that the same cycle does not show -/

def mode0StatIrqEdgeHiddenFromSameCycleCpuIf (p : Ppu) : Bool :=
  if p.statInterruptEnable &&& statMode0InterruptEnableBit == 0 || !p.lcdEnabled ||
      decide (visibleScanlines ≤ p.ly) then false
  else if p.ordinaryPretriggerAllowed && decide (p.lineDot < p.currentMode0StartDot) &&
      decide (p.currentMode0StartDot ≤ p.lineDot + 4) then true
  else
    p.lineDot == (if p.isRestartFirstLineActive then p.lcdReenableLine0Mode0IrqDot
        else p.currentMode0StatIrqStartDot) &&
      p.currentStatIrqAccessMode == .hBlank

def mode2StatIrqEdgeHiddenFromSameCycleCpuIf (p : Ppu) : Bool :=
  if p.statInterruptEnable &&& statMode2InterruptEnableBit == 0 || !p.lcdEnabled then false
  else p.ordinaryMode2StatPretriggerEdge || p.mode2VblankEntryStatSource

def mode1StatIrqEdgeHiddenFromSameCycleCpuIf (p : Ppu) : Bool :=
  p.statInterruptEnable &&& statMode1InterruptEnableBit != 0 && p.lcdEnabled &&
    p.ly == visibleScanlines && p.lineDot == 0 && p.currentAccessMode == .vBlank

def lycStatIrqEdgeHiddenFromSameCycleCpuIf (p : Ppu) : Bool :=
  if p.statInterruptEnable &&& statLycInterruptEnableBit == 0 || !p.lcdEnabled then false
  else if p.line153Lyc0StatIrqPretriggerSource then true
  else if p.regularLineDot0CompareWindow && p.ly == p.lyc.toNat then true
  else if !p.liveLycCoincidence then false
  else if p.ly == totalScanlines - 1 && !p.consoleModel.isCgbFamily then
    p.lyc.toNat == totalScanlines - 1 && p.lineDot == line153Lyc153CompareStartDot ||
      p.lyc == 0 && p.lineDot == line153Lyc0CompareStartDot
  else false

def statRequestHiddenFromSameCycleCpuIf (p : Ppu) : Bool :=
  p.mode0StatIrqEdgeHiddenFromSameCycleCpuIf || p.mode2StatIrqEdgeHiddenFromSameCycleCpuIf ||
    p.mode1StatIrqEdgeHiddenFromSameCycleCpuIf || p.lycStatIrqEdgeHiddenFromSameCycleCpuIf

def queueLcdStatRequest (p : Ppu) : Ppu :=
  { p with lcdStatRequest := .queue !p.statRequestHiddenFromSameCycleCpuIf }

/-! ## The stored line -/

def dot0LycStatIrqEdgeIsCancellable (p : Ppu) : Bool :=
  p.regularLineDot0CompareWindow && p.ly == p.lyc.toNat &&
    p.statInterruptEnable &&& statLycInterruptEnableBit != 0

/-- `refresh_stat_irq_line(false)`: no caller of it passes the quirk of a `STAT` write. -/
def refreshStatIrqLine (p : Ppu) : Ppu :=
  if p.statInterruptEnable == 0 && !p.statState.irqLine then p
  else
    let newLine := p.computeStatIrqLine false
    let edge := !p.statState.irqLine && newLine
    let request := if edge then p.queueLcdStatRequest else p
    { request with
      statState := { p.statState with
        irqLine := newLine
        dot0LycStatIrqEdgePending :=
          edge && p.dot0LycStatIrqEdgeIsCancellable ||
            p.lineDot == 0 && p.statState.dot0LycStatIrqEdgePending
        line153Lyc0StatIrqPretriggerPending :=
          edge && p.line153Lyc0StatIrqPretriggerSource ||
            p.statState.line153Lyc0StatIrqPretriggerPending } }

def cancelObsoleteDot0LycStatIrqEdge (p : Ppu) : Ppu × Bool :=
  if !p.statState.dot0LycStatIrqEdgePending || p.lycCoincidenceForIrqLine then (p, false)
  else
    ({ p with
        lcdStatRequest := .none
        statState := { p.statState with dot0LycStatIrqEdgePending := false } }, true)

def cancelObsoleteLine153Lyc0StatIrqPretrigger (p : Ppu) : Ppu × Bool :=
  if !p.statState.line153Lyc0StatIrqPretriggerPending || p.line153Lyc0StatIrqPretriggerSource then
    (p, false)
  else
    ({ p with
        lcdStatRequest := .none
        statState := { p.statState with line153Lyc0StatIrqPretriggerPending := false } }, true)

def setIrqLine (p : Ppu) (level : Bool) : Ppu :=
  { p with statState := { p.statState with irqLine := level } }

/-! ## Writes -/

def mode2StatWriteIrqSource (p : Ppu) : Bool :=
  p.statInterruptEnable &&& statMode2InterruptEnableBit != 0 && p.lcdEnabled &&
    decide (p.ly < visibleScanlines) && p.lineDot == 0 && p.currentAccessMode == .oamScan

def mode1StatWriteIrqSource (p : Ppu) : Bool :=
  p.statInterruptEnable &&& statMode1InterruptEnableBit != 0 && p.lcdEnabled &&
    p.currentAccessMode == .vBlank

def mode0StatWriteIrqSource (p : Ppu) : Bool :=
  p.statInterruptEnable &&& statMode0InterruptEnableBit != 0 && p.lcdEnabled &&
    decide (p.ly < visibleScanlines) && p.currentStatIrqAccessMode == .hBlank

def lycStatWriteIrqSource (p : Ppu) : Bool :=
  p.statInterruptEnable &&& statLycInterruptEnableBit != 0 && p.lcdEnabled &&
    !p.regularLineDot0CompareWindow && p.lycCoincidenceForIrqLine &&
    !p.dmgStatWriteQuirkBlocksLine153Lyc0StatSource

/-- A write to `STAT` acts on the DMG as if all enables were set, while one of these holds. -/
def statWriteQuirkActiveForWrite (p : Ppu) : Bool :=
  if !p.consoleModel.isDmgFamily || !p.lcdEnabled then false
  else if decide (visibleScanlines ≤ p.ly) || p.lycCoincidenceForIrqLine then true
  else
    !p.isRestartFirstLineActive &&
        (p.ly == 0 && decide (p.lineDot < mode2Dots) ||
          decide (p.ly < visibleScanlines) && p.lineDot == 0) ||
      decide (p.ly < visibleScanlines) &&
        decide (saturatingAdd 16 p.currentMode0StartDot 4 ≤ p.lineDot) &&
        decide (p.lineDot < p.currentScanlineLength)

/-- The enables are stored, and a request for them that is obsolete is gone. -/
def statStored (p : Ppu) (value : U8) : Ppu :=
  let stored := { p with statInterruptEnable := value &&& statWritableEnableMask }
  let (cancelled, obsolete) := stored.cancelObsoleteLine153Lyc0StatIrqPretrigger
  if obsolete then cancelled.setIrqLine false else cancelled

/-- The state in which `write_stat` computes the line. -/
def statWritten (p : Ppu) (value : U8) : Ppu :=
  let stored := p.statStored value
  { stored with
    statState := { stored.statState with
      dmgStatWriteQuirkBlocksLine153Lyc0 :=
        stored.statWriteQuirkActiveForWrite && stored.consoleModel.isDmgFamily &&
          stored.currentAccessMode == .vBlank } }

def writeRequestsOrdinaryEdge (p : Ppu) : Bool :=
  p.ordinaryStatIrqLine &&
    (p.mode0StatWriteIrqSource || p.mode1StatWriteIrqSource || p.mode2StatWriteIrqSource ||
      p.lycStatWriteIrqSource)

def writeStat (p : Ppu) (value : U8) : Ppu :=
  let quirkActive := (p.statStored value).statWriteQuirkActiveForWrite
  let written := p.statWritten value
  let requested :=
    if !written.statState.irqLine && (quirkActive || written.writeRequestsOrdinaryEdge) then
      written.queueLcdStatRequest
    else written
  requested.setIrqLine (written.ordinaryStatIrqLine || quirkActive)

def writeLyc (p : Ppu) (value : U8) : Ppu :=
  let stored := { p with lyc := value }
  if stored.lcdEnabled then
    let (cancelled, obsolete) := stored.updateLycCompareLatch.cancelObsoleteDot0LycStatIrqEdge
    let cancelled := if obsolete then cancelled.setIrqLine false else cancelled
    cancelled.refreshStatIrqLine.cancelObsoleteLine153Lyc0StatIrqPretrigger.1
  else stored

def enterLcdDisabledState (p : Ppu) : Ppu :=
  { p with
    lcdEnabled := false
    lcdEnablePendingDelayTCycles := 0
    ly := 0
    lineDot := 0
    lcdRestartPhase := .inactive
    startupModeLatch := none
    statState := { p.statState with
      lcdDisabledLycCoincidence := p.lycCoincidenceForIrqLine
      suppressMode0PretriggerUntilVblank := false
      startupMode0IrqPhaseActive := false
      realBootHandoffMode0ScxSeamPhaseActive := false
      line153Lyc0StatIrqPretriggerPending := false
      dmgStatWriteQuirkBlocksLine153Lyc0 := false }
    dmgRealBootPowerOnLcdEnablePhaseActive := false }

def enterLcdEnabledRestartState (p : Ppu) : Ppu :=
  { p with
    lcdEnabled := true
    lcdEnablePendingDelayTCycles := 0
    ly := 0
    lineDot := if p.dmgRealBootPowerOnLcdEnablePhaseActive then
        dmgRealBootPowerOnLcdEnableInitialLineDot
      else lcdReenableInitialLineDot
    lcdRestartPhase := .firstLineAfterEnable
    startupModeLatch := none
    statState := { p.statState with
      lcdDisabledLycCoincidence := false
      suppressMode0PretriggerUntilVblank := true
      startupMode0IrqPhaseActive := false
      realBootHandoffMode0ScxSeamPhaseActive := p.dmgRealBootPowerOnLcdEnablePhaseActive
      line153Lyc0StatIrqPretriggerPending := false
      dmgStatWriteQuirkBlocksLine153Lyc0 := false }
    dmgRealBootPowerOnLcdEnablePhaseActive := false }

def enterLcdEnablePendingState (p : Ppu) (delayTCycles : Nat) : Ppu :=
  { p with
    lcdEnabled := false
    lcdEnablePendingDelayTCycles := delayTCycles
    startupModeLatch := none }

def lcdSwitchedOn (lcdc : U8) : Bool := lcdc &&& lcdcEnableBit != 0

/-- What `write_lcdc` does before the line is computed. -/
def lcdcWritten (p : Ppu) (value : U8) (source : PpuRegisterWriteSource) : Ppu :=
  let stored := { p with lcdc := value, startupModeLatch := none }
  match p.lcdEnabled || p.lcdEnablePendingDelayTCycles != 0, lcdSwitchedOn value with
  | true, false => stored.enterLcdDisabledState
  | false, true =>
      match source with
      | .cpuMmioCommit => stored.enterLcdEnablePendingState cpuLcdcEnableEffectDelayTCycles
      | .immediate => stored.enterLcdEnabledRestartState
  | true, true | false, false => { stored with lcdEnabled := lcdSwitchedOn value }

/-- A write to `LCDC`, after which the pixel pipeline starts mode 0 at a given dot. -/
def writeLcdc (p : Ppu) (value : U8) (source : PpuRegisterWriteSource) (mode0StartDot : Nat) :
    Ppu :=
  { p.lcdcWritten value source with pipelineMode0StartDot := mode0StartDot }.refreshStatIrqLine

/-! ## A T-cycle -/

/-- The end of a line. -/
def publishRaster (p : Ppu) : Ppu :=
  if p.lineDot = p.currentScanlineLength then
    let ly := if p.ly + 1 = totalScanlines then 0 else p.ly + 1
    { p with
      lineDot := 0
      ly
      lcdRestartPhase := p.lcdRestartPhase.advance ly
      statState := { p.statState with
        startupMode0IrqPhaseActive :=
          if 2 ≤ ly then false else p.statState.startupMode0IrqPhaseActive
        suppressMode0PretriggerUntilVblank :=
          if visibleScanlines ≤ ly then false
          else p.statState.suppressMode0PretriggerUntilVblank
        realBootHandoffMode0ScxSeamPhaseActive :=
          if visibleScanlines ≤ ly then false
          else p.statState.realBootHandoffMode0ScxSeamPhaseActive } }
  else p

/-- The dot counter and the pixel pipeline move on. -/
def advanceRaster (p : Ppu) (mode0StartDot : Nat) : Ppu :=
  { p with
    startupModeLatch := none
    lineDot := p.lineDot + 1
    lcdRestartPhase := p.lcdRestartPhase.advance p.ly
    pipelineMode0StartDot := mode0StartDot }.publishRaster

/-- A tick with the LCD on, up to the line.  The register latches of the pixel pipeline are
advanced first. -/
def tickRaster (p : Ppu) (latchedMode0StartDot mode0StartDot : Nat) : Ppu :=
  let latched := { p with pipelineMode0StartDot := latchedMode0StartDot }
  let advanced := latched.advanceRaster mode0StartDot
  let entersVBlank :=
    latched.currentAccessMode != .vBlank && advanced.currentAccessMode == .vBlank
  { advanced with
    vBlankRequest := if entersVBlank then .queue false else advanced.vBlankRequest
    }.updateLycCompareLatch

def tickEnabled (p : Ppu) (latchedMode0StartDot mode0StartDot : Nat) : Ppu :=
  (p.tickRaster latchedMode0StartDot mode0StartDot).refreshStatIrqLine

def tick (p : Ppu) (latchedMode0StartDot mode0StartDot : Nat) : Ppu :=
  if p.lcdEnabled then p.tickEnabled latchedMode0StartDot mode0StartDot
  else if p.lcdEnablePendingDelayTCycles = 0 then p
  else
    let waited := { p with lcdEnablePendingDelayTCycles := p.lcdEnablePendingDelayTCycles - 1 }
    if waited.lcdEnablePendingDelayTCycles = 2 then waited.refreshStatIrqLine
    else if waited.lcdEnablePendingDelayTCycles = 0 ∧ lcdSwitchedOn waited.lcdc then
      let restarted := { waited.enterLcdEnabledRestartState with
        pipelineMode0StartDot := latchedMode0StartDot }
      restarted.refreshStatIrqLine.tickEnabled latchedMode0StartDot mode0StartDot
    else waited

/-- `take_pending_interrupt_request_mask`. -/
def takePendingInterruptRequests (p : Ppu) : Ppu :=
  { p with
    vBlankRequest := .none
    lcdStatRequest := .none
    statState := { p.statState with
      line153Lyc0StatIrqPretriggerPending := false
      dot0LycStatIrqEdgePending := false } }

/-! ## Startup and the end of the boot ROM -/

def applyStartupState (p : Ppu) (startup : PpuStartupState) (mode0StartDot : Nat) : Ppu :=
  let enabled := lcdSwitchedOn startup.lcdc
  let set := { p with
    lcdc := startup.lcdc
    statInterruptEnable := startup.stat &&& statWritableEnableMask
    lcdEnabled := enabled
    lcdEnablePendingDelayTCycles := 0
    scx := startup.scx
    ly := startup.ly.toNat
    lineDot := 0
    lcdRestartPhase := .inactive
    lyc := startup.lyc
    vBlankRequest := .none
    lcdStatRequest := .none
    pipelineMode0StartDot := mode0StartDot
    dmgRealBootPowerOnLcdEnablePhaseActive := false }
  let startupMode := PpuAccessMode.fromStatBits startup.stat
  let derivedMode := accessModeFromRaster set.ly set.lineDot set.currentMode0StartDot
  let latched := { set with
    startupModeLatch := if enabled ∧ startupMode ≠ derivedMode then some startupMode else none
    statState := { p.statState with
      lcdDisabledLycCoincidence := startup.ly == startup.lyc
      lycCompareLatch := startup.ly == startup.lyc
      suppressMode0PretriggerUntilVblank := false
      startupMode0IrqPhaseActive := false
      realBootHandoffMode0ScxSeamPhaseActive := false
      line153Lyc0StatIrqPretriggerPending := false
      dmgStatWriteQuirkBlocksLine153Lyc0 := false } }
  latched.setIrqLine (latched.computeStatIrqLine false)

/-- What the machine does to the PPU when a boot ROM is skipped or hands over. -/
inductive BootPhase where
  | dmgRealBootPowerOnLcdEnable
  | dmgRealBootHandoffStatIrq
  | dmgSkipBootStatIrqStartup
  | dmg0DirectBootHandoffStat
  | cgbCustomBootEntry
  | cgbBootHandoffRasterCorrection (tCycles : Nat)
  deriving Repr, DecidableEq

def applyBootPhase (p : Ppu) : BootPhase → Ppu
  | .dmgRealBootPowerOnLcdEnable =>
      if p.consoleModel.isDmgFamily && !p.lcdEnabled then
        { p with dmgRealBootPowerOnLcdEnablePhaseActive := true }
      else p
  | .dmgRealBootHandoffStatIrq =>
      if p.consoleModel.isDmgFamily && p.lcdEnabled then
        { p with
          statState := { p.statState with realBootHandoffMode0ScxSeamPhaseActive := true } }
      else p
  | .dmgSkipBootStatIrqStartup =>
      if p.consoleModel.isDmgFamily && p.lcdEnabled && p.ly == 0 then
        let phased := { p with
          statState := { p.statState with startupMode0IrqPhaseActive := true } }
        phased.setIrqLine (phased.computeStatIrqLine false)
      else p
  | .dmg0DirectBootHandoffStat =>
      if p.consoleModel.isDmgFamily && p.lcdEnabled then
        let phased := { p with
          statState := { p.statState with startupMode0IrqPhaseActive := true } }
        phased.setIrqLine (phased.computeStatIrqLine false)
      else p
  | .cgbCustomBootEntry =>
      if p.consoleModel.isCgbFamily && p.lcdEnabled then
        let phased := { p with
          ly := visibleScanlines, lineDot := cgbBootEntryLineDot, startupModeLatch := none }
        phased.setIrqLine (phased.computeStatIrqLine false)
      else p
  | .cgbBootHandoffRasterCorrection tCycles =>
      if !p.consoleModel.isCgbFamily || !p.lcdEnabled then p
      else
        let phased := { p with lineDot := (p.lineDot + tCycles) % 2 ^ 16 }
        phased.setIrqLine (phased.computeStatIrqLine false)

/-! ## Runs -/

/-- What happens to the PPU.  The dots are where the pixel pipeline starts mode 0 afterwards, and
`other` is any write that only the pixel pipeline notices. -/
inductive Event where
  | tick (latchedMode0StartDot mode0StartDot : Nat)
  | writeLcdc (value : U8) (source : PpuRegisterWriteSource) (mode0StartDot : Nat)
  | writeStat (value : U8)
  | writeLyc (value : U8)
  | writeScx (value : U8) (mode0StartDot : Nat)
  | other (mode0StartDot : Nat)
  | operatingMode (mode : OperatingMode)
  | bootPhase (phase : BootPhase)
  | takeRequests
  deriving Repr, DecidableEq

def step (p : Ppu) : Event → Ppu
  | .tick latchedMode0StartDot mode0StartDot => p.tick latchedMode0StartDot mode0StartDot
  | .writeLcdc value source mode0StartDot => p.writeLcdc value source mode0StartDot
  | .writeStat value => p.writeStat value
  | .writeLyc value => p.writeLyc value
  | .writeScx value mode0StartDot =>
      { p with scx := value, pipelineMode0StartDot := mode0StartDot }
  | .other mode0StartDot => { p with pipelineMode0StartDot := mode0StartDot }
  | .operatingMode mode => { p with operatingMode := mode }
  | .bootPhase phase => p.applyBootPhase phase
  | .takeRequests => p.takePendingInterruptRequests

def run (events : List Event) (p : Ppu) : Ppu := events.foldl step p

@[simp] theorem run_nil (p : Ppu) : run [] p = p := rfl

@[simp] theorem run_cons (event : Event) (events : List Event) (p : Ppu) :
    run (event :: events) p = run events (p.step event) := rfl

/-- A PPU before its first event: as it is made, or in the state that a skipped boot ROM leaves. -/
inductive Started : Ppu → Prop where
  | new (consoleModel : ConsoleModel) : Started (new consoleModel)
  | startup (consoleModel : ConsoleModel) (state : PpuStartupState) (mode0StartDot : Nat) :
      Started ((new consoleModel).applyStartupState state mode0StartDot)

end Ppu

end GbCycle
