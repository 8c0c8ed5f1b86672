import GbCycle.Word
import GbCycle.Model
import GbCycle.Speed

/-!
# The timer

A sixteen bit counter runs with every T-cycle, `DIV` is its high byte.  `TIMA` counts the falling
edges of one of its bits while `TAC` enables it, so that a write that clears the counter or changes
`TAC` may count as well.  When `TIMA` overflows it stays zero for a few T-cycles before it is
reloaded from `TMA` and the interrupt is requested.
-/

namespace GbCycle

def timerEnableMask : U8 := 0x04
def timerControlMask : U8 := 0x07
def timerReloadDelayTCycles : Nat := 4

def CgbSpeedMode.timerIncrementPerSchedulerTCycle : CgbSpeedMode → U16
  | normal => 1
  | double => 1

inductive TimerOverflowState where
  | idle
  | pending (ticksUntilReload : Nat)
  deriving Repr, DecidableEq

def TimerOverflowState.isPending : TimerOverflowState → Bool
  | idle => false
  | pending _ => true

inductive TimerSignalChangeOrigin where
  | autonomousTick
  | mmioWrite
  deriving Repr, DecidableEq

/-- The ticks from an overflow to the reload: a write comes after the tick of its T-cycle. -/
def TimerSignalChangeOrigin.reloadDelay : TimerSignalChangeOrigin → Nat
  | autonomousTick => timerReloadDelayTCycles
  | mmioWrite => timerReloadDelayTCycles - 1

inductive DividerResetSource where
  | cpuDivWrite
  | stopInstruction
  deriving Repr, DecidableEq

structure TimerStartupState where
  systemCounter : U16
  tima : U8
  tma : U8
  tac : U8
  deriving Repr, DecidableEq

structure Timer where
  systemCounter : U16
  tima : U8
  tma : U8
  tac : U8
  previousTimerSignal : Bool
  overflowState : TimerOverflowState
  reloadedThisTCycle : Bool
  apuFsOffset : U16
  deriving Repr, DecidableEq

/-- What a tick tells the rest of the machine, beside the divider's own tick. -/
structure TimerTickEffects where
  timerInterrupt : Bool
  timerInputFallingEdge : Bool
  apuFrameSequencerEdge : Bool
  deriving Repr, DecidableEq

def selectedTimerBit (tac : U8) : Nat :=
  match tac &&& 0x03 with
  | 0x00 => 9
  | 0x01 => 3
  | 0x02 => 5
  | _ => 7

namespace Timer

def new : Timer :=
  { systemCounter := 0, tima := 0, tma := 0, tac := 0, previousTimerSignal := false
    overflowState := .idle, reloadedThisTCycle := false, apuFsOffset := 0 }

def selectedCounterBitIsHigh (t : Timer) : Bool := t.systemCounter.getLsbD (selectedTimerBit t.tac)

def currentTimerSignal (t : Timer) : Bool :=
  t.tac &&& timerEnableMask ≠ 0 && t.selectedCounterBitIsHigh

def currentDivApuSignalForSpeed (t : Timer) (speed : CgbSpeedMode) : Bool :=
  (t.systemCounter + t.apuFsOffset).getLsbD speed.divApuCounterBit

/-! ## The edge detector -/

def incrementTimaOnFallingEdge (t : Timer) (origin : TimerSignalChangeOrigin) : Timer :=
  if t.overflowState.isPending then t
  else
    let t' := { t with tima := t.tima + 1 }
    if t.tima = 0xFF then { t' with overflowState := .pending origin.reloadDelay } else t'

def processTimerSignalEdge (t : Timer) (previousSignal currentSignal : Bool)
    (origin : TimerSignalChangeOrigin) : Timer :=
  if previousSignal && !currentSignal then t.incrementTimaOnFallingEdge origin else t

def applyTimerSignalChange (t : Timer) (previousSignal : Bool)
    (origin : TimerSignalChangeOrigin) : Timer :=
  let currentSignal := t.currentTimerSignal
  { t.processTimerSignalEdge previousSignal currentSignal origin with
    previousTimerSignal := currentSignal }

/-! ## The registers -/

def readDiv (t : Timer) : U8 := t.systemCounter.high

/-- The divider is cleared; the result says whether that clocks the APU's frame sequencer. -/
def resetDividerWithEffectsForSpeed (t : Timer) (speed : CgbSpeedMode)
    (source : DividerResetSource) : Timer × Bool :=
  let previousSignal := t.currentTimerSignal
  let previousDivApuSignal := t.currentDivApuSignalForSpeed speed
  let t := { t with
    systemCounter := 0
    apuFsOffset := match source with
      | .cpuDivWrite => 2
      | .stopInstruction => 0 }
  let t := t.applyTimerSignalChange previousSignal .mmioWrite
  (t, previousDivApuSignal && !t.currentDivApuSignalForSpeed speed)

def writeDiv (t : Timer) (speed : CgbSpeedMode) : Timer :=
  (t.resetDividerWithEffectsForSpeed speed .cpuDivWrite).1

def stopResetDivider (t : Timer) (speed : CgbSpeedMode) : Timer :=
  (t.resetDividerWithEffectsForSpeed speed .stopInstruction).1

def writeTima (t : Timer) (value : U8) : Timer :=
  if t.reloadedThisTCycle then t
  else
    let t' := { t with tima := value }
    if t.overflowState.isPending then { t' with overflowState := .idle } else t'

def writeTma (t : Timer) (value : U8) : Timer :=
  let t' := { t with tma := value }
  if t.reloadedThisTCycle then { t' with tima := value } else t'

def readTac (t : Timer) : U8 := 0xF8 ||| t.tac

def writeTac (t : Timer) (value : U8) : Timer :=
  let previousSignal := t.currentTimerSignal
  let t := { t with tac := value &&& timerControlMask }
  t.applyTimerSignalChange previousSignal .mmioWrite

def applyStartupState (t : Timer) (s : TimerStartupState) : Timer :=
  let t := { t with
    systemCounter := s.systemCounter, tima := s.tima, tma := s.tma
    tac := s.tac &&& timerControlMask }
  { t with
    previousTimerSignal := t.currentTimerSignal
    overflowState := .idle, reloadedThisTCycle := false, apuFsOffset := 0 }

def applyBootHandoffCounterCorrection (t : Timer) (tCycles : U16) : Timer :=
  let t := { t with systemCounter := t.systemCounter + tCycles }
  { t with previousTimerSignal := t.currentTimerSignal }

/-! ## The tick -/

/-- The overflow comes closer to its reload; the result says whether the interrupt is requested. -/
def advanceOverflowPipeline (t : Timer) : Timer × Bool :=
  match t.overflowState with
  | .idle => (t, false)
  | .pending ticksUntilReload =>
      if 1 < ticksUntilReload then
        ({ t with overflowState := .pending (ticksUntilReload - 1) }, false)
      else
        ({ t with tima := t.tma, overflowState := .idle, reloadedThisTCycle := true }, true)

def tickTCycleForSpeed (t : Timer) (speed : CgbSpeedMode) : Timer × TimerTickEffects :=
  let (t, timerInterrupt) := { t with reloadedThisTCycle := false }.advanceOverflowPipeline
  let previousTimerSignal := t.currentTimerSignal
  let previousDivApuSignal := t.currentDivApuSignalForSpeed speed
  let t := { t with systemCounter := t.systemCounter + speed.timerIncrementPerSchedulerTCycle }
  let currentSignal := t.currentTimerSignal
  let t := t.processTimerSignalEdge previousTimerSignal currentSignal .autonomousTick
  let t := { t with previousTimerSignal := currentSignal }
  (t, { timerInterrupt
        timerInputFallingEdge := previousTimerSignal && !currentSignal
        apuFrameSequencerEdge :=
          previousDivApuSignal && !t.currentDivApuSignalForSpeed speed })

end Timer

/-! ## Runs -/

/-- What happens to the timer: a T-cycle, a write to `FF04`-`FF07`, or the reset of `STOP`. -/
inductive TimerEvent where
  | tick (speed : CgbSpeedMode)
  | writeDiv (speed : CgbSpeedMode)
  | stopResetDivider (speed : CgbSpeedMode)
  | writeTima (value : U8)
  | writeTma (value : U8)
  | writeTac (value : U8)
  deriving Repr, DecidableEq

namespace Timer

/-- An event, and whether it requests the interrupt. -/
def step (t : Timer) : TimerEvent → Timer × Bool
  | .tick speed => ((t.tickTCycleForSpeed speed).1, (t.tickTCycleForSpeed speed).2.timerInterrupt)
  | .writeDiv speed => (t.writeDiv speed, false)
  | .stopResetDivider speed => (t.stopResetDivider speed, false)
  | .writeTima value => (t.writeTima value, false)
  | .writeTma value => (t.writeTma value, false)
  | .writeTac value => (t.writeTac value, false)

def run (t : Timer) (events : List TimerEvent) : Timer :=
  events.foldl (fun t event => (t.step event).1) t

/-- The timers that a console can have. -/
inductive Reachable : Timer → Prop where
  | new : Reachable new
  | startup {t : Timer} (s : TimerStartupState) : Reachable t → Reachable (t.applyStartupState s)
  | handoff {t : Timer} (tCycles : U16) :
      Reachable t → Reachable (t.applyBootHandoffCounterCorrection tCycles)
  | event {t : Timer} (event : TimerEvent) : Reachable t → Reachable (t.step event).1

end Timer

end GbCycle
