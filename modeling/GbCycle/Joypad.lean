import GbCycle.Word
import GbCycle.Model

/-!
# The joypad

The buttons are visible to the program through the low nibble of `P1`, filtered by the
selection bits.  A visible line that falls raises two events at once: an interrupt request,
consumed when the cycle aggregates interrupts, and a wake-up from STOP, consumed when the
CPU evaluates its wake-up conditions.
-/

namespace GbCycle

inductive JoypadButton where
  | right | left | up | down | a | b | select | start
  deriving Repr, DecidableEq

def buttonMask : JoypadButton → U8
  | .right => 0x01
  | .left => 0x02
  | .up => 0x04
  | .down => 0x08
  | .a => 0x10
  | .b => 0x20
  | .select => 0x40
  | .start => 0x80

structure Joypad where
  consoleModel : ConsoleModel
  selectionBits : U8
  pressedMask : U8
  previousVisibleLowNibble : U8
  interruptRequestPending : Bool
  stopWakePending : Bool
  deriving Repr, DecidableEq

namespace Joypad

def selectMask : U8 := 0x30

/-! ## The visible lines -/

def rowLowBits (pressedMask : U8) (bit0 bit1 bit2 bit3 : JoypadButton) : U8 :=
  let low : U8 := 0
  let low := if pressedMask &&& buttonMask bit0 != 0 then low ||| 0x01 else low
  let low := if pressedMask &&& buttonMask bit1 != 0 then low ||| 0x02 else low
  let low := if pressedMask &&& buttonMask bit2 != 0 then low ||| 0x04 else low
  if pressedMask &&& buttonMask bit3 != 0 then low ||| 0x08 else low

def buttonRowLowBits (pressedMask : U8) : U8 := rowLowBits pressedMask .a .b .select .start
def dpadRowLowBits (pressedMask : U8) : U8 := rowLowBits pressedMask .right .left .up .down

def visibleLowNibbleOf (selectionBits pressedMask : U8) : U8 :=
  let low : U8 := 0x0F
  let low := if selectionBits &&& 0x20 == 0 then low &&& ~~~ buttonRowLowBits pressedMask
    else low
  if selectionBits &&& 0x10 == 0 then low &&& ~~~ dpadRowLowBits pressedMask else low

def visibleLowNibble (j : Joypad) : U8 := visibleLowNibbleOf j.selectionBits j.pressedMask

def gainedVisibleLowBit (previous visible : U8) : Bool :=
  (previous &&& ~~~ visible) &&& 0x0F != 0

def updateVisibleEdgeState (j : Joypad) : Joypad :=
  let visible := j.visibleLowNibble
  let j := if gainedVisibleLowBit j.previousVisibleLowNibble visible then
      { j with interruptRequestPending := true, stopWakePending := true }
    else j
  { j with previousVisibleLowNibble := visible }

/-! ## Operations -/

def new (consoleModel : ConsoleModel) : Joypad :=
  { consoleModel := consoleModel, selectionBits := selectMask, pressedMask := 0,
    previousVisibleLowNibble := 0x0F, interruptRequestPending := false,
    stopWakePending := false }

def readP1 (j : Joypad) : U8 := 0xC0 ||| j.selectionBits ||| j.visibleLowNibble

def writeP1 (j : Joypad) (value : U8) : Joypad :=
  { j with selectionBits := value &&& selectMask }.updateVisibleEdgeState

def setButtonPressed (j : Joypad) (button : JoypadButton) (pressed : Bool) : Joypad :=
  let mask := if pressed then j.pressedMask ||| buttonMask button
    else j.pressedMask &&& ~~~ buttonMask button
  { j with pressedMask := mask }.updateVisibleEdgeState

def consumeStopWakeEvent (j : Joypad) : Bool × Joypad :=
  (j.stopWakePending, { j with stopWakePending := false })

def stopWakeLineAsserted (j : Joypad) : Bool := j.visibleLowNibble != 0x0F

def consumeInterruptRequest (j : Joypad) : Bool × Joypad :=
  (j.interruptRequestPending, { j with interruptRequestPending := false })

end Joypad

end GbCycle
