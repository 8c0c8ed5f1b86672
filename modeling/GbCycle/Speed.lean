import GbCycle.Word
import GbCycle.Model

/-!
# The CGB speed controller

`KEY1` arms a speed switch and the next STOP performs it.  Models and operating modes
without the switch always run at normal speed, whatever the stored speed is.
-/

namespace GbCycle

inductive CgbSpeedMode where
  | normal
  | double
  deriving Repr, DecidableEq

namespace CgbSpeedMode

def key1Bit : CgbSpeedMode → U8
  | normal => 0
  | double => 0x80

def divApuCounterBit : CgbSpeedMode → Nat
  | normal => 12
  | double => 13

def lcdTickDueAtSchedulerTCycle : CgbSpeedMode → Nat → Bool
  | normal, _ => true
  | double, t => t % 2 == 0

def apuTickDueAtSchedulerTCycle (m : CgbSpeedMode) (t : Nat) : Bool :=
  m.lcdTickDueAtSchedulerTCycle t

end CgbSpeedMode

structure SpeedController where
  consoleModel : ConsoleModel
  operatingMode : OperatingMode
  currentSpeedField : CgbSpeedMode
  switchArmedField : Bool
  deriving Repr, DecidableEq

namespace SpeedController

def cgbSpeedSwitchEnabled (c : SpeedController) : Bool :=
  c.consoleModel.isCgbFamily && c.operatingMode.enablesCgbSpeedSwitch

def currentSpeed (c : SpeedController) : CgbSpeedMode :=
  if c.cgbSpeedSwitchEnabled then c.currentSpeedField else .normal

def readKey1 (c : SpeedController) : U8 :=
  if c.cgbSpeedSwitchEnabled then
    0x7E ||| c.currentSpeedField.key1Bit ||| (if c.switchArmedField then 0x01 else 0)
  else 0xFF

def writeKey1 (c : SpeedController) (value : U8) : SpeedController :=
  if c.cgbSpeedSwitchEnabled then { c with switchArmedField := value &&& 0x01 != 0 }
  else c

end SpeedController

end GbCycle
