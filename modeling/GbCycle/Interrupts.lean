import GbCycle.Word
import GbCycle.Model

/-!
# Interrupt sources and the interrupt controller

Five sources share the registers IF (`interruptFlags`) and IE (`interruptEnable`).  A
source is pending when its bit is set in both, and the CPU serves the pending source with
the lowest bit first.
-/

namespace GbCycle

inductive InterruptSource where
  | vBlank
  | lcdStat
  | timer
  | serial
  | joypad
  deriving Repr, DecidableEq

namespace InterruptSource

def mask : InterruptSource → U8
  | .vBlank => 0x01
  | .lcdStat => 0x02
  | .timer => 0x04
  | .serial => 0x08
  | .joypad => 0x10

def vector : InterruptSource → U16
  | .vBlank => 0x0040
  | .lcdStat => 0x0048
  | .timer => 0x0050
  | .serial => 0x0058
  | .joypad => 0x0060

def highestPriorityFromMask (m : U8) : Option InterruptSource :=
  if m &&& vBlank.mask ≠ 0 then some .vBlank
  else if m &&& lcdStat.mask ≠ 0 then some .lcdStat
  else if m &&& timer.mask ≠ 0 then some .timer
  else if m &&& serial.mask ≠ 0 then some .serial
  else if m &&& joypad.mask ≠ 0 then some .joypad
  else none

theorem mask_ne_zero (s : InterruptSource) : s.mask ≠ 0 := by
  cases s <;> decide

/-- The source that wins the arbitration is one of the sources in the mask. -/
theorem mask_of_highestPriorityFromMask {m : U8} {s : InterruptSource}
    (h : highestPriorityFromMask m = some s) : m &&& s.mask ≠ 0 := by
  simp only [highestPriorityFromMask] at h
  split at h
  · cases h; assumption
  split at h
  · cases h; assumption
  split at h
  · cases h; assumption
  split at h
  · cases h; assumption
  split at h
  · cases h; assumption
  · cases h

end InterruptSource

/-! ## The controller -/

structure InterruptController where
  consoleModel : ConsoleModel
  interruptFlags : U8
  interruptEnable : U8
  deriving Repr, DecidableEq

namespace InterruptController

def requestMask : U8 := 0x1F
def flagForcedHighBits : U8 := 0xE0

def readIf (c : InterruptController) : U8 := flagForcedHighBits ||| c.interruptFlags

def readIfWithPendingRequests (c : InterruptController) (pendingMask : U8) : U8 :=
  flagForcedHighBits ||| (c.interruptFlags ||| (pendingMask &&& requestMask))

def writeIf (c : InterruptController) (value : U8) : InterruptController :=
  { c with interruptFlags := value &&& requestMask }

def readIe (c : InterruptController) : U8 := c.interruptEnable

def writeIe (c : InterruptController) (value : U8) : InterruptController :=
  { c with interruptEnable := value }

def request (c : InterruptController) (s : InterruptSource) : InterruptController :=
  { c with interruptFlags := c.interruptFlags ||| s.mask }

def clear (c : InterruptController) (s : InterruptSource) : InterruptController :=
  { c with interruptFlags := c.interruptFlags &&& ~~~ s.mask }

def pendingMask (c : InterruptController) : U8 := c.interruptEnable &&& c.interruptFlags

def highestPending (c : InterruptController) : Option InterruptSource :=
  InterruptSource.highestPriorityFromMask c.pendingMask

end InterruptController

end GbCycle
