import GbCycle.Cpu.State

/-!
# The arithmetic unit

The eight-bit and sixteen-bit operations of the CPU, as the core computes them: a result
in the accumulator or in `HL`, and the four flags in the high nibble of `F`.
-/

namespace GbCycle

namespace CpuCore

def carryFlag (cpu : CpuCore) : Bool := cpu.registers.f &&& flagC != 0

/-- `u8::from(self.registers.f & FLAG_C != 0)`. -/
def carryIn (cpu : CpuCore) : U8 := if cpu.carryFlag then 1 else 0

def writeFlags (cpu : CpuCore) (zero subtract halfCarry carry : Bool) : CpuCore :=
  let f : U8 := 0
  let f := if zero then f ||| flagZ else f
  let f := if subtract then f ||| flagN else f
  let f := if halfCarry then f ||| flagH else f
  let f := if carry then f ||| flagC else f
  cpu.setF f

def updateIncFlags (cpu : CpuCore) (before result : U8) : CpuCore :=
  let carry := cpu.carryFlag
  let f : U8 := 0
  let f := if result == 0 then f ||| flagZ else f
  let f := if before &&& 0x0F == 0x0F then f ||| flagH else f
  let f := if carry then f ||| flagC else f
  cpu.setF f

def updateDecFlags (cpu : CpuCore) (before result : U8) : CpuCore :=
  let carry := cpu.carryFlag
  let f : U8 := flagN
  let f := if result == 0 then f ||| flagZ else f
  let f := if before &&& 0x0F == 0 then f ||| flagH else f
  let f := if carry then f ||| flagC else f
  cpu.setF f

/-! ## Accumulator arithmetic -/

def addToA (cpu : CpuCore) (value : U8) : CpuCore :=
  let a := cpu.registers.a
  let result := a + value
  let carry := BitVec.uaddOverflow a value
  let halfCarry := (a &&& 0x0F) + (value &&& 0x0F) > 0x0F
  (cpu.setA result).writeFlags (result == 0) false halfCarry carry

def adcToA (cpu : CpuCore) (value : U8) : CpuCore :=
  let a := cpu.registers.a
  let carryIn := cpu.carryIn
  let result16 := U16.ofByte a + U16.ofByte value + U16.ofByte carryIn
  let result := result16.setWidth 8
  let halfCarry := (a &&& 0x0F) + (value &&& 0x0F) + carryIn > 0x0F
  (cpu.setA result).writeFlags (result == 0) false halfCarry (result16 > 0xFF)

def subFromA (cpu : CpuCore) (value : U8) : CpuCore :=
  let a := cpu.registers.a
  let result := a - value
  let halfCarry := (a &&& 0x0F) < (value &&& 0x0F)
  let carry := a < value
  (cpu.setA result).writeFlags (result == 0) true halfCarry carry

def sbcFromA (cpu : CpuCore) (value : U8) : CpuCore :=
  let a := cpu.registers.a
  let carryIn := cpu.carryIn
  let result := a - value - carryIn
  let halfCarry := (a &&& 0x0F) < (value &&& 0x0F) + carryIn
  let carry := U16.ofByte a < U16.ofByte value + U16.ofByte carryIn
  (cpu.setA result).writeFlags (result == 0) true halfCarry carry

def andWithA (cpu : CpuCore) (value : U8) : CpuCore :=
  let a := cpu.registers.a &&& value
  (cpu.setA a).writeFlags (a == 0) false true false

def xorWithA (cpu : CpuCore) (value : U8) : CpuCore :=
  let a := cpu.registers.a ^^^ value
  (cpu.setA a).writeFlags (a == 0) false false false

def orWithA (cpu : CpuCore) (value : U8) : CpuCore :=
  let a := cpu.registers.a ||| value
  (cpu.setA a).writeFlags (a == 0) false false false

def compareA (cpu : CpuCore) (value : U8) : CpuCore :=
  let a := cpu.registers.a
  let result := a - value
  let halfCarry := (a &&& 0x0F) < (value &&& 0x0F)
  let carry := a < value
  cpu.writeFlags (result == 0) true halfCarry carry

def applyAluOperation (cpu : CpuCore) (operation : AluOperation) (value : U8) : CpuCore :=
  match operation with
  | .add => cpu.addToA value
  | .adc => cpu.adcToA value
  | .sub => cpu.subFromA value
  | .sbc => cpu.sbcFromA value
  | .and => cpu.andWithA value
  | .xor => cpu.xorWithA value
  | .or => cpu.orWithA value
  | .compare => cpu.compareA value

/-! ## Sixteen-bit arithmetic -/

def addToHl (cpu : CpuCore) (value : U16) : CpuCore :=
  let hl := cpu.hl
  let result := hl + value
  let zero := cpu.registers.f &&& flagZ != 0
  let halfCarry := (hl &&& 0x0FFF) + (value &&& 0x0FFF) > 0x0FFF
  let carry := (hl.setWidth 32 + value.setWidth 32 : BitVec 32) > 0xFFFF
  (cpu.writeRegister16 .hl result).writeFlags zero false halfCarry carry

def spPlusSignedImmediate (cpu : CpuCore) (value : U8) : U16 × CpuCore :=
  let sp := cpu.registers.sp
  let result := sp + value.signExtend 16
  let halfCarry := (sp &&& 0x000F) + U16.ofByte (value &&& 0x0F) > 0x000F
  let carry := (sp &&& 0x00FF) + U16.ofByte value > 0x00FF
  (result, cpu.writeFlags false false halfCarry carry)

/-! ## Accumulator and flag instructions -/

def decimalAdjustA (cpu : CpuCore) : CpuCore :=
  let a := cpu.registers.a
  let subtract := cpu.registers.f &&& flagN != 0
  let halfCarry := cpu.registers.f &&& flagH != 0
  let carry := cpu.registers.f &&& flagC != 0
  if !subtract then
    let lowAdjust : U8 := if halfCarry || (a &&& 0x0F) > 0x09 then 0x06 else 0
    let highAdjust : U8 := if carry || a > 0x99 then 0x60 else 0
    let nextCarry := if carry || a > 0x99 then true else carry
    let a := a + (lowAdjust ||| highAdjust)
    (cpu.setA a).writeFlags (a == 0) subtract false nextCarry
  else
    let lowAdjust : U8 := if halfCarry then 0x06 else 0
    let highAdjust : U8 := if carry then 0x60 else 0
    let a := a - (lowAdjust ||| highAdjust)
    (cpu.setA a).writeFlags (a == 0) subtract false carry

def complementA (cpu : CpuCore) : CpuCore :=
  let cpu := cpu.setA (~~~ cpu.registers.a)
  let zero := cpu.registers.f &&& flagZ != 0
  let carry := cpu.registers.f &&& flagC != 0
  cpu.writeFlags zero true true carry

def setCarryFlag (cpu : CpuCore) : CpuCore :=
  let zero := cpu.registers.f &&& flagZ != 0
  cpu.writeFlags zero false false true

def complementCarryFlag (cpu : CpuCore) : CpuCore :=
  let zero := cpu.registers.f &&& flagZ != 0
  let carry := cpu.registers.f &&& flagC == 0
  cpu.writeFlags zero false false carry

/-! ## Rotates, shifts and bits -/

def rotateLeftCarry (cpu : CpuCore) (value : U8) : U8 × CpuCore :=
  let carry := value &&& 0x80 != 0
  let result := value.rotateLeft 1
  (result, cpu.writeFlags (result == 0) false false carry)

def rotateRightCarry (cpu : CpuCore) (value : U8) : U8 × CpuCore :=
  let carry := value &&& 0x01 != 0
  let result := value.rotateRight 1
  (result, cpu.writeFlags (result == 0) false false carry)

def rotateLeftThroughCarry (cpu : CpuCore) (value : U8) : U8 × CpuCore :=
  let carryIn := cpu.carryIn
  let carryOut := value &&& 0x80 != 0
  let result := (value <<< 1) ||| carryIn
  (result, cpu.writeFlags (result == 0) false false carryOut)

def rotateRightThroughCarry (cpu : CpuCore) (value : U8) : U8 × CpuCore :=
  let carryIn := cpu.carryIn <<< 7
  let carryOut := value &&& 0x01 != 0
  let result := (value >>> 1) ||| carryIn
  (result, cpu.writeFlags (result == 0) false false carryOut)

def shiftLeftArithmetic (cpu : CpuCore) (value : U8) : U8 × CpuCore :=
  let carryOut := value &&& 0x80 != 0
  let result := value <<< 1
  (result, cpu.writeFlags (result == 0) false false carryOut)

def shiftRightArithmetic (cpu : CpuCore) (value : U8) : U8 × CpuCore :=
  let carryOut := value &&& 0x01 != 0
  let result := (value >>> 1) ||| (value &&& 0x80)
  (result, cpu.writeFlags (result == 0) false false carryOut)

def swapNibbles (cpu : CpuCore) (value : U8) : U8 × CpuCore :=
  let result := value.rotateLeft 4
  (result, cpu.writeFlags (result == 0) false false false)

def shiftRightLogical (cpu : CpuCore) (value : U8) : U8 × CpuCore :=
  let carryOut := value &&& 0x01 != 0
  let result := value >>> 1
  (result, cpu.writeFlags (result == 0) false false carryOut)

def bitTest (cpu : CpuCore) (bit value : U8) : CpuCore :=
  let carry := cpu.carryFlag
  let f : U8 := flagH
  let f := if value &&& ((1 : U8) <<< bit.toNat) == 0 then f ||| flagZ else f
  let f := if carry then f ||| flagC else f
  cpu.setF f

def resetBit (value bit : U8) : U8 := value &&& ~~~ ((1 : U8) <<< bit.toNat)
def setBit (value bit : U8) : U8 := value ||| ((1 : U8) <<< bit.toNat)

/-- The result is `none` for the bit tests, which write no operand back. -/
def applyCbOperation (cpu : CpuCore) (kind : CbInstructionKind) (value : U8) :
    Option U8 × CpuCore :=
  match kind with
  | .rotateLeftCarry _ => (cpu.rotateLeftCarry value).map some id
  | .rotateRightCarry _ => (cpu.rotateRightCarry value).map some id
  | .rotateLeftThroughCarry _ => (cpu.rotateLeftThroughCarry value).map some id
  | .rotateRightThroughCarry _ => (cpu.rotateRightThroughCarry value).map some id
  | .shiftLeftArithmetic _ => (cpu.shiftLeftArithmetic value).map some id
  | .shiftRightArithmetic _ => (cpu.shiftRightArithmetic value).map some id
  | .swapNibbles _ => (cpu.swapNibbles value).map some id
  | .shiftRightLogical _ => (cpu.shiftRightLogical value).map some id
  | .bitTest bit _ => (none, cpu.bitTest bit value)
  | .resetBit bit _ => (some (resetBit value bit), cpu)
  | .setBit bit _ => (some (setBit value bit), cpu)

end CpuCore

end GbCycle
