import GbCycle.Cpu.Core

/-!
# The decoder

`decodeFetchedOpcode` first looks up the group of an opcode and then asks that group's
decoder; an opcode without a group goes through all four.  The tables select operands
from two or three bits of the opcode.  A selector outside its range cannot be reached (the
source marks it `unreachable!`), so each table's last row also stands for it.
-/

namespace GbCycle

/-! ## Operand tables -/

def decodeRegister16 (bits : U8) : Register16 :=
  match bits.toNat with
  | 0 => .bc
  | 1 => .de
  | 2 => .hl
  | _ => .sp

def decodeRegister8Operand (bits : U8) : Register8Operand :=
  match bits.toNat with
  | 0 => .register .b
  | 1 => .register .c
  | 2 => .register .d
  | 3 => .register .e
  | 4 => .register .h
  | 5 => .register .l
  | 6 => .indirectHl
  | _ => .register .a

def decodeStackRegister16 (bits : U8) : StackRegister16 :=
  match bits.toNat with
  | 0 => .bc
  | 1 => .de
  | 2 => .hl
  | _ => .af

def decodeAluOperation (bits : U8) : AluOperation :=
  match bits.toNat with
  | 0 => .add
  | 1 => .adc
  | 2 => .sub
  | 3 => .sbc
  | 4 => .and
  | 5 => .xor
  | 6 => .or
  | _ => .compare

def decodeRelativeJumpCondition (opcode : U8) : Option ConditionCode :=
  match opcode.toNat with
  | 0x18 => none
  | 0x20 => some .nz
  | 0x28 => some .z
  | 0x30 => some .nc
  | _ => some .c

def decodeAbsoluteJumpCondition (opcode : U8) : Option ConditionCode :=
  match opcode.toNat with
  | 0xC3 => none
  | 0xC2 => some .nz
  | 0xCA => some .z
  | 0xD2 => some .nc
  | _ => some .c

def decodeCallCondition (opcode : U8) : Option ConditionCode :=
  match opcode.toNat with
  | 0xCD => none
  | 0xC4 => some .nz
  | 0xCC => some .z
  | 0xD4 => some .nc
  | _ => some .c

def decodeReturnCondition (opcode : U8) : Option ConditionCode :=
  match opcode.toNat with
  | 0xC9 => none
  | 0xC0 => some .nz
  | 0xC8 => some .z
  | 0xD0 => some .nc
  | _ => some .c

def decodeHlUpdateDirection (opcode : U8) : CpuAddressUpdateDirection :=
  match opcode.toNat with
  | 0x22 | 0x2A => .increment
  | _ => .decrement

/-! ## The four group decoders -/

inductive OpcodeDecodeGroup where
  | misc | load | arithmetic | controlFlow
  deriving Repr, DecidableEq

def decodeMiscOpcode (opcode : U8) : Option DecodedOpcode :=
  match opcode.toNat with
  | 0x00 => some (.completeOnFetch .nop)
  | 0x27 => some (.completeOnFetch .decimalAdjustAccumulator)
  | 0x2F => some (.completeOnFetch .complementAccumulator)
  | 0x37 => some (.completeOnFetch .setCarryFlag)
  | 0x3F => some (.completeOnFetch .complementCarryFlag)
  | 0x07 => some (.completeOnFetch .rotateLeftAccumulatorCarry)
  | 0x17 => some (.completeOnFetch .rotateLeftAccumulatorThroughCarry)
  | 0x0F => some (.completeOnFetch .rotateRightAccumulatorCarry)
  | 0x1F => some (.completeOnFetch .rotateRightAccumulatorThroughCarry)
  | 0x76 => some (.completeOnFetch .halt)
  | 0xF3 => some (.completeOnFetch .disableInterrupts)
  | 0xFB => some (.completeOnFetch .enableInterrupts)
  | 0x10 => some (.execute .stop)
  | _ => none

/-- `matches!(opcode, …)`. -/
def opcodeIn (opcode : U8) (opcodes : List U8) : Bool := opcodes.contains opcode

def decodeLoadOpcode (opcode : U8) : Option DecodedOpcode :=
  if opcodeIn opcode [0x01, 0x11, 0x21, 0x31] then
    some (.execute (.loadRegisterPairImmediate (decodeRegister16 ((opcode >>> 4) &&& 0x03))))
  else if opcode &&& 0b11000111 == 0b00000110 then
    match decodeRegister8Operand ((opcode >>> 3) &&& 0x07) with
    | .register target => some (.execute (.loadRegisterImmediate target))
    | .indirectHl => some (.execute .storeImmediateToHl)
  else if 0x40 ≤ opcode ∧ opcode ≤ 0x7F ∧ opcode ≠ 0x76 then
    let destination := decodeRegister8Operand ((opcode >>> 3) &&& 0x07)
    let source := decodeRegister8Operand (opcode &&& 0x07)
    match destination, source with
    | .register destination, .register source =>
        some (.completeOnFetch (.loadRegisterToRegister destination source))
    | .register target, .indirectHl => some (.execute (.loadRegisterFromHl target))
    | .indirectHl, .register source => some (.execute (.storeRegisterToHl source))
    | .indirectHl, .indirectHl => some .unsupported
  else if opcodeIn opcode [0x02, 0x12, 0xEA] then
    match opcode.toNat with
    | 0x02 => some (.execute (.storeAToDirectAddress .bc))
    | 0x12 => some (.execute (.storeAToDirectAddress .de))
    | _ => some (.execute .storeAToImmediate16Address)
  else if opcodeIn opcode [0xE0, 0xE2] then
    match opcode.toNat with
    | 0xE0 => some (.execute .storeAToHighImmediateAddress)
    | _ => some (.execute (.storeAToDirectAddress .highC))
  else if opcodeIn opcode [0x22, 0x32] then
    some (.execute (.storeAToHlWithUpdate (decodeHlUpdateDirection opcode)))
  else if opcodeIn opcode [0x0A, 0x1A, 0xFA] then
    match opcode.toNat with
    | 0x0A => some (.execute (.loadAFromDirectAddress .bc))
    | 0x1A => some (.execute (.loadAFromDirectAddress .de))
    | _ => some (.execute .loadAFromImmediate16Address)
  else if opcodeIn opcode [0xF0, 0xF2] then
    match opcode.toNat with
    | 0xF0 => some (.execute .loadAFromHighImmediateAddress)
    | _ => some (.execute (.loadAFromDirectAddress .highC))
  else if opcode == 0x08 then some (.execute .storeSpToImmediate16)
  else if opcode == 0xF8 then some (.execute .loadHlFromSpPlusImmediate)
  else if opcode == 0xE8 then some (.execute .addSpImmediate)
  else if opcode == 0xF9 then some (.execute .loadSpFromHl)
  else if opcodeIn opcode [0x2A, 0x3A] then
    some (.execute (.loadAFromHlWithUpdate (decodeHlUpdateDirection opcode)))
  else none

def decodeArithmeticOpcode (opcode : U8) : Option DecodedOpcode :=
  if 0x80 ≤ opcode ∧ opcode ≤ 0xBF then
    let operation := decodeAluOperation ((opcode >>> 3) &&& 0x07)
    match decodeRegister8Operand (opcode &&& 0x07) with
    | .register source => some (.completeOnFetch (.aluRegister operation source))
    | .indirectHl => some (.execute (.aluFromHl operation))
  else if opcode &&& 0b11000111 == 0b00000100 then
    match decodeRegister8Operand ((opcode >>> 3) &&& 0x07) with
    | .register target => some (.completeOnFetch (.incrementRegister target))
    | .indirectHl => some (.execute .incrementHlMemory)
  else if opcode &&& 0b11000111 == 0b00000101 then
    match decodeRegister8Operand ((opcode >>> 3) &&& 0x07) with
    | .register target => some (.completeOnFetch (.decrementRegister target))
    | .indirectHl => some (.execute .decrementHlMemory)
  else if opcodeIn opcode [0xC6, 0xCE, 0xD6, 0xDE, 0xE6, 0xEE, 0xF6, 0xFE] then
    some (.execute (.aluImmediate (decodeAluOperation ((opcode >>> 3) &&& 0x07))))
  else if opcode &&& 0xCF == 0x03 then
    some (.execute (.incrementRegisterPair (decodeRegister16 ((opcode >>> 4) &&& 0x03))))
  else if opcode &&& 0xCF == 0x09 then
    some (.execute (.addHl (decodeRegister16 ((opcode >>> 4) &&& 0x03))))
  else if opcode &&& 0xCF == 0x0B then
    some (.execute (.decrementRegisterPair (decodeRegister16 ((opcode >>> 4) &&& 0x03))))
  else none

def decodeControlFlowOpcode (opcode : U8) : Option DecodedOpcode :=
  if opcode == 0xE9 then some (.completeOnFetch .jumpHl)
  else if opcode == 0xCB then some (.execute .cbPrefixed)
  else if opcodeIn opcode [0x18, 0x20, 0x28, 0x30, 0x38] then
    match decodeRelativeJumpCondition opcode with
    | some condition => some (.execute (.conditionalRelativeJump condition))
    | none => some (.execute .relativeJump)
  else if opcodeIn opcode [0xC3, 0xC2, 0xCA, 0xD2, 0xDA] then
    match decodeAbsoluteJumpCondition opcode with
    | some condition => some (.execute (.conditionalAbsoluteJump condition))
    | none => some (.execute .absoluteJump)
  else if opcodeIn opcode [0xCD, 0xC4, 0xCC, 0xD4, 0xDC] then
    match decodeCallCondition opcode with
    | some condition => some (.execute (.conditionalCall condition))
    | none => some (.execute .call)
  else if opcodeIn opcode [0xC9, 0xC0, 0xC8, 0xD0, 0xD8] then
    match decodeReturnCondition opcode with
    | some condition => some (.execute (.conditionalReturn condition))
    | none => some (.execute .ret)
  else if opcode == 0xD9 then some (.execute .returnFromInterrupt)
  else if opcode &&& 0xC7 == 0xC7 then
    some (.execute (.restart (U16.ofByte (opcode &&& 0x38))))
  else if opcode &&& 0xCF == 0xC5 then
    some (.execute (.pushRegisterPair (decodeStackRegister16 ((opcode >>> 4) &&& 0x03))))
  else if opcode &&& 0xCF == 0xC1 then
    some (.execute (.popRegisterPair (decodeStackRegister16 ((opcode >>> 4) &&& 0x03))))
  else none

/-! ## Group dispatch -/

def decodeFastGroup (opcode : U8) : Option OpcodeDecodeGroup :=
  if opcodeIn opcode [0x00, 0x07, 0x0F, 0x10, 0x17, 0x1F, 0x27, 0x2F, 0x37, 0x3F, 0x76,
      0xF3, 0xFB] then some .misc
  else if 0x40 ≤ opcode ∧ opcode ≤ 0x7F then some .load
  else if 0x80 ≤ opcode ∧ opcode ≤ 0xBF then some .arithmetic
  else if opcodeIn opcode [0x18, 0x20, 0x28, 0x30, 0x38, 0xC0, 0xC1, 0xC2, 0xC3, 0xC4,
      0xC5, 0xC7, 0xC8, 0xC9, 0xCA, 0xCB, 0xCC, 0xCD, 0xCF, 0xD0, 0xD1, 0xD2, 0xD4, 0xD5,
      0xD7, 0xD8, 0xD9, 0xDA, 0xDC, 0xDF, 0xE7, 0xEF, 0xF7, 0xFF] then some .controlFlow
  else if opcode &&& 0b11000111 == 0b00000110 then some .load
  else if opcode &&& 0b11000111 == 0b00000100 || opcode &&& 0b11000111 == 0b00000101
      || opcode &&& 0xCF == 0x03 || opcode &&& 0xCF == 0x09 || opcode &&& 0xCF == 0x0B then
    some .arithmetic
  else if opcodeIn opcode [0x01, 0x02, 0x08, 0x0A, 0x11, 0x12, 0x1A, 0x21, 0x22, 0x2A,
      0x31, 0x32, 0x3A, 0xE0, 0xE2, 0xE8, 0xEA, 0xF0, 0xF2, 0xF8, 0xF9, 0xFA] then some .load
  else if opcodeIn opcode [0xC6, 0xCE, 0xD6, 0xDE, 0xE6, 0xEE, 0xF6, 0xFE] then
    some .arithmetic
  else none

def decodeOpcodeInGroup (opcode : U8) : OpcodeDecodeGroup → Option DecodedOpcode
  | .misc => decodeMiscOpcode opcode
  | .load => decodeLoadOpcode opcode
  | .arithmetic => decodeArithmeticOpcode opcode
  | .controlFlow => decodeControlFlowOpcode opcode

def decodeFetchedOpcodeSlowPath (opcode : U8) : DecodedOpcode :=
  (decodeMiscOpcode opcode
    |>.orElse fun _ => decodeLoadOpcode opcode
    |>.orElse fun _ => decodeArithmeticOpcode opcode
    |>.orElse fun _ => decodeControlFlowOpcode opcode).getD .unsupported

def decodeFetchedOpcode (opcode : U8) : DecodedOpcode :=
  match decodeFastGroup opcode with
  | some group => (decodeOpcodeInGroup opcode group).getD .unsupported
  | none => decodeFetchedOpcodeSlowPath opcode

/-! ## The CB page -/

def decodeCbOpcode (opcode : U8) : CbInstructionKind :=
  if opcode &&& 0xF8 == 0x00 then .rotateLeftCarry (decodeRegister8Operand (opcode &&& 0x07))
  else if opcode &&& 0xF8 == 0x08 then
    .rotateRightCarry (decodeRegister8Operand (opcode &&& 0x07))
  else if opcode &&& 0xF8 == 0x10 then
    .rotateLeftThroughCarry (decodeRegister8Operand (opcode &&& 0x07))
  else if opcode &&& 0xF8 == 0x18 then
    .rotateRightThroughCarry (decodeRegister8Operand (opcode &&& 0x07))
  else if opcode &&& 0xF8 == 0x20 then
    .shiftLeftArithmetic (decodeRegister8Operand (opcode &&& 0x07))
  else if opcode &&& 0xF8 == 0x28 then
    .shiftRightArithmetic (decodeRegister8Operand (opcode &&& 0x07))
  else if opcode &&& 0xF8 == 0x30 then .swapNibbles (decodeRegister8Operand (opcode &&& 0x07))
  else if opcode &&& 0xF8 == 0x38 then
    .shiftRightLogical (decodeRegister8Operand (opcode &&& 0x07))
  else if opcode &&& 0xC0 == 0x40 then
    .bitTest ((opcode >>> 3) &&& 0x07) (decodeRegister8Operand (opcode &&& 0x07))
  else if opcode &&& 0xC0 == 0x80 then
    .resetBit ((opcode >>> 3) &&& 0x07) (decodeRegister8Operand (opcode &&& 0x07))
  else .setBit ((opcode >>> 3) &&& 0x07) (decodeRegister8Operand (opcode &&& 0x07))

end GbCycle
