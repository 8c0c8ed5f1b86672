import GbCycle.Sm83.Alu

/-!
# SM83: instructions

The instruction set, its encoding and the meaning of each instruction.  The encoding is
the regular one: the opcode splits into fields `x`, `y` and `z` of two, three and three
bits, and `y` into `p` and `q`.

`exec` is one instruction after its opcode has been fetched.  Its machine cycles appear in
the order in which the `do` blocks make their accesses, with `internal` where the processor
leaves the bus alone.
-/

namespace GbCycle.Sm83

inductive PairAddress where
  | bc | de | hlInc | hlDec
  deriving Repr, DecidableEq

inductive Instr where
  | nop | stop | halt | di | ei
  | daa | cpl | scf | ccf
  | rotA (op : RotOp)
  | ld (dst src : Operand8)
  | ldImm (dst : Operand8)
  | ldPairImm (dst : Reg16)
  | ldAFrom (p : PairAddress)
  | ldATo (p : PairAddress)
  | ldhAFromImm | ldhAToImm | ldhAFromC | ldhAToC
  | ldAFromAbs | ldAToAbs
  | ldAbsSp | ldHlSp | ldSpHl | addSp
  | inc (x : Operand8)
  | dec (x : Operand8)
  | incPair (x : Reg16)
  | decPair (x : Reg16)
  | addHl (x : Reg16)
  | alu (op : AluOp) (x : Operand8)
  | aluImm (op : AluOp)
  | jr (c : Option Cond)
  | jp (c : Option Cond)
  | jpHl
  | call (c : Option Cond)
  | ret (c : Option Cond)
  | reti
  | rst (vector : U16)
  | push (x : StackReg)
  | pop (x : StackReg)
  | cb
  | undefined
  deriving Repr, DecidableEq

inductive CbInstr where
  | rot (op : RotOp) (x : Operand8)
  | bit (n : Fin 8) (x : Operand8)
  | res (n : Fin 8) (x : Operand8)
  | set (n : Fin 8) (x : Operand8)
  deriving Repr, DecidableEq

/-! ## Encoding -/

def operand : Nat → Operand8
  | 0 => .reg .b
  | 1 => .reg .c
  | 2 => .reg .d
  | 3 => .reg .e
  | 4 => .reg .h
  | 5 => .reg .l
  | 6 => .atHl
  | _ => .reg .a

def pair : Nat → Reg16
  | 0 => .bc
  | 1 => .de
  | 2 => .hl
  | _ => .sp

def stackPair : Nat → StackReg
  | 0 => .bc
  | 1 => .de
  | 2 => .hl
  | _ => .af

def pairAddress : Nat → PairAddress
  | 0 => .bc
  | 1 => .de
  | 2 => .hlInc
  | _ => .hlDec

def cond : Nat → Cond
  | 0 => .nz
  | 1 => .z
  | 2 => .nc
  | _ => .c

def aluOp : Nat → AluOp
  | 0 => .add
  | 1 => .adc
  | 2 => .sub
  | 3 => .sbc
  | 4 => .and
  | 5 => .xor
  | 6 => .or
  | _ => .cp

def rotOp : Nat → RotOp
  | 0 => .rlc
  | 1 => .rrc
  | 2 => .rl
  | 3 => .rr
  | 4 => .sla
  | 5 => .sra
  | 6 => .swap
  | _ => .srl

def decode (opcode : U8) : Instr :=
  let x := opcode.toNat / 64
  let y := opcode.toNat / 8 % 8
  let z := opcode.toNat % 8
  let p := y / 2
  let q := y % 2
  match x, z with
  | 0, 0 =>
      match y with
      | 0 => .nop
      | 1 => .ldAbsSp
      | 2 => .stop
      | 3 => .jr none
      | y => .jr (some (cond (y - 4)))
  | 0, 1 => if q = 0 then .ldPairImm (pair p) else .addHl (pair p)
  | 0, 2 => if q = 0 then .ldATo (pairAddress p) else .ldAFrom (pairAddress p)
  | 0, 3 => if q = 0 then .incPair (pair p) else .decPair (pair p)
  | 0, 4 => .inc (operand y)
  | 0, 5 => .dec (operand y)
  | 0, 6 => .ldImm (operand y)
  | 0, _ =>
      match y with
      | 0 => .rotA .rlc
      | 1 => .rotA .rrc
      | 2 => .rotA .rl
      | 3 => .rotA .rr
      | 4 => .daa
      | 5 => .cpl
      | 6 => .scf
      | _ => .ccf
  | 1, z => if y = 6 ∧ z = 6 then .halt else .ld (operand y) (operand z)
  | 2, z => .alu (aluOp y) (operand z)
  | _, 0 =>
      match y with
      | 4 => .ldhAToImm
      | 5 => .addSp
      | 6 => .ldhAFromImm
      | 7 => .ldHlSp
      | y => .ret (some (cond y))
  | _, 1 =>
      if q = 0 then .pop (stackPair p)
      else match p with
        | 0 => .ret none
        | 1 => .reti
        | 2 => .jpHl
        | _ => .ldSpHl
  | _, 2 =>
      match y with
      | 4 => .ldhAToC
      | 5 => .ldAToAbs
      | 6 => .ldhAFromC
      | 7 => .ldAFromAbs
      | y => .jp (some (cond y))
  | _, 3 =>
      match y with
      | 0 => .jp none
      | 1 => .cb
      | 6 => .di
      | 7 => .ei
      | _ => .undefined
  | _, 4 => if y < 4 then .call (some (cond y)) else .undefined
  | _, 5 => if q = 0 then .push (stackPair p) else if p = 0 then .call none else .undefined
  | _, 6 => .aluImm (aluOp y)
  | _, _ => .rst (BitVec.ofNat 16 (8 * y))

def decodeCb (opcode : U8) : CbInstr :=
  let x := opcode.toNat / 64
  let y : Fin 8 := ⟨opcode.toNat / 8 % 8, Nat.mod_lt _ (by decide)⟩
  let operand := operand (opcode.toNat % 8)
  match x with
  | 0 => .rot (rotOp y) operand
  | 1 => .bit y operand
  | 2 => .res y operand
  | _ => .set y operand

/-! ## Meaning -/

section Exec

variable {σ : Type} (m : Memory σ)

def load8 : Operand8 → ExecM σ U8
  | .reg r => do return (← getRegs).get8 r
  | .atHl => do read m (← getRegs).hl

def store8 (v : U8) : Operand8 → ExecM σ Unit
  | .reg r => modifyRegs (·.set8 r v)
  | .atHl => do write m (← getRegs).hl v

/-- The address of the pair, with the update of `HL` that goes with it. -/
@[simp] def pairAddressOf (p : PairAddress) : ExecM σ U16 := do
  let r ← getRegs
  match p with
  | .bc => return r.bc
  | .de => return r.de
  | .hlInc => setRegs (r.set16 .hl (r.hl + 1)); return r.hl
  | .hlDec => setRegs (r.set16 .hl (r.hl - 1)); return r.hl

def taken (condition : Option Cond) : ExecM σ Bool := do
  let r ← getRegs
  return match condition with
    | none => true
    | some x => r.test x

def setA (a : U8) : ExecM σ Unit := modifyRegs fun r => { r with a := a }
def setFlags (f : Flags) : ExecM σ Unit := modifyRegs fun r => { r with flags := f }
def setPc (pc : U16) : ExecM σ Unit := modifyRegs fun r => { r with pc := pc }

@[simp] theorem setA_apply (a : U8) (x : Exec σ) :
    setA a x = ((), { x with regs := { x.regs with a := a } }) := rfl

@[simp] theorem setFlags_apply (f : Flags) (x : Exec σ) :
    setFlags f x = ((), { x with regs := { x.regs with flags := f } }) := rfl

@[simp] theorem setPc_apply (pc : U16) (x : Exec σ) :
    setPc pc x = ((), { x with regs := { x.regs with pc := pc } }) := rfl

@[simp] theorem taken_none (x : Exec σ) : taken none x = (true, x) := rfl

@[simp] theorem taken_some (condition : Cond) (x : Exec σ) :
    taken (some condition) x = (x.regs.test condition, x) := rfl

@[simp] theorem load8_reg (reg : Reg8) (x : Exec σ) :
    load8 m (.reg reg) x = (x.regs.get8 reg, x) := rfl

@[simp] theorem load8_atHl (x : Exec σ) : load8 m .atHl x = read m x.regs.hl x := rfl

@[simp] theorem store8_reg (v : U8) (reg : Reg8) (x : Exec σ) :
    store8 m v (.reg reg) x = ((), { x with regs := x.regs.set8 reg v }) := rfl

@[simp] theorem store8_atHl (v : U8) (x : Exec σ) :
    store8 m v .atHl x = write m x.regs.hl v x := rfl

def highPage (v : U8) : U16 := BitVec.ofNat 16 (0xFF00 + v.toNat)

def execAlu (op : AluOp) (v : U8) : ExecM σ Unit := do
  let r ← getRegs
  let (a, f) := Sm83.alu op r.a v r.flags
  setRegs { r with a := a, flags := f }

def pushPc : ExecM σ Unit := do
  internal
  let r ← getRegs
  pushByte m r.pc.high
  pushByte m r.pc.low

def popPc : ExecM σ Unit := do
  let low ← popByte m
  let high ← popByte m
  internal
  setPc (U16.ofBytes high low)

@[simp] theorem execAlu_apply (op : AluOp) (v : U8) (x : Exec σ) :
    execAlu op v x = ((), { x with regs := { x.regs with
      a := (Sm83.alu op x.regs.a v x.regs.flags).1,
      flags := (Sm83.alu op x.regs.a v x.regs.flags).2 } }) := rfl

@[simp] theorem pushPc_apply (r : Regs) (s : σ) (cs : List (Option Access)) :
    pushPc m ⟨r, s, cs⟩ =
      ((), ⟨{ r with sp := r.sp - 1 - 1 },
        m.write (r.sp - 1 - 1) r.pc.low (m.write (r.sp - 1) r.pc.high s),
        cs ++ [none] ++ [some ⟨.write, r.sp - 1, r.pc.high⟩]
          ++ [some ⟨.write, r.sp - 1 - 1, r.pc.low⟩]⟩) := rfl

@[simp] theorem popPc_apply (r : Regs) (s : σ) (cs : List (Option Access)) :
    popPc m ⟨r, s, cs⟩ =
      let low := m.read r.sp s
      let high := m.read (r.sp + 1) low.2
      ((), ⟨{ r with sp := r.sp + 1 + 1, pc := U16.ofBytes high.1 low.1 }, high.2,
        cs ++ [some ⟨.read, r.sp, low.1⟩] ++ [some ⟨.read, r.sp + 1, high.1⟩] ++ [none]⟩) := rfl

def execCb : ExecM σ Unit := do
  let opcode ← imm8 m
  match decodeCb opcode with
  | .rot op x =>
      let v ← load8 m x
      let (v, carry) := Sm83.rot op v (← getRegs).flags.c
      setFlags (rotFlags v carry)
      store8 m v x
  | .bit n x =>
      let v ← load8 m x
      let r ← getRegs
      setFlags { z := !v.getLsbD n, n := false, h := true, c := r.flags.c }
  | .res n x =>
      let v ← load8 m x
      store8 m (putBit v n false) x
  | .set n x =>
      let v ← load8 m x
      store8 m (putBit v n true) x

@[simp] def exec : Instr → ExecM σ Unit
  | .nop | .stop | .halt | .di | .ei | .undefined => pure ()
  | .daa => do
      let r ← getRegs
      let (a, f) := Sm83.daa r.a r.flags
      setRegs { r with a := a, flags := f }
  | .cpl => modifyRegs fun r =>
      { r with a := ~~~ r.a, flags := { r.flags with n := true, h := true } }
  | .scf => modifyRegs fun r =>
      { r with flags := { r.flags with n := false, h := false, c := true } }
  | .ccf => modifyRegs fun r =>
      { r with flags := { r.flags with n := false, h := false, c := !r.flags.c } }
  | .rotA op => modifyRegs fun r =>
      let (a, carry) := Sm83.rot op r.a r.flags.c
      { r with a := a, flags := ⟨false, false, false, carry⟩ }
  | .ld dst src => do store8 m (← load8 m src) dst
  | .ldImm dst => do store8 m (← imm8 m) dst
  | .ldPairImm dst => do
      let v ← imm16 m
      modifyRegs (·.set16 dst v)
  | .ldAFrom p => do setA (← read m (← pairAddressOf p))
  | .ldATo p => do
      let a := (← getRegs).a
      write m (← pairAddressOf p) a
  | .ldhAFromImm => do setA (← read m (highPage (← imm8 m)))
  | .ldhAToImm => do
      let v ← imm8 m
      write m (highPage v) (← getRegs).a
  | .ldhAFromC => do setA (← read m (highPage (← getRegs).c))
  | .ldhAToC => do
      let r ← getRegs
      write m (highPage r.c) r.a
  | .ldAFromAbs => do setA (← read m (← imm16 m))
  | .ldAToAbs => do
      let v ← imm16 m
      write m v (← getRegs).a
  | .ldAbsSp => do
      let v ← imm16 m
      let r ← getRegs
      write m v r.sp.low
      write m (v + 1) r.sp.high
  | .ldHlSp => do
      let v ← imm8 m
      internal
      let r ← getRegs
      let (hl, f) := Sm83.addSp r.sp v
      setRegs { r.set16 .hl hl with flags := f }
  | .ldSpHl => do
      internal
      modifyRegs fun r => { r with sp := r.hl }
  | .addSp => do
      let v ← imm8 m
      internal
      internal
      let r ← getRegs
      let (sp, f) := Sm83.addSp r.sp v
      setRegs { r with sp := sp, flags := f }
  | .inc x => do
      let v ← load8 m x
      let (v, f) := inc8 v (← getRegs).flags
      store8 m v x
      setFlags f
  | .dec x => do
      let v ← load8 m x
      let (v, f) := dec8 v (← getRegs).flags
      store8 m v x
      setFlags f
  | .incPair x => do
      internal
      modifyRegs fun r => r.set16 x (r.get16 x + 1)
  | .decPair x => do
      internal
      modifyRegs fun r => r.set16 x (r.get16 x - 1)
  | .addHl x => do
      internal
      let r ← getRegs
      let (hl, f) := Sm83.addHl r.hl (r.get16 x) r.flags
      setRegs { r.set16 .hl hl with flags := f }
  | .alu op x => do execAlu op (← load8 m x)
  | .aluImm op => do execAlu op (← imm8 m)
  | .jr c => do
      let v ← imm8 m
      if ← taken c then
        internal
        setPc (jumpOffset (← getRegs).pc v)
  | .jp c => do
      let v ← imm16 m
      if ← taken c then
        internal
        setPc v
  | .jpHl => modifyRegs fun r => { r with pc := r.hl }
  | .call c => do
      let v ← imm16 m
      if ← taken c then
        pushPc m
        setPc v
  | .ret none => popPc m
  | .ret (some condition) => do
      internal
      if ← taken (some condition) then popPc m
  | .reti => popPc m
  | .rst vector => do
      pushPc m
      setPc vector
  | .push x => do
      internal
      let (high, low) := (← getRegs).getStack x
      pushByte m high
      pushByte m low
  | .pop x => do
      let low ← popByte m
      let high ← popByte m
      modifyRegs (·.setStack x high low)
  | .cb => execCb m

/-- One instruction, with the opcode fetch as its first machine cycle. -/
def step (r : Regs) (s : σ) : Exec σ :=
  let (opcode, x) := readAtPc m .fetch ⟨r, s, []⟩
  (exec m (decode opcode) x).2

end Exec

/-! ## Timing -/

/-- The memory accesses that reading or writing an operand takes. -/
def Operand8.accesses : Operand8 → Nat
  | .reg _ => 0
  | .atHl => 1

/-- The machine cycles of a CB instruction, both opcode bytes included. -/
def CbInstr.machineCycles : CbInstr → Nat
  | .bit _ x => 2 + x.accesses
  | .rot _ x => 2 + 2 * x.accesses
  | .res _ x => 2 + 2 * x.accesses
  | .set _ x => 2 + 2 * x.accesses

/-- The machine cycles of an instruction, its opcode fetch included, when its condition
(if it has one) is met or not. -/
def Instr.machineCycles (taken : Bool) (cbOpcode : U8) : Instr → Nat
  | .nop | .stop | .halt | .di | .ei | .daa | .cpl | .scf | .ccf | .rotA _ | .jpHl => 1
  | .undefined => 1
  | .ld dst x => 1 + x.accesses + dst.accesses
  | .ldImm dst => 2 + dst.accesses
  | .alu _ x => 1 + x.accesses
  | .inc x | .dec x => 1 + 2 * x.accesses
  | .aluImm _ | .ldAFrom _ | .ldATo _ | .ldhAFromC | .ldhAToC | .ldSpHl => 2
  | .incPair _ | .decPair _ | .addHl _ => 2
  | .ldPairImm _ | .ldhAFromImm | .ldhAToImm | .ldHlSp | .pop _ => 3
  | .ldAFromAbs | .ldAToAbs | .addSp | .reti | .rst _ | .push _ => 4
  | .ldAbsSp => 5
  | .jr _ => if taken then 3 else 2
  | .jp _ => if taken then 4 else 3
  | .call _ => if taken then 6 else 3
  | .ret condition => if condition.isNone then 4 else if taken then 5 else 2
  | .cb => (decodeCb cbOpcode).machineCycles

/-- Whether the instruction's condition holds; an instruction without one is taken. -/
def Instr.isTaken (r : Regs) : Instr → Bool
  | .jr condition | .jp condition | .call condition | .ret condition =>
      condition.all r.test
  | _ => true

section Timing

variable {σ : Type} (m : Memory σ)

theorem execCb_cycles_length (r : Regs) (s : σ) (cs : List (Option Access)) :
    (execCb m ⟨r, s, cs⟩).2.cycles.length + 1 =
      cs.length + (decodeCb (m.read r.pc s).1).machineCycles := by
  cases h : decodeCb (m.read r.pc s).1 with
  | rot op x => cases x <;> simp [execCb, h, CbInstr.machineCycles, Operand8.accesses]
  | bit n x => cases x <;> simp [execCb, h, CbInstr.machineCycles, Operand8.accesses]
  | res n x => cases x <;> simp [execCb, h, CbInstr.machineCycles, Operand8.accesses]
  | set n x => cases x <;> simp [execCb, h, CbInstr.machineCycles, Operand8.accesses]

theorem exec_cycles_length (i : Instr) (r : Regs) (s : σ) (cs : List (Option Access)) :
    (exec m i ⟨r, s, cs⟩).2.cycles.length + 1 =
      cs.length + i.machineCycles (i.isTaken r) (m.read r.pc s).1 := by
  cases i with
  | cb => exact execCb_cycles_length m r s cs
  | ld dst x => cases dst <;> cases x <;> simp [Instr.machineCycles, Operand8.accesses]
  | ldImm x => cases x <;> simp [Instr.machineCycles, Operand8.accesses]
  | inc x => cases x <;> simp [Instr.machineCycles, Operand8.accesses]
  | dec x => cases x <;> simp [Instr.machineCycles, Operand8.accesses]
  | alu op x => cases x <;> simp [Instr.machineCycles, Operand8.accesses]
  | ldAFrom p => cases p <;> simp [Instr.machineCycles]
  | ldATo p => cases p <;> simp [Instr.machineCycles]
  | jr condition =>
      cases condition with
      | none => simp [Instr.machineCycles, Instr.isTaken]
      | some x => cases h : r.flags.test x <;> simp [Instr.machineCycles, Instr.isTaken, h]
  | jp condition =>
      cases condition with
      | none => simp [Instr.machineCycles, Instr.isTaken]
      | some x => cases h : r.flags.test x <;> simp [Instr.machineCycles, Instr.isTaken, h]
  | call condition =>
      cases condition with
      | none => simp [Instr.machineCycles, Instr.isTaken]
      | some x => cases h : r.flags.test x <;> simp [Instr.machineCycles, Instr.isTaken, h]
  | ret condition =>
      cases condition with
      | none => simp [Instr.machineCycles]
      | some x => cases h : r.flags.test x <;> simp [Instr.machineCycles, Instr.isTaken, h]
  | _ => simp [Instr.machineCycles]

/-- The reference spends exactly the machine cycles of the timing table. -/
theorem step_cycles_length (r : Regs) (s : σ) :
    (step m r s).cycles.length =
      (decode (m.read r.pc s).1).machineCycles ((decode (m.read r.pc s).1).isTaken r)
        (m.read (r.pc + 1) (m.read r.pc s).2).1 := by
  have h := exec_cycles_length m (decode (m.read r.pc s).1) { r with pc := r.pc + 1 }
    (m.read r.pc s).2 [some ⟨.fetch, r.pc, (m.read r.pc s).1⟩]
  rw [List.length_singleton, Nat.add_comm] at h
  exact Nat.add_left_cancel h

end Timing

end GbCycle.Sm83
