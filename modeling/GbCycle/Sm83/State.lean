import GbCycle.Word

/-!
# SM83: registers, flags and memory

The programmer's view of the SM83 processor.  The flags are four truth values, the
register file has no scratch registers, and time is counted in machine cycles: every
machine cycle either makes one access to memory or none, and an instruction is the list of
its machine cycles together with the registers it leaves.

Memory is any state with a read and a write; a read may change the state, as reads of
memory-mapped devices do.
-/

namespace GbCycle.Sm83

/-! ## Flags and registers -/

structure Flags where
  z : Bool
  n : Bool
  h : Bool
  c : Bool
  deriving Repr, DecidableEq

/-- The flag register: four flags in the high nibble, nothing in the low one. -/
def Flags.toByte (f : Flags) : U8 :=
  (if f.z then 0x80 else 0) ||| (if f.n then 0x40 else 0) ||| (if f.h then 0x20 else 0)
    ||| (if f.c then 0x10 else 0)

def Flags.ofByte (b : U8) : Flags :=
  { z := b.getLsbD 7, n := b.getLsbD 6, h := b.getLsbD 5, c := b.getLsbD 4 }

theorem Flags.toByte_low_nibble (f : Flags) : f.toByte &&& 0x0F = 0 := by
  rcases f with ⟨z, n, h, c⟩
  cases z <;> cases n <;> cases h <;> cases c <;> rfl

/-- Reading the four flags of a byte drops its low nibble. -/
theorem Flags.toByte_ofByte_high (b : U8) : (Flags.ofByte b).toByte = b &&& 0xF0 := by
  have hbit (n : Nat) : (if b.getLsbD n then BitVec.twoPow 8 n else 0) = b &&& BitVec.twoPow 8 n :=
    (BitVec.and_twoPow b n).symm
  show (if b.getLsbD 7 then BitVec.twoPow 8 7 else 0) |||
      (if b.getLsbD 6 then BitVec.twoPow 8 6 else 0) |||
      (if b.getLsbD 5 then BitVec.twoPow 8 5 else 0) |||
      (if b.getLsbD 4 then BitVec.twoPow 8 4 else 0) = _
  rw [hbit, hbit, hbit, hbit, ← BitVec.and_or_distrib_left, ← BitVec.and_or_distrib_left,
    ← BitVec.and_or_distrib_left]
  rfl

/-- A flag register with an empty low nibble is determined by its four flags. -/
theorem Flags.toByte_ofByte (b : U8) (h : b &&& 0x0F = 0) : (Flags.ofByte b).toByte = b := by
  rw [toByte_ofByte_high]
  exact U8.and_of_and_eq_zero h rfl

inductive Reg8 where
  | a | b | c | d | e | h | l
  deriving Repr, DecidableEq

/-- An eight-bit operand: a register or the byte `HL` points to. -/
inductive Operand8 where
  | reg (r : Reg8)
  | atHl
  deriving Repr, DecidableEq

inductive Reg16 where
  | bc | de | hl | sp
  deriving Repr, DecidableEq

inductive StackReg where
  | bc | de | hl | af
  deriving Repr, DecidableEq

inductive Cond where
  | nz | z | nc | c
  deriving Repr, DecidableEq

def Flags.test (f : Flags) : Cond → Bool
  | .nz => !f.z
  | .z => f.z
  | .nc => !f.c
  | .c => f.c

structure Regs where
  a : U8
  flags : Flags
  b : U8
  c : U8
  d : U8
  e : U8
  h : U8
  l : U8
  sp : U16
  pc : U16
  deriving Repr, DecidableEq

namespace Regs

def bc (r : Regs) : U16 := U16.ofBytes r.b r.c
def de (r : Regs) : U16 := U16.ofBytes r.d r.e
def hl (r : Regs) : U16 := U16.ofBytes r.h r.l

def get8 (r : Regs) : Reg8 → U8
  | .a => r.a
  | .b => r.b
  | .c => r.c
  | .d => r.d
  | .e => r.e
  | .h => r.h
  | .l => r.l

def set8 (r : Regs) (x : Reg8) (v : U8) : Regs :=
  match x with
  | .a => { r with a := v }
  | .b => { r with b := v }
  | .c => { r with c := v }
  | .d => { r with d := v }
  | .e => { r with e := v }
  | .h => { r with h := v }
  | .l => { r with l := v }

@[simp] theorem set8_flags (r : Regs) (x : Reg8) (v : U8) : (r.set8 x v).flags = r.flags := by
  cases x <;> rfl

def get16 (r : Regs) : Reg16 → U16
  | .bc => r.bc
  | .de => r.de
  | .hl => r.hl
  | .sp => r.sp

def set16 (r : Regs) (x : Reg16) (v : U16) : Regs :=
  match x with
  | .bc => { r with b := v.high, c := v.low }
  | .de => { r with d := v.high, e := v.low }
  | .hl => { r with h := v.high, l := v.low }
  | .sp => { r with sp := v }

/-- The two bytes PUSH stores, high byte first. -/
def getStack (r : Regs) : StackReg → U8 × U8
  | .bc => (r.b, r.c)
  | .de => (r.d, r.e)
  | .hl => (r.h, r.l)
  | .af => (r.a, r.flags.toByte)

def setStack (r : Regs) (x : StackReg) (high low : U8) : Regs :=
  match x with
  | .bc => { r with b := high, c := low }
  | .de => { r with d := high, e := low }
  | .hl => { r with h := high, l := low }
  | .af => { r with a := high, flags := .ofByte low }

@[simp] def test (r : Regs) (condition : Cond) : Bool := r.flags.test condition

end Regs

/-! ## Memory and machine cycles -/

structure Memory (σ : Type) where
  read : U16 → σ → U8 × σ
  write : U16 → U8 → σ → σ

inductive AccessKind where
  | fetch | operand | read | write
  deriving Repr, DecidableEq

structure Access where
  kind : AccessKind
  address : U16
  value : U8
  deriving Repr, DecidableEq

/-- The state an instruction works on.  `cycles` is what it has done so far, one entry for
each machine cycle. -/
structure Exec (σ : Type) where
  regs : Regs
  mem : σ
  cycles : List (Option Access)

abbrev ExecM (σ : Type) := StateM (Exec σ)

variable {σ : Type}

def getRegs : ExecM σ Regs := fun x => (x.regs, x)
def setRegs (r : Regs) : ExecM σ Unit := fun x => ((), { x with regs := r })
def modifyRegs (f : Regs → Regs) : ExecM σ Unit := fun x => ((), { x with regs := f x.regs })

/-- A machine cycle without an access. -/
def internal : ExecM σ Unit := fun x => ((), { x with cycles := x.cycles ++ [none] })

def readAs (m : Memory σ) (kind : AccessKind) (address : U16) : ExecM σ U8 := fun x =>
  let (v, mem) := m.read address x.mem
  (v, { x with mem := mem, cycles := x.cycles ++ [some ⟨kind, address, v⟩] })

def read (m : Memory σ) (address : U16) : ExecM σ U8 := readAs m .read address

def write (m : Memory σ) (address : U16) (v : U8) : ExecM σ Unit := fun x =>
  ((), { x with mem := m.write address v x.mem,
                cycles := x.cycles ++ [some ⟨.write, address, v⟩] })

/-- The byte at `PC`, which moves on. -/
def readAtPc (m : Memory σ) (kind : AccessKind) : ExecM σ U8 := do
  let r ← getRegs
  let v ← readAs m kind r.pc
  modifyRegs fun r => { r with pc := r.pc + 1 }
  return v

def imm8 (m : Memory σ) : ExecM σ U8 := readAtPc m .operand

def imm16 (m : Memory σ) : ExecM σ U16 := do
  let low ← imm8 m
  let high ← imm8 m
  return U16.ofBytes high low

def pushByte (m : Memory σ) (v : U8) : ExecM σ Unit := do
  modifyRegs fun r => { r with sp := r.sp - 1 }
  let r ← getRegs
  write m r.sp v

def popByte (m : Memory σ) : ExecM σ U8 := do
  let r ← getRegs
  let v ← read m r.sp
  modifyRegs fun r => { r with sp := r.sp + 1 }
  return v

/-! ## Running the primitives

`ExecM` computations are functions on `Exec`; these equations evaluate them. -/

section Equations

variable {α β : Type} (m : Memory σ) (x : Exec σ) (r : Regs) (s : σ)
  (cs : List (Option Access))

@[simp] theorem bind_apply (f : ExecM σ α) (g : α → ExecM σ β) :
    (f >>= g) x = g (f x).1 (f x).2 := rfl

@[simp] theorem pure_apply (a : α) : (pure a : ExecM σ α) x = (a, x) := rfl

@[simp] theorem map_apply (f : α → β) (g : ExecM σ α) : (f <$> g) x = (f (g x).1, (g x).2) :=
  rfl

@[simp] theorem getRegs_apply : (getRegs : ExecM σ Regs) x = (x.regs, x) := rfl

@[simp] theorem setRegs_apply :
    (setRegs r : ExecM σ Unit) x = ((), { x with regs := r }) := rfl

@[simp] theorem modifyRegs_apply (f : Regs → Regs) :
    (modifyRegs f : ExecM σ Unit) x = ((), { x with regs := f x.regs }) := rfl

@[simp] theorem internal_apply :
    (internal : ExecM σ Unit) ⟨r, s, cs⟩ = ((), ⟨r, s, cs ++ [none]⟩) := rfl

@[simp] theorem read_apply (address : U16) :
    read m address ⟨r, s, cs⟩ =
      ((m.read address s).1,
        ⟨r, (m.read address s).2, cs ++ [some ⟨.read, address, (m.read address s).1⟩]⟩) := rfl

@[simp] theorem write_apply (address : U16) (v : U8) :
    write m address v ⟨r, s, cs⟩ =
      ((), ⟨r, m.write address v s, cs ++ [some ⟨.write, address, v⟩]⟩) := rfl

@[simp] theorem readAtPc_apply (kind : AccessKind) :
    readAtPc m kind ⟨r, s, cs⟩ =
      ((m.read r.pc s).1,
        ⟨{ r with pc := r.pc + 1 }, (m.read r.pc s).2,
          cs ++ [some ⟨kind, r.pc, (m.read r.pc s).1⟩]⟩) := rfl

@[simp] theorem imm8_apply :
    imm8 m ⟨r, s, cs⟩ =
      ((m.read r.pc s).1,
        ⟨{ r with pc := r.pc + 1 }, (m.read r.pc s).2,
          cs ++ [some ⟨.operand, r.pc, (m.read r.pc s).1⟩]⟩) := rfl

@[simp] theorem imm16_apply :
    imm16 m ⟨r, s, cs⟩ =
      let low := m.read r.pc s
      let high := m.read (r.pc + 1) low.2
      (U16.ofBytes high.1 low.1,
        ⟨{ r with pc := r.pc + 1 + 1 }, high.2,
          cs ++ [some ⟨.operand, r.pc, low.1⟩] ++ [some ⟨.operand, r.pc + 1, high.1⟩]⟩) := rfl

@[simp] theorem pushByte_apply (v : U8) :
    pushByte m v ⟨r, s, cs⟩ =
      ((), ⟨{ r with sp := r.sp - 1 }, m.write (r.sp - 1) v s,
        cs ++ [some ⟨.write, r.sp - 1, v⟩]⟩) := rfl

@[simp] theorem popByte_apply :
    popByte m ⟨r, s, cs⟩ =
      ((m.read r.sp s).1,
        ⟨{ r with sp := r.sp + 1 }, (m.read r.sp s).2,
          cs ++ [some ⟨.read, r.sp, (m.read r.sp s).1⟩]⟩) := rfl

end Equations

end GbCycle.Sm83
