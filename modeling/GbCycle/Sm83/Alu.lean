import GbCycle.Sm83.State

/-!
# SM83: arithmetic

The operations of the processor on numbers rather than on bits: sums and differences are
taken in `Nat` and `Int`, a carry is a sum that does not fit, and a half carry is the same
for the low nibbles.
-/

namespace GbCycle.Sm83

inductive AluOp where
  | add | adc | sub | sbc | and | xor | or | cp
  deriving Repr, DecidableEq

inductive RotOp where
  | rlc | rrc | rl | rr | sla | sra | swap | srl
  deriving Repr, DecidableEq

/-! ## Eight bits -/

def add8 (a b : U8) (carry : Bool) : U8 × Flags :=
  let sum := a.toNat + b.toNat + carry.toNat
  (BitVec.ofNat 8 sum,
    { z := sum % 256 == 0, n := false,
      h := 16 ≤ a.toNat % 16 + b.toNat % 16 + carry.toNat, c := 256 ≤ sum })

def sub8 (a b : U8) (carry : Bool) : U8 × Flags :=
  let difference : Int := a.toNat - b.toNat - carry.toNat
  (BitVec.ofInt 8 difference,
    { z := difference % 256 == 0, n := true,
      h := a.toNat % 16 < b.toNat % 16 + carry.toNat, c := difference < 0 })

/-- The accumulator and the flags after an operation of the accumulator with `v`. -/
def alu (op : AluOp) (a v : U8) (f : Flags) : U8 × Flags :=
  match op with
  | .add => add8 a v false
  | .adc => add8 a v f.c
  | .sub => sub8 a v false
  | .sbc => sub8 a v f.c
  | .and => (a &&& v, ⟨a &&& v == 0, false, true, false⟩)
  | .xor => (a ^^^ v, ⟨a ^^^ v == 0, false, false, false⟩)
  | .or => (a ||| v, ⟨a ||| v == 0, false, false, false⟩)
  | .cp => (a, (sub8 a v false).2)

/-- INC and DEC leave the carry alone. -/
def inc8 (v : U8) (f : Flags) : U8 × Flags :=
  let (r, g) := add8 v 1 false
  (r, { g with c := f.c })

def dec8 (v : U8) (f : Flags) : U8 × Flags :=
  let (r, g) := sub8 v 1 false
  (r, { g with c := f.c })

/-- Decimal adjustment: six is added to (after a subtraction, taken from) every nibble
that overflowed or, after an addition, is no decimal digit. -/
def daa (a : U8) (f : Flags) : U8 × Flags :=
  let lowOff := f.h || (!f.n && 9 < a.toNat % 16)
  let highOff := f.c || (!f.n && 0x99 < a.toNat)
  let adjust : Nat := (if lowOff then 0x06 else 0) + (if highOff then 0x60 else 0)
  let r : U8 := if f.n then BitVec.ofInt 8 (a.toNat - adjust)
    else BitVec.ofNat 8 (a.toNat + adjust)
  (r, { z := r == 0, n := f.n, h := false, c := highOff })

/-! ## Rotates, shifts and bits -/

/-- The rotated or shifted byte and the bit that fell out. -/
def rot (op : RotOp) (v : U8) (carry : Bool) : U8 × Bool :=
  let n := v.toNat
  match op with
  | .rlc => (BitVec.ofNat 8 (2 * n + n / 128), 128 ≤ n)
  | .rrc => (BitVec.ofNat 8 (n / 2 + 128 * (n % 2)), n % 2 == 1)
  | .rl => (BitVec.ofNat 8 (2 * n + carry.toNat), 128 ≤ n)
  | .rr => (BitVec.ofNat 8 (n / 2 + 128 * carry.toNat), n % 2 == 1)
  | .sla => (BitVec.ofNat 8 (2 * n), 128 ≤ n)
  | .sra => (BitVec.ofNat 8 (n / 2 + 128 * (n / 128)), n % 2 == 1)
  | .swap => (BitVec.ofNat 8 (16 * (n % 16) + n / 16), false)
  | .srl => (BitVec.ofNat 8 (n / 2), n % 2 == 1)

def rotFlags (r : U8) (carry : Bool) : Flags := ⟨r == 0, false, false, carry⟩

/-- `v` with bit `n` set to `x`. -/
def putBit (v : U8) (n : Fin 8) (x : Bool) : U8 :=
  if x = v.getLsbD n then v else v ^^^ BitVec.ofNat 8 (2 ^ n.val)

/-! ## Sixteen bits -/

def addHl (hl v : U16) (f : Flags) : U16 × Flags :=
  let sum := hl.toNat + v.toNat
  (BitVec.ofNat 16 sum,
    { z := f.z, n := false, h := 4096 ≤ hl.toNat % 4096 + v.toNat % 4096,
      c := 65536 ≤ sum })

/-- `SP` plus a signed byte; the carries are those of the unsigned low bytes. -/
def addSp (sp : U16) (v : U8) : U16 × Flags :=
  (BitVec.ofInt 16 (sp.toNat + v.toInt),
    { z := false, n := false, h := 16 ≤ sp.toNat % 16 + v.toNat % 16,
      c := 256 ≤ sp.toNat % 256 + v.toNat })

/-- `PC` plus a signed byte. -/
def jumpOffset (pc : U16) (v : U8) : U16 := BitVec.ofInt 16 (pc.toNat + v.toInt)

end GbCycle.Sm83
