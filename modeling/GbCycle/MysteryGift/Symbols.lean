import GbCycle.MysteryGift.Receivers

/-!
# Light as symbols

Where every mark is short enough, a receiver tells the spaces between them apart by two
thresholds only.  Light is then a row of cells, each a mark and a space, and what a receiver
makes of it is a function of the symbols of the spaces: it passes over the short ones to a long
one, takes a bit from each one after it, and is done with the next mark.
-/

namespace GbCycle

namespace MysteryGift

/-! ## Cells of light -/

/-- The light of some cells, each a mark and the space after it, behind a space. -/
def cellsLight : Nat → List (Nat × Nat) → List Bool
  | dark, [] => List.replicate dark false
  | dark, (mark, space) :: cells =>
      List.replicate dark false ++ List.replicate mark true ++ cellsLight space cells

/-- The mark is one that the receivers take for one, and the space is there. -/
def Readable (cell : Nat × Nat) : Prop := isShortMark cell.1 = true ∧ 0 < cell.2

theorem Readable.mark_pos {cell : Nat × Nat} (h : Readable cell) : 0 < cell.1 := by
  have hshort := h.1
  unfold isShortMark at hshort
  rw [Bool.and_eq_true, decide_eq_true_eq] at hshort
  have hmin : 0 < irMessageBitMarkTCycles / 2 := by decide
  omega

section

variable {ρ : Type} [LightReceiver ρ]

theorem listen_replicate (level : Bool) (n : Nat) (levels : List Bool) (r : ρ) :
    listen level (List.replicate n level ++ levels) r =
      listen level levels (LightReceiver.tickSameLevel^[n] r) := by
  induction n generalizing r with
  | zero => rfl
  | succ n ih =>
      rw [List.replicate_succ, List.cons_append, listen, if_pos rfl, ih,
        Function.iterate_succ_apply]

theorem listen_cellsLight_nil (dark : Nat) (r : ρ) :
    listen false (cellsLight dark []) r = LightReceiver.tickSameLevel^[dark] r := by
  have h := listen_replicate false dark [] r
  rw [List.append_nil] at h
  exact h

theorem cellsLight_succ (dark : Nat) (cells : List (Nat × Nat)) :
    cellsLight (dark + 1) cells = false :: cellsLight dark cells := by
  cases cells <;> rfl

/-- The space before a cell and its mark: two transitions, unless the first one completes. -/
theorem listen_cellsLight_cons {cell : Nat × Nat} (h : Readable cell) (dark : Nat)
    (cells : List (Nat × Nat)) (r : ρ) :
    listen false (cellsLight dark (cell :: cells)) r =
      match LightReceiver.observeTransition false (LightReceiver.tickSameLevel^[dark] r) with
      | (r, true) => r
      | (r, false) =>
          match LightReceiver.observeTransition true
              (LightReceiver.tickSameLevel^[cell.1 - 1] r) with
          | (r, true) => r
          | (r, false) => listen false (cellsLight (cell.2 - 1) cells) r := by
  obtain ⟨mark, space⟩ := cell
  obtain ⟨mark, rfl⟩ : ∃ n, mark = n + 1 := ⟨mark - 1, by have := h.mark_pos; simp only at this; omega⟩
  obtain ⟨space, rfl⟩ : ∃ n, space = n + 1 := ⟨space - 1, by have := h.2; simp only at this; omega⟩
  rw [cellsLight, List.append_assoc, listen_replicate, List.replicate_succ, List.cons_append,
    listen, if_neg (by decide), Nat.add_sub_cancel, Nat.add_sub_cancel, cellsLight_succ]
  generalize LightReceiver.observeTransition false (LightReceiver.tickSameLevel^[dark] r) = first
  obtain ⟨r₁, completed⟩ := first
  cases completed with
  | true => rfl
  | false => exact (listen_replicate true mark _ r₁).trans rfl

end

/-! ## Symbols -/

inductive Symbol where
  | zero
  | one
  | long
  deriving Repr, DecidableEq

def symbolOf (space : Nat) : Symbol :=
  if space < irSpaceZeroOneThresholdTCycles then .zero
  else if space < irMinPreambleSpaceTCycles then .one
  else .long

def Symbol.bit : Symbol → U8
  | .zero => 0
  | .one | .long => 1

/-- The bytes of some bits, the highest first. -/
def packBytes : Nat → List U8 → List U8
  | 0, _ => []
  | n + 1, bits => packByte (bits.take 8) :: packBytes n (bits.drop 8)

/-- The cell whose mark ends a message is passed over. -/
def parseTrailer (bytes : List U8) : List Symbol → Option (List U8 × List Symbol)
  | [] => none
  | _ :: rest => some (bytes, rest)

/-- The bits of a message of some bytes, behind those that were read already. -/
def parseBits (expectedLen : Nat) : List U8 → List Symbol → Option (List U8 × List Symbol)
  | _, [] => none
  | bits, symbol :: rest =>
      let bits := bits ++ [symbol.bit]
      if bits.length = expectedLen * 8 then parseTrailer (packBytes expectedLen bits) rest
      else parseBits expectedLen bits rest

/-- A message of some bytes: everything up to a long space is passed over. -/
def parseMessage (expectedLen : Nat) : List Symbol → Option (List U8 × List Symbol)
  | [] => none
  | .long :: rest => if expectedLen = 0 then parseTrailer [] rest else parseBits expectedLen [] rest
  | _ :: rest => parseMessage expectedLen rest

/-- The payload of a block whose header and checksum are right. -/
def parseBlock (symbols : List Symbol) : Option (List U8) :=
  (parseMessage 2 symbols).bind fun (header, rest) =>
    match header with
    | [headerPrefix, len] =>
        if headerPrefix ≠ messagePrefix ∨ maxReceivedBlockLen < len.toNat then none
        else
          (parseMessage len.toNat rest).bind fun (payload, rest) =>
            (parseMessage 2 rest).bind fun (checksum, _) =>
              match checksum with
              | [lo, hi] =>
                  if U16.ofBytes hi lo = payload.foldl (fun sum byte => sum + U16.ofByte byte)
                      (U16.ofByte messagePrefix + U16.ofByte len) then some payload
                  else none
              | _ => none
    | _ => none

theorem length_packBytes (n : Nat) (bits : List U8) : (packBytes n bits).length = n := by
  induction n generalizing bits with
  | zero => rfl
  | succ n ih => rw [packBytes, List.length_cons, ih]

/-- Bits behind the bytes that are packed make no difference. -/
theorem packBytes_append {n : Nat} {bits : List U8} (h : n * 8 ≤ bits.length) (more : List U8) :
    packBytes n (bits ++ more) = packBytes n bits := by
  induction n generalizing bits with
  | zero => rfl
  | succ n ih =>
      have hle : 8 ≤ bits.length := by omega
      rw [packBytes, packBytes, List.take_append_of_le_length hle,
        List.drop_append_of_le_length hle, ih (by rw [List.length_drop]; omega)]

theorem packBytes_concat {n : Nat} {bits last : List U8} (h : bits.length = n * 8)
    (hlast : last.length = 8) : packBytes (n + 1) (bits ++ last) = packBytes n bits ++ [packByte last] := by
  induction n generalizing bits with
  | zero =>
      have hnil : bits = [] := List.eq_nil_of_length_eq_zero (by omega)
      subst hnil
      show [packByte (last.take 8)] = [packByte last]
      rw [List.take_of_length_le (Nat.le_of_eq hlast)]
  | succ n ih =>
      have hle : 8 ≤ bits.length := by omega
      rw [packBytes, List.take_append_of_le_length hle, List.drop_append_of_le_length hle,
        ih (by rw [List.length_drop]; omega), packBytes, List.cons_append]

/-! ## Messages -/

namespace DataMessageReceiver

/-- The receiver after some T-cycles of one level. -/
def after (r : DataMessageReceiver) (n : Nat) : DataMessageReceiver :=
  { r with previousSegmentTCycles := min (r.previousSegmentTCycles + n) (2 ^ 32 - 1) }

theorem iterate_tickSameLevel {r : DataMessageReceiver}
    (h : r.previousSegmentTCycles ≤ 2 ^ 32 - 1) (n : Nat) : tickSameLevel^[n] r = r.after n := by
  induction n with
  | zero =>
      show r = { r with previousSegmentTCycles := min (r.previousSegmentTCycles + 0) (2 ^ 32 - 1) }
      rw [Nat.add_zero, Nat.min_eq_left h]
  | succ n ih =>
      rw [Function.iterate_succ_apply', ih]
      unfold tickSameLevel after saturatingAdd
      dsimp only
      congr 1
      omega

/-- The symbol of a space that a receiver has counted while nothing else happened. -/
theorem symbolOf_min (space : Nat) : symbolOf (min space (2 ^ 32 - 1)) = symbolOf space := by
  unfold symbolOf irSpaceZeroOneThresholdTCycles irMinPreambleSpaceTCycles fastInterruptTCycles
  refine if_congr (by omega) rfl (if_congr (by omega) rfl rfl)

/-! What a transition does in each of the states of a receiver. -/

variable {r : DataMessageReceiver}

theorem observe_count (level : Bool) (r : DataMessageReceiver) :
    (r.observeTransition level).1.previousSegmentTCycles = 1 := by
  unfold observeTransition finish pushBit
  dsimp only
  split
  · split <;> rfl
  · split <;> rfl
  · split
    · split <;> split <;> rfl
    · rfl
  · split
    · split <;> rfl
    · rfl
  · rfl

theorem observe_preamble_space (h : r.state = .waitingForPreambleMark) :
    r.observeTransition false = ({ r with previousSegmentTCycles := 1 }, false) := by
  unfold observeTransition
  simp only [h, Bool.false_and, Bool.false_eq_true, if_false]
  rfl

theorem observe_preamble_mark (h : r.state = .waitingForPreambleMark)
    (hmark : isShortMark r.previousSegmentTCycles = true) :
    r.observeTransition true =
      ({ r with previousSegmentTCycles := 1, state := .waitingForPreambleSpace }, false) := by
  unfold observeTransition
  simp only [h, hmark, Bool.and_self, if_true]
  rfl

theorem observe_seeking_mark (h : r.state = .waitingForPreambleSpace) :
    r.observeTransition true = ({ r with previousSegmentTCycles := 1 }, false) := by
  unfold observeTransition
  simp only [h, Bool.not_true, Bool.false_and, Bool.false_eq_true, if_false]
  rfl

theorem observe_seeking_short (h : r.state = .waitingForPreambleSpace)
    (hspace : ¬ irMinPreambleSpaceTCycles ≤ r.previousSegmentTCycles) :
    r.observeTransition false = ({ r with previousSegmentTCycles := 1 }, false) := by
  unfold observeTransition
  simp only [h, hspace, decide_false, Bool.and_false, Bool.false_eq_true, if_false]
  rfl

theorem observe_seeking_long (h : r.state = .waitingForPreambleSpace)
    (hspace : irMinPreambleSpaceTCycles ≤ r.previousSegmentTCycles) :
    r.observeTransition false =
      ({ r with
          previousSegmentTCycles := 1
          state := if r.expectedLen = 0 then .waitingForTrailerMark else .receivingBits },
        false) := by
  unfold observeTransition
  simp only [h, hspace, decide_true, Bool.not_false, Bool.and_self, if_true]
  split <;> rfl

theorem observe_receivingBits_mark (h : r.state = .receivingBits) :
    r.observeTransition true = ({ r with previousSegmentTCycles := 1 }, false) := by
  unfold observeTransition
  simp only [h, Bool.not_true, Bool.false_eq_true, if_false]
  rfl

theorem observe_receivingBits_space (h : r.state = .receivingBits) :
    r.observeTransition false =
      ({ r.pushBit (symbolOf r.previousSegmentTCycles).bit with
          previousSegmentTCycles := 1
          state :=
            if r.bits.length + 1 = r.expectedLen * 8 then .waitingForTrailerMark
            else .receivingBits }, false) := by
  have hbit : (symbolOf r.previousSegmentTCycles).bit =
      if r.previousSegmentTCycles < irSpaceZeroOneThresholdTCycles then 0 else 1 := by
    unfold symbolOf
    split
    · rfl
    · split <;> rfl
  unfold observeTransition pushBit
  simp only [h, Bool.not_false, if_true, hbit, List.length_append, List.length_singleton]
  by_cases hlast : r.bits.length + 1 = r.expectedLen * 8
  · rw [if_pos hlast, if_pos hlast]
    rfl
  · rw [if_neg hlast, if_neg hlast]
    simp only
    rfl

theorem observe_waitingForTrailerMark (h : r.state = .waitingForTrailerMark)
    (hmark : isShortMark r.previousSegmentTCycles = true)
    (hbytes : r.bytes.length = r.expectedLen) :
    r.observeTransition true = ({ r with previousSegmentTCycles := 1, state := .done }, true) := by
  unfold observeTransition finish
  simp only [h, hmark, Bool.and_self, if_true, hbytes]
  rfl

/-! ## Messages of symbols -/

/-- The receiver of a message of some bytes, as it is made; it may be in the dark already. -/
structure Fresh (len : Nat) (r : DataMessageReceiver) : Prop where
  expectedLen : r.expectedLen = len
  state : r.state = .waitingForPreambleMark
  count : r.previousSegmentTCycles ≤ 1
  bits : r.bits = []
  bytes : r.bytes = []

/-- It has seen a mark and waits for a long space. -/
structure Seeking (len : Nat) (r : DataMessageReceiver) : Prop where
  expectedLen : r.expectedLen = len
  state : r.state = .waitingForPreambleSpace
  count : r.previousSegmentTCycles = 1
  bits : r.bits = []
  bytes : r.bytes = []

/-- It has some bits, but not yet all. -/
structure Collecting (len : Nat) (bits : List U8) (r : DataMessageReceiver) : Prop where
  expectedLen : r.expectedLen = len
  state : r.state = .receivingBits
  count : r.previousSegmentTCycles = 1
  stored : r.bits = bits
  packed : r.bytes = packBytes (bits.length / 8) bits
  short : bits.length < len * 8

theorem fresh_new (len : Nat) : Fresh len (new len) := ⟨rfl, rfl, Nat.zero_le 1, rfl, rfl⟩

variable {len : Nat} {bits bytes : List U8}

/-- The count of a mark that the receivers take for one. -/
theorem isShortMark_after {cell : Nat × Nat} (hcell : Readable cell)
    (hcount : r.previousSegmentTCycles = 1) :
    isShortMark (r.after (cell.1 - 1)).previousSegmentTCycles = true := by
  have hpos := hcell.mark_pos
  have hshort := hcell.1
  have hsame : (r.after (cell.1 - 1)).previousSegmentTCycles = cell.1 := by
    unfold isShortMark irHelloMarkTCycles fastInterruptTCycles at hshort
    rw [Bool.and_eq_true, decide_eq_true_eq, decide_eq_true_eq] at hshort
    show min (r.previousSegmentTCycles + (cell.1 - 1)) (2 ^ 32 - 1) = cell.1
    rw [hcount]
    omega
  rw [hsame]
  exact hshort

/-- The symbol of a space that has been counted to its end. -/
theorem symbolOf_after (hcount : r.previousSegmentTCycles = 1) (n : Nat) :
    symbolOf (r.after n).previousSegmentTCycles = symbolOf (1 + n) := by
  show symbolOf (min (r.previousSegmentTCycles + n) (2 ^ 32 - 1)) = _
  rw [hcount, symbolOf_min]

/-- What a space, after some more T-cycles of it, and the mark of a cell make of a receiver. -/
def Hears (r : DataMessageReceiver) (n : Nat) (cell : Nat × Nat) (r' : DataMessageReceiver)
    (completed : Bool) : Prop :=
  ∃ r₁ : DataMessageReceiver, (r.after n).observeTransition false = (r₁, false) ∧
    (r₁.after (cell.1 - 1)).observeTransition true = (r', completed)

variable {cell : Nat × Nat} {n : Nat}

theorem Fresh.hears (h : Fresh len r) (hcell : Readable cell) :
    ∃ r', r.Hears n cell r' false ∧ Seeking len r' :=
  ⟨_, ⟨_, observe_preamble_space h.state, observe_preamble_mark h.state
    (isShortMark_after hcell rfl)⟩, h.expectedLen, rfl, rfl, h.bits, h.bytes⟩

theorem long_iff {space : Nat} : symbolOf space = .long ↔ irMinPreambleSpaceTCycles ≤ space := by
  unfold symbolOf irSpaceZeroOneThresholdTCycles irMinPreambleSpaceTCycles fastInterruptTCycles
  split
  · exact ⟨nofun, fun h => by omega⟩
  · split
    · exact ⟨nofun, fun h => by omega⟩
    · exact ⟨fun _ => by omega, fun _ => rfl⟩

variable (cell) in
/-- A short space is passed over, and so is the mark. -/
theorem Seeking.hears_short (h : Seeking len r) (hspace : symbolOf (1 + n) ≠ .long) :
    ∃ r', r.Hears n cell r' false ∧ Seeking len r' := by
  have hshort : ¬ irMinPreambleSpaceTCycles ≤ (r.after n).previousSegmentTCycles := by
    rw [← long_iff, symbolOf_after h.count]
    exact hspace
  exact ⟨_, ⟨_, observe_seeking_short h.state hshort, observe_seeking_mark h.state⟩,
    h.expectedLen, h.state, rfl, h.bits, h.bytes⟩

variable (cell) in
/-- A long space starts the bits. -/
theorem Seeking.hears_long (h : Seeking len r) (hspace : symbolOf (1 + n) = .long)
    (hlen : len ≠ 0) : ∃ r', r.Hears n cell r' false ∧ Collecting len [] r' := by
  have hlong : irMinPreambleSpaceTCycles ≤ (r.after n).previousSegmentTCycles := by
    rw [← long_iff, symbolOf_after h.count]
    exact hspace
  have hspace := observe_seeking_long (r := r.after n) h.state hlong
  have hsome : ¬ (r.after n).expectedLen = 0 := fun hzero => hlen (h.expectedLen.symm.trans hzero)
  rw [if_neg hsome] at hspace
  exact ⟨_, ⟨_, hspace, observe_receivingBits_mark rfl⟩, h.expectedLen, rfl, rfl, h.bits, h.bytes,
    by rw [List.length_nil]; omega⟩

/-- A long space and a mark are all of an empty message. -/
theorem Seeking.hears_empty (h : Seeking 0 r) (hspace : symbolOf (1 + n) = .long)
    (hcell : Readable cell) : ∃ r', r.Hears n cell r' true ∧ r'.state = .done ∧ r'.bytes = [] := by
  have hlong : irMinPreambleSpaceTCycles ≤ (r.after n).previousSegmentTCycles := by
    rw [← long_iff, symbolOf_after h.count]
    exact hspace
  have hspace := observe_seeking_long (r := r.after n) h.state hlong
  have hnone : (r.after n).expectedLen = 0 := h.expectedLen
  rw [if_pos hnone] at hspace
  refine ⟨_, ⟨_, hspace, observe_waitingForTrailerMark rfl (isShortMark_after hcell rfl) ?_⟩,
    rfl, h.bytes⟩
  show r.bytes.length = r.expectedLen
  rw [h.bytes, h.expectedLen]
  rfl

/-- The bytes of a receiver with one more bit. -/
theorem pushBit_bytes (hstored : r.bits = bits) (hpacked : r.bytes = packBytes (bits.length / 8) bits)
    (bit : U8) : (r.pushBit bit).bytes = packBytes ((bits.length + 1) / 8) (bits ++ [bit]) := by
  unfold pushBit
  simp only [hstored, hpacked, List.length_append, List.length_singleton]
  by_cases hbyte : (bits.length + 1) % 8 = 0
  · rw [if_pos hbyte]
    have hsplit : bits ++ [bit] =
        bits.take (bits.length - 7) ++ (bits ++ [bit]).drop (bits.length + 1 - 8) := by
      rw [show bits.length + 1 - 8 = bits.length - 7 by omega,
        List.drop_append_of_le_length (Nat.sub_le _ _), ← List.append_assoc,
        List.take_append_drop]
    have hfull : packBytes (bits.length / 8) bits =
        packBytes (bits.length / 8) (bits.take (bits.length - 7)) := by
      have hle : bits.length / 8 * 8 ≤ (bits.take (bits.length - 7)).length := by
        rw [List.length_take]
        omega
      have hsame := packBytes_append hle (bits.drop (bits.length - 7))
      rw [List.take_append_drop] at hsame
      exact hsame
    have hcount : (bits.length + 1) / 8 = bits.length / 8 + 1 := by omega
    rw [hfull, hcount]
    conv_rhs => rw [hsplit]
    refine (packBytes_concat ?_ ?_).symm
    · rw [List.length_take]
      omega
    · rw [List.length_drop, List.length_append, List.length_singleton]
      omega
  · rw [if_neg hbyte, show (bits.length + 1) / 8 = bits.length / 8 by omega]
    have hle : bits.length / 8 * 8 ≤ bits.length := Nat.div_mul_le_self _ _
    exact (packBytes_append hle _).symm

variable (cell) in
/-- A space is a bit, and another one follows. -/
theorem Collecting.hears_bit (h : Collecting len bits r)
    (hmore : (bits ++ [(symbolOf (1 + n)).bit]).length ≠ len * 8) :
    ∃ r', r.Hears n cell r' false ∧ Collecting len (bits ++ [(symbolOf (1 + n)).bit]) r' := by
  have hspace := observe_receivingBits_space (r := r.after n) h.state
  have hshort := h.short
  rw [List.length_append, List.length_singleton] at hmore
  have hnot : ¬ (r.after n).bits.length + 1 = (r.after n).expectedLen * 8 := by
    show ¬ r.bits.length + 1 = r.expectedLen * 8
    rw [h.stored, h.expectedLen]
    exact hmore
  rw [if_neg hnot, symbolOf_after h.count] at hspace
  refine ⟨_, ⟨_, hspace, observe_receivingBits_mark rfl⟩, h.expectedLen, rfl, rfl, ?_, ?_, ?_⟩
  · exact congrArg (· ++ _) h.stored
  · rw [List.length_append, List.length_singleton]
    exact pushBit_bytes (r := r.after n) h.stored h.packed _
  · rw [List.length_append, List.length_singleton]
    omega

/-- The last bit, and the mark behind it. -/
theorem Collecting.hears_last (h : Collecting len bits r) (hcell : Readable cell)
    (hlast : (bits ++ [(symbolOf (1 + n)).bit]).length = len * 8) :
    ∃ r', r.Hears n cell r' true ∧ r'.state = .done ∧
      r'.bytes = packBytes len (bits ++ [(symbolOf (1 + n)).bit]) := by
  have hspace := observe_receivingBits_space (r := r.after n) h.state
  rw [List.length_append, List.length_singleton] at hlast
  have hall : (r.after n).bits.length + 1 = (r.after n).expectedLen * 8 := by
    show r.bits.length + 1 = r.expectedLen * 8
    rw [h.stored, h.expectedLen]
    exact hlast
  rw [if_pos hall, symbolOf_after h.count] at hspace
  have hbytes : ((r.after n).pushBit (symbolOf (1 + n)).bit).bytes =
      packBytes len (bits ++ [(symbolOf (1 + n)).bit]) := by
    rw [pushBit_bytes (r := r.after n) h.stored h.packed, hlast, Nat.mul_div_cancel _ (by decide)]
  refine ⟨_, ⟨_, hspace, observe_waitingForTrailerMark rfl (isShortMark_after hcell rfl) ?_⟩,
    rfl, hbytes⟩
  show ((r.after n).pushBit (symbolOf (1 + n)).bit).bytes.length = r.expectedLen
  rw [hbytes, length_packBytes, h.expectedLen]

end DataMessageReceiver

/-! ## Receivers of messages in sequence -/

section

variable {ρ : Type} [LightReceiver ρ]

/-- A receiver that hands what it sees to the receiver of a message, and goes on in its own way
once that is done. -/
structure Embeds (wrap : DataMessageReceiver → ρ) (next : DataMessageReceiver → ρ × Bool) :
    Prop where
  tick : ∀ r, LightReceiver.tickSameLevel (wrap r) = wrap r.tickSameLevel
  observe : ∀ level r, LightReceiver.observeTransition level (wrap r) =
    if (r.observeTransition level).2 then next (r.observeTransition level).1
    else (wrap (r.observeTransition level).1, false)

/-- What comes of a receiver that has completed, or goes on with the light of some cells. -/
def resume (x : ρ × Bool) (dark : Nat) (cells : List (Nat × Nat)) : ρ :=
  if x.2 then x.1 else listen false (cellsLight dark cells) x.1

variable {wrap : DataMessageReceiver → ρ} {next : DataMessageReceiver → ρ × Bool}
  {r r' : DataMessageReceiver} {n : Nat} {cell : Nat × Nat} {cells : List (Nat × Nat)}

theorem Embeds.iterate (h : Embeds wrap next) (hcount : r.previousSegmentTCycles ≤ 1) (n : Nat) :
    LightReceiver.tickSameLevel^[n] (wrap r) = wrap (r.after n) := by
  rw [← DataMessageReceiver.iterate_tickSameLevel (Nat.le_trans hcount (by decide))]
  exact (Function.Semiconj.iterate_right (f := wrap) (fun r => (h.tick r).symm) n r).symm

/-- A cell that does not complete the message. -/
theorem Embeds.listen_more (h : Embeds wrap next) (hcell : Readable cell)
    (hcount : r.previousSegmentTCycles ≤ 1) (hears : r.Hears n cell r' false) :
    listen false (cellsLight n (cell :: cells)) (wrap r) =
      listen false (cellsLight (cell.2 - 1) cells) (wrap r') := by
  obtain ⟨r₁, hspace, hmark⟩ := hears
  have hcount₁ := DataMessageReceiver.observe_count false (r.after n)
  rw [hspace] at hcount₁
  rw [listen_cellsLight_cons hcell, h.iterate hcount, h.observe, hspace]
  simp only [Bool.false_eq_true, if_false]
  rw [h.iterate (Nat.le_of_eq hcount₁), h.observe, hmark]
  rfl

/-- A cell that completes the message. -/
theorem Embeds.listen_last (h : Embeds wrap next) (hcell : Readable cell)
    (hcount : r.previousSegmentTCycles ≤ 1) (hears : r.Hears n cell r' true) :
    listen false (cellsLight n (cell :: cells)) (wrap r) =
      resume (next r') (cell.2 - 1) cells := by
  obtain ⟨r₁, hspace, hmark⟩ := hears
  have hcount₁ := DataMessageReceiver.observe_count false (r.after n)
  rw [hspace] at hcount₁
  rw [listen_cellsLight_cons hcell, h.iterate hcount, h.observe, hspace]
  simp only [Bool.false_eq_true, if_false]
  rw [h.iterate (Nat.le_of_eq hcount₁), h.observe, hmark, if_pos rfl]
  unfold resume
  obtain ⟨r₂, completed⟩ := next r'
  cases completed <;> rfl

/-- The symbols of the spaces of some cells. -/
def symbols (cells : List (Nat × Nat)) : List Symbol := cells.map fun cell => symbolOf cell.2

/-- What comes of a receiver that reads a message from some cells: a message that is not
complete, or one that is, and the cells behind it. -/
def Reads (wrap : DataMessageReceiver → ρ) (next : DataMessageReceiver → ρ × Bool)
    (cells : List (Nat × Nat)) (result : ρ) : Option (List U8 × List Symbol) → Prop
  | none => ∃ r : DataMessageReceiver, r.state ≠ .done ∧ result = wrap r
  | some (bytes, rest) =>
      ∃ (r : DataMessageReceiver) (dark : Nat) (left : List (Nat × Nat)),
        r.state = .done ∧ r.bytes = bytes ∧ left <:+ cells ∧ symbols left = rest ∧
        result = resume (next r) dark left

theorem Reads.cons {cells : List (Nat × Nat)} {result : ρ} {parsed : Option (List U8 × List Symbol)}
    (h : Reads wrap next cells result parsed) (cell : Nat × Nat) :
    Reads wrap next (cell :: cells) result parsed := by
  cases parsed with
  | none => exact h
  | some parsed =>
      obtain ⟨r, dark, left, hdone, hbytes, hsuffix, hrest⟩ := h
      exact ⟨r, dark, left, hdone, hbytes, hsuffix.trans (List.suffix_cons ..), hrest⟩

theorem Embeds.reads_bits (h : Embeds wrap next) {len : Nat} {bits : List U8}
    (hr : DataMessageReceiver.Collecting len bits r) (hcells : ∀ cell ∈ cells, Readable cell) :
    Reads wrap next cells (listen false (cellsLight n cells) (wrap r))
      (parseBits len bits (symbolOf (1 + n) :: symbols cells)) := by
  induction cells generalizing r bits n with
  | nil =>
      have hnone : parseBits len bits [symbolOf (1 + n)] = none := by
        rw [parseBits]
        split <;> rfl
      rw [symbols, List.map_nil, hnone, listen_cellsLight_nil, h.iterate (Nat.le_of_eq hr.count)]
      refine ⟨_, ?_, rfl⟩
      show r.state ≠ .done
      rw [hr.state]
      nofun
  | cons cell cells ih =>
      have hcell : Readable cell := hcells cell List.mem_cons_self
      have hcount : r.previousSegmentTCycles ≤ 1 := Nat.le_of_eq hr.count
      rw [parseBits]
      by_cases hlast : (bits ++ [(symbolOf (1 + n)).bit]).length = len * 8
      · obtain ⟨r', hears, hdone, hbytes⟩ := hr.hears_last hcell hlast
        rw [if_pos hlast, h.listen_last hcell hcount hears]
        exact ⟨r', _, cells, hdone, hbytes, List.suffix_cons .., rfl, rfl⟩
      · obtain ⟨r', hears, hr'⟩ := hr.hears_bit cell hlast
        have hspace : 1 + (cell.2 - 1) = cell.2 := by
          have hpos := hcell.2
          omega
        rw [if_neg hlast, h.listen_more hcell hcount hears]
        have hrest := ih (n := cell.2 - 1) hr' fun c hc => hcells c (List.mem_cons_of_mem _ hc)
        rw [hspace] at hrest
        exact hrest.cons cell

theorem parseMessage_cons_of_ne {len : Nat} {symbol : Symbol} (h : symbol ≠ .long)
    (rest : List Symbol) : parseMessage len (symbol :: rest) = parseMessage len rest := by
  cases symbol with
  | zero => rfl
  | one => rfl
  | long => exact absurd rfl h

theorem Embeds.reads_seeking (h : Embeds wrap next) {len : Nat}
    (hr : DataMessageReceiver.Seeking len r) (hcells : ∀ cell ∈ cells, Readable cell) :
    Reads wrap next cells (listen false (cellsLight n cells) (wrap r))
      (parseMessage len (symbolOf (1 + n) :: symbols cells)) := by
  induction cells generalizing r n with
  | nil =>
      have hnone : parseMessage len [symbolOf (1 + n)] = none := by
        cases symbolOf (1 + n) with
        | zero => rfl
        | one => rfl
        | long =>
            rw [parseMessage]
            split <;> rfl
      rw [symbols, List.map_nil, hnone, listen_cellsLight_nil, h.iterate (Nat.le_of_eq hr.count)]
      refine ⟨_, ?_, rfl⟩
      show r.state ≠ .done
      rw [hr.state]
      nofun
  | cons cell cells ih =>
      have hcell : Readable cell := hcells cell List.mem_cons_self
      have hcount : r.previousSegmentTCycles ≤ 1 := Nat.le_of_eq hr.count
      have hspace : 1 + (cell.2 - 1) = cell.2 := by
        have hpos := hcell.2
        omega
      have htail : ∀ c ∈ cells, Readable c := fun c hc => hcells c (List.mem_cons_of_mem _ hc)
      by_cases hlong : symbolOf (1 + n) = .long
      · rw [hlong, parseMessage]
        by_cases hempty : len = 0
        · subst hempty
          obtain ⟨r', hears, hdone, hbytes⟩ := hr.hears_empty hlong hcell
          rw [if_pos rfl, h.listen_last hcell hcount hears]
          exact ⟨r', _, cells, hdone, hbytes, List.suffix_cons .., rfl, rfl⟩
        · obtain ⟨r', hears, hr'⟩ := hr.hears_long cell hlong hempty
          rw [if_neg hempty, h.listen_more hcell hcount hears]
          have hrest := h.reads_bits (n := cell.2 - 1) hr' htail
          rw [hspace] at hrest
          exact hrest.cons cell
      · obtain ⟨r', hears, hr'⟩ := hr.hears_short cell hlong
        rw [parseMessage_cons_of_ne hlong, h.listen_more hcell hcount hears]
        have hrest := ih (n := cell.2 - 1) hr' htail
        rw [hspace] at hrest
        exact hrest.cons cell

/-- A new receiver reads a message from the symbols of the cells, whatever space is before them. -/
theorem Embeds.reads (h : Embeds wrap next) {len : Nat} (hr : DataMessageReceiver.Fresh len r)
    (hcells : ∀ cell ∈ cells, Readable cell) :
    Reads wrap next cells (listen false (cellsLight n cells) (wrap r))
      (parseMessage len (symbols cells)) := by
  cases cells with
  | nil =>
      rw [listen_cellsLight_nil, h.iterate hr.count]
      refine ⟨_, ?_, rfl⟩
      show r.state ≠ .done
      rw [hr.state]
      nofun
  | cons cell cells =>
      have hcell : Readable cell := hcells cell List.mem_cons_self
      obtain ⟨r', hears, hr'⟩ := hr.hears (n := n) hcell
      have hrest := h.reads_seeking (n := cell.2 - 1) hr' fun c hc =>
        hcells c (List.mem_cons_of_mem _ hc)
      have hspace : 1 + (cell.2 - 1) = cell.2 := by
        have hpos := hcell.2
        omega
      rw [hspace] at hrest
      rw [h.listen_more hcell hr.count hears]
      exact hrest.cons cell

end

/-! ## What is received -/

theorem embeds_message :
    Embeds (id : DataMessageReceiver → DataMessageReceiver) fun r => (r, true) where
  tick _ := rfl
  observe level r := by
    show r.observeTransition level = _
    generalize r.observeTransition level = observed
    obtain ⟨r', completed⟩ := observed
    cases completed <;> rfl

/-- A message is received as its symbols are parsed. -/
theorem receive_message {cells : List (Nat × Nat)} (hcells : ∀ cell ∈ cells, Readable cell)
    (dark len : Nat) :
    receive (cellsLight dark cells) (DataMessageReceiver.new len) =
      (parseMessage len (symbols cells)).map Prod.fst := by
  have hreads := embeds_message.reads (n := dark) (DataMessageReceiver.fresh_new len) hcells
  unfold receive
  cases hparse : parseMessage len (symbols cells) with
  | none =>
      rw [hparse] at hreads
      obtain ⟨r, hr, hlisten⟩ := hreads
      rw [show DataMessageReceiver.new len = id (DataMessageReceiver.new len) from rfl, hlisten]
      exact if_neg hr
  | some parsed =>
      obtain ⟨bytes, rest⟩ := parsed
      rw [hparse] at hreads
      obtain ⟨r, dark', left, hdone, hbytes, -, -, hlisten⟩ := hreads
      rw [show DataMessageReceiver.new len = id (DataMessageReceiver.new len) from rfl, hlisten]
      show r.intoResult = some bytes
      rw [← hbytes]
      exact if_pos hdone

namespace DataBlockReceiver

/-- The block goes on, or is finished, once a message is complete. -/
def advance (r : DataBlockReceiver) : DataBlockReceiver × Bool :=
  (r.advanceMessage, r.advanceMessage.isFinished)

theorem embeds_header : Embeds header fun r => (header r).advance where
  tick _ := rfl
  observe level r := by
    show (header r).observeTransition level = _
    unfold observeTransition
    dsimp only
    cases (r.observeTransition level).2 <;> rfl

theorem embeds_payload (sum : U16) : Embeds (payload · sum) fun r => (payload r sum).advance where
  tick _ := rfl
  observe level r := by
    show (payload r sum).observeTransition level = _
    unfold observeTransition
    dsimp only
    cases (r.observeTransition level).2 <;> rfl

theorem embeds_checksum (bytes : List U8) (sum : U16) :
    Embeds (checksum · bytes sum) fun r => (checksum r bytes sum).advance where
  tick _ := rfl
  observe level r := by
    show (checksum r bytes sum).observeTransition level = _
    unfold observeTransition
    dsimp only
    cases (r.observeTransition level).2 <;> rfl

theorem resume_advance {r next : DataBlockReceiver} (h : r.advanceMessage = next) (dark : Nat)
    (cells : List (Nat × Nat)) :
    resume r.advance dark cells = resume (next, next.isFinished) dark cells := by
  rw [advance, h]

theorem intoResult_of_done {r : DataMessageReceiver} {bytes : List U8} (hdone : r.state = .done)
    (hbytes : r.bytes = bytes) : r.intoResult = some bytes := by
  rw [DataMessageReceiver.intoResult, if_pos hdone, hbytes]

/-- The checksum of a block, of which the payload has been received. -/
theorem receive_checksum {cells : List (Nat × Nat)} (hcells : ∀ cell ∈ cells, Readable cell)
    (dark : Nat) (bytes : List U8) (sum : U16) :
    (listen false (cellsLight dark cells) (checksum (.new 2) bytes sum)).intoResult =
      (parseMessage 2 (symbols cells)).bind fun (received, _) =>
        match received with
        | [lo, hi] => if U16.ofBytes hi lo = sum then some bytes else none
        | _ => none := by
  have hreads := (embeds_checksum bytes sum).reads (n := dark)
    (DataMessageReceiver.fresh_new 2) hcells
  cases hparse : parseMessage 2 (symbols cells) with
  | none =>
      rw [hparse] at hreads
      obtain ⟨r, -, hlisten⟩ := hreads
      rw [hlisten]
      rfl
  | some parsed =>
      obtain ⟨received, rest⟩ := parsed
      rw [hparse] at hreads
      obtain ⟨r, dark', left, hdone, hbytes, -, -, hlisten⟩ := hreads
      have hresult := intoResult_of_done hdone hbytes
      rw [hlisten, Option.bind_some]
      rcases received with _ | ⟨lo, _ | ⟨hi, _ | ⟨third, more⟩⟩⟩
      · rw [resume_advance (show _ = failed by rw [advanceMessage, hresult])]
        rfl
      · rw [resume_advance (show _ = failed by rw [advanceMessage, hresult])]
        rfl
      · by_cases hsum : U16.ofBytes hi lo = sum
        · have hnext : (checksum r bytes sum).advanceMessage = done bytes := by
            rw [advanceMessage, hresult]
            exact if_pos hsum
          rw [resume_advance hnext]
          exact (if_pos hsum).symm
        · have hnext : (checksum r bytes sum).advanceMessage = failed := by
            rw [advanceMessage, hresult]
            exact if_neg hsum
          rw [resume_advance hnext]
          exact (if_neg hsum).symm
      · rw [resume_advance (show _ = failed by rw [advanceMessage, hresult])]
        rfl

/-- The payload and the checksum of a block, of which the header has been received. -/
theorem receive_payload {cells : List (Nat × Nat)} (hcells : ∀ cell ∈ cells, Readable cell)
    (dark len : Nat) (sum : U16) :
    (listen false (cellsLight dark cells) (payload (.new len) sum)).intoResult =
      (parseMessage len (symbols cells)).bind fun (bytes, rest) =>
        (parseMessage 2 rest).bind fun (received, _) =>
          match received with
          | [lo, hi] =>
              if U16.ofBytes hi lo = bytes.foldl (fun sum byte => sum + U16.ofByte byte) sum then
                some bytes
              else none
          | _ => none := by
  have hreads := (embeds_payload sum).reads (n := dark)
    (DataMessageReceiver.fresh_new len) hcells
  cases hparse : parseMessage len (symbols cells) with
  | none =>
      rw [hparse] at hreads
      obtain ⟨r, -, hlisten⟩ := hreads
      rw [hlisten]
      rfl
  | some parsed =>
      obtain ⟨bytes, rest⟩ := parsed
      rw [hparse] at hreads
      obtain ⟨r, dark', left, hdone, hbytes, hsuffix, hrest, hlisten⟩ := hreads
      have hleft : ∀ cell ∈ left, Readable cell := fun cell hc => hcells cell (hsuffix.mem hc)
      have hnext : (payload r sum).advanceMessage =
          checksum (.new 2) bytes (bytes.foldl (fun sum byte => sum + U16.ofByte byte) sum) := by
        rw [advanceMessage, intoResult_of_done hdone hbytes]
      rw [hlisten, Option.bind_some, resume_advance hnext, ← hrest]
      exact receive_checksum hleft dark' bytes _

/-- A block is received as its symbols are parsed. -/
theorem receive_block {cells : List (Nat × Nat)} (hcells : ∀ cell ∈ cells, Readable cell)
    (dark : Nat) :
    receive (cellsLight dark cells) DataBlockReceiver.new = parseBlock (symbols cells) := by
  have hreads := embeds_header.reads (n := dark) (DataMessageReceiver.fresh_new 2) hcells
  show (listen false (cellsLight dark cells) (header (.new 2))).intoResult = _
  unfold parseBlock
  cases hparse : parseMessage 2 (symbols cells) with
  | none =>
      rw [hparse] at hreads
      obtain ⟨r, -, hlisten⟩ := hreads
      rw [hlisten]
      rfl
  | some parsed =>
      obtain ⟨received, rest⟩ := parsed
      rw [hparse] at hreads
      obtain ⟨r, dark', left, hdone, hbytes, hsuffix, hrest, hlisten⟩ := hreads
      have hleft : ∀ cell ∈ left, Readable cell := fun cell hc => hcells cell (hsuffix.mem hc)
      have hresult := intoResult_of_done hdone hbytes
      rw [hlisten, Option.bind_some]
      rcases received with _ | ⟨headerPrefix, _ | ⟨len, _ | ⟨third, more⟩⟩⟩
      · rw [resume_advance (show _ = failed by rw [advanceMessage, hresult])]
        rfl
      · rw [resume_advance (show _ = failed by rw [advanceMessage, hresult])]
        rfl
      · by_cases hrefused : headerPrefix ≠ messagePrefix ∨ maxReceivedBlockLen < len.toNat
        · have hnext : (header r).advanceMessage = failed := by
            rw [advanceMessage, hresult]
            exact if_pos hrefused
          rw [resume_advance hnext]
          exact (if_pos hrefused).symm
        · have hnext : (header r).advanceMessage =
              payload (.new len.toNat) (U16.ofByte messagePrefix + U16.ofByte len) := by
            rw [advanceMessage, hresult]
            exact if_neg hrefused
          dsimp only
          rw [resume_advance hnext, if_neg hrefused, ← hrest]
          exact receive_payload hleft dark' len.toNat _
      · rw [resume_advance (show _ = failed by rw [advanceMessage, hresult])]
        rfl

end DataBlockReceiver

end MysteryGift

end GbCycle
