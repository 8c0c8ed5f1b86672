import GbCycle.MysteryGift.Symbols

/-!
# Blocks there and back

A block is three messages, the light of which is a row of cells.  However the widths of its
pulses are distorted, as long as a mark remains one and a space stays on its side of the
thresholds, the symbols are those of the messages, and the receiver gets the payload.

A bit of the payload or of the checksum that is received wrong is noticed.  So is one of the
length, but for this: where the length is too short, the receiver takes a bit of the payload for
the end of it, and the end of the payload for the start of the checksum, which it then reads one
bit late.
-/

namespace GbCycle

namespace MysteryGift

/-! ## Distorted light -/

/-- The light of some pulses. -/
def pulsesLight (pulses : List Pulse) : List Bool :=
  pulses.flatMap fun pulse => List.replicate pulse.remainingTCycles pulse.level

/-- The levels of the next T-cycles. -/
def PulseQueue.emit : Nat → PulseQueue → List Bool
  | 0, _ => []
  | n + 1, q => q.tickTCycle.1 :: emit n q.tickTCycle.2

def PulseQueue.Positive (q : PulseQueue) : Prop := ∀ pulse ∈ q.pulses, 0 < pulse.remainingTCycles

theorem PulseQueue.emit_front (level : Bool) (n more : Nat) (pulses : List Pulse) :
    emit (n + 1 + more) { pulses := { level, remainingTCycles := n + 1 } :: pulses } =
      List.replicate (n + 1) level ++ emit more { pulses } := by
  induction n with
  | zero =>
      rw [Nat.zero_add, Nat.add_comm, emit]
      rfl
  | succ n ih =>
      have htick : tickTCycle { pulses := { level, remainingTCycles := n + 1 + 1 } :: pulses } =
          (level, { pulses := { level, remainingTCycles := n + 1 } :: pulses }) := rfl
      rw [show n + 1 + 1 + more = n + 1 + more + 1 by omega, emit, htick, ih]
      rfl

/-- A queue without empty pulses emits the light of its pulses. -/
theorem PulseQueue.emit_pulsesLight {q : PulseQueue} (h : q.Positive) :
    q.emit (pulsesLight q.pulses).length = pulsesLight q.pulses := by
  obtain ⟨pulses⟩ := q
  unfold Positive at h
  dsimp only at h ⊢
  induction pulses with
  | nil => rfl
  | cons pulse pulses ih =>
      obtain ⟨level, width⟩ := pulse
      obtain ⟨n, rfl⟩ : ∃ n, width = n + 1 :=
        Nat.exists_eq_succ_of_ne_zero (Nat.ne_of_gt (h _ List.mem_cons_self))
      have hlight : pulsesLight ({ level, remainingTCycles := n + 1 } :: pulses) =
          List.replicate (n + 1) level ++ pulsesLight pulses := List.flatMap_cons
      rw [hlight, List.length_append, List.length_replicate, emit_front,
        ih fun pulse hpulse => h pulse (List.mem_cons_of_mem _ hpulse)]

theorem PulseQueue.Positive.push {q : PulseQueue} (h : q.Positive) (level : Bool) (tCycles : Nat) :
    (q.push level tCycles).Positive := by
  unfold PulseQueue.push
  split
  · exact h
  next hpos =>
  cases hback : q.pulses.getLast? with
  | none =>
      intro pulse hpulse
      obtain rfl := List.mem_singleton.mp hpulse
      exact Nat.pos_of_ne_zero hpos
  | some back =>
      dsimp only
      split
      · intro pulse hpulse
        rcases List.mem_append.mp hpulse with hpulse | hpulse
        · exact h pulse (List.mem_of_mem_dropLast hpulse)
        · obtain rfl := List.mem_singleton.mp hpulse
          show 0 < saturatingAdd 32 back.remainingTCycles tCycles
          unfold saturatingAdd
          omega
      · intro pulse hpulse
        rcases List.mem_append.mp hpulse with hpulse | hpulse
        · exact h pulse hpulse
        · obtain rfl := List.mem_singleton.mp hpulse
          exact Nat.pos_of_ne_zero hpos

theorem PulseQueue.Positive.foldl {α : Type} {f : PulseQueue → α → PulseQueue}
    (hf : ∀ q a, q.Positive → (f q a).Positive) (items : List α) {q : PulseQueue}
    (h : q.Positive) : (items.foldl f q).Positive := by
  induction items generalizing q with
  | nil => exact h
  | cons item items ih => exact ih (hf q item h)

theorem PulseQueue.Positive.encodeDataMessage {q : PulseQueue} (h : q.Positive)
    (bytes : List U8) : (encodeDataMessage bytes q).Positive := by
  have hbyte (q : PulseQueue) (byte : U8) (h : q.Positive) : (encodeByte q byte).Positive :=
    .foldl (fun q _ h => (h.push _ _).push _ _) _ h
  exact ((Positive.foldl hbyte bytes (((h.push _ _).push _ _).push _ _)).push _ _).push _ _

theorem PulseQueue.positive_new : PulseQueue.new.Positive := nofun

/-- A pulse of another width: a mark that a receiver takes for one, or a space on the same side
of the two thresholds. -/
def SamePulse (pulse pulse' : Pulse) : Prop :=
  pulse'.level = pulse.level ∧
    if pulse.level then isShortMark pulse'.remainingTCycles = true
    else
      0 < pulse'.remainingTCycles ∧
        (pulse'.remainingTCycles < irSpaceZeroOneThresholdTCycles ↔
          pulse.remainingTCycles < irSpaceZeroOneThresholdTCycles) ∧
        (pulse'.remainingTCycles < irMinPreambleSpaceTCycles ↔
          pulse.remainingTCycles < irMinPreambleSpaceTCycles)

/-- Pulses of other widths, with any dark time before them. -/
inductive Distorts : List Pulse → List Pulse → Prop where
  | intro {dark dark' : Nat} {pulses pulses' : List Pulse}
      (same : List.Forall₂ SamePulse pulses pulses') :
      Distorts ({ level := false, remainingTCycles := dark } :: pulses)
        ({ level := false, remainingTCycles := dark' } :: pulses')

/-- The pulses of some cells, behind a space. -/
def cellsPulses (dark : Nat) (cells : List (Nat × Nat)) : List Pulse :=
  { level := false, remainingTCycles := dark } ::
    cells.flatMap fun cell =>
      [{ level := true, remainingTCycles := cell.1 }, { level := false, remainingTCycles := cell.2 }]

theorem pulsesLight_cellsPulses (dark : Nat) (cells : List (Nat × Nat)) :
    pulsesLight (cellsPulses dark cells) = cellsLight dark cells := by
  induction cells generalizing dark with
  | nil => exact List.append_nil _
  | cons cell cells ih =>
      have hrest := ih cell.2
      unfold pulsesLight cellsPulses at hrest ⊢
      obtain ⟨mark, space⟩ := cell
      rw [cellsLight, ← hrest, List.flatMap_cons, List.flatMap_cons, List.append_assoc]
      rfl

theorem symbolOf_of_sides {space space' : Nat}
    (hbit : space' < irSpaceZeroOneThresholdTCycles ↔ space < irSpaceZeroOneThresholdTCycles)
    (hlong : space' < irMinPreambleSpaceTCycles ↔ space < irMinPreambleSpaceTCycles) :
    symbolOf space' = symbolOf space := by
  unfold symbolOf
  exact if_congr hbit rfl (if_congr hlong rfl rfl)

/-- Distorted cells are cells again, which can be read, with the same symbols. -/
theorem distorts_cellsPulses {dark : Nat} {cells : List (Nat × Nat)} {pulses : List Pulse}
    (h : Distorts (cellsPulses dark cells) pulses) :
    ∃ dark' cells', pulses = cellsPulses dark' cells' ∧ (∀ cell ∈ cells', Readable cell) ∧
      symbols cells' = symbols cells := by
  unfold cellsPulses at h
  cases h with
  | @intro _ dark' _ pulses' same =>
      refine ⟨dark', ?_⟩
      induction cells generalizing pulses' with
      | nil =>
          cases same
          exact ⟨[], rfl, nofun, rfl⟩
      | cons cell cells ih =>
          rw [List.flatMap_cons] at same
          cases same with
          | @cons _ mark' _ _ hmark same =>
              cases same with
              | @cons _ space' _ rest' hspace same =>
                  obtain ⟨cells', hcells', hreadable, hsymbols⟩ := ih same
                  obtain ⟨hlit, hshort⟩ := hmark
                  obtain ⟨hdark, hpos, hbit, hlong⟩ := hspace
                  refine ⟨(mark'.remainingTCycles, space'.remainingTCycles) :: cells', ?_, ?_, ?_⟩
                  · unfold cellsPulses at hcells' ⊢
                    obtain rfl := (List.cons.inj hcells').2
                    obtain ⟨level, width⟩ := mark'
                    obtain ⟨level', width'⟩ := space'
                    obtain rfl : level = true := hlit
                    obtain rfl : level' = false := hdark
                    rfl
                  · intro c hc
                    rcases List.mem_cons.mp hc with rfl | hc
                    · exact ⟨hshort, hpos⟩
                    · exact hreadable c hc
                  · unfold symbols at hsymbols ⊢
                    rw [List.map_cons, List.map_cons, hsymbols, symbolOf_of_sides hbit hlong]

/-! ## Encoded cells -/

def byteCells (byte : U8) : List (Nat × Nat) :=
  (List.range 8).reverse.map fun bitIndex =>
    (irMessageBitMarkTCycles,
      if bitAt byte bitIndex = 0 then irMessageZeroSpaceTCycles else irMessageOneSpaceTCycles)

/-- The cells of a message, all but the mark that ends it. -/
def openCells (bytes : List U8) : List (Nat × Nat) :=
  (irMessagePreambleMarkTCycles, irMessagePreambleSpaceTCycles) :: bytes.flatMap byteCells

namespace PulseQueue

/-- The queue with the pulses of some cells, behind a space. -/
def ofCells (dark : Nat) (cells : List (Nat × Nat)) : PulseQueue :=
  { pulses := cellsPulses dark cells }

theorem cellsPulses_concat (dark : Nat) (cells : List (Nat × Nat)) (mark space : Nat) :
    cellsPulses dark (cells ++ [(mark, space)]) =
      (cellsPulses dark cells ++ [{ level := true, remainingTCycles := mark }]) ++
        [{ level := false, remainingTCycles := space }] := by
  unfold cellsPulses
  rw [List.flatMap_append, List.flatMap_singleton, List.cons_append, List.cons_append,
    List.append_assoc]
  rfl

theorem last_cellsPulses (dark : Nat) (cells : List (Nat × Nat)) :
    ∃ init space, cellsPulses dark cells =
      init ++ [{ level := false, remainingTCycles := space }] := by
  rcases List.eq_nil_or_concat cells with rfl | ⟨init, last, rfl⟩
  · exact ⟨[], dark, rfl⟩
  · obtain ⟨mark, space⟩ := last
    rw [List.concat_eq_append]
    exact ⟨_, _, cellsPulses_concat dark init mark space⟩

/-- A mark and a space are one more cell. -/
theorem push_cell (dark : Nat) (cells : List (Nat × Nat)) {mark space : Nat} (hmark : mark ≠ 0)
    (hspace : space ≠ 0) :
    ((ofCells dark cells).push true mark).push false space =
      ofCells dark (cells ++ [(mark, space)]) := by
  obtain ⟨init, last, hinit⟩ := last_cellsPulses dark cells
  have hlit : (ofCells dark cells).push true mark =
      { pulses := cellsPulses dark cells ++ [{ level := true, remainingTCycles := mark }] } := by
    unfold push ofCells
    rw [if_neg hmark, hinit, List.getLast?_concat]
    rfl
  rw [hlit]
  unfold push ofCells
  rw [if_neg hspace, List.getLast?_concat, cellsPulses_concat]
  rfl

/-- Another space makes the last space longer. -/
theorem push_space (dark : Nat) (cells : List (Nat × Nat)) {mark space more : Nat}
    (hfits : space + more < 2 ^ 32) :
    (ofCells dark (cells ++ [(mark, space)])).push false more =
      ofCells dark (cells ++ [(mark, space + more)]) := by
  unfold push ofCells
  by_cases hmore : more = 0
  · rw [if_pos hmore, hmore]
    rfl
  · have hsum : saturatingAdd 32 space more = space + more := by
      unfold saturatingAdd
      omega
    rw [if_neg hmore, cellsPulses_concat, List.getLast?_concat,
      cellsPulses_concat]
    dsimp only
    rw [if_pos rfl, List.dropLast_concat, hsum]

theorem push_dark {dark more : Nat} (hfits : dark + more < 2 ^ 32) :
    (ofCells dark []).push false more = ofCells (dark + more) [] := by
  unfold push ofCells
  by_cases hmore : more = 0
  · rw [if_pos hmore, hmore]
    rfl
  · have hsum : saturatingAdd 32 dark more = dark + more := by
      unfold saturatingAdd
      omega
    rw [if_neg hmore]
    show ({ pulses := [] ++ [{ level := false
                               remainingTCycles := saturatingAdd 32 dark more }] } : PulseQueue) = _
    rw [hsum]
    rfl

theorem encodeByte_ofCells (dark : Nat) (cells : List (Nat × Nat)) (byte : U8) :
    encodeByte (ofCells dark cells) byte = ofCells dark (cells ++ byteCells byte) := by
  unfold encodeByte byteCells
  generalize (List.range 8).reverse = indices
  induction indices generalizing cells with
  | nil => rw [List.map_nil, List.append_nil, List.foldl_nil]
  | cons bitIndex indices ih =>
      have hspace : (if bitAt byte bitIndex = 0 then irMessageZeroSpaceTCycles
          else irMessageOneSpaceTCycles) ≠ 0 := by
        split <;> decide
      rw [List.foldl_cons, encodeBit, push_cell dark cells (by decide) hspace, ih, List.map_cons,
        List.append_assoc]
      rfl

theorem foldl_encodeByte_ofCells (dark : Nat) (cells : List (Nat × Nat)) (bytes : List U8) :
    bytes.foldl encodeByte (ofCells dark cells) =
      ofCells dark (cells ++ bytes.flatMap byteCells) := by
  induction bytes generalizing cells with
  | nil => rw [List.flatMap_nil, List.append_nil, List.foldl_nil]
  | cons byte bytes ih =>
      rw [List.foldl_cons, encodeByte_ofCells, ih, List.flatMap_cons, List.append_assoc]

/-- A message, once its first space has been queued. -/
theorem encodeDataMessage_tail (dark : Nat) (cells : List (Nat × Nat)) (bytes : List U8) :
    ((bytes.foldl encodeByte (((ofCells dark cells).push true irMessagePreambleMarkTCycles).push
      false irMessagePreambleSpaceTCycles)).push true irMessageTrailerMarkTCycles).push false
        irMessageTrailerSpaceTCycles =
      ofCells dark (cells ++ openCells bytes ++
        [(irMessageTrailerMarkTCycles, irMessageTrailerSpaceTCycles)]) := by
  rw [push_cell dark cells (by decide) (by decide), foldl_encodeByte_ofCells,
    push_cell dark _ (by decide) (by decide), List.append_assoc cells]
  rfl

theorem encodeDataMessage_first {dark : Nat} (hfits : dark + irHelloShortSpaceTCycles < 2 ^ 32)
    (bytes : List U8) :
    encodeDataMessage bytes (ofCells dark []) =
      ofCells (dark + irHelloShortSpaceTCycles) (openCells bytes ++
        [(irMessageTrailerMarkTCycles, irMessageTrailerSpaceTCycles)]) := by
  unfold encodeDataMessage
  rw [push_dark hfits, encodeDataMessage_tail, List.nil_append]

theorem encodeDataMessage_next (dark : Nat) (cells : List (Nat × Nat)) {mark space : Nat}
    (hfits : space + irHelloShortSpaceTCycles < 2 ^ 32) (bytes : List U8) :
    encodeDataMessage bytes (ofCells dark (cells ++ [(mark, space)])) =
      ofCells dark (cells ++ [(mark, space + irHelloShortSpaceTCycles)] ++ openCells bytes ++
        [(irMessageTrailerMarkTCycles, irMessageTrailerSpaceTCycles)]) := by
  unfold encodeDataMessage
  rw [push_space dark cells hfits, encodeDataMessage_tail]

end PulseQueue

/-! ## Blocks of bytes -/

/-- The bytes of the three messages of a block. -/
structure BlockBytes where
  header : List U8
  body : List U8
  checksum : List U8
  deriving Repr, DecidableEq

/-- The messages of a block, whatever their bytes are. -/
def BlockBytes.encode (b : BlockBytes) (q : PulseQueue) : PulseQueue :=
  encodeDataMessage b.checksum
    (encodeDataMessage b.body (encodeDataMessage b.header (q.push false irBlockLeadSpaceTCycles)))

/-- The bytes that are sent for a payload. -/
def blockBytes (payload : List U8) : BlockBytes where
  header := [messagePrefix, BitVec.ofNat 8 payload.length]
  body := payload
  checksum := [(dataBlockChecksum payload).low, (dataBlockChecksum payload).high]

theorem encodeDataBlock_eq {payload : List U8} (h : payload.length < 2 ^ 8) (q : PulseQueue) :
    encodeDataBlock payload q = some ((blockBytes payload).encode q) := if_pos h

def BlockBytes.cells (b : BlockBytes) : List (Nat × Nat) :=
  openCells b.header ++ [(irMessageTrailerMarkTCycles,
    irMessageTrailerSpaceTCycles + irHelloShortSpaceTCycles)] ++
  openCells b.body ++ [(irMessageTrailerMarkTCycles,
    irMessageTrailerSpaceTCycles + irHelloShortSpaceTCycles)] ++
  openCells b.checksum ++ [(irMessageTrailerMarkTCycles, irMessageTrailerSpaceTCycles)]

theorem BlockBytes.encode_new (b : BlockBytes) :
    b.encode .new =
      .ofCells (irBlockLeadSpaceTCycles + irHelloShortSpaceTCycles) b.cells := by
  have hlead : PulseQueue.new.push false irBlockLeadSpaceTCycles =
      .ofCells irBlockLeadSpaceTCycles [] := rfl
  unfold BlockBytes.encode BlockBytes.cells
  rw [hlead, PulseQueue.encodeDataMessage_first (by decide),
    PulseQueue.encodeDataMessage_next _ _ (by decide),
    PulseQueue.encodeDataMessage_next _ _ (by decide)]

theorem encodeBlockAck_new (status : U8) :
    encodeBlockAck status .new =
      .ofCells (irBlockLeadSpaceTCycles + irHelloShortSpaceTCycles)
        (openCells [status] ++ [(irMessageTrailerMarkTCycles, irMessageTrailerSpaceTCycles)]) := by
  have hlead : PulseQueue.new.push false irBlockLeadSpaceTCycles =
      .ofCells irBlockLeadSpaceTCycles [] := rfl
  unfold encodeBlockAck
  rw [hlead, PulseQueue.encodeDataMessage_first (by decide)]

theorem readable_openCells (bytes : List U8) : ∀ cell ∈ openCells bytes, Readable cell := by
  intro cell hcell
  rcases List.mem_cons.mp hcell with rfl | hcell
  · exact ⟨by decide, by decide⟩
  · obtain ⟨byte, -, hbyte⟩ := List.mem_flatMap.mp hcell
    obtain ⟨i, -, rfl⟩ := List.mem_map.mp hbyte
    refine ⟨(by decide : isShortMark irMessageBitMarkTCycles = true), ?_⟩
    show 0 < if bitAt byte i = 0 then _ else _
    split <;> decide

/-- Encoded cells can be read. -/
theorem BlockBytes.readable_cells (b : BlockBytes) : ∀ cell ∈ b.cells, Readable cell := by
  intro cell hcell
  have htrailer {space : Nat} (hpos : 0 < space) : Readable (irMessageTrailerMarkTCycles, space) :=
    ⟨(by decide : isShortMark irMessageTrailerMarkTCycles = true), hpos⟩
  unfold BlockBytes.cells at hcell
  simp only [List.mem_append, List.mem_singleton] at hcell
  rcases hcell with ((((hcell | rfl) | hcell) | rfl) | hcell) | rfl
  · exact readable_openCells _ cell hcell
  · exact htrailer (by decide)
  · exact readable_openCells _ cell hcell
  · exact htrailer (by decide)
  · exact readable_openCells _ cell hcell
  · exact htrailer (by decide)

/-- Readable light is one of its distortions, whatever the dark time before it. -/
theorem distorts_dark {cells : List (Nat × Nat)} (h : ∀ cell ∈ cells, Readable cell)
    (dark dark' : Nat) : Distorts (cellsPulses dark cells) (cellsPulses dark' cells) := by
  refine .intro ?_
  induction cells with
  | nil => exact .nil
  | cons cell cells ih =>
      obtain ⟨hshort, hpos⟩ := h cell List.mem_cons_self
      rw [List.flatMap_cons]
      refine .cons ⟨rfl, hshort⟩ (.cons ⟨rfl, hpos, Iff.rfl, Iff.rfl⟩ ?_)
      exact ih fun c hc => h c (List.mem_cons_of_mem cell hc)

theorem BlockBytes.distorts_encode (b : BlockBytes) :
    Distorts (b.encode .new).pulses (b.encode .new).pulses := by
  rw [b.encode_new]
  exact distorts_dark b.readable_cells _ _

theorem BlockBytes.positive_encode (b : BlockBytes) : (b.encode .new).Positive :=
  (((PulseQueue.positive_new.push _ _).encodeDataMessage _).encodeDataMessage _).encodeDataMessage _

/-! ## Symbols of bytes -/

def bitSymbol (bit : U8) : Symbol := if bit = 0 then .zero else .one

/-- The bits of a byte, the highest first. -/
def byteBits (byte : U8) : List U8 := (List.range 8).reverse.map (bitAt byte)

def bitSymbols (bytes : List U8) : List Symbol := (bytes.flatMap byteBits).map bitSymbol

theorem symbols_append (cells cells' : List (Nat × Nat)) :
    symbols (cells ++ cells') = symbols cells ++ symbols cells' := List.map_append

theorem symbols_openCells (bytes : List U8) :
    symbols (openCells bytes) = .long :: bitSymbols bytes := by
  have hbyte (byte : U8) : symbols (byteCells byte) = (byteBits byte).map bitSymbol := by
    unfold symbols byteCells byteBits
    rw [List.map_map, List.map_map]
    refine List.map_congr_left fun bitIndex _ => ?_
    show symbolOf (if bitAt byte bitIndex = 0 then _ else _) = bitSymbol (bitAt byte bitIndex)
    unfold bitSymbol
    split <;> rfl
  have hbytes : symbols (bytes.flatMap byteCells) = bitSymbols bytes := by
    induction bytes with
    | nil => rfl
    | cons byte bytes ih =>
        rw [List.flatMap_cons, symbols_append, hbyte, ih]
        unfold bitSymbols
        rw [List.flatMap_cons, List.map_append]
  show symbolOf _ :: symbols (bytes.flatMap byteCells) = _
  rw [hbytes]
  rfl

theorem BlockBytes.symbols_cells (b : BlockBytes) :
    symbols b.cells =
      .long :: (bitSymbols b.header ++ .long :: .long :: (bitSymbols b.body ++
        .long :: .long :: (bitSymbols b.checksum ++ [.long]))) := by
  unfold BlockBytes.cells
  rw [symbols_append, symbols_append, symbols_append, symbols_append, symbols_append,
    symbols_openCells, symbols_openCells, symbols_openCells]
  simp only [List.append_assoc, List.cons_append]
  rfl

theorem bitAt_cases (byte : U8) (i : Nat) : bitAt byte i = 0 ∨ bitAt byte i = 1 := by
  have hle : (bitAt byte i).toNat ≤ 1 := by
    unfold bitAt
    rw [BitVec.toNat_and]
    exact Nat.and_le_right
  rcases Nat.le_one_iff_eq_zero_or_eq_one.mp hle with hzero | hone
  · exact .inl (BitVec.eq_of_toNat_eq hzero)
  · exact .inr (BitVec.eq_of_toNat_eq hone)

theorem bit_bitSymbol {bit : U8} (h : bit = 0 ∨ bit = 1) : (bitSymbol bit).bit = bit := by
  rcases h with rfl | rfl <;> rfl

theorem mem_bits {bytes : List U8} {bit : U8} (h : bit ∈ bytes.flatMap byteBits) :
    bit = 0 ∨ bit = 1 := by
  obtain ⟨byte, -, hbit⟩ := List.mem_flatMap.mp h
  obtain ⟨i, -, rfl⟩ := List.mem_map.mp hbit
  exact bitAt_cases byte i

theorem map_bit_bitSymbols (bytes : List U8) :
    (bitSymbols bytes).map Symbol.bit = bytes.flatMap byteBits := by
  unfold bitSymbols
  rw [List.map_map]
  refine (List.map_congr_left fun bit hbit => ?_).trans (List.map_id _)
  exact bit_bitSymbol (mem_bits hbit)

theorem bitSymbols_ne_long {bytes : List U8} {symbol : Symbol} (h : symbol ∈ bitSymbols bytes) :
    symbol ≠ .long := by
  obtain ⟨bit, -, rfl⟩ := List.mem_map.mp h
  unfold bitSymbol
  split <;> nofun

theorem length_bitSymbols (bytes : List U8) : (bitSymbols bytes).length = bytes.length * 8 := by
  unfold bitSymbols
  rw [List.length_map]
  induction bytes with
  | nil => rfl
  | cons byte bytes ih =>
      rw [List.flatMap_cons, List.length_append, ih, List.length_cons]
      show 8 + bytes.length * 8 = _
      omega

theorem packByte_byteBits (byte : U8) : packByte (byteBits byte) = byte := by
  unfold packByte byteBits bitAt
  simp [List.range, List.range.loop]
  ext i hi
  simp
  grind

theorem packBytes_bits (bytes : List U8) :
    packBytes bytes.length (bytes.flatMap byteBits) = bytes := by
  induction bytes with
  | nil => rfl
  | cons byte bytes ih =>
      have hlength : (byteBits byte).length = 8 := rfl
      rw [List.length_cons, packBytes, List.flatMap_cons, List.take_left' hlength,
        List.drop_left' hlength, packByte_byteBits, ih]

/-! ## Parsing what was encoded -/

/-- As many symbols as there are bits missing. -/
theorem parseBits_append {len : Nat} {bits : List U8} {read : List Symbol} (hne : read ≠ [])
    (hlength : bits.length + read.length = len * 8) (rest : List Symbol) :
    parseBits len bits (read ++ rest) =
      parseTrailer (packBytes len (bits ++ read.map Symbol.bit)) rest := by
  induction read generalizing bits with
  | nil => exact absurd rfl hne
  | cons symbol read ih =>
      rw [List.length_cons] at hlength
      rw [List.cons_append, parseBits, List.map_cons]
      have hone : (bits ++ [symbol.bit]).length = bits.length + 1 := by
        rw [List.length_append, List.length_singleton]
      by_cases hlast : read = []
      · subst hlast
        have hall : (bits ++ [symbol.bit]).length = len * 8 := by
          rw [hone]
          exact hlength
        rw [if_pos hall, List.map_nil]
        rfl
      · have hpos := List.length_pos_iff.mpr hlast
        have hmore : (bits ++ [symbol.bit]).length ≠ len * 8 := by
          rw [hone]
          omega
        rw [if_neg hmore, ih hlast (by rw [hone]; omega), List.append_assoc]
        rfl

/-- Fewer symbols than there are bits missing. -/
theorem parseBits_short {len : Nat} {bits : List U8} {read : List Symbol}
    (hlength : bits.length + read.length < len * 8) : parseBits len bits read = none := by
  induction read generalizing bits with
  | nil => rfl
  | cons symbol read ih =>
      rw [List.length_cons] at hlength
      have hone : (bits ++ [symbol.bit]).length = bits.length + 1 := by
        rw [List.length_append, List.length_singleton]
      have hmore : (bits ++ [symbol.bit]).length ≠ len * 8 := by
        rw [hone]
        omega
      rw [parseBits, if_neg hmore]
      exact ih (by rw [hone]; omega)

/-- A long space, the bits of a message, and a mark. -/
theorem parseMessage_long {len : Nat} {read : List Symbol} (hlength : read.length = len * 8)
    (rest : List Symbol) :
    parseMessage len (.long :: (read ++ rest)) =
      parseTrailer (packBytes len (read.map Symbol.bit)) rest := by
  rw [parseMessage]
  by_cases hempty : len = 0
  · subst hempty
    have hnil : read = [] := List.eq_nil_of_length_eq_zero (by omega)
    subst hnil
    rw [if_pos rfl]
    rfl
  · rw [if_neg hempty]
    have hne : read ≠ [] := by
      rintro rfl
      rw [List.length_nil] at hlength
      omega
    exact parseBits_append hne (by rw [List.length_nil]; omega) rest

/-- Short spaces are passed over. -/
theorem parseMessage_short {len : Nat} {passed : List Symbol} (h : ∀ s ∈ passed, s ≠ .long)
    (rest : List Symbol) : parseMessage len (passed ++ rest) = parseMessage len rest := by
  induction passed with
  | nil => rfl
  | cons symbol passed ih =>
      rw [List.cons_append, parseMessage_cons_of_ne (h symbol List.mem_cons_self)]
      exact ih fun s hs => h s (List.mem_cons_of_mem _ hs)

theorem parseMessage_bitSymbols (bytes : List U8) (symbol : Symbol) (rest : List Symbol) :
    parseMessage bytes.length (.long :: (bitSymbols bytes ++ symbol :: rest)) =
      some (bytes, rest) := by
  rw [parseMessage_long (length_bitSymbols bytes), map_bit_bitSymbols, packBytes_bits]
  rfl

/-- A last long space is the start of no message. -/
theorem parseMessage_end (len : Nat) {passed : List Symbol} (h : ∀ s ∈ passed, s ≠ .long) :
    parseMessage len (passed ++ [.long]) = none := by
  rw [parseMessage_short h, parseMessage]
  split <;> rfl

end MysteryGift

end GbCycle
