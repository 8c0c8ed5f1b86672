import GbCycle.Cartridge.Mbc6
import GbCycle.Overlay

/-!
# The flash of the MBC6

What reaches the flash chip, whatever window it comes through, is a sequence of cycles, of which
the chip remembers the last few: the mode is what the history of the cycles ends with.  So a byte
changes only where that history ends with a whole sequence of a command.
-/

namespace GbCycle

/-- What reaches the flash chip. -/
inductive Mbc6FlashEvent where
  | cycle (offset : Nat) (value : U8)
  | switchedOff
  | writeEnable (enabled : Bool)
  deriving Repr, DecidableEq

/-- The switch for writes is not part of any sequence. -/
def Mbc6FlashEvent.inSequence : Mbc6FlashEvent → Bool
  | .writeEnable _ => false
  | _ => true

def Mbc6Flash.step (f : Mbc6Flash) : Mbc6FlashEvent → Mbc6Flash
  | .cycle offset value => f.writeFlash offset value
  | .switchedOff => { f with flashMode := .readArray }
  | .writeEnable enabled => { f with flashWriteEnabled := enabled }

namespace Mbc6Flash

/-! ## Sequences -/

/-- The cycles of some writes to the flash. -/
def cycles (writes : List (Nat × U8)) : List Mbc6FlashEvent :=
  writes.map fun w => .cycle w.1 w.2

/-- The two unlock cycles. -/
def unlock : List Mbc6FlashEvent :=
  [.cycle mbc6FlashUnlockAaOffset 0xAA, .cycle mbc6FlashUnlock55Offset 0x55]

/-- An erase command, up to its last cycle. -/
def eraseSequence (offset : Nat) (last : Mbc6FlashEvent) : List Mbc6FlashEvent :=
  unlock ++ .cycle offset 0x80 :: unlock ++ [last]

/-- An extended command, up to its last cycle. -/
def extendedSequence (offset : Nat) (last : Mbc6FlashEvent) : List Mbc6FlashEvent :=
  unlock ++ .cycle offset 0x60 :: unlock ++ [last]

def ErasesChip (history : List Mbc6FlashEvent) : Prop :=
  ∃ x, eraseSequence x (.cycle mbc6FlashUnlockAaOffset 0x10) <:+ history

def ErasesSector (history : List Mbc6FlashEvent) (offset : Nat) : Prop :=
  ∃ x, eraseSequence x (.cycle offset 0x30) <:+ history

def ErasesHidden (history : List Mbc6FlashEvent) : Prop :=
  ∃ x y, extendedSequence x (.cycle y 0x04) <:+ history

/-- The writes of a program command end with a run into one block, whose last byte is written
for a second time. -/
structure CompletesBlock (target : Mbc6ProgramTarget) (data block : List (Nat × U8))
    (base : Nat) : Prop where
  noReset : ∀ w ∈ data, w.2 ≠ 0xF0
  ends : block <:+ data
  inBlock : ∀ w ∈ block, programBlockBase target w.1 = base
  twice : ∃ first last, block = first ++ [last] ∧
    programByteOffset last.1 = mbc6FlashProgramBlockBytes - 1 ∧
    ∃ w ∈ first, programByteOffset w.1 = mbc6FlashProgramBlockBytes - 1

def ProgramsMain (history : List Mbc6FlashEvent) (block : List (Nat × U8)) (base : Nat) : Prop :=
  ∃ x data, unlock ++ .cycle x 0xA0 :: cycles data <:+ history ∧
    CompletesBlock .mainFlash data block base

def ProgramsHidden (history : List Mbc6FlashEvent) (block : List (Nat × U8)) (base : Nat) :
    Prop :=
  ∃ x y data, extendedSequence x (.cycle y 0xE0) ++ cycles data <:+ history ∧
    CompletesBlock .hiddenRegion data block base

/-- A whole sequence of a command that erases or programs. -/
def Completes (history : List Mbc6FlashEvent) : Prop :=
  ErasesChip history ∨ (∃ offset, ErasesSector history offset) ∨ ErasesHidden history ∨
    (∃ block base, ProgramsMain history block base) ∨
    ∃ block base, ProgramsHidden history block base

/-- The last value that some writes into one block give a byte of it. -/
def lastWritten (block : List (Nat × U8)) : Nat → Option U8 :=
  Overlay.last (block.map fun w i => if programByteOffset w.1 = i then some w.2 else none)

/-- In one block, what is written clears bits, and the rest stays. -/
def Programmed {n : Nat} (block : List (Nat × U8)) (base : Nat) (before after : Vector U8 n) :
    Prop :=
  ∀ i (hi : i < n), after[i] =
    if base ≤ i ∧ i < base + mbc6FlashProgramBlockBytes then
      match lastWritten block (i - base) with
      | some value => before[i] &&& value
      | none => before[i]
    else before[i]

/-- What a step of the chip with a history does to the main flash. -/
def MainChange (history : List Mbc6FlashEvent) (f f' : Mbc6Flash) : Prop :=
  f'.flash = f.flash ∨
    (ErasesChip history ∧ ∀ i (hi : i < mbc6FlashBytes), f'.flash[i] =
      if i < mbc6FlashSectorBytes ∧ f.sector0Guarded = true then f.flash[i] else 0xFF) ∨
    (∃ offset, ErasesSector history offset ∧ ∀ i (hi : i < mbc6FlashBytes), f'.flash[i] =
      if i / mbc6FlashSectorBytes = offset / mbc6FlashSectorBytes % mbc6FlashSectorCount then 0xFF
      else f.flash[i]) ∨
    ∃ block base, ProgramsMain history block base ∧ mbc6FlashProgramBlockBytes ∣ base ∧
      Programmed block base f.flash f'.flash

/-- What it does to the hidden region. -/
def HiddenChange (history : List Mbc6FlashEvent) (f f' : Mbc6Flash) : Prop :=
  f'.hiddenRegion = f.hiddenRegion ∨
    (ErasesHidden history ∧ f'.hiddenRegion = Vector.replicate mbc6HiddenBytes 0xFF) ∨
    ∃ block base, ProgramsHidden history block base ∧ mbc6FlashProgramBlockBytes ∣ base ∧
      Programmed block base f.hiddenRegion f'.hiddenRegion

/-! ## The mode and the history -/

/-- The state of a program command after some writes. -/
structure Collects (target : Mbc6ProgramTarget) (data : List (Nat × U8))
    (state : Mbc6ProgramState) : Prop where
  target_eq : state.target = target
  noReset : ∀ w ∈ data, w.2 ≠ 0xF0
  block : ∀ base, state.blockBase = some base → ∃ block, block <:+ data ∧
    (∀ w ∈ block, programBlockBase target w.1 = base) ∧
    (∀ i, i < mbc6FlashProgramBlockBytes →
      state.written[i]?.getD false = (lastWritten block i).isSome) ∧
    (∀ i value, i < mbc6FlashProgramBlockBytes → lastWritten block i = some value →
      state.buffer[i]?.getD 0xFF = value) ∧
    (state.finalByteSeen = true →
      ∃ w ∈ block, programByteOffset w.1 = mbc6FlashProgramBlockBytes - 1)

/-- What the history ends with in each mode. -/
def Tracks (history : List Mbc6FlashEvent) : Mbc6FlashMode → Prop
  | .awaitUnlock2 => [.cycle mbc6FlashUnlockAaOffset 0xAA] <:+ history
  | .awaitCommand => unlock <:+ history
  | .eraseAwaitUnlock1 => ∃ x, unlock ++ [.cycle x 0x80] <:+ history
  | .eraseAwaitUnlock2 =>
      ∃ x, unlock ++ [.cycle x 0x80, .cycle mbc6FlashUnlockAaOffset 0xAA] <:+ history
  | .eraseAwaitCommand => ∃ x, unlock ++ .cycle x 0x80 :: unlock <:+ history
  | .extendedAwaitUnlock1 => ∃ x, unlock ++ [.cycle x 0x60] <:+ history
  | .extendedAwaitUnlock2 =>
      ∃ x, unlock ++ [.cycle x 0x60, .cycle mbc6FlashUnlockAaOffset 0xAA] <:+ history
  | .extendedAwaitCommand => ∃ x, unlock ++ .cycle x 0x60 :: unlock <:+ history
  | .program state =>
      ∃ x data, unlock ++ .cycle x 0xA0 :: cycles data <:+ history ∧
        Collects .mainFlash data state
  | .hiddenProgram state =>
      ∃ x y data, extendedSequence x (.cycle y 0xE0) ++ cycles data <:+ history ∧
        Collects .hiddenRegion data state
  | _ => True

theorem suffix_concat {s history : List Mbc6FlashEvent} (h : s <:+ history)
    (event : Mbc6FlashEvent) : s ++ [event] <:+ history ++ [event] := by
  obtain ⟨before, rfl⟩ := h
  exact ⟨before, (List.append_assoc ..).symm⟩

theorem tracks_restartOrIdle (history : List Mbc6FlashEvent) (offset : Nat) (value : U8) :
    Tracks (history ++ [.cycle offset value]) (restartOrIdle offset value) := by
  unfold restartOrIdle
  split
  · rename_i haa
    obtain ⟨rfl, rfl⟩ := of_decide_eq_true haa
    exact List.suffix_append ..
  · trivial

/-! ## Erasing -/

theorem getElem_fillErased {n : Nat} (bytes : Vector U8 n) (start count : Nat) {i : Nat}
    (hi : i < n) : (fillErased bytes start count)[i] =
      if start ≤ i ∧ i < start + count then 0xFF else bytes[i] := by
  unfold fillErased
  rw [Vector.getElem_ofFn]
  rfl

theorem getElem_eraseSectorIndex (f : Mbc6Flash) (sector : Nat) {i : Nat}
    (hi : i < mbc6FlashBytes) : (f.eraseSectorIndex sector).flash[i] =
      if i / mbc6FlashSectorBytes = sector then 0xFF else f.flash[i] := by
  unfold eraseSectorIndex
  rw [getElem_fillErased _ _ _ hi]
  have hsector : (sector * mbc6FlashSectorBytes ≤ i ∧
      i < sector * mbc6FlashSectorBytes + mbc6FlashSectorBytes) ↔
        i / mbc6FlashSectorBytes = sector := by
    unfold mbc6FlashSectorBytes
    omega
  simp only [hsector]

theorem sector0Guarded_eraseSectorIndex (f : Mbc6Flash) (sector : Nat) :
    (f.eraseSectorIndex sector).sector0Guarded = f.sector0Guarded := by
  unfold sector0Guarded eraseSectorIndex
  rfl

theorem hiddenRegion_eraseSectorIndex (f : Mbc6Flash) (sector : Nat) :
    (f.eraseSectorIndex sector).hiddenRegion = f.hiddenRegion := by
  unfold eraseSectorIndex
  rfl

theorem mainChange_eraseSector {history : List Mbc6FlashEvent} {offset : Nat}
    (h : ErasesSector history offset) (f : Mbc6Flash) :
    MainChange history f (f.eraseSector offset) := by
  unfold eraseSector
  dsimp only
  split
  · exact Or.inl rfl
  · exact Or.inr (Or.inr (Or.inl ⟨offset, h, fun i hi => getElem_eraseSectorIndex f _ hi⟩))

/-- The loop over the sectors, up to one of them. -/
theorem eraseChip_loop (f : Mbc6Flash) (n : Nat) :
    let f' := (List.range n).foldl
      (fun f sector =>
        if sector = 0 ∧ f.sector0Guarded = true then f else f.eraseSectorIndex sector) f
    f'.sector0Guarded = f.sector0Guarded ∧ f'.hiddenRegion = f.hiddenRegion ∧
      ∀ i (hi : i < mbc6FlashBytes), f'.flash[i] =
        if i / mbc6FlashSectorBytes < n ∧
            ¬(i < mbc6FlashSectorBytes ∧ f.sector0Guarded = true) then 0xFF
        else f.flash[i] := by
  induction n with
  | zero =>
      refine ⟨rfl, rfl, ?_⟩
      intro i hi
      rw [if_neg fun h => Nat.not_lt_zero _ h.1]
      rfl
  | succ n ih =>
      obtain ⟨hguarded, hhidden, hflash⟩ := ih
      dsimp only at hguarded hhidden hflash ⊢
      rw [List.range_succ, List.foldl_append, List.foldl_cons, List.foldl_nil]
      generalize (List.range n).foldl _ f = g at hguarded hhidden hflash ⊢
      rw [hguarded]
      have hzero : ∀ i, i / mbc6FlashSectorBytes = 0 ↔ i < mbc6FlashSectorBytes :=
        fun i => Nat.div_eq_zero_iff_lt (by decide)
      split
      · rename_i hskip
        refine ⟨hguarded, hhidden, ?_⟩
        intro i hi
        have hfirst := hzero i
        rw [hflash i hi, hskip.1]
        generalize i / mbc6FlashSectorBytes = sector at hfirst ⊢
        rw [if_neg fun h => Nat.not_lt_zero _ h.1, if_neg]
        rintro ⟨hlt, hother⟩
        exact hother ⟨hfirst.mp (by omega), hskip.2⟩
      · rename_i herase
        refine ⟨(sector0Guarded_eraseSectorIndex g n).trans hguarded,
          (hiddenRegion_eraseSectorIndex g n).trans hhidden, ?_⟩
        intro i hi
        have hfirst := hzero i
        rw [getElem_eraseSectorIndex g n hi, hflash i hi]
        generalize i / mbc6FlashSectorBytes = sector at hfirst ⊢
        by_cases hhere : sector = n
        · rw [if_pos hhere, if_pos]
          refine ⟨by omega, ?_⟩
          rintro ⟨hlt, hset⟩
          exact herase ⟨hhere.symm.trans (hfirst.mpr hlt), hset⟩
        · rw [if_neg hhere]
          by_cases herased : sector < n ∧ ¬(i < mbc6FlashSectorBytes ∧ f.sector0Guarded = true)
          · rw [if_pos herased, if_pos ⟨by omega, herased.2⟩]
          · rw [if_neg herased, if_neg fun h => herased ⟨by omega, h.2⟩]

theorem eraseChip_spec (f : Mbc6Flash) :
    f.eraseChip.hiddenRegion = f.hiddenRegion ∧
      ∀ i (hi : i < mbc6FlashBytes), f.eraseChip.flash[i] =
        if i < mbc6FlashSectorBytes ∧ f.sector0Guarded = true then f.flash[i] else 0xFF := by
  obtain ⟨-, hhidden, hflash⟩ := eraseChip_loop f mbc6FlashSectorCount
  refine ⟨hhidden, ?_⟩
  intro i hi
  have hsector : i / mbc6FlashSectorBytes < mbc6FlashSectorCount :=
    Nat.div_lt_of_lt_mul (Nat.lt_of_lt_of_le hi (by decide))
  refine (hflash i hi).trans ?_
  by_cases hguarded : i < mbc6FlashSectorBytes ∧ f.sector0Guarded = true
  · rw [if_neg (fun hall => hall.2 hguarded), if_pos hguarded]
  · rw [if_pos ⟨hsector, hguarded⟩, if_neg hguarded]

/-! ## Programming -/

theorem lastWritten_concat (block : List (Nat × U8)) (w : Nat × U8) (i : Nat) :
    lastWritten (block ++ [w]) i =
      if programByteOffset w.1 = i then some w.2 else lastWritten block i := by
  unfold lastWritten
  rw [List.map_append, Overlay.last_append, List.map_singleton, Overlay.last_singleton]
  split <;> rfl

/-- The loop over a block, up to one of its bytes. -/
theorem commitBlock_loop {n : Nat} (state : Mbc6ProgramState) (base : Nat) (bytes : Vector U8 n)
    (count : Nat) {i : Nat} (hi : i < n) :
    ((List.range count).foldl
      (fun bytes index =>
        if state.written[index]?.getD false then
          bytes.setIfInBounds (base + index)
            (bytes[base + index]?.getD 0xFF &&& state.buffer[index]?.getD 0xFF)
        else bytes) bytes)[i] =
      if base ≤ i ∧ i < base + count ∧ state.written[i - base]?.getD false = true then
        bytes[i] &&& state.buffer[i - base]?.getD 0xFF
      else bytes[i] := by
  induction count with
  | zero =>
      rw [if_neg (by omega)]
      rfl
  | succ count ih =>
      rw [List.range_succ, List.foldl_append, List.foldl_cons, List.foldl_nil]
      generalize (List.range count).foldl _ bytes = loop at ih ⊢
      by_cases hhere : i = base + count
      · subst hhere
        rw [if_neg (by omega)] at ih
        have hread : loop[base + count]?.getD 0xFF = bytes[base + count] := by
          rw [Vector.getElem?_eq_getElem hi, Option.getD_some, ih]
        rw [Nat.add_sub_cancel_left]
        by_cases hwritten : state.written[count]?.getD false = true
        · simp only [if_pos hwritten]
          rw [Vector.getElem_setIfInBounds hi, if_pos rfl, hread,
            if_pos ⟨by omega, by omega, hwritten⟩]
        · simp only [if_neg hwritten]
          exact ih.trans (if_neg fun h => hwritten h.2.2).symm
      · have hrange : i < base + (count + 1) ↔ i < base + count := by omega
        simp only [hrange]
        rw [← ih]
        split
        · rw [Vector.getElem_setIfInBounds hi, if_neg (by omega)]
        · rfl

/-- What a state has collected is what its commit clears. -/
theorem programmed_commitBlock {n : Nat} {state : Mbc6ProgramState} {block : List (Nat × U8)}
    (hwritten : ∀ i, i < mbc6FlashProgramBlockBytes →
      state.written[i]?.getD false = (lastWritten block i).isSome)
    (hbuffer : ∀ i value, i < mbc6FlashProgramBlockBytes → lastWritten block i = some value →
      state.buffer[i]?.getD 0xFF = value) (base : Nat) (bytes : Vector U8 n) :
    Programmed block base bytes (commitBlock state base bytes) := by
  intro i hi
  unfold commitBlock
  rw [commitBlock_loop state base bytes _ hi]
  by_cases hrange : base ≤ i ∧ i < base + mbc6FlashProgramBlockBytes
  · have hindex : i - base < mbc6FlashProgramBlockBytes := by omega
    rw [if_pos hrange, hwritten _ hindex]
    cases hlast : lastWritten block (i - base) with
    | none => rw [if_neg (by simp)]
    | some value =>
        rw [if_pos ⟨hrange.1, hrange.2, rfl⟩, hbuffer _ value hindex hlast]
  · rw [if_neg hrange, if_neg (fun h => hrange ⟨h.1, h.2.1⟩)]

theorem collects_empty (target : Mbc6ProgramTarget) : Collects target [] (.empty target) where
  target_eq := rfl
  noReset := by
    rintro w ⟨⟩
  block := by
    rintro base ⟨⟩

theorem programByteOffset_lt (offset : Nat) :
    programByteOffset offset < mbc6FlashProgramBlockBytes :=
  Nat.mod_lt _ (by decide)

/-- The block that a write goes to: the one under way, or one that starts with the write. -/
theorem Collects.selectBlock {target : Mbc6ProgramTarget} {data : List (Nat × U8)}
    {state : Mbc6ProgramState} (h : Collects target data state) (f : Mbc6Flash) (base : Nat) :
    ∃ block, block <:+ data ∧ (∀ w ∈ block, programBlockBase target w.1 = base) ∧
      (∀ i, i < mbc6FlashProgramBlockBytes →
        (f.selectBlock state base).written[i]?.getD false = (lastWritten block i).isSome) ∧
      (∀ i value, i < mbc6FlashProgramBlockBytes → lastWritten block i = some value →
        (f.selectBlock state base).buffer[i]?.getD 0xFF = value) ∧
      ((f.selectBlock state base).finalByteSeen = true →
        ∃ w ∈ block, programByteOffset w.1 = mbc6FlashProgramBlockBytes - 1) ∧
      (f.selectBlock state base).target = target ∧
      (f.selectBlock state base).blockBase = some base := by
  unfold Mbc6Flash.selectBlock
  by_cases hbase : state.blockBase = some base
  · rw [if_neg (not_not.mpr hbase)]
    obtain ⟨block, hends, hin, hwritten, hbuffer, hfinal⟩ := h.block base hbase
    exact ⟨block, hends, hin, hwritten, hbuffer, hfinal, h.target_eq, hbase⟩
  · rw [if_pos hbase]
    refine ⟨[], List.nil_suffix, ?_, ?_, ?_, ?_, h.target_eq, rfl⟩
    · rintro w ⟨⟩
    · intro i hi
      rw [Vector.getElem?_replicate, if_pos hi]
      rfl
    · rintro i value hi ⟨⟩
    · rintro ⟨⟩

/-- One write of a program command: it goes on, or the block is complete and is committed. -/
theorem Collects.programWrite {target : Mbc6ProgramTarget} {data : List (Nat × U8)}
    {state : Mbc6ProgramState} (h : Collects target data state) (f : Mbc6Flash) (offset : Nat)
    {value : U8} (hvalue : value ≠ 0xF0) :
    (∃ state', f.programWrite state offset value = .inl state' ∧
      Collects target (data ++ [(offset, value)]) state') ∨
    ∃ block state', CompletesBlock target (data ++ [(offset, value)]) block
        (programBlockBase target offset) ∧ state'.target = target ∧
      f.programWrite state offset value =
        .inr (f.commitProgramBuffer state' (programBlockBase target offset)) ∧
      ∀ {n : Nat} (bytes : Vector U8 n), Programmed block (programBlockBase target offset) bytes
        (commitBlock state' (programBlockBase target offset) bytes) := by
  obtain ⟨block, hends, hin, hwritten, hbuffer, hfinal, htarget, hbase⟩ :=
    h.selectBlock f (programBlockBase target offset)
  have hreset : ∀ w ∈ data ++ [(offset, value)], w.2 ≠ 0xF0 := by
    intro w hw
    rcases List.mem_append.mp hw with hw | hw
    · exact h.noReset w hw
    · rw [List.mem_singleton.mp hw]
      exact hvalue
  have hinBlock : ∀ w ∈ block ++ [(offset, value)],
      programBlockBase target w.1 = programBlockBase target offset := by
    intro w hw
    rcases List.mem_append.mp hw with hw | hw
    · exact hin w hw
    · rw [List.mem_singleton.mp hw]
  have hendsWrite : block ++ [(offset, value)] <:+ data ++ [(offset, value)] := by
    obtain ⟨before, rfl⟩ := hends
    exact ⟨before, (List.append_assoc ..).symm⟩
  unfold Mbc6Flash.programWrite
  dsimp only
  rw [h.target_eq]
  generalize f.selectBlock state (programBlockBase target offset) = selected at *
  have hlt := programByteOffset_lt offset
  have hwritten' : ∀ i, i < mbc6FlashProgramBlockBytes →
      (selected.written.setIfInBounds (programByteOffset offset) true)[i]?.getD false =
        (lastWritten (block ++ [(offset, value)]) i).isSome := by
    intro i hi
    rw [lastWritten_concat, Vector.getElem?_setIfInBounds, if_pos hlt]
    split
    · rfl
    · exact hwritten i hi
  have hbuffer' : ∀ i v, i < mbc6FlashProgramBlockBytes →
      lastWritten (block ++ [(offset, value)]) i = some v →
      (selected.buffer.setIfInBounds (programByteOffset offset) value)[i]?.getD 0xFF = v := by
    intro i v hi hlast
    rw [lastWritten_concat] at hlast
    rw [Vector.getElem?_setIfInBounds, if_pos hlt]
    split
    · rename_i heq
      rw [if_pos heq] at hlast
      exact Option.some.inj hlast
    · rename_i hne
      rw [if_neg hne] at hlast
      exact hbuffer i v hi hlast
  by_cases hlast : programByteOffset offset = mbc6FlashProgramBlockBytes - 1
  · rw [if_neg (not_not.mpr hlast)]
    split
    · rename_i hseen
      refine Or.inr ⟨block ++ [(offset, value)], { selected with
          buffer := selected.buffer.setIfInBounds (programByteOffset offset) value
          written := selected.written.setIfInBounds (programByteOffset offset) true },
        ⟨hreset, hendsWrite, hinBlock, ?_⟩, htarget, rfl, fun bytes => ?_⟩
      · exact ⟨block, (offset, value), rfl, hlast, hfinal hseen⟩
      · exact programmed_commitBlock hwritten' hbuffer' _ bytes
    · refine Or.inl ⟨_, rfl, htarget, hreset, ?_⟩
      intro base hsome
      cases hbase.symm.trans hsome
      exact ⟨_, hendsWrite, hinBlock, hwritten', hbuffer',
        fun _ => ⟨_, List.mem_append_right _ (List.mem_singleton_self _), hlast⟩⟩
  · rw [if_pos hlast]
    refine Or.inl ⟨_, rfl, htarget, hreset, ?_⟩
    intro base hsome
    cases hbase.symm.trans hsome
    refine ⟨_, hendsWrite, hinBlock, hwritten', hbuffer', ?_⟩
    intro hseen
    obtain ⟨w, hw, hwlast⟩ := hfinal hseen
    exact ⟨w, List.mem_append_left _ hw, hwlast⟩

/-! ## One cycle -/

/-- What one cycle does, in terms of the history that it ends. -/
structure Obeys (history : List Mbc6FlashEvent) (f f' : Mbc6Flash) : Prop where
  tracks : Tracks history f'.flashMode
  main : MainChange history f f'
  hidden : HiddenChange history f f'
  sector0 : f.sector0Guarded = true → ∀ i (hi : i < mbc6FlashBytes), i < mbc6FlashSectorBytes →
    f'.flash[i] = f.flash[i]
  hiddenGuarded : f.flashWriteEnabled = false → f'.hiddenRegion = f.hiddenRegion

/-- A cycle that changes the mode alone. -/
theorem obeys_mode {history : List Mbc6FlashEvent} (f : Mbc6Flash) {mode : Mbc6FlashMode}
    (h : Tracks history mode) : Obeys history f { f with flashMode := mode } where
  tracks := h
  main := Or.inl rfl
  hidden := Or.inl rfl
  sector0 _ _ _ _ := rfl
  hiddenGuarded _ := rfl

/-- A command that is taken leaves a status, whatever else it does. -/
theorem obeys_finish {history : List Mbc6FlashEvent} {f g : Mbc6Flash}
    (hmain : MainChange history f g) (hhidden : HiddenChange history f g)
    (hsector0 : f.sector0Guarded = true → ∀ i (hi : i < mbc6FlashBytes),
      i < mbc6FlashSectorBytes → g.flash[i] = f.flash[i])
    (hguarded : f.flashWriteEnabled = false → g.hiddenRegion = f.hiddenRegion)
    (source : Mbc6FlashStatusSource) : Obeys history f (g.finish source) where
  tracks := trivial
  main := hmain
  hidden := hhidden
  sector0 := hsector0
  hiddenGuarded := hguarded

theorem obeys_eraseChip {history : List Mbc6FlashEvent} (h : ErasesChip history) (f : Mbc6Flash) :
    Obeys history f (f.eraseChip.finish .erase) := by
  obtain ⟨hhidden, hflash⟩ := eraseChip_spec f
  refine obeys_finish (Or.inr (Or.inl ⟨h, hflash⟩)) (Or.inl hhidden) ?_ (fun _ => hhidden) .erase
  intro hguarded i hi hlt
  rw [hflash i hi, if_pos ⟨hlt, hguarded⟩]

theorem obeys_eraseSector {history : List Mbc6FlashEvent} {offset : Nat}
    (h : ErasesSector history offset) (f : Mbc6Flash) :
    Obeys history f ((f.eraseSector offset).finish .erase) := by
  have hhidden : (f.eraseSector offset).hiddenRegion = f.hiddenRegion := by
    unfold eraseSector
    dsimp only
    split
    · rfl
    · exact hiddenRegion_eraseSectorIndex f _
  refine obeys_finish (mainChange_eraseSector h f) (Or.inl hhidden) ?_ (fun _ => hhidden) .erase
  intro hguarded i hi hlt
  unfold eraseSector
  dsimp only
  split
  · rfl
  · rename_i hother
    have hsector : i / mbc6FlashSectorBytes = 0 := Nat.div_eq_of_lt hlt
    rw [getElem_eraseSectorIndex f _ hi, hsector, if_neg]
    exact fun heq => hother ⟨heq.symm, hguarded⟩

theorem obeys_executeEraseCommand {history : List Mbc6FlashEvent} {x : Nat}
    (h : unlock ++ .cycle x 0x80 :: unlock <:+ history) (f : Mbc6Flash) (offset : Nat)
    (value : U8) :
    Obeys (history ++ [.cycle offset value]) f (f.executeEraseCommand offset value) := by
  have hends := suffix_concat h (.cycle offset value)
  unfold executeEraseCommand
  split
  · rename_i hchip
    obtain ⟨rfl, rfl⟩ := hchip
    exact obeys_eraseChip ⟨x, hends⟩ f
  · split
    · rename_i hsector
      subst hsector
      exact obeys_eraseSector ⟨x, hends⟩ f
    · exact obeys_mode f (tracks_restartOrIdle history offset value)

theorem obeys_executeExtendedCommand {history : List Mbc6FlashEvent} {x : Nat}
    (h : unlock ++ .cycle x 0x60 :: unlock <:+ history) (f : Mbc6Flash) (offset : Nat)
    (value : U8) :
    Obeys (history ++ [.cycle offset value]) f (f.executeExtendedCommand value) := by
  have hends := suffix_concat h (.cycle offset value)
  unfold executeExtendedCommand
  split
  · rename_i herase
    subst herase
    split
    · rename_i henabled
      refine ⟨trivial, Or.inl rfl, Or.inr (Or.inl ⟨⟨x, offset, hends⟩, rfl⟩),
        fun _ _ _ _ => rfl, ?_⟩
      intro hdisabled
      rw [henabled] at hdisabled
      cases hdisabled
    · exact obeys_mode f trivial
  · split
    · rename_i hprogram
      subst hprogram
      split
      · refine obeys_mode f ⟨x, offset, [], ?_, collects_empty _⟩
        rw [show cycles [] = [] from rfl, List.append_nil]
        exact hends
      · exact obeys_mode f trivial
    · split
      · split
        · exact ⟨trivial, Or.inl rfl, Or.inl rfl, fun _ _ _ _ => rfl, fun _ => rfl⟩
        · exact obeys_mode f trivial
      · split
        · split
          · exact ⟨trivial, Or.inl rfl, Or.inl rfl, fun _ _ _ _ => rfl, fun _ => rfl⟩
          · exact obeys_mode f trivial
        · exact obeys_mode f trivial

theorem tracks_executePrimaryCommand {history : List Mbc6FlashEvent} (h : unlock <:+ history)
    (offset : Nat) (value : U8) :
    Tracks (history ++ [.cycle offset value]) (executePrimaryCommand offset value) := by
  have hends := suffix_concat h (.cycle offset value)
  unfold executePrimaryCommand
  split
  · rename_i hvalue
    subst hvalue
    exact ⟨offset, hends⟩
  · split
    · trivial
    · split
      · rename_i hvalue
        subst hvalue
        exact ⟨offset, [], hends, collects_empty _⟩
      · split
        · rename_i hvalue
          subst hvalue
          exact ⟨offset, hends⟩
        · split
          · trivial
          · exact tracks_restartOrIdle history offset value

theorem dvd_programBlockBase (target : Mbc6ProgramTarget) (offset : Nat) :
    mbc6FlashProgramBlockBytes ∣ programBlockBase target offset := by
  cases target with
  | mainFlash => exact Nat.dvd_mul_left ..
  | hiddenRegion => exact Nat.dvd_mul_left ..

theorem suffix_cycles {before history : List Mbc6FlashEvent} {data : List (Nat × U8)}
    (h : before ++ cycles data <:+ history) (offset : Nat) (value : U8) :
    before ++ cycles (data ++ [(offset, value)]) <:+ history ++ [.cycle offset value] := by
  have hends := suffix_concat h (.cycle offset value)
  unfold cycles at hends ⊢
  rw [List.map_append, ← List.append_assoc]
  exact hends

/-- A write of a program command for the main flash. -/
theorem obeys_program {history : List Mbc6FlashEvent} {x : Nat} {data : List (Nat × U8)}
    {state : Mbc6ProgramState} (hends : unlock ++ .cycle x 0xA0 :: cycles data <:+ history)
    (hcollects : Collects .mainFlash data state) (f : Mbc6Flash) (offset : Nat) {value : U8}
    (hvalue : value ≠ 0xF0) :
    Obeys (history ++ [.cycle offset value]) f
      (match f.programWrite state offset value with
      | .inl state => { f with flashMode := .program state }
      | .inr f => f.finish .program) := by
  have hends' : unlock ++ .cycle x 0xA0 :: cycles (data ++ [(offset, value)]) <:+
      history ++ [.cycle offset value] := by
    have h : (unlock ++ [.cycle x 0xA0]) ++ cycles data <:+ history := by
      rw [List.append_assoc]
      exact hends
    have h' := suffix_cycles h offset value
    rw [List.append_assoc] at h'
    exact h'
  rcases hcollects.programWrite f offset hvalue with
    ⟨state', hgoes, hcollects'⟩ | ⟨block, state', hcompletes, htarget, hdone, hprogrammed⟩
  · rw [hgoes]
    exact obeys_mode f ⟨x, _, hends', hcollects'⟩
  · rw [hdone]
    dsimp only
    have hdvd := dvd_programBlockBase .mainFlash offset
    generalize programBlockBase Mbc6ProgramTarget.mainFlash offset = base at *
    unfold commitProgramBuffer
    rw [htarget]
    dsimp only
    split
    · exact ⟨trivial, Or.inl rfl, Or.inl rfl, fun _ _ _ _ => rfl, fun _ => rfl⟩
    · rename_i hopen
      refine ⟨trivial, Or.inr (Or.inr (Or.inr ⟨block, base, ⟨x, _, hends', hcompletes⟩, hdvd,
        hprogrammed f.flash⟩)), Or.inl rfl, ?_, fun _ => rfl⟩
      intro hguarded i hi hlt
      have hbase : ¬ base < mbc6FlashSectorBytes := fun h => hopen ⟨h, hguarded⟩
      exact (hprogrammed f.flash i hi).trans (if_neg (by omega))

/-- A write of a program command for the hidden region. -/
theorem obeys_hiddenProgram {history : List Mbc6FlashEvent} {x y : Nat}
    {data : List (Nat × U8)} {state : Mbc6ProgramState}
    (hends : extendedSequence x (.cycle y 0xE0) ++ cycles data <:+ history)
    (hcollects : Collects .hiddenRegion data state) (f : Mbc6Flash) (offset : Nat) {value : U8}
    (hvalue : value ≠ 0xF0) :
    Obeys (history ++ [.cycle offset value]) f
      (match f.programWrite state offset value with
      | .inl state => { f with flashMode := .hiddenProgram state }
      | .inr f => f.finish .program) := by
  have hends' := suffix_cycles hends offset value
  rcases hcollects.programWrite f offset hvalue with
    ⟨state', hgoes, hcollects'⟩ | ⟨block, state', hcompletes, htarget, hdone, hprogrammed⟩
  · rw [hgoes]
    exact obeys_mode f ⟨x, y, _, hends', hcollects'⟩
  · rw [hdone]
    unfold commitProgramBuffer
    rw [htarget]
    dsimp only
    split
    · exact ⟨trivial, Or.inl rfl, Or.inl rfl, fun _ _ _ _ => rfl, fun _ => rfl⟩
    · rename_i henabled
      refine ⟨trivial, Or.inl rfl, Or.inr (Or.inr ⟨block, _, ⟨x, y, _, hends', hcompletes⟩,
        dvd_programBlockBase _ _, hprogrammed f.hiddenRegion⟩), fun _ _ _ _ => rfl, ?_⟩
      intro hdisabled
      rw [hdisabled] at henabled
      exact absurd rfl henabled

/-- A cycle that should be an unlock cycle, and is not, starts over. -/
theorem obeys_unlockAa {history : List Mbc6FlashEvent} (f : Mbc6Flash) (offset : Nat) (value : U8)
    {mode : Mbc6FlashMode}
    (h : Tracks (history ++ [.cycle mbc6FlashUnlockAaOffset 0xAA]) mode) :
    Obeys (history ++ [.cycle offset value]) f
      { f with
        flashMode := if isUnlockAa offset value then mode else restartOrIdle offset value } := by
  apply obeys_mode
  split
  · rename_i haa
    obtain ⟨rfl, rfl⟩ := of_decide_eq_true haa
    exact h
  · exact tracks_restartOrIdle history offset value

theorem obeys_unlock55 {history : List Mbc6FlashEvent} (f : Mbc6Flash) (offset : Nat) (value : U8)
    {mode : Mbc6FlashMode}
    (h : Tracks (history ++ [.cycle mbc6FlashUnlock55Offset 0x55]) mode) :
    Obeys (history ++ [.cycle offset value]) f
      { f with
        flashMode := if isUnlock55 offset value then mode else restartOrIdle offset value } := by
  apply obeys_mode
  split
  · rename_i h55
    obtain ⟨rfl, rfl⟩ := of_decide_eq_true h55
    exact h
  · exact tracks_restartOrIdle history offset value

/-- Every cycle, in every mode. -/
theorem obeys_writeFlash {history : List Mbc6FlashEvent} {f : Mbc6Flash}
    (h : Tracks history f.flashMode) (offset : Nat) (value : U8) :
    Obeys (history ++ [.cycle offset value]) f (f.writeFlash offset value) := by
  unfold writeFlash
  by_cases hreset : value = 0xF0
  · rw [if_pos hreset]
    exact obeys_mode f trivial
  rw [if_neg hreset]
  generalize hmode : f.flashMode = mode at h
  cases mode with
  | readArray | idMode | hiddenReadMode | status =>
      exact obeys_mode f (tracks_restartOrIdle history offset value)
  | awaitUnlock2 => exact obeys_unlock55 f offset value (suffix_concat h _)
  | awaitCommand => exact obeys_mode f (tracks_executePrimaryCommand h offset value)
  | eraseAwaitUnlock1 =>
      obtain ⟨x, hends⟩ := h
      exact obeys_unlockAa f offset value ⟨x, suffix_concat hends _⟩
  | eraseAwaitUnlock2 =>
      obtain ⟨x, hends⟩ := h
      exact obeys_unlock55 f offset value ⟨x, suffix_concat hends _⟩
  | eraseAwaitCommand =>
      obtain ⟨x, hends⟩ := h
      exact obeys_executeEraseCommand hends f offset value
  | extendedAwaitUnlock1 =>
      obtain ⟨x, hends⟩ := h
      exact obeys_unlockAa f offset value ⟨x, suffix_concat hends _⟩
  | extendedAwaitUnlock2 =>
      obtain ⟨x, hends⟩ := h
      exact obeys_unlock55 f offset value ⟨x, suffix_concat hends _⟩
  | extendedAwaitCommand =>
      obtain ⟨x, hends⟩ := h
      exact obeys_executeExtendedCommand hends f offset value
  | hiddenReadAwaitUnlock1 => exact obeys_unlockAa f offset value trivial
  | hiddenReadAwaitUnlock2 => exact obeys_unlock55 f offset value trivial
  | hiddenReadAwaitCommand =>
      apply obeys_mode
      split
      · trivial
      · exact tracks_restartOrIdle history offset value
  | program state =>
      obtain ⟨x, data, hends, hcollects⟩ := h
      exact obeys_program hends hcollects f offset hreset
  | hiddenProgram state =>
      obtain ⟨x, y, data, hends, hcollects⟩ := h
      exact obeys_hiddenProgram hends hcollects f offset hreset

/-- A step of the chip, whether it is a cycle or not. -/
theorem obeys_step {history : List Mbc6FlashEvent} {f : Mbc6Flash}
    (h : Tracks history f.flashMode) (event : Mbc6FlashEvent) :
    Obeys (history ++ [event].filter Mbc6FlashEvent.inSequence) f (f.step event) := by
  cases event with
  | cycle offset value => exact obeys_writeFlash h offset value
  | switchedOff => exact obeys_mode f trivial
  | writeEnable enabled =>
      refine ⟨?_, Or.inl rfl, Or.inl rfl, fun _ _ _ _ => rfl, fun _ => rfl⟩
      rw [List.filter_singleton]
      show Tracks (history ++ []) f.flashMode
      rw [List.append_nil]
      exact h

end Mbc6Flash

/-! ## The cartridge -/

namespace Mbc6Cartridge

/-- A write of the processor, to the ROM or to the external RAM. -/
inductive CartridgeWrite where
  | rom (address : U16) (value : U8)
  | ram (address : U16) (value : U8)
  deriving Repr, DecidableEq

def write (c : Mbc6Cartridge) : CartridgeWrite → Mbc6Cartridge
  | .rom address value => c.writeRom address value
  | .ram address value => c.writeRam address value

def run (c : Mbc6Cartridge) (writes : List CartridgeWrite) : Mbc6Cartridge :=
  writes.foldl write c

/-- What a write to one of the two windows is for the flash chip. -/
def windowEvent (c : Mbc6Cartridge) (window : Mbc6Window) (windowOffset : Nat) (value : U8) :
    List Mbc6FlashEvent :=
  if c.flashEnabled = true ∧ c.windowSelect window = .flash then
    [.cycle (c.flashOffset window windowOffset) value]
  else []

/-- What a write is for the flash chip, if it is anything. -/
def flashEvent (c : Mbc6Cartridge) : CartridgeWrite → List Mbc6FlashEvent
  | .ram _ _ => []
  | .rom address value =>
      if address ≤ 0x0BFF then []
      else if address ≤ 0x0FFF then if value &&& 0x01 ≠ 0 then [] else [.switchedOff]
      else if address = 0x1000 then [.writeEnable (value &&& 0x01 ≠ 0)]
      else if address ≤ 0x3FFF then []
      else if address ≤ 0x5FFF then c.windowEvent .a (address.toNat - 0x4000) value
      else if address ≤ 0x7FFF then c.windowEvent .b (address.toNat - 0x6000) value
      else []

/-- The cycles of a run, through both windows. -/
def flashCycles (c : Mbc6Cartridge) : List CartridgeWrite → List Mbc6FlashEvent
  | [] => []
  | w :: writes =>
      (c.flashEvent w).filter Mbc6FlashEvent.inSequence ++ (c.write w).flashCycles writes

theorem chip_writeFlashWindow (c : Mbc6Cartridge) (window : Mbc6Window) (windowOffset : Nat)
    (value : U8) :
    (c.writeFlashWindow window windowOffset value).chip =
      (c.windowEvent window windowOffset value).foldl Mbc6Flash.step c.chip := by
  unfold writeFlashWindow windowEvent
  cases c.flashEnabled with
  | false => rfl
  | true =>
      cases c.windowSelect window with
      | rom => rfl
      | flash => rfl

/-- The chip sees of a write what it is for the chip. -/
theorem chip_write (c : Mbc6Cartridge) (w : CartridgeWrite) :
    (c.write w).chip = (c.flashEvent w).foldl Mbc6Flash.step c.chip := by
  cases w with
  | ram address value =>
      show (c.writeRam address value).chip = c.chip
      unfold writeRam
      split <;> rfl
  | rom address value =>
      show (c.writeRom address value).chip = _
      unfold writeRom flashEvent
      dsimp only
      by_cases hbanks : address ≤ 0x0BFF
      · simp only [hbanks, if_true, List.foldl_nil]
        split
        · rfl
        · split <;> rfl
      have hlow : ∀ limit : U16, limit ≤ 0x0BFF → ¬ address ≤ limit :=
        fun _ hlimit h => hbanks (BitVec.le_trans h hlimit)
      simp only [hbanks, hlow 0x03FF (by decide), hlow 0x07FF (by decide), if_false]
      by_cases hswitch : address ≤ 0x0FFF
      · simp only [hswitch, if_true]
        split <;> rfl
      simp only [hswitch, if_false]
      by_cases henable : address = 0x1000
      · simp only [henable, if_true]
        rfl
      simp only [henable, if_false]
      by_cases hselect : address ≤ 0x3FFF
      · simp only [hselect, if_true, List.foldl_nil]
        repeat' split
        all_goals rfl
      have hwindows : ∀ limit : U16, limit ≤ 0x3FFF → ¬ address ≤ limit :=
        fun _ hlimit h => hselect (BitVec.le_trans h hlimit)
      simp only [hselect, hwindows 0x1FFF (by decide), hwindows 0x27FF (by decide),
        hwindows 0x2FFF (by decide), hwindows 0x37FF (by decide), if_false]
      split
      · exact chip_writeFlashWindow ..
      · split
        · exact chip_writeFlashWindow ..
        · rfl

theorem flashEvent_cases (c : Mbc6Cartridge) (w : CartridgeWrite) :
    c.flashEvent w = [] ∨ ∃ event, c.flashEvent w = [event] := by
  have hwindow : ∀ window offset value, c.windowEvent window offset value = [] ∨
      ∃ event, c.windowEvent window offset value = [event] := by
    intro window offset value
    unfold windowEvent
    split
    · exact Or.inr ⟨_, rfl⟩
    · exact Or.inl rfl
  cases w with
  | ram address value => exact Or.inl rfl
  | rom address value =>
      unfold flashEvent
      dsimp only
      split
      · exact Or.inl rfl
      · split
        · split
          · exact Or.inl rfl
          · exact Or.inr ⟨_, rfl⟩
        · split
          · exact Or.inr ⟨_, rfl⟩
          · split
            · exact Or.inl rfl
            · split
              · exact hwindow ..
              · split
                · exact hwindow ..
                · exact Or.inl rfl

/-- One write. -/
theorem obeys_write {history : List Mbc6FlashEvent} {c : Mbc6Cartridge}
    (h : Mbc6Flash.Tracks history c.chip.flashMode) (w : CartridgeWrite) :
    Mbc6Flash.Obeys (history ++ (c.flashEvent w).filter Mbc6FlashEvent.inSequence) c.chip
      (c.write w).chip := by
  rw [chip_write]
  rcases flashEvent_cases c w with hnone | ⟨event, hevent⟩
  · rw [hnone, List.filter_nil, List.append_nil]
    exact Mbc6Flash.obeys_mode c.chip h
  · rw [hevent]
    exact Mbc6Flash.obeys_step h event

/-- A run of writes. -/
theorem tracks_run {history : List Mbc6FlashEvent} {c : Mbc6Cartridge}
    (h : Mbc6Flash.Tracks history c.chip.flashMode) (writes : List CartridgeWrite) :
    Mbc6Flash.Tracks (history ++ c.flashCycles writes) (c.run writes).chip.flashMode := by
  induction writes generalizing history c with
  | nil =>
      unfold flashCycles
      rw [List.append_nil]
      exact h
  | cons w writes ih =>
      unfold flashCycles
      rw [← List.append_assoc]
      exact ih (obeys_write h w).tracks

theorem flashCycles_concat (c : Mbc6Cartridge) (writes : List CartridgeWrite)
    (w : CartridgeWrite) : c.flashCycles (writes ++ [w]) =
      c.flashCycles writes ++ ((c.run writes).flashEvent w).filter Mbc6FlashEvent.inSequence := by
  induction writes generalizing c with
  | nil =>
      show _ ++ [] = [] ++ _
      rw [List.append_nil]
      rfl
  | cons first writes ih =>
      show _ ++ (c.write first).flashCycles (writes ++ [w]) = _
      rw [ih (c.write first), ← List.append_assoc]
      rfl

/-- A loaded cartridge with something in its flash. -/
def writtenCartridge (flash : Vector U8 mbc6FlashBytes) : Mbc6Cartridge :=
  let header : CartridgeHeader :=
    { nintendoLogo := [], titleBytes := [], title := [], cgbFlag := decodeCgbFlag 0x00
      cartridgeType := 0x20, romSize := .decode 0x05, ramSize := .decode 0x03
      destinationCode := 0x00 }
  let c := powerOn [] header (.supported 0x20 "MBC6" .mbc6)
  { c with chip := { c.chip with flash } }

/-- The flash is mapped into window A, and the cycles of an erase go through its banks 2 and 1. -/
def eraseWrites : List CartridgeWrite :=
  [.rom 0x0C00 0x01, .rom 0x2800 0x08, .rom 0x5555 0xAA, .rom 0x2000 0x01, .rom 0x4AAA 0x55,
    .rom 0x2000 0x02, .rom 0x5555 0x80, .rom 0x5555 0xAA, .rom 0x2000 0x01, .rom 0x4AAA 0x55,
    .rom 0x2000 0x20]

theorem mbc6FlashBankCount_eq : mbc6FlashBankCount = 128 := by decide

theorem mbc6FlashSectorCount_eq : mbc6FlashSectorCount = 8 := by decide

/-- The last cycle erases the third sector. -/
theorem eraseWrites_erase (flash : Vector U8 mbc6FlashBytes) :
    ((writtenCartridge flash).run eraseWrites).chip.flash = flash ∧
      (((writtenCartridge flash).run eraseWrites).write (.rom 0x4000 0x30)).chip.flash =
        fillErased flash (2 * mbc6FlashSectorBytes) mbc6FlashSectorBytes := by
  simp [writtenCartridge, powerOn, eraseWrites, run, write, writeRom, writeFlashWindow,
    windowSelect, flashOffset, effectiveRomFlashBank, mbc6FlashBankCount_eq,
    mbc6RomFlashBankBytes, Mbc6Flash.writeFlash, isUnlockAa, isUnlock55, mbc6FlashUnlockAaOffset,
    mbc6FlashUnlock55Offset, restartOrIdle, executePrimaryCommand,
    Mbc6Flash.executeEraseCommand, Mbc6Flash.eraseSector, Mbc6Flash.eraseSectorIndex,
    Mbc6Flash.finish, mbc6FlashSectorBytes, mbc6FlashSectorCount_eq]

/-- Whatever is written, through whichever window and with whatever between, a write changes the
main flash or the hidden region only where the cycles so far end with a whole sequence of one of
its commands, and then as that command says.  The hidden region and the first sector stay as they
are while writes are disabled, and the first sector while it is protected. -/
theorem flash_integrity {c : Mbc6Cartridge} (hidle : c.chip.flashMode = .readArray)
    (writes : List CartridgeWrite) (w : CartridgeWrite) :
    let before := (c.run writes).chip
    let after := ((c.run writes).write w).chip
    let history := c.flashCycles (writes ++ [w])
    Mbc6Flash.MainChange history before after ∧ Mbc6Flash.HiddenChange history before after ∧
      (before.flashWriteEnabled = false → after.hiddenRegion = before.hiddenRegion) ∧
      (before.flashWriteEnabled = false ∨ before.sector0Protected = true →
        ∀ i (hi : i < mbc6FlashBytes), i < mbc6FlashSectorBytes →
          after.flash[i] = before.flash[i]) ∧
      (¬ Mbc6Flash.Completes history →
        after.flash = before.flash ∧ after.hiddenRegion = before.hiddenRegion) := by
  intro before after history
  have hstart : Mbc6Flash.Tracks [] c.chip.flashMode := by
    rw [hidle]
    trivial
  have hobeys : Mbc6Flash.Obeys history before after := by
    have h := obeys_write (tracks_run hstart writes) w
    rw [List.nil_append, ← flashCycles_concat] at h
    exact h
  refine ⟨hobeys.main, hobeys.hidden, hobeys.hiddenGuarded, ?_, ?_⟩
  · intro hguarded
    apply hobeys.sector0
    unfold Mbc6Flash.sector0Guarded
    rcases hguarded with hdisabled | hprotected
    · rw [hdisabled]
      rfl
    · rw [hprotected, Bool.or_true]
  · intro hincomplete
    unfold Mbc6Flash.Completes at hincomplete
    refine ⟨?_, ?_⟩
    · rcases hobeys.main with hsame | ⟨h, -⟩ | ⟨offset, h, -⟩ | ⟨block, base, h, -⟩
      · exact hsame
      · exact absurd (Or.inl h) hincomplete
      · exact absurd (Or.inr (Or.inl ⟨offset, h⟩)) hincomplete
      · exact absurd (Or.inr (Or.inr (Or.inr (Or.inl ⟨block, base, h⟩)))) hincomplete
    · rcases hobeys.hidden with hsame | ⟨h, -⟩ | ⟨block, base, h, -⟩
      · exact hsame
      · exact absurd (Or.inr (Or.inr (Or.inl h))) hincomplete
      · exact absurd (Or.inr (Or.inr (Or.inr (Or.inr ⟨block, base, h⟩)))) hincomplete

theorem flash_integrity_erase :
    let c := writtenCartridge (Vector.replicate mbc6FlashBytes 0x5A)
    let before := (c.run eraseWrites).chip
    let after := ((c.run eraseWrites).write (.rom 0x4000 0x30)).chip
    let history := c.flashCycles (eraseWrites ++ [.rom 0x4000 0x30])
    Mbc6Flash.MainChange history before after ∧ Mbc6Flash.Completes history ∧
      before.flash[0x40000]? = some 0x5A ∧ after.flash[0x40000]? = some 0xFF := by
  intro c before after history
  obtain ⟨hmain, -, -, -, hincomplete⟩ :=
    flash_integrity (c := c) rfl eraseWrites (.rom 0x4000 0x30)
  have hin : 0x40000 < mbc6FlashBytes := by decide
  obtain ⟨hflash, herased⟩ := eraseWrites_erase (Vector.replicate mbc6FlashBytes 0x5A)
  have hbefore : before.flash[0x40000]? = some 0x5A := by
    rw [hflash, Vector.getElem?_eq_getElem hin, Vector.getElem_replicate]
  have hafter : after.flash[0x40000]? = some 0xFF := by
    rw [herased, Vector.getElem?_eq_getElem hin, Mbc6Flash.getElem_fillErased _ _ _ hin]
    exact congrArg some (if_pos (by decide))
  refine ⟨hmain, ?_, hbefore, hafter⟩
  by_contra h
  have hsame : after.flash = before.flash := (hincomplete h).1
  rw [hsame, hbefore] at hafter
  exact absurd hafter (by decide)

end Mbc6Cartridge

end GbCycle
