import GbCycle.Cartridge.Mmm01

/-!
# What a game of an MMM01 multicart can reach

The menu selects a game by writing the outer bank bits and the masks and then sets `mapped`.
From then on the outer bits, the masks and the two mode switches cannot be written, and a
write to one of the two low bank registers goes through a lock mask.  `Confined` says what is
left of the selection after any further accesses.  The banks that can still be shown are then
known exactly: the low area shows the base of the selected banks, the high area all others, and
only the bits the menu left open vary.
-/

namespace GbCycle

/-- An access that can change the cartridge. -/
inductive Mmm01Op where
  | writeRom (address : U16) (value : U8)
  | writeRam (address : U16) (value : U8)
  deriving Repr, DecidableEq

namespace Mmm01Cartridge

def step (c : Mmm01Cartridge) : Mmm01Op → Mmm01Cartridge
  | .writeRom address value => c.writeRom address value
  | .writeRam address value => c.writeRam address value

def run (ops : List Mmm01Op) (c : Mmm01Cartridge) : Mmm01Cartridge := ops.foldl step c

/-! ## The locked bits -/

/-- What `write_rom_bank_low` and `write_ram_bank_low` store. -/
theorem locked_update (old value lock : U8) :
    ((old &&& lock) ||| (value &&& ~~~lock)) &&& lock = old &&& lock := by
  ext i
  simp only [BitVec.getElem_and, BitVec.getElem_or, BitVec.getElem_not]
  cases old[i] <;> cases value[i] <;> cases lock[i] <;> rfl

/-- A value with the locked bits of the register is stored as it is. -/
theorem locked_update_eq {old value lock : U8} (h : value &&& lock = old &&& lock) :
    (old &&& lock) ||| (value &&& ~~~lock) = value := by
  rw [← h]
  ext i
  simp only [BitVec.getElem_and, BitVec.getElem_or, BitVec.getElem_not]
  cases value[i] <;> cases lock[i] <;> rfl

theorem locked_update_le {bound old value lock : U8} (hold : old &&& bound = old)
    (hvalue : value &&& bound = value) :
    ((old &&& lock) ||| (value &&& ~~~lock)) &&& bound =
      (old &&& lock) ||| (value &&& ~~~lock) := by
  rw [← hold, ← hvalue]
  ext i
  simp only [BitVec.getElem_and, BitVec.getElem_or, BitVec.getElem_not]
  cases old[i] <;> cases value[i] <;> cases lock[i] <;> cases bound[i] <;> rfl

/-! ## The registers of a reachable cartridge -/

/-- The bits the registers have.  `romBankMask` never has its lowest bit. -/
structure InRange (c : Mmm01Cartridge) : Prop where
  romBankLow : c.romBankLow &&& 0x1F = c.romBankLow
  romBankMid : c.romBankMid &&& 0x03 = c.romBankMid
  ramBankLow : c.ramBankLow &&& 0x03 = c.ramBankLow
  ramBankHigh : c.ramBankHigh &&& 0x03 = c.ramBankHigh
  ramBankMask : c.ramBankMask &&& 0x03 = c.ramBankMask
  romBankMask : c.romBankMask &&& 0x1E = c.romBankMask

theorem inRange_powerOn (rom : List U8) (header : CartridgeHeader)
    (classification : CartridgeClassification) (ramLen : Nat) :
    (powerOn rom header classification ramLen).InRange := by
  constructor <;> exact BitVec.zero_and

theorem InRange.whileUnmapped {c : Mmm01Cartridge} {update : Mmm01Cartridge → Mmm01Cartridge}
    (h : c.InRange) (hupdate : (update c).InRange) : (c.whileUnmapped update).InRange := by
  unfold Mmm01Cartridge.whileUnmapped
  split
  · exact hupdate
  · exact h

theorem or_zero (x : U8) : x ||| 0 = x := BitVec.or_zero

theorem zero_or (x : U8) : 0 ||| x = x := BitVec.zero_or

theorem and_and_self (x bound : U8) : (x &&& bound) &&& bound = x &&& bound := by
  rw [BitVec.and_assoc, BitVec.and_self]

theorem InRange.writeRomBankLow {c : Mmm01Cartridge} (h : c.InRange) (value : U8) :
    (c.writeRomBankLow (value &&& 0x1F)).InRange :=
  { h with romBankLow := locked_update_le h.romBankLow (and_and_self value 0x1F) }

theorem InRange.writeRamBankLow {c : Mmm01Cartridge} (h : c.InRange) (value : U8) :
    (c.writeRamBankLow (value &&& 0x03)).InRange :=
  { h with ramBankLow := locked_update_le h.ramBankLow (and_and_self value 0x03) }

theorem InRange.step {c : Mmm01Cartridge} (h : c.InRange) (op : Mmm01Op) :
    (c.step op).InRange := by
  cases op with
  | writeRam address value => exact { h with }
  | writeRom address value =>
      show (c.writeRom address value).InRange
      unfold Mmm01Cartridge.writeRom
      split
      · have henabled : ({ c with ramEnabled := value &&& 0x0F = 0x0A } : Mmm01Cartridge).InRange :=
          { h with }
        exact henabled.whileUnmapped { h with ramBankMask := and_and_self _ _ }
      · split
        · have hlow := h.writeRomBankLow value
          exact hlow.whileUnmapped { hlow with romBankMid := and_and_self _ _ }
        · split
          · have hlow := h.writeRamBankLow value
            exact hlow.whileUnmapped { hlow with ramBankHigh := and_and_self _ _ }
          · split
            · have hmode : (if !c.modeWriteDisable then { c with bankingMode := value &&& 0x01 }
                  else c).InRange := by
                split
                · exact { h with }
                · exact h
              exact hmode.whileUnmapped { hmode with romBankMask := and_and_self _ _ }
            · exact h

theorem InRange.run {c : Mmm01Cartridge} (h : c.InRange) (ops : List Mmm01Op) :
    (run ops c).InRange := by
  induction ops generalizing c with
  | nil => exact h
  | cons op ops ih => exact ih (h.step op)

/-! ## What stays of the selection -/

/-- The selection of `c` is still in force in `c'`. -/
structure Confined (c c' : Mmm01Cartridge) : Prop where
  mapped : c'.mapped = true
  rom : c'.rom = c.rom
  header : c'.header = c.header
  ramBanks : ramBankCount c'.ram = ramBankCount c.ram
  romBankHigh : c'.romBankHigh = c.romBankHigh
  romBankMid : c'.romBankMid = c.romBankMid
  ramBankHigh : c'.ramBankHigh = c.ramBankHigh
  romBankMask : c'.romBankMask = c.romBankMask
  ramBankMask : c'.ramBankMask = c.ramBankMask
  multiplexEnabled : c'.multiplexEnabled = c.multiplexEnabled
  modeWriteDisable : c'.modeWriteDisable = c.modeWriteDisable
  bankingMode : c.modeWriteDisable = true → c'.bankingMode = c.bankingMode
  romBankLow : c'.romBankLow &&& (c.romBankMask &&& 0x1E) = c.romBankLow &&& (c.romBankMask &&& 0x1E)
  ramBankLow : c'.ramBankLow &&& (c.ramBankMask &&& 0x03) = c.ramBankLow &&& (c.ramBankMask &&& 0x03)

theorem Confined.refl {c : Mmm01Cartridge} (h : c.mapped = true) : Confined c c :=
  ⟨h, rfl, rfl, rfl, rfl, rfl, rfl, rfl, rfl, rfl, rfl, fun _ => rfl, rfl, rfl⟩

theorem whileUnmapped_of_mapped {c : Mmm01Cartridge} (h : c.mapped = true)
    (update : Mmm01Cartridge → Mmm01Cartridge) : c.whileUnmapped update = c := by
  simp only [whileUnmapped, h, Bool.not_true, Bool.false_eq_true, if_false]

theorem Confined.writeRomBankLow {c c' : Mmm01Cartridge} (h : Confined c c') (value : U8) :
    Confined c (c'.writeRomBankLow value) := by
  refine { h with romBankLow := ?_ }
  have hupdate := locked_update c'.romBankLow value (c'.romBankMask &&& 0x1E)
  rw [h.romBankMask, h.romBankLow] at hupdate
  simp only [Mmm01Cartridge.writeRomBankLow, h.romBankMask, h.romBankLow]
  exact hupdate

theorem Confined.writeRamBankLow {c c' : Mmm01Cartridge} (h : Confined c c') (value : U8) :
    Confined c (c'.writeRamBankLow value) := by
  refine { h with ramBankLow := ?_ }
  have hupdate := locked_update c'.ramBankLow value (c'.ramBankMask &&& 0x03)
  rw [h.ramBankMask, h.ramBankLow] at hupdate
  simp only [Mmm01Cartridge.writeRamBankLow, h.ramBankMask, h.ramBankLow]
  exact hupdate

/-- Each of the four register ranges keeps the selection. -/
theorem Confined.step {c c' : Mmm01Cartridge} (h : Confined c c') (op : Mmm01Op) :
    Confined c (c'.step op) := by
  cases op with
  | writeRam address value =>
      refine { h with ramBanks := ?_ }
      have hcleared : clearedRam (c'.writeRam address value).ram = clearedRam c'.ram :=
        clearedRam_write ..
      have hbanks : ramBankCount (c'.writeRam address value).ram = ramBankCount c'.ram :=
        ramBankCount_of_clearedRam hcleared
      exact hbanks.trans h.ramBanks
  | writeRom address value =>
      show Confined c (c'.writeRom address value)
      unfold Mmm01Cartridge.writeRom
      split
      · have henabled : Confined c { c' with ramEnabled := value &&& 0x0F = 0x0A } := { h with }
        rw [whileUnmapped_of_mapped henabled.mapped]
        exact henabled
      · split
        · have hlow := h.writeRomBankLow (value &&& 0x1F)
          rw [whileUnmapped_of_mapped hlow.mapped]
          exact hlow
        · split
          · have hlow := h.writeRamBankLow (value &&& 0x03)
            rw [whileUnmapped_of_mapped hlow.mapped]
            exact hlow
          · split
            · have hmode : Confined c (if !c'.modeWriteDisable then
                  { c' with bankingMode := value &&& 0x01 } else c') := by
                split
                · next henabled =>
                    refine { h with bankingMode := fun hc => ?_ }
                    rw [h.modeWriteDisable, hc] at henabled
                    cases henabled
                · exact h
              rw [whileUnmapped_of_mapped hmode.mapped]
              exact hmode
            · exact h

theorem Confined.run {c c' : Mmm01Cartridge} (h : Confined c c') (ops : List Mmm01Op) :
    Confined c (run ops c') := by
  induction ops generalizing c' with
  | nil => exact h
  | cons op ops ih => exact ih (h.step op)

theorem Confined.romBankCount {c c' : Mmm01Cartridge} (h : Confined c c') :
    c'.romBankCount = c.romBankCount := by
  unfold Mmm01Cartridge.romBankCount
  rw [h.rom, h.header]

/-! ## The sub-window of a selection -/

/-- The low ROM bank register can still hold `low`. -/
def SelectsRomLow (c : Mmm01Cartridge) (low : U8) : Prop :=
  low &&& 0x1F = low ∧ low &&& (c.romBankMask &&& 0x1E) = c.romBankLow &&& (c.romBankMask &&& 0x1E)

/-- The low RAM bank register can still hold `low`. -/
def SelectsRamLow (c : Mmm01Cartridge) (low : U8) : Prop :=
  low &&& 0x03 = low ∧ low &&& (c.ramBankMask &&& 0x03) = c.ramBankLow &&& (c.ramBankMask &&& 0x03)

/-- The low RAM bank bits can be shown in a banking mode that the game can be in.  Mode 0 shows
the locked bits alone. -/
def ShowsRamLow (c : Mmm01Cartridge) (low : U8) : Prop :=
  c.SelectsRamLow low ∧
  (c.modeWriteDisable = true → c.bankingMode = 0 → low = c.ramBankLow &&& c.ramBankMask)

/-- The ROM bank with the selected outer bits. -/
def outerBank (c : Mmm01Cartridge) (mid low : U8) : Nat :=
  ((c.romBankHigh.toNat <<< 7) ||| (mid.toNat <<< 5) ||| low.toNat) % c.romBankCount

/-- The banks of the area from `0x0000`: the base of the game, with every open low bit clear. -/
def lowSubWindow (c : Mmm01Cartridge) : Set Nat :=
  {bank | ∃ mid, (if c.multiplexEnabled then c.ShowsRamLow mid else mid = c.romBankMid) ∧
    bank = c.outerBank mid c.maskedRomBankLow}

/-- The banks of the area from `0x4000`: those with an open low bit set. -/
def highSubWindow (c : Mmm01Cartridge) : Set Nat :=
  {bank | ∃ mid low, (if c.multiplexEnabled then c.SelectsRamLow mid else mid = c.romBankMid) ∧
    c.SelectsRomLow low ∧ low &&& ~~~c.romBankMask ≠ 0 ∧ bank = c.outerBank mid low}

/-- The RAM banks. -/
def ramSubWindow (c : Mmm01Cartridge) : Set Nat :=
  {bank | ∃ low, (if c.multiplexEnabled then low = c.romBankMid else c.ShowsRamLow low) ∧
    bank = ((c.ramBankHigh <<< 2) ||| low).toNat % ramBankCount c.ram}

theorem romBankCount_ne_zero (c : Mmm01Cartridge) : c.romBankCount ≠ 0 := by
  rw [romBankCount]
  omega

theorem effectiveLowRomBank_eq (c : Mmm01Cartridge) :
    c.effectiveLowRomBank =
      c.outerBank (if c.multiplexEnabled then c.modeRamBankLow else c.romBankMid)
        c.maskedRomBankLow := by
  rw [effectiveLowRomBank, if_neg c.romBankCount_ne_zero]
  rfl

theorem effectiveHighRomBank_eq (c : Mmm01Cartridge) :
    c.effectiveHighRomBank =
      c.outerBank (if c.multiplexEnabled then c.ramBankLow &&& 0x03 else c.romBankMid &&& 0x03)
        c.translatedRomBankLow := by
  rw [effectiveHighRomBank, if_neg c.romBankCount_ne_zero]
  rfl

/-- Without multiplexing the two areas together show all banks that have the selected bits. -/
theorem lowSubWindow_union_highSubWindow {c : Mmm01Cartridge} (hrange : c.InRange)
    (hmultiplex : c.multiplexEnabled = false) :
    c.lowSubWindow ∪ c.highSubWindow =
      {bank | ∃ low, c.SelectsRomLow low ∧ bank = c.outerBank c.romBankMid low} := by
  have hmasked : c.SelectsRomLow c.maskedRomBankLow := by
    refine ⟨?_, ?_⟩
    · rw [maskedRomBankLow, BitVec.and_assoc, BitVec.and_comm c.romBankMask, ← BitVec.and_assoc,
        hrange.romBankLow]
    · rw [maskedRomBankLow, hrange.romBankMask, and_and_self]
  ext bank
  simp only [Set.mem_union, lowSubWindow, highSubWindow, Set.mem_ofPred_eq, hmultiplex,
    Bool.false_eq_true, if_false]
  constructor
  · rintro (⟨mid, rfl, hbank⟩ | ⟨mid, low, rfl, hlow, -, hbank⟩)
    · exact ⟨_, hmasked, hbank⟩
    · exact ⟨low, hlow, hbank⟩
  · rintro ⟨low, hlow, hbank⟩
    by_cases hopen : low &&& ~~~c.romBankMask = 0
    · have heq : low = c.maskedRomBankLow := by
        have hsplit := locked_update_eq (rfl : low &&& c.romBankMask = low &&& c.romBankMask)
        rw [hopen, or_zero] at hsplit
        have hagree := hlow.2
        rw [hrange.romBankMask, hsplit] at hagree
        exact hagree
      exact .inl ⟨_, rfl, heq ▸ hbank⟩
    · exact .inr ⟨_, low, rfl, hlow, hopen, hbank⟩

/-! ## Nothing outside is shown -/

section Shown

variable {c c' : Mmm01Cartridge}

theorem Confined.outerBank (h : Confined c c') (mid low : U8) :
    c'.outerBank mid low = c.outerBank mid low := by
  rw [Mmm01Cartridge.outerBank, Mmm01Cartridge.outerBank, h.romBankHigh, h.romBankCount]

theorem Confined.selectsRamLow (h : Confined c c') (hrange : c'.InRange) :
    c.SelectsRamLow c'.ramBankLow :=
  ⟨hrange.ramBankLow, h.ramBankLow⟩

theorem Confined.showsRamLow (h : Confined c c') (hrange : c.InRange) (hrange' : c'.InRange) :
    c.ShowsRamLow c'.modeRamBankLow := by
  have hlocked := h.ramBankLow
  rw [hrange.ramBankMask] at hlocked
  unfold modeRamBankLow
  split
  · rw [h.ramBankMask, hlocked]
    refine ⟨⟨?_, ?_⟩, fun _ _ => rfl⟩
    · rw [BitVec.and_assoc, hrange.ramBankMask]
    · rw [hrange.ramBankMask, and_and_self]
  · next hmode =>
      rw [hrange'.ramBankLow]
      refine ⟨h.selectsRamLow hrange', fun hdisabled hzero => ?_⟩
      rw [h.bankingMode hdisabled] at hmode
      exact absurd hzero hmode

theorem Confined.maskedRomBankLow (h : Confined c c') (hrange : c.InRange) :
    c'.maskedRomBankLow = c.maskedRomBankLow := by
  have hlocked := h.romBankLow
  rw [hrange.romBankMask] at hlocked
  rw [Mmm01Cartridge.maskedRomBankLow, Mmm01Cartridge.maskedRomBankLow, h.romBankMask, hlocked]

/-- The translated low bits always have an open bit, since the lowest one is never masked. -/
theorem Confined.translatedRomBankLow (h : Confined c c') (hrange : c.InRange)
    (hrange' : c'.InRange) : c.SelectsRomLow c'.translatedRomBankLow ∧
      c'.translatedRomBankLow &&& ~~~c.romBankMask ≠ 0 := by
  have hlowest : (1 : U8) &&& c.romBankMask = 0 := by
    rw [← hrange.romBankMask, BitVec.and_comm c.romBankMask, ← BitVec.and_assoc]
    exact BitVec.zero_and
  unfold Mmm01Cartridge.translatedRomBankLow
  rw [h.romBankMask]
  split
  · next hclear =>
    refine ⟨⟨?_, ?_⟩, fun hzero => ?_⟩
    · have hone : (1 : U8) &&& 0x1F = 1 := by decide
      rw [BitVec.and_or_distrib_right, hrange'.romBankLow, hone]
    · have hlocked := h.romBankLow
      rw [hrange.romBankMask] at hlocked ⊢
      rw [BitVec.and_or_distrib_right, hlocked, hlowest, or_zero]
    · have hone := locked_update_eq (rfl : (1 : U8) &&& c.romBankMask = 1 &&& c.romBankMask)
      rw [hlowest, zero_or] at hone
      rw [BitVec.and_or_distrib_right, hclear, hone] at hzero
      exact absurd hzero (by decide)
  · next hopen => exact ⟨⟨hrange'.romBankLow, h.romBankLow⟩, hopen⟩

theorem Confined.low (h : Confined c c') (hrange : c.InRange) (hrange' : c'.InRange) :
    c'.effectiveLowRomBank ∈ c.lowSubWindow := by
  refine ⟨if c'.multiplexEnabled then c'.modeRamBankLow else c'.romBankMid, ?_, ?_⟩
  · rw [h.multiplexEnabled]
    split
    · exact h.showsRamLow hrange hrange'
    · exact h.romBankMid
  · rw [effectiveLowRomBank_eq, h.maskedRomBankLow hrange, h.outerBank]

theorem Confined.high (h : Confined c c') (hrange : c.InRange) (hrange' : c'.InRange) :
    c'.effectiveHighRomBank ∈ c.highSubWindow := by
  obtain ⟨hlow, hopen⟩ := h.translatedRomBankLow hrange hrange'
  refine ⟨if c'.multiplexEnabled then c'.ramBankLow &&& 0x03 else c'.romBankMid &&& 0x03,
    c'.translatedRomBankLow, ?_, hlow, hopen, ?_⟩
  · rw [h.multiplexEnabled]
    split
    · rw [hrange'.ramBankLow]
      exact h.selectsRamLow hrange'
    · rw [hrange'.romBankMid, h.romBankMid]
  · rw [effectiveHighRomBank_eq, h.outerBank]

theorem Confined.ram (h : Confined c c') (hrange : c.InRange) (hrange' : c'.InRange) :
    c'.effectiveRamBank.toNat % ramBankCount c'.ram ∈ c.ramSubWindow := by
  refine ⟨if c'.multiplexEnabled then c'.romBankMid else c'.modeRamBankLow, ?_, ?_⟩
  · rw [h.multiplexEnabled]
    split
    · exact h.romBankMid
    · exact h.showsRamLow hrange hrange'
  · unfold effectiveRamBank
    rw [hrange'.ramBankHigh, hrange'.romBankMid, h.ramBankHigh, h.ramBanks]
    split
    · rfl
    · rfl

end Shown

/-! ## Everything inside can be shown -/

/-- The writes with which a game selects `low` and `mid`. -/
def select (low mid : U8) : List Mmm01Op :=
  [.writeRom 0x2000 low, .writeRom 0x4000 mid, .writeRom 0x6000 0x01]

theorem run_select {c : Mmm01Cartridge} (hmapped : c.mapped = true) {low mid : U8}
    (hlow : c.SelectsRomLow low) (hmid : c.SelectsRamLow mid) :
    run (select low mid) c =
      { c with
        romBankLow := low
        ramBankLow := mid
        bankingMode := if c.modeWriteDisable then c.bankingMode else 0x01 } := by
  have h₁ : c.step (.writeRom 0x2000 low) = { c with romBankLow := low } := by
    have hupdate := locked_update_eq hlow.2
    rw [step, writeRom, if_neg (by decide), if_pos (by decide),
      whileUnmapped_of_mapped (by exact hmapped), hlow.1, writeRomBankLow, hupdate]
  have h₂ : ({ c with romBankLow := low } : Mmm01Cartridge).step (.writeRom 0x4000 mid) =
      { c with romBankLow := low, ramBankLow := mid } := by
    have hupdate := locked_update_eq hmid.2
    rw [step, writeRom, if_neg (by decide), if_neg (by decide), if_pos (by decide),
      whileUnmapped_of_mapped (by exact hmapped), hmid.1, writeRamBankLow, hupdate]
  rw [select, run, List.foldl_cons, h₁, List.foldl_cons, h₂, List.foldl_cons, List.foldl_nil, step,
    writeRom, if_neg (by decide), if_neg (by decide), if_neg (by decide), if_pos (by decide)]
  have hone : (0x01 : U8) &&& 0x01 = 0x01 := by decide
  cases hdisabled : c.modeWriteDisable with
  | true =>
      rw [whileUnmapped_of_mapped (by exact hmapped)]
      rfl
  | false =>
      rw [whileUnmapped_of_mapped (by exact hmapped), hone]
      rfl

section Reached

variable {c : Mmm01Cartridge}

/-- The present value of a register is one it can hold. -/
theorem InRange.selects (hrange : c.InRange) :
    c.SelectsRomLow c.romBankLow ∧ c.SelectsRamLow c.ramBankLow :=
  ⟨⟨hrange.romBankLow, rfl⟩, ⟨hrange.ramBankLow, rfl⟩⟩

/-- After the writes of `select` the low RAM bank bits are shown as selected, in mode 1 if the
mode can be set and in the locked mode otherwise. -/
theorem modeRamBankLow_select {low mid : U8} (hmid : c.ShowsRamLow mid) :
    modeRamBankLow { c with
      romBankLow := low
      ramBankLow := mid
      bankingMode := if c.modeWriteDisable then c.bankingMode else 0x01 } = mid := by
  unfold modeRamBankLow
  dsimp only
  cases hdisabled : c.modeWriteDisable with
  | true =>
      rw [if_pos rfl]
      split
      · next hzero =>
          rw [hmid.2 hdisabled hzero, and_and_self]
      · exact hmid.1.1
  | false => exact hmid.1.1

theorem low_reached (hmapped : c.mapped = true) (hrange : c.InRange) {bank : Nat}
    (hbank : bank ∈ c.lowSubWindow) : ∃ later, (run later c).effectiveLowRomBank = bank := by
  obtain ⟨mid, hmid, rfl⟩ := hbank
  cases hmultiplex : c.multiplexEnabled with
  | true =>
      rw [hmultiplex, if_pos rfl] at hmid
      refine ⟨select c.romBankLow mid, ?_⟩
      rw [run_select hmapped hrange.selects.1 hmid.1, effectiveLowRomBank_eq,
        modeRamBankLow_select hmid]
      show c.outerBank (if c.multiplexEnabled then mid else c.romBankMid) c.maskedRomBankLow = _
      rw [hmultiplex, if_pos rfl]
  | false =>
      rw [hmultiplex] at hmid
      cases hmid
      refine ⟨[], ?_⟩
      show c.effectiveLowRomBank = _
      rw [effectiveLowRomBank_eq, hmultiplex, if_neg Bool.false_ne_true]

theorem high_reached (hmapped : c.mapped = true) (hrange : c.InRange) {bank : Nat}
    (hbank : bank ∈ c.highSubWindow) : ∃ later, (run later c).effectiveHighRomBank = bank := by
  obtain ⟨mid, low, hmid, hlow, hopen, rfl⟩ := hbank
  cases hmultiplex : c.multiplexEnabled with
  | true =>
      rw [hmultiplex, if_pos rfl] at hmid
      refine ⟨select low mid, ?_⟩
      rw [run_select hmapped hlow hmid, effectiveHighRomBank_eq]
      show c.outerBank (if c.multiplexEnabled then mid &&& 0x03 else c.romBankMid &&& 0x03)
        (if low &&& ~~~c.romBankMask = 0 then low ||| 1 else low) = _
      rw [hmultiplex, if_pos rfl, if_neg hopen, hmid.1]
  | false =>
      rw [hmultiplex] at hmid
      cases hmid
      refine ⟨select low c.ramBankLow, ?_⟩
      rw [run_select hmapped hlow hrange.selects.2, effectiveHighRomBank_eq]
      show c.outerBank (if c.multiplexEnabled then c.ramBankLow &&& 0x03 else c.romBankMid &&& 0x03)
        (if low &&& ~~~c.romBankMask = 0 then low ||| 1 else low) = _
      rw [hmultiplex, if_neg Bool.false_ne_true, if_neg hopen, hrange.romBankMid]

theorem ram_reached (hmapped : c.mapped = true) (hrange : c.InRange) {bank : Nat}
    (hbank : bank ∈ c.ramSubWindow) :
    ∃ later, (run later c).effectiveRamBank.toNat % ramBankCount (run later c).ram = bank := by
  obtain ⟨low, hlow, rfl⟩ := hbank
  cases hmultiplex : c.multiplexEnabled with
  | true =>
      rw [hmultiplex, if_pos rfl] at hlow
      refine ⟨[], ?_⟩
      show c.effectiveRamBank.toNat % ramBankCount c.ram = _
      rw [effectiveRamBank, if_pos hmultiplex, hrange.ramBankHigh, hrange.romBankMid, hlow]
  | false =>
      rw [hmultiplex] at hlow
      refine ⟨select c.romBankLow low, ?_⟩
      rw [run_select hmapped hrange.selects.1 hlow.1]
      unfold effectiveRamBank
      rw [modeRamBankLow_select hlow]
      show (if c.multiplexEnabled then _ else ((c.ramBankHigh &&& 0x03) <<< 2) ||| low).toNat %
        ramBankCount c.ram = _
      rw [hmultiplex, if_neg Bool.false_ne_true, hrange.ramBankHigh]

end Reached

/-! ## The whole of it -/

/-- Once the menu has mapped a game, no access changes the outer bank bits, the masks, the
multiplex and mode-lock switches or a locked bit of a low bank register, and `mapped` stays
set.  The banks each area and the RAM area can show from then on are exactly those of the
selection. -/
theorem mapped_confines (rom : List U8) (header : CartridgeHeader)
    (classification : CartridgeClassification) (ramLen : Nat) (before : List Mmm01Op) :
    let c := run before (powerOn rom header classification ramLen)
    c.mapped = true →
    (∀ later, Confined c (run later c)) ∧
    (∀ bank, (∃ later address, address < 0x4000 ∧ (run later c).romBank address = bank) ↔
      bank ∈ c.lowSubWindow) ∧
    (∀ bank, (∃ later address, 0x4000 ≤ address ∧ address < 0x8000 ∧
      (run later c).romBank address = bank) ↔ bank ∈ c.highSubWindow) ∧
    (∀ bank, (∃ later, (run later c).effectiveRamBank.toNat % ramBankCount (run later c).ram =
      bank) ↔ bank ∈ c.ramSubWindow) ∧
    (c.multiplexEnabled = false → c.lowSubWindow ∪ c.highSubWindow =
      {bank | ∃ low, c.SelectsRomLow low ∧ bank = c.outerBank c.romBankMid low}) := by
  intro c hmapped
  have hrange : c.InRange := (inRange_powerOn rom header classification ramLen).run before
  have hconfined : ∀ later, Confined c (run later c) := fun later =>
    (Confined.refl hmapped).run later
  have hlow : ∀ {later : List Mmm01Op} {address : U16}, address < 0x4000 →
      (run later c).romBank address = (run later c).effectiveLowRomBank := by
    intro later address haddress
    rw [romBank, (hconfined later).mapped, if_neg (by decide), if_pos haddress]
  have hhigh : ∀ {later : List Mmm01Op} {address : U16}, 0x4000 ≤ address →
      (run later c).romBank address = (run later c).effectiveHighRomBank := by
    intro later address haddress
    rw [romBank, (hconfined later).mapped, if_neg (by decide), if_neg (by bv_omega)]
  refine ⟨hconfined, fun bank => ⟨?_, fun hbank => ?_⟩, fun bank => ⟨?_, fun hbank => ?_⟩,
    fun bank => ⟨?_, ram_reached hmapped hrange⟩, lowSubWindow_union_highSubWindow hrange⟩
  · rintro ⟨later, address, haddress, rfl⟩
    rw [hlow haddress]
    exact (hconfined later).low hrange (hrange.run later)
  · obtain ⟨later, hlater⟩ := low_reached hmapped hrange hbank
    exact ⟨later, 0, by decide, (hlow (by decide)).trans hlater⟩
  · rintro ⟨later, address, haddress, -, rfl⟩
    rw [hhigh haddress]
    exact (hconfined later).high hrange (hrange.run later)
  · obtain ⟨later, hlater⟩ := high_reached hmapped hrange hbank
    exact ⟨later, 0x4000, by decide, by decide, (hhigh (by decide)).trans hlater⟩
  · rintro ⟨later, rfl⟩
    exact (hconfined later).ram hrange (hrange.run later)

/-- A game of two banks in a multicart of 512 KiB tries to write everything. -/
theorem mapped_confines_two_banks :
    let header : CartridgeHeader :=
      { nintendoLogo := [], titleBytes := [], title := [], cgbFlag := decodeCgbFlag 0x00
        cartridgeType := 0x0B, romSize := .decode 0x04, ramSize := .decode 0x00
        destinationCode := 0x00 }
    let c := run [.writeRom 0x2000 0x06, .writeRom 0x6000 0x3C, .writeRom 0x0000 0x40]
      (powerOn [] header (.supported 0x0B "MMM01" .mmm01) 0)
    let c' := run [.writeRom 0x0000 0x00, .writeRom 0x2000 0xFF, .writeRom 0x4000 0xFF,
      .writeRom 0x6000 0x00] c
    Confined c c' ∧ c'.romBank 0x0000 = 6 ∧ c'.romBank 0x4000 = 7 := by
  intro header c c'
  exact ⟨(mapped_confines [] header (.supported 0x0B "MMM01" .mmm01) 0
    [.writeRom 0x2000 0x06, .writeRom 0x6000 0x3C, .writeRom 0x0000 0x40]
    (by decide +kernel)).1 _, by decide +kernel, by decide +kernel⟩

end Mmm01Cartridge

end GbCycle
