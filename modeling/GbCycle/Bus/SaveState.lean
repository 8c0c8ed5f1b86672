import GbCycle.Bus.MemoryRefinement

/-!
# Save states of the bus

A save state holds the part of the memories that the console has: a monochrome one has a quarter
of the work RAM and half of the video RAM, and restoring clears the rest.  So a bus comes back
from its own save state only if the rest is clear, and nothing that goes through the bus ever
writes there.
-/

namespace GbCycle

/-! ## Capture and restore -/

structure WramSaveState where
  consoleModel : ConsoleModel
  selectedBankRegister : U8
  bytes : List U8

structure VramSaveState where
  consoleModel : ConsoleModel
  selectedBank : U8
  bytes : List U8

structure BusSaveState where
  consoleModel : ConsoleModel
  revision : HardwareRevision
  operatingMode : OperatingMode
  vram : VramSaveState
  wram : WramSaveState
  oam : OamDomain
  iohram : IoHramDomain

/-- The bytes of a state in a cleared array, as many as fit. -/
def restoredBytes (n : Nat) (bytes : List U8) : Vector U8 n :=
  .ofFn fun i => bytes[i.val]?.getD 0

namespace WramDomain

def debugBytes (w : WramDomain) : List U8 :=
  w.bytes.toList.take (if w.consoleModel.isCgbFamily then cgbWramLen else dmgWramLen)

def captureSaveState (w : WramDomain) : WramSaveState :=
  { consoleModel := w.consoleModel, selectedBankRegister := w.selectedBankRegister
    bytes := w.debugBytes }

def restoreSaveState (_ : WramDomain) (state : WramSaveState) : WramDomain :=
  { consoleModel := state.consoleModel
    selectedBankRegister := state.selectedBankRegister &&& 0x07
    bytes := restoredBytes cgbWramLen state.bytes }

end WramDomain

namespace VramDomain

def debugBytes (v : VramDomain) : List U8 :=
  v.bytes.toList.take (if v.consoleModel.isCgbFamily then cgbVramLen else dmgVramLen)

def captureSaveState (v : VramDomain) : VramSaveState :=
  { consoleModel := v.consoleModel, selectedBank := v.selectedBank, bytes := v.debugBytes }

def restoreSaveState (_ : VramDomain) (state : VramSaveState) : VramDomain :=
  { consoleModel := state.consoleModel
    selectedBank := state.selectedBank &&& 0x01
    bytes := restoredBytes cgbVramLen state.bytes }

end VramDomain

namespace Bus

def captureSaveState (b : Bus) : BusSaveState :=
  { consoleModel := b.consoleModel, revision := b.revision, operatingMode := b.operatingMode
    vram := b.vram.captureSaveState
    wram := b.wram.captureSaveState
    oam := b.oam
    iohram := b.iohram }

/-- A revision that the console does not have is replaced by its default. -/
def restoreSaveState (b : Bus) (state : BusSaveState) : Bus :=
  { consoleModel := state.consoleModel
    revision :=
      if state.consoleModel.supportsRevision state.revision then state.revision
      else state.consoleModel.defaultRevision
    operatingMode := state.operatingMode
    vram := b.vram.restoreSaveState state.vram
    wram := b.wram.restoreSaveState state.wram
    oam := state.oam
    iohram := state.iohram }

/-! ## What a save state can bring back -/

/-- The memories that a monochrome console does not have are clear. -/
structure Restorable (b : Bus) : Prop where
  wellFormed : b.WellFormed
  revision : b.consoleModel.supportsRevision b.revision = true
  wram : b.consoleModel.isCgbFamily = false →
    ∀ (bank : Fin 8) offset, 2 ≤ bank.val → b.memory.cells (.wram bank offset) = 0
  vram : b.consoleModel.isCgbFamily = false → ∀ offset, b.memory.cells (.vram 1 offset) = 0

theorem getD_replicate (n i : Nat) : (Vector.replicate n (0 : U8))[i]?.getD 0 = 0 := by
  rw [Vector.getElem?_replicate]
  split <;> rfl

theorem cellByte_new (consoleModel : ConsoleModel) (revision : HardwareRevision)
    (operatingMode : OperatingMode) (cell : BusCell) :
    (newWithRevisionAndOperatingMode consoleModel revision operatingMode).memory.cells cell =
      0 := by
  show (newWithRevisionAndOperatingMode consoleModel revision operatingMode).cellByte cell = 0
  cases cell <;> exact getD_replicate _ _

theorem restorable_new (consoleModel : ConsoleModel) (operatingMode : OperatingMode)
    {revision : HardwareRevision} (hrevision : consoleModel.supportsRevision revision = true) :
    (newWithRevisionAndOperatingMode consoleModel revision operatingMode).Restorable where
  wellFormed := wellFormed_new _ _ _
  revision := hrevision
  wram _ bank offset _ := cellByte_new _ _ _ (.wram bank offset)
  vram _ offset := cellByte_new _ _ _ (.vram 1 offset)

/-- The bytes of an array come back where the bytes left out are zero. -/
theorem restoredBytes_take {n : Nat} (bytes : Vector U8 n) (len : Nat)
    (hrest : ∀ i, len ≤ i → i < n → bytes[i]?.getD 0 = 0) :
    restoredBytes n (bytes.toList.take len) = bytes := by
  refine Vector.ext fun i hi => ?_
  have hbyte : bytes[i]?.getD 0 = bytes[i] := by
    rw [Vector.getElem?_eq_getElem hi]
    rfl
  unfold restoredBytes
  rw [Vector.getElem_ofFn, List.getElem?_take]
  split
  · rw [Vector.getElem?_toList]
    exact hbyte
  · rename_i hlen
    rw [← hbyte, hrest i (Nat.le_of_not_lt hlen) hi]
    rfl

theorem restore_capture {b : Bus} (h : b.Restorable) (other : Bus) :
    other.restoreSaveState b.captureSaveState = b := by
  have hwram : other.wram.restoreSaveState b.wram.captureSaveState = b.wram := by
    have hbytes : restoredBytes cgbWramLen b.wram.debugBytes = b.wram.bytes := by
      refine restoredBytes_take b.wram.bytes _ fun i hlen hi => ?_
      rw [h.wellFormed.wram] at hlen
      unfold cgbWramLen at hi
      cases hcgb : b.consoleModel.isCgbFamily with
      | true =>
          rw [hcgb, if_pos rfl] at hlen
          unfold cgbWramLen at hlen
          omega
      | false =>
          rw [hcgb, if_neg (by decide)] at hlen
          unfold dmgWramLen at hlen
          have hzero := h.wram hcgb ⟨i / 0x1000, by omega⟩ ⟨i % 0x1000, by omega⟩
            (show 2 ≤ i / 0x1000 by omega)
          rw [show b.memory.cells = b.cellByte from rfl, cellByte_wram, Nat.div_add_mod'] at hzero
          exact hzero
    show WramDomain.mk _ _ _ = _
    rw [show b.wram.captureSaveState.bytes = b.wram.debugBytes from rfl, hbytes,
      show b.wram.captureSaveState.selectedBankRegister = b.wram.selectedBankRegister from rfl,
      h.wellFormed.svbk]
    rfl
  have hvram : other.vram.restoreSaveState b.vram.captureSaveState = b.vram := by
    have hbytes : restoredBytes cgbVramLen b.vram.debugBytes = b.vram.bytes := by
      refine restoredBytes_take b.vram.bytes _ fun i hlen hi => ?_
      rw [h.wellFormed.vram] at hlen
      unfold cgbVramLen at hi
      cases hcgb : b.consoleModel.isCgbFamily with
      | true =>
          rw [hcgb, if_pos rfl] at hlen
          unfold cgbVramLen at hlen
          omega
      | false =>
          rw [hcgb, if_neg (by decide)] at hlen
          unfold dmgVramLen at hlen
          have hcell := h.vram hcgb ⟨i - 0x2000, by omega⟩
          rw [show b.memory.cells = b.cellByte from rfl, cellByte_vram, Fin.val_one,
            show 1 * 0x2000 + (i - 0x2000) = i by omega] at hcell
          exact hcell
    show VramDomain.mk _ _ _ = _
    rw [show b.vram.captureSaveState.bytes = b.vram.debugBytes from rfl, hbytes,
      show b.vram.captureSaveState.selectedBank = b.vram.selectedBank from rfl,
      h.wellFormed.vbk]
    rfl
  unfold restoreSaveState
  rw [show b.captureSaveState.wram = b.wram.captureSaveState from rfl, hwram,
    show b.captureSaveState.vram = b.vram.captureSaveState from rfl, hvram,
    show b.captureSaveState.consoleModel = b.consoleModel from rfl,
    show b.captureSaveState.revision = b.revision from rfl, if_pos h.revision]
  rfl

/-! ## Runs -/

section Runs

variable {κ : Type} [CartridgePort κ] {π : Type} [PpuRegisters π] {b : Bus}

/-- Nothing is stored in the banks that a monochrome console does not have. -/
theorem store_hidden {m : BankedMemory} {svbk vbk : Bool} {address : U16} {value : U8}
    (hwram : m.wramBank = 1) (hvram : m.vramBank = 0) :
    (∀ (bank : Fin 8) offset, 2 ≤ bank.val →
      (m.store svbk vbk address value).cells (.wram bank offset) = m.cells (.wram bank offset)) ∧
    ∀ offset, (m.store svbk vbk address value).cells (.vram 1 offset) = m.cells (.vram 1 offset) := by
  unfold BankedMemory.store
  split
  · exact ⟨fun _ _ _ => rfl, fun _ => rfl⟩
  · split
    · exact ⟨fun _ _ _ => rfl, fun _ => rfl⟩
    · split
      · rename_i cell hcell
        refine ⟨fun bank offset hbank => ?_, fun offset => ?_⟩
        · refine Function.update_of_ne ?_ _ _
          rintro rfl
          obtain ⟨-, -, hlocated, -⟩ := BankedMemory.locate_wram hcell
          rw [hwram] at hlocated
          rw [hlocated] at hbank
          split at hbank <;> exact absurd hbank (by decide)
        · refine Function.update_of_ne ?_ _ _
          rintro rfl
          unfold BankedMemory.locate at hcell
          rw [hvram] at hcell
          split at hcell
          · injection hcell with hcell
            injection hcell with hbank
            exact absurd hbank (by decide)
          · repeat' split at hcell
            all_goals cases hcell
      · exact ⟨fun _ _ _ => rfl, fun _ => rfl⟩

theorem Restorable.access (h : b.Restorable) (a : BusAccess κ π) {byte : Option U8} {b' : Bus}
    (haccess : b.access a = some (byte, b')) : b'.Restorable := by
  obtain ⟨byte', b'', haccess', hfollows, -⟩ := access_refines h.wellFormed a
  obtain ⟨-, rfl⟩ := Prod.mk.inj (Option.some.inj (haccess.symm.trans haccess'))
  have hcells (hcgb : b.consoleModel.isCgbFamily = false) :
      (∀ (bank : Fin 8) offset, 2 ≤ bank.val →
        b'.memory.cells (.wram bank offset) = b.memory.cells (.wram bank offset)) ∧
      ∀ offset, b'.memory.cells (.vram 1 offset) = b.memory.cells (.vram 1 offset) := by
    rw [hfollows.memory]
    unfold BankedMemory.access
    split
    · split <;> exact ⟨fun _ _ _ => rfl, fun _ => rfl⟩
    · split
      · exact ⟨fun _ _ _ => rfl, fun _ => rfl⟩
      · refine store_hidden ?_ ?_
        · unfold memory
          rw [hcgb]
          rfl
        · unfold memory
          rw [hcgb]
          rfl
  exact
    { wellFormed := hfollows.wellFormed
      revision := by rw [hfollows.consoleModel, hfollows.revision]; exact h.revision
      wram := fun hcgb bank offset hbank => by
        rw [hfollows.consoleModel] at hcgb
        rw [(hcells hcgb).1 bank offset hbank]
        exact h.wram hcgb bank offset hbank
      vram := fun hcgb offset => by
        rw [hfollows.consoleModel] at hcgb
        rw [(hcells hcgb).2 offset]
        exact h.vram hcgb offset }

/-- A bus that has served any accesses comes back from its save state, whichever bus restores
it. -/
theorem restore_capture_run (h : b.Restorable) (as : List (BusAccess κ π)) :
    ∃ bytes b', b.run as = some (bytes, b') ∧
      ∀ other : Bus, other.restoreSaveState b'.captureSaveState = b' := by
  induction as generalizing b with
  | nil => exact ⟨[], b, rfl, restore_capture h⟩
  | cons a as ih =>
      obtain ⟨byte, b₁, haccess, -, -⟩ := access_refines h.wellFormed a
      obtain ⟨bytes, b₂, hrun, hrestore⟩ := ih (h.access a haccess)
      refine ⟨byte :: bytes, b₂, ?_, hrestore⟩
      unfold run
      simp only [haccess, hrun, Option.bind_eq_bind, Option.bind_some]

theorem restore_capture_run_newMonochrome :
    ∃ bytes b', newMonochrome.run [plainAccess (some 0x42) 0xD123, plainAccess (some 0x17) 0x8000,
        plainAccess (some 0x03) 0xFF70, plainAccess none 0xF123] = some (bytes, b') ∧
      ∀ other : Bus, other.restoreSaveState b'.captureSaveState = b' :=
  restore_capture_run (restorable_new .gameBoy .dmg rfl) _

end Runs

end Bus

end GbCycle
