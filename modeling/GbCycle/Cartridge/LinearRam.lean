import GbCycle.Cartridge.Memory
import GbCycle.Cartridge.PersistentState

/-!
# Saving a linear RAM

Five mappers save one RAM image and nothing else, and do it alike.  A restore answers with the
result and with the RAM as it is afterwards: a state that is refused must not have touched it.
-/

namespace GbCycle

inductive LinearRamKind where
  | noMbcRam
  | mmm01Ram
  | huc1Ram
  | mbc1Ram
  | mbc5Ram
  deriving Repr, DecidableEq

namespace LinearRamKind

def kindName : LinearRamKind → String
  | noMbcRam => "NoMbcRam"
  | mmm01Ram => "Mmm01Ram"
  | huc1Ram => "Huc1Ram"
  | mbc1Ram => "Mbc1Ram"
  | mbc5Ram => "Mbc5Ram"

def toState : LinearRamKind → List U8 → PersistentCartState
  | noMbcRam => .noMbcRam
  | mmm01Ram => .mmm01Ram
  | huc1Ram => .huc1Ram
  | mbc1Ram => .mbc1Ram
  | mbc5Ram => .mbc5Ram

/-- The RAM in a state of this kind. -/
def ofState : LinearRamKind → PersistentCartState → Option (List U8)
  | noMbcRam, .noMbcRam ram => some ram
  | mmm01Ram, .mmm01Ram ram => some ram
  | huc1Ram, .huc1Ram ram => some ram
  | mbc1Ram, .mbc1Ram ram => some ram
  | mbc5Ram, .mbc5Ram ram => some ram
  | _, _ => none

theorem ofState_toState (kind : LinearRamKind) (ram : List U8) :
    kind.ofState (kind.toState ram) = some ram := by
  cases kind <;> rfl

end LinearRamKind

def linearRamMetadata (hasBattery : Bool) (ram : Option (List U8)) :
    CartridgePersistenceMetadata :=
  { hasBattery, hasRtc := false
    profile :=
      match ram with
      | some ram =>
          if hasBattery then .persistentRam (.linear ram.length)
          else .nonPersistentRam (.linear ram.length)
      | none => .none }

def linearRamState (kind : LinearRamKind) (hasBattery : Bool) (ram : Option (List U8)) :
    PersistentCartState :=
  if hasBattery then
    match ram with
    | some ram => kind.toState ram
    | none => .none
  else .none

/-- `Ok` for the state `None`, and a mismatch of kinds for any other. -/
def expectNoState : PersistentCartState → Except CartridgePersistentStateError Unit
  | .none => .ok ()
  | other => .error (.kindMismatch "None" other.kindName)

def restoreLinearRam (kind : LinearRamKind) (hasBattery : Bool) (ram : Option (List U8))
    (state : PersistentCartState) :
    Except CartridgePersistentStateError Unit × Option (List U8) :=
  match hasBattery, ram with
  | true, some ram =>
      match kind.ofState state with
      | some persistedRam =>
          if ram.length ≠ persistedRam.length then
            (.error (.ramLengthMismatch ram.length persistedRam.length), some ram)
          else (.ok (), some persistedRam)
      | none => (.error (.kindMismatch kind.kindName state.kindName), some ram)
  | _, ram => (expectNoState state, ram)

/-- The first value that a restore refuses, with its index. -/
def firstRefused (refused : U8 → Bool) (values : List U8) : Option (Nat × U8) :=
  (values.zipIdx.find? fun cell => refused cell.1).map fun cell => (cell.2, cell.1)

theorem firstRefused_eq_none {refused : U8 → Bool} {values : List U8} :
    firstRefused refused values = none ↔ ∀ value ∈ values, refused value = false := by
  rw [firstRefused, Option.map_eq_none_iff, List.find?_eq_none]
  constructor
  · intro h value hmem
    obtain ⟨index, hindex⟩ := List.mem_iff_getElem?.mp hmem
    have hcell := h (value, index) (List.mem_zipIdx_iff_getElem?.mpr hindex)
    exact Bool.eq_false_iff.mpr hcell
  · rintro h ⟨value, index⟩ hmem
    have hvalue := List.mem_iff_getElem?.mpr ⟨index, List.mem_zipIdx_iff_getElem?.mp hmem⟩
    exact Bool.eq_false_iff.mp (h value hvalue)

/-! ## What is restored is what was saved -/

theorem restoreLinearRam_error {kind : LinearRamKind} {hasBattery : Bool}
    {ram : Option (List U8)} {state : PersistentCartState} {error : CartridgePersistentStateError}
    (h : (restoreLinearRam kind hasBattery ram state).1 = .error error) :
    (restoreLinearRam kind hasBattery ram state).2 = ram := by
  unfold restoreLinearRam at h ⊢
  split at h
  · split at h
    · split at h
      · rename_i hlength
        rw [if_pos hlength]
      · cases h
    · rfl
  · rfl

/-- A restore does not change the size of the RAM. -/
@[simp] theorem clearedRam_restoreLinearRam (kind : LinearRamKind) (hasBattery : Bool)
    (ram : Option (List U8)) (state : PersistentCartState) :
    clearedRam (restoreLinearRam kind hasBattery ram state).2 = clearedRam ram := by
  unfold restoreLinearRam
  split
  · split
    · split
      · rfl
      · rename_i hlength
        simp only [clearedRam, Option.map_some, not_not.mp hlength]
    · rfl
  · rfl


/-- A RAM of the same size takes back what was saved. -/
theorem restoreLinearRam_linearRamState (kind : LinearRamKind) (hasBattery : Bool)
    {ram saved : Option (List U8)} (h : clearedRam saved = clearedRam ram) :
    (restoreLinearRam kind hasBattery ram (linearRamState kind hasBattery saved)).1 = .ok () ∧
    linearRamState kind hasBattery
        (restoreLinearRam kind hasBattery ram (linearRamState kind hasBattery saved)).2 =
      linearRamState kind hasBattery saved := by
  cases hasBattery with
  | false => exact ⟨rfl, rfl⟩
  | true =>
      cases saved with
      | none =>
          cases ram with
          | none => exact ⟨rfl, rfl⟩
          | some ram => cases h
      | some saved =>
          obtain ⟨ram, rfl, hlength⟩ := length_of_clearedRam h
          simp only [linearRamState, if_true, restoreLinearRam, kind.ofState_toState, hlength,
            ne_eq, not_true_eq_false, if_false, and_self]

end GbCycle
