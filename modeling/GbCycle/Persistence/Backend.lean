import GbCycle.Persistence.Envelope

/-!
# Save backends

A backend keeps one envelope for each key.  Every backend of the crate builds the envelope
from the metadata and the state it is handed and the time of its clock; what differs is where
the bytes go and whether that can fail.  The law of the class is the part of this contract
that its callers rely on: an envelope that `save` returns carries what `save` was given.
-/

namespace GbCycle

/-! ## Keys -/

/-- `char::is_control`. -/
def isControl (c : Char) : Bool :=
  c.val < 0x20 || (0x7F ≤ c.val && c.val ≤ 0x9F)

def isPortableSaveKeyCharacter (c : Char) : Bool :=
  !isControl c && c ∉ ['/', '\\', '<', '>', ':', '"', '|', '?', '*']

structure CartridgeSaveKey where
  key : String
  nonempty : key ≠ ""
  portable : ∀ c ∈ key.toList, isPortableSaveKeyCharacter c = true
  deriving DecidableEq

/-! ## The contract -/

class CartridgeSaveTimeSource (γ : Type) where
  nowUnixSeconds : γ → BitVec 64

structure FixedCartridgeSaveTimeSource where
  unixSeconds : BitVec 64

instance : CartridgeSaveTimeSource FixedCartridgeSaveTimeSource where
  nowUnixSeconds := FixedCartridgeSaveTimeSource.unixSeconds

class CartridgeSaveBackend (β : Type) where
  currentUnixSeconds : β → BitVec 64
  load : β → CartridgeSaveKey → Except CartridgeSaveBackendError (Option CartridgeSaveEnvelope)
  save : β → CartridgeSaveKey → CartridgePersistenceMetadata → PersistentCartState →
    Except CartridgeSaveBackendError CartridgeSaveEnvelope × β
  save_carries {b key metadata state e} : (save b key metadata state).1 = .ok e →
    e.cartridgeMetadata = metadata ∧ e.persistentState = state

/-- The envelope that `save` builds before it encodes anything. -/
def saveEnvelope (now : BitVec 64) (metadata : CartridgePersistenceMetadata)
    (state : PersistentCartState) : CartridgeSaveEnvelope where
  backendMetadata := { formatVersion := currentSaveFormatVersion, savedAtUnixSeconds := now }
  cartridgeMetadata := metadata
  persistentState := state

/-! ## Memory -/

structure InMemoryCartridgeSaveBackend (γ : Type) where
  clock : γ
  entries : CartridgeSaveKey → Option (List U8)

namespace InMemoryCartridgeSaveBackend

variable {γ : Type} [CartridgeSaveTimeSource γ]

def load (b : InMemoryCartridgeSaveBackend γ) (key : CartridgeSaveKey) :
    Except CartridgeSaveBackendError (Option CartridgeSaveEnvelope) :=
  match b.entries key with
  | none => .ok none
  | some bytes => (decodeCartridgeSaveEnvelope bytes).map some

def save (b : InMemoryCartridgeSaveBackend γ) (key : CartridgeSaveKey)
    (metadata : CartridgePersistenceMetadata) (state : PersistentCartState) :
    Except CartridgeSaveBackendError CartridgeSaveEnvelope × InMemoryCartridgeSaveBackend γ :=
  let envelope := saveEnvelope (CartridgeSaveTimeSource.nowUnixSeconds b.clock) metadata state
  match encodeCartridgeSaveEnvelope envelope with
  | .error error => (.error error, b)
  | .ok bytes =>
      (.ok envelope, { b with entries := fun k => if k = key then some bytes else b.entries k })

instance : CartridgeSaveBackend (InMemoryCartridgeSaveBackend γ) where
  currentUnixSeconds b := CartridgeSaveTimeSource.nowUnixSeconds b.clock
  load := load
  save := save
  save_carries {b key metadata state e} h := by
    rw [save] at h
    split at h
    · cases h
    · cases h
      exact ⟨rfl, rfl⟩

end InMemoryCartridgeSaveBackend

/-! ## Files

The file system is a parameter: `read` finds no file or its bytes, and the replacement of a
save file can fail at any of its steps. -/

inductive CartridgeSaveFileExtension where
  | p1 | p2 | p3 | p4
  deriving Repr, DecidableEq

def CartridgeSaveFileExtension.asStr : CartridgeSaveFileExtension → String
  | .p1 => "gbsav"
  | .p2 => "gbsa2"
  | .p3 => "gbsa3"
  | .p4 => "gbsa4"

abbrev SavePath := List String

class SaveFiles (φ : Type) where
  read : φ → SavePath → Except CartridgeSaveBackendError (Option (List U8))
  writeSaveFileWithSafeReplace : φ → SavePath → List U8 →
    Except CartridgeSaveBackendError Unit × φ

structure FilesystemCartridgeSaveBackend (φ γ : Type) where
  files : φ
  root : SavePath
  clock : γ
  fileExtension : CartridgeSaveFileExtension

namespace FilesystemCartridgeSaveBackend

variable {φ γ : Type} [SaveFiles φ] [CartridgeSaveTimeSource γ]

omit [SaveFiles φ] [CartridgeSaveTimeSource γ] in
def pathForKey (b : FilesystemCartridgeSaveBackend φ γ) (key : CartridgeSaveKey) : SavePath :=
  b.root ++ [key.key ++ "." ++ b.fileExtension.asStr]

def load (b : FilesystemCartridgeSaveBackend φ γ) (key : CartridgeSaveKey) :
    Except CartridgeSaveBackendError (Option CartridgeSaveEnvelope) :=
  match SaveFiles.read b.files (b.pathForKey key) with
  | .error error => .error error
  | .ok none => .ok none
  | .ok (some bytes) => (decodeCartridgeSaveEnvelope bytes).map some

def save (b : FilesystemCartridgeSaveBackend φ γ) (key : CartridgeSaveKey)
    (metadata : CartridgePersistenceMetadata) (state : PersistentCartState) :
    Except CartridgeSaveBackendError CartridgeSaveEnvelope ×
      FilesystemCartridgeSaveBackend φ γ :=
  let envelope := saveEnvelope (CartridgeSaveTimeSource.nowUnixSeconds b.clock) metadata state
  match encodeCartridgeSaveEnvelope envelope with
  | .error error => (.error error, b)
  | .ok bytes =>
      match SaveFiles.writeSaveFileWithSafeReplace b.files (b.pathForKey key) bytes with
      | (.error error, files) => (.error error, { b with files })
      | (.ok (), files) => (.ok envelope, { b with files })

instance : CartridgeSaveBackend (FilesystemCartridgeSaveBackend φ γ) where
  currentUnixSeconds b := CartridgeSaveTimeSource.nowUnixSeconds b.clock
  load := load
  save := save
  save_carries {b key metadata state e} h := by
    rw [save] at h
    split at h
    · cases h
    · split at h
      · cases h
      · cases h
        exact ⟨rfl, rfl⟩

end FilesystemCartridgeSaveBackend

end GbCycle
