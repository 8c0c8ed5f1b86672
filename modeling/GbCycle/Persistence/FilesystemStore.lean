import GbCycle.Persistence.ExternalClock
import Mathlib.Logic.Function.Basic

/-!
# The save store of the file system

The store keeps one save for each key, in one of two files: a bare image with an extension
that other emulators know, or an internal envelope.  `filesystemCartridgeSaveStoragePolicy`
says which of the two is written and read.  An MBC6 save has an external form only while its
hidden flash is blank, so its file is chosen as the directory is found: once there is an
internal file it stays the one in use.

The file system is a map from paths to bytes.  A file is replaced through a temporary file
and a backup of the old one, and both are gone afterwards.
-/

namespace GbCycle

/-! ## Files -/

/-- The bytes of each file there is. -/
structure FileMap where
  read : SavePath → Option (List U8)

namespace FileMap

def contains (files : FileMap) (path : SavePath) : Bool := (files.read path).isSome

def create (files : FileMap) (path : SavePath) (bytes : List U8) : FileMap :=
  ⟨Function.update files.read path (some bytes)⟩

def remove (files : FileMap) (path : SavePath) : FileMap :=
  ⟨Function.update files.read path none⟩

def rename (files : FileMap) (source target : SavePath) : FileMap :=
  ⟨Function.update (Function.update files.read target (files.read source)) source none⟩

end FileMap

def appendExtensionSuffix (path : SavePath) (suffix : String) : SavePath :=
  path.dropLast ++ [path.getLast?.getD "" ++ suffix]

def FileMap.writeSaveFileWithSafeReplace (files : FileMap) (path : SavePath) (bytes : List U8) :
    FileMap :=
  let tempPath := appendExtensionSuffix path ".tmp"
  let backupPath := appendExtensionSuffix path ".bak"
  let files := if files.contains backupPath then files.remove backupPath else files
  let files := files.create tempPath bytes
  let hadExistingTarget := files.contains path
  let files := if hadExistingTarget then files.rename path backupPath else files
  let files := files.rename tempPath path
  if hadExistingTarget && files.contains backupPath then files.remove backupPath else files

/-! ## The store -/

inductive FilesystemCartridgeSaveStorageFormat where
  | external
  | internalEnvelope
  deriving Repr, DecidableEq

structure FilesystemCartridgeSaveLoad where
  envelope : CartridgeSaveEnvelope
  path : SavePath
  format : FilesystemCartridgeSaveStorageFormat
  deriving Repr, DecidableEq

structure FilesystemCartridgeSaveWrite where
  envelope : CartridgeSaveEnvelope
  path : SavePath
  format : FilesystemCartridgeSaveStorageFormat
  deriving Repr, DecidableEq

/-- An error of the backends, or the variant `ExternalSave` that only the store returns. -/
inductive FilesystemCartridgeSaveError where
  | backend (error : CartridgeSaveBackendError)
  | externalSave (operation : String) (path : SavePath) (source : ExternalSaveError)
  deriving Repr, DecidableEq

inductive FilesystemCartridgeSaveStoragePolicy where
  | externalPrimary
  | internalOnly
  | dynamicMbc6
  deriving Repr, DecidableEq

def filesystemCartridgeSaveStoragePolicy (metadata : CartridgePersistenceMetadata)
    (state : PersistentCartState) : FilesystemCartridgeSaveStoragePolicy :=
  match metadata.profile, state with
  | _, .huc3 .. => .internalOnly
  | .persistentRamAndFlash .., .mbc6 .. => .dynamicMbc6
  | _, _ => .externalPrimary

def CartridgeSaveFileExtension.externalAsStr : CartridgeSaveFileExtension → String
  | .p1 => "sav"
  | .p2 => "sa2"
  | .p3 => "sa3"
  | .p4 => "sa4"

structure FilesystemCartridgeSaveStore (γ : Type) where
  files : FileMap
  root : SavePath
  clock : γ
  fileExtension : CartridgeSaveFileExtension

namespace FilesystemCartridgeSaveStore

section Paths

variable {γ : Type} (s : FilesystemCartridgeSaveStore γ)

def externalPathForKey (key : CartridgeSaveKey) : SavePath :=
  s.root ++ [key.key ++ "." ++ s.fileExtension.externalAsStr]

def internalPathForKey (key : CartridgeSaveKey) : SavePath :=
  s.root ++ [key.key ++ "." ++ s.fileExtension.asStr]

def preferredPathForState (key : CartridgeSaveKey) (metadata : CartridgePersistenceMetadata)
    (state : PersistentCartState) : SavePath :=
  match filesystemCartridgeSaveStoragePolicy metadata state with
  | .externalPrimary => s.externalPathForKey key
  | .internalOnly => s.internalPathForKey key
  | .dynamicMbc6 =>
      if s.files.contains (s.internalPathForKey key) then s.internalPathForKey key
      else s.externalPathForKey key

end Paths

variable {γ : Type} [CartridgeSaveTimeSource γ] (s : FilesystemCartridgeSaveStore γ)

def currentUnixSeconds : BitVec 64 := CartridgeSaveTimeSource.nowUnixSeconds s.clock

/-! ## Loading -/

def loadExternal (key : CartridgeSaveKey) (metadata : CartridgePersistenceMetadata)
    (targetState : PersistentCartState) :
    Except FilesystemCartridgeSaveError (Option FilesystemCartridgeSaveLoad) :=
  let path := s.externalPathForKey key
  match s.files.read path with
  | none => .ok none
  | some bytes =>
      match importExternalCartridgeSave metadata targetState bytes s.currentUnixSeconds with
      | .error source => .error (.externalSave "import external save" path source)
      | .ok persistentState =>
          .ok (some
            { envelope := saveEnvelope s.currentUnixSeconds metadata persistentState
              path := path
              format := .external })

omit [CartridgeSaveTimeSource γ] in
def loadInternal (key : CartridgeSaveKey) :
    Except FilesystemCartridgeSaveError (Option FilesystemCartridgeSaveLoad) :=
  let path := s.internalPathForKey key
  match s.files.read path with
  | none => .ok none
  | some bytes =>
      match decodeCartridgeSaveEnvelope bytes with
      | .error error => .error (.backend error)
      | .ok envelope => .ok (some { envelope, path, format := .internalEnvelope })

def load (key : CartridgeSaveKey) (metadata : CartridgePersistenceMetadata)
    (targetState : PersistentCartState) :
    Except FilesystemCartridgeSaveError (Option FilesystemCartridgeSaveLoad) :=
  match filesystemCartridgeSaveStoragePolicy metadata targetState with
  | .externalPrimary => s.loadExternal key metadata targetState
  | .internalOnly => s.loadInternal key
  | .dynamicMbc6 =>
      if s.files.contains (s.internalPathForKey key) then s.loadInternal key
      else s.loadExternal key metadata targetState

/-! ## Saving -/

omit [CartridgeSaveTimeSource γ] in
def saveInternalAt (key : CartridgeSaveKey) (metadata : CartridgePersistenceMetadata)
    (persistentState : PersistentCartState) (savedAtUnixSeconds : BitVec 64) :
    Except FilesystemCartridgeSaveError FilesystemCartridgeSaveWrite ×
      FilesystemCartridgeSaveStore γ :=
  let envelope := saveEnvelope savedAtUnixSeconds metadata persistentState
  match encodeCartridgeSaveEnvelope envelope with
  | .error error => (.error (.backend error), s)
  | .ok bytes =>
      let path := s.internalPathForKey key
      (.ok { envelope, path, format := .internalEnvelope },
        { s with files := s.files.writeSaveFileWithSafeReplace path bytes })

def saveInternal (key : CartridgeSaveKey) (metadata : CartridgePersistenceMetadata)
    (persistentState : PersistentCartState) :
    Except FilesystemCartridgeSaveError FilesystemCartridgeSaveWrite ×
      FilesystemCartridgeSaveStore γ :=
  s.saveInternalAt key metadata persistentState s.currentUnixSeconds

def saveExternalOrInternalFallback (key : CartridgeSaveKey)
    (metadata : CartridgePersistenceMetadata) (persistentState : PersistentCartState) :
    Except FilesystemCartridgeSaveError FilesystemCartridgeSaveWrite ×
      FilesystemCartridgeSaveStore γ :=
  let savedAtUnixSeconds := s.currentUnixSeconds
  let path := s.externalPathForKey key
  match encodeExternalCartridgeSave metadata persistentState savedAtUnixSeconds .mgba with
  | .ok bytes =>
      (.ok
        { envelope := saveEnvelope savedAtUnixSeconds metadata persistentState
          path := path
          format := .external },
        { s with files := s.files.writeSaveFileWithSafeReplace path bytes })
  | .error error =>
      if error.allowsInternalFallback then
        s.saveInternalAt key metadata persistentState savedAtUnixSeconds
      else (.error (.externalSave "export external save" path error), s)

def save (key : CartridgeSaveKey) (metadata : CartridgePersistenceMetadata)
    (persistentState : PersistentCartState) :
    Except FilesystemCartridgeSaveError FilesystemCartridgeSaveWrite ×
      FilesystemCartridgeSaveStore γ :=
  match filesystemCartridgeSaveStoragePolicy metadata persistentState with
  | .internalOnly => s.saveInternal key metadata persistentState
  | .dynamicMbc6 =>
      if s.files.contains (s.internalPathForKey key) then
        s.saveInternal key metadata persistentState
      else s.saveExternalOrInternalFallback key metadata persistentState
  | .externalPrimary => s.saveExternalOrInternalFallback key metadata persistentState

end FilesystemCartridgeSaveStore

end GbCycle
