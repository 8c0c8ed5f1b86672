import GbCycle.Word
import Mathlib.Data.List.Basic

/-!
# The rewind buffer

The buffer is a queue of save states of one machine, the oldest first, with a running total of
their sizes.  Recording appends, pruning drops from the front, and rewinding drops from the
back.  A second capture at the cycle of the newest entry replaces it.

The machine is a parameter: it is stepped, captured and restored, and the buffer looks at no
more of it than its next T-cycle and the size of its captures.  A restore first makes the two
checks of the machine and only then writes, so one that fails has changed nothing.
-/

namespace GbCycle

/-- A machine as the rewind buffer sees it.  A step takes at least one T-cycle, or does not
return when the counter of the cycles is full.  Writing a capture back, of whatever machine,
brings back the cycle it was taken at. -/
class RewindMachine (μ : Type) where
  SaveState : Type
  RestoreError : Type
  HostInput : Type
  nextTCycle : μ → Nat
  step : μ → HostInput → Option μ
  captureSaveState : μ → SaveState
  validateSaveStateMetadata : μ → SaveState → Except RestoreError Unit
  validateCartridgeSaveState : μ → SaveState → Except RestoreError Unit
  writeSaveState : μ → SaveState → μ
  metadataNextTCycle : SaveState → Nat
  deepSizeBytes : SaveState → Nat
  nextTCycle_step {m m'} input : step m input = some m' → nextTCycle m < nextTCycle m'
  metadata_capture m : metadataNextTCycle (captureSaveState m) = nextTCycle m
  nextTCycle_write m m₀ : nextTCycle (writeSaveState m (captureSaveState m₀)) = nextTCycle m₀

namespace RewindMachine

variable {μ : Type} [RewindMachine μ]

/-- `restore_save_state`: its answer, and the machine it leaves. -/
def restoreSaveState (machine : μ) (state : SaveState μ) : Except (RestoreError μ) Unit × μ :=
  match validateSaveStateMetadata machine state with
  | .error error => (.error error, machine)
  | .ok () =>
      match validateCartridgeSaveState machine state with
      | .error error => (.error error, machine)
      | .ok () => (.ok (), writeSaveState machine state)

/-- A restore that fails leaves the machine as it was. -/
theorem restoreSaveState_error {machine : μ} {state : SaveState μ} {error : RestoreError μ}
    (h : (restoreSaveState machine state).1 = .error error) :
    (restoreSaveState machine state).2 = machine := by
  unfold restoreSaveState at h ⊢
  split
  · rfl
  · rename_i hmetadata
    rw [hmetadata] at h
    dsimp only at h ⊢
    split
    · rfl
    · rename_i hcartridge
      rw [hcartridge] at h
      cases h

/-- A restore that succeeds has written the state. -/
theorem restoreSaveState_ok {machine machine' : μ} {state : SaveState μ}
    (h : restoreSaveState machine state = (.ok (), machine')) :
    machine' = writeSaveState machine state := by
  unfold restoreSaveState at h
  split at h
  · cases h
  · split at h
    · cases h
    · cases h
      rfl

theorem nextTCycle_restore {machine machine₀ machine' : μ}
    (h : restoreSaveState machine (captureSaveState machine₀) = (.ok (), machine')) :
    nextTCycle machine' = nextTCycle machine₀ := by
  rw [restoreSaveState_ok h]
  exact nextTCycle_write machine machine₀

end RewindMachine

open RewindMachine (SaveState RestoreError HostInput nextTCycle captureSaveState restoreSaveState
  metadataNextTCycle deepSizeBytes)

def dmgTCyclesPerFrame : Nat := 456 * 154

inductive MachineRewindCaptureKind where
  | frameBoundary
  | subframe
  deriving Repr, DecidableEq

inductive MachineRewindSubframeCadence where
  | disabled
  | everyTCycles (interval : Nat)
  | fixedPerFrame (capturesPerFrame : Nat)
  deriving Repr, DecidableEq

def MachineRewindSubframeCadence.normalized :
    MachineRewindSubframeCadence → MachineRewindSubframeCadence
  | .everyTCycles 0 | .fixedPerFrame 0 => .disabled
  | cadence => cadence

structure MachineRewindConfig where
  targetHistoryTCycles : Nat
  maxEstimatedBytes : Nat
  subframeCadence : MachineRewindSubframeCadence
  deriving Repr, DecidableEq

structure MachineRewindEntry (μ : Type) [RewindMachine μ] where
  state : SaveState μ
  captureKind : MachineRewindCaptureKind
  nextTCycle : Nat
  estimatedBytes : Nat

structure MachineRewindBuffer (μ : Type) [RewindMachine μ] where
  config : MachineRewindConfig
  entries : List (MachineRewindEntry μ)
  estimatedBytes : Nat
  frameBoundaryCaptures : Nat
  subframeCaptures : Nat
  skippedSubframes : Nat
  duplicateCaptures : Nat
  evictedSnapshots : Nat
  restoredSnapshots : Nat
  currentFrameStartTCycle : Option Nat
  subframesRecordedThisFrame : Nat
  lastSubframeTCycle : Option Nat

structure MachineRewindRestore where
  captureKind : MachineRewindCaptureKind
  restoredNextTCycle : Nat
  estimatedBytes : Nat
  remainingSnapshots : Nat
  deriving Repr, DecidableEq

namespace MachineRewindBuffer

variable {μ : Type} [RewindMachine μ]

def new (config : MachineRewindConfig) : MachineRewindBuffer μ where
  config
  entries := []
  estimatedBytes := 0
  frameBoundaryCaptures := 0
  subframeCaptures := 0
  skippedSubframes := 0
  duplicateCaptures := 0
  evictedSnapshots := 0
  restoredSnapshots := 0
  currentFrameStartTCycle := none
  subframesRecordedThisFrame := 0
  lastSubframeTCycle := none

/-! ## Dropping entries -/

def popFrontEvicted (b : MachineRewindBuffer μ) : MachineRewindBuffer μ :=
  match b.entries with
  | [] => b
  | entry :: rest =>
      { b with
        entries := rest
        estimatedBytes := b.estimatedBytes - entry.estimatedBytes
        evictedSnapshots := saturatingAdd 64 b.evictedSnapshots 1 }

def popBack (b : MachineRewindBuffer μ) : MachineRewindBuffer μ :=
  match b.entries.getLast? with
  | none => b
  | some entry =>
      { b with
        entries := b.entries.dropLast
        estimatedBytes := b.estimatedBytes - entry.estimatedBytes }

@[simp] theorem popFrontEvicted_entries (b : MachineRewindBuffer μ) :
    b.popFrontEvicted.entries = b.entries.tail := by
  unfold popFrontEvicted
  split
  · next h => rw [h]; rfl
  · next h => rw [h]; rfl

@[simp] theorem popFrontEvicted_config (b : MachineRewindBuffer μ) :
    b.popFrontEvicted.config = b.config := by
  unfold popFrontEvicted
  split <;> rfl

@[simp] theorem popBack_entries (b : MachineRewindBuffer μ) :
    b.popBack.entries = b.entries.dropLast := by
  unfold popBack
  split
  · next h => rw [List.getLast?_eq_none_iff.mp h]; rfl
  · rfl

@[simp] theorem popBack_config (b : MachineRewindBuffer μ) : b.popBack.config = b.config := by
  unfold popBack
  split <;> rfl

/-- `while entries.len() > 1 && exceeds { pop_front_evicted }`, at most `fuel` times. -/
def evictLoop (exceeds : MachineRewindBuffer μ → Bool) :
    Nat → MachineRewindBuffer μ → MachineRewindBuffer μ
  | 0, b => b
  | fuel + 1, b =>
      if 1 < b.entries.length ∧ exceeds b = true then evictLoop exceeds fuel b.popFrontEvicted else b

/-- The loop, which drops an entry each time round. -/
def evictWhile (exceeds : MachineRewindBuffer μ → Bool) (b : MachineRewindBuffer μ) :
    MachineRewindBuffer μ :=
  evictLoop exceeds b.entries.length b

/-- The oldest entry is further behind `newest` than the target history. -/
def historyOver (newest : Nat) (b : MachineRewindBuffer μ) : Bool :=
  match b.entries.head? with
  | none => false
  | some oldest => b.config.targetHistoryTCycles < newest - oldest.nextTCycle

def bytesOver (b : MachineRewindBuffer μ) : Bool :=
  b.config.maxEstimatedBytes < b.estimatedBytes

def enforceLimits (b : MachineRewindBuffer μ) : MachineRewindBuffer μ :=
  match b.entries.getLast? with
  | none => b
  | some newest => (b.evictWhile (historyOver newest.nextTCycle)).evictWhile bytesOver

/-! ## Recording -/

def shouldRecordSubframe (b : MachineRewindBuffer μ) (current : Nat) : Bool :=
  let newest := b.entries.getLast?.map MachineRewindEntry.nextTCycle
  match b.config.subframeCadence.normalized with
  | .disabled => false
  | .everyTCycles interval =>
      match (b.lastSubframeTCycle.or b.currentFrameStartTCycle).or newest with
      | some anchor => interval ≤ current - anchor
      | none => true
  | .fixedPerFrame capturesPerFrame =>
      if capturesPerFrame ≤ b.subframesRecordedThisFrame then false
      else
        let interval := dmgTCyclesPerFrame / saturatingAdd 64 capturesPerFrame 1
        let threshold := interval * saturatingAdd 16 b.subframesRecordedThisFrame 1
        match b.currentFrameStartTCycle with
        | some frameStart => threshold ≤ current - frameStart
        | none =>
            match b.lastSubframeTCycle.or newest with
            | some anchor => interval ≤ current - anchor
            | none => true

def capture (machine : μ) (captureKind : MachineRewindCaptureKind) : MachineRewindEntry μ :=
  let state := captureSaveState machine
  { state := state
    captureKind
    nextTCycle := metadataNextTCycle state
    estimatedBytes := deepSizeBytes state }

def pushBack (b : MachineRewindBuffer μ) (entry : MachineRewindEntry μ) :
    MachineRewindBuffer μ :=
  { b with
    estimatedBytes := saturatingAdd 64 b.estimatedBytes entry.estimatedBytes
    entries := b.entries ++ [entry] }

/-- The new entry is a frame boundary if either capture is one. -/
def replaceBack (b : MachineRewindBuffer μ) (latest entry : MachineRewindEntry μ) :
    MachineRewindBuffer μ :=
  let captureKind :=
    if entry.captureKind = .frameBoundary then .frameBoundary else latest.captureKind
  { b with
    estimatedBytes :=
      saturatingAdd 64 (b.estimatedBytes - latest.estimatedBytes) entry.estimatedBytes
    entries := b.entries.dropLast ++ [{ entry with captureKind }]
    duplicateCaptures := saturatingAdd 64 b.duplicateCaptures 1 }

/-- A capture at the cycle of the newest entry replaces it, and nothing is pruned then. -/
def pushCapture (b : MachineRewindBuffer μ) (machine : μ)
    (captureKind : MachineRewindCaptureKind) : Bool × MachineRewindBuffer μ :=
  let entry := capture machine captureKind
  match b.entries.getLast? with
  | none => (true, (b.pushBack entry).enforceLimits)
  | some latest =>
      if latest.nextTCycle = entry.nextTCycle then (false, b.replaceBack latest entry)
      else (true, (b.pushBack entry).enforceLimits)

def beginFrame (b : MachineRewindBuffer μ) (machine : μ) : MachineRewindBuffer μ :=
  { b with
    currentFrameStartTCycle := some (nextTCycle machine)
    subframesRecordedThisFrame := 0 }

def recordFrameBoundary (b : MachineRewindBuffer μ) (machine : μ) :
    Bool × MachineRewindBuffer μ :=
  match (b.beginFrame machine).pushCapture machine .frameBoundary with
  | (true, b) =>
      (true, { b with frameBoundaryCaptures := saturatingAdd 64 b.frameBoundaryCaptures 1 })
  | (false, b) => (false, b)

/-- What `record_subframe` counts after a capture. -/
def noteSubframe (b : MachineRewindBuffer μ) (machine : μ) : MachineRewindBuffer μ :=
  { b with
    subframeCaptures := saturatingAdd 64 b.subframeCaptures 1
    lastSubframeTCycle := some (nextTCycle machine)
    subframesRecordedThisFrame :=
      match b.config.subframeCadence.normalized with
      | .fixedPerFrame _ => saturatingAdd 16 b.subframesRecordedThisFrame 1
      | .disabled | .everyTCycles _ => b.subframesRecordedThisFrame }

def recordSubframe (b : MachineRewindBuffer μ) (machine : μ) : Bool × MachineRewindBuffer μ :=
  if b.shouldRecordSubframe (nextTCycle machine) then
    match b.pushCapture machine .subframe with
    | (true, b) => (true, b.noteSubframe machine)
    | (false, b) => (false, b)
  else (false, { b with skippedSubframes := saturatingAdd 64 b.skippedSubframes 1 })

/-! ## Rewinding -/

/-- `while entries.len() > len { pop_back }`, at most `fuel` times. -/
def popBackLoop (len : Nat) : Nat → MachineRewindBuffer μ → MachineRewindBuffer μ
  | 0, b => b
  | fuel + 1, b => if len < b.entries.length then popBackLoop len fuel b.popBack else b

/-- The loop, which drops an entry each time round. -/
def popBackTo (len : Nat) (b : MachineRewindBuffer μ) : MachineRewindBuffer μ :=
  popBackLoop len b.entries.length b

/-- The newest entry, or the one before it when the newest is the present state. -/
def targetIndex (b : MachineRewindBuffer μ) (machine : μ) : Nat :=
  let last := b.entries.length - 1
  if 1 < b.entries.length ∧
      b.entries.getLast?.map MachineRewindEntry.nextTCycle = some (nextTCycle machine) then
    last - 1
  else last

/-- `rewind_one` also drops the entry it restores. -/
def rewindOne (b : MachineRewindBuffer μ) (machine : μ) :
    Except (RestoreError μ) (Option MachineRewindRestore) × μ × MachineRewindBuffer μ :=
  match b.entries[b.targetIndex machine]? with
  | none => (.ok none, machine, b)
  | some target =>
      match restoreSaveState machine target.state with
      | (.error error, machine') => (.error error, machine', b)
      | (.ok (), machine') =>
          let b' := b.popBackTo (b.targetIndex machine)
          (.ok (some
            { captureKind := target.captureKind
              restoredNextTCycle := target.nextTCycle
              estimatedBytes := target.estimatedBytes
              remainingSnapshots := b.targetIndex machine }),
            machine',
            { b' with
              restoredSnapshots := saturatingAdd 64 b'.restoredSnapshots 1
              currentFrameStartTCycle := none
              subframesRecordedThisFrame := 0
              lastSubframeTCycle := b'.entries.getLast?.bind fun entry =>
                if entry.captureKind = .subframe then some entry.nextTCycle else none })

end MachineRewindBuffer

end GbCycle
