import GbCycle.Cartridge.Device
import GbCycle.Persistence.Backend

/-!
# The persistence manager loses no noted write

The manager sits between a cartridge and a save backend.  A noted write makes it dirty, and
what then happens depends on the flush policy, on the calls that follow and on the answer of
the backend.  What the backend was asked and what it answered is written down on its side, by
a backend that wraps it, so that nothing rests on the manager's own word.  The history of a
run says when a write is unsaved: it was noted, and the backend has not stored the cartridge's
state since.  The dirty flag is shown to be exactly this, in every run and with every backend.

A cartridge is seen through the two functions of it that the manager calls.
-/

namespace GbCycle

class PersistentCartridge (κ : Type) where
  persistenceMetadata : κ → CartridgePersistenceMetadata
  persistentState : κ → PersistentCartState

open PersistentCartridge (persistenceMetadata persistentState)

instance : PersistentCartridge CartridgeSlot where
  persistenceMetadata := CartridgeSlot.persistenceMetadata
  persistentState := CartridgeSlot.persistentState

inductive HardwarePersistenceSaveResult where
  | skippedNotBatteryBacked
  | saved (envelope : CartridgeSaveEnvelope)
  deriving Repr, DecidableEq

inductive HardwarePersistenceFlushPolicy where
  | manual
  | saveOnClose
  | autoFlushAfterPersistibleWrite
  deriving Repr, DecidableEq

inductive HardwarePersistenceTrigger where
  | persistibleWrite
  | manualFlush
  | forcedSave
  | close
  deriving Repr, DecidableEq

inductive HardwarePersistenceActionResult where
  | skippedNotBatteryBacked
  | deferred
  | noPendingSave
  | skippedByFlushPolicy (trigger : HardwarePersistenceTrigger)
  | saved (trigger : HardwarePersistenceTrigger) (envelope : CartridgeSaveEnvelope)
  deriving Repr, DecidableEq

inductive HardwarePersistenceError where
  | backend (error : CartridgeSaveBackendError)
  | restore (error : CartridgePersistentStateError)
  deriving Repr, DecidableEq

def usesBatteryBackedHardwarePersistence (metadata : CartridgePersistenceMetadata) : Bool :=
  match metadata.profile with
  | .persistentEeprom _ => true
  | .persistentRam _ | .persistentRtc | .persistentRamAndRtc _ | .persistentRamAndFlash .. =>
      metadata.hasBattery
  | .none | .nonPersistentRam _ => false

structure HardwarePersistenceManager (β : Type) where
  backend : β
  key : CartridgeSaveKey
  flushPolicy : HardwarePersistenceFlushPolicy
  dirty : Bool

variable {β κ : Type} [CartridgeSaveBackend β] [PersistentCartridge κ]

def saveHardwareCartridgePersistence (backend : β) (key : CartridgeSaveKey) (cartridge : κ) :
    Except HardwarePersistenceError HardwarePersistenceSaveResult × β :=
  let metadata := persistenceMetadata cartridge
  if usesBatteryBackedHardwarePersistence metadata then
    match CartridgeSaveBackend.save backend key metadata (persistentState cartridge) with
    | (.error error, backend) => (.error (.backend error), backend)
    | (.ok envelope, backend) => (.ok (.saved envelope), backend)
  else (.ok .skippedNotBatteryBacked, backend)

abbrev ActionOutcome := Except HardwarePersistenceError HardwarePersistenceActionResult

/-! ## The calls -/

namespace HardwarePersistenceManager

omit [CartridgeSaveBackend β] in
def new (backend : β) (key : CartridgeSaveKey) (flushPolicy : HardwarePersistenceFlushPolicy) :
    HardwarePersistenceManager β :=
  { backend, key, flushPolicy, dirty := false }

def performSave (m : HardwarePersistenceManager β) (cartridge : κ)
    (trigger : HardwarePersistenceTrigger) (saveWhenClean : Bool) :
    ActionOutcome × HardwarePersistenceManager β :=
  if !usesBatteryBackedHardwarePersistence (persistenceMetadata cartridge) then
    (.ok .skippedNotBatteryBacked, { m with dirty := false })
  else if !saveWhenClean && !m.dirty then (.ok .noPendingSave, m)
  else match saveHardwareCartridgePersistence m.backend m.key cartridge with
    | (.error error, backend) => (.error error, { m with backend })
    | (.ok .skippedNotBatteryBacked, backend) =>
        (.ok .skippedNotBatteryBacked, { m with backend, dirty := false })
    | (.ok (.saved envelope), backend) =>
        (.ok (.saved trigger envelope), { m with backend, dirty := false })

def notePersistibleWrite (m : HardwarePersistenceManager β) (cartridge : κ) :
    ActionOutcome × HardwarePersistenceManager β :=
  if !usesBatteryBackedHardwarePersistence (persistenceMetadata cartridge) then
    (.ok .skippedNotBatteryBacked, { m with dirty := false })
  else
    let m := { m with dirty := true }
    match m.flushPolicy with
    | .autoFlushAfterPersistibleWrite => m.performSave cartridge .persistibleWrite true
    | .manual | .saveOnClose => (.ok .deferred, m)

def flush (m : HardwarePersistenceManager β) (cartridge : κ) :
    ActionOutcome × HardwarePersistenceManager β :=
  m.performSave cartridge .manualFlush false

def forceSave (m : HardwarePersistenceManager β) (cartridge : κ) :
    ActionOutcome × HardwarePersistenceManager β :=
  m.performSave cartridge .forcedSave true

def close (m : HardwarePersistenceManager β) (cartridge : κ) :
    ActionOutcome × HardwarePersistenceManager β :=
  if !usesBatteryBackedHardwarePersistence (persistenceMetadata cartridge) then
    (.ok .skippedNotBatteryBacked, { m with dirty := false })
  else if !m.dirty then (.ok .noPendingSave, m)
  else match m.flushPolicy with
    | .manual => (.ok (.skippedByFlushPolicy .close), m)
    | .saveOnClose | .autoFlushAfterPersistibleWrite => m.performSave cartridge .close true

end HardwarePersistenceManager

/-- What the host does with a manager, with the cartridge as it is at that moment.
`backendMut` is the host's own access to the backend. -/
inductive ManagerCall (β κ : Type) where
  | notePersistibleWrite (cartridge : κ)
  | flush (cartridge : κ)
  | forceSave (cartridge : κ)
  | close (cartridge : κ)
  | setFlushPolicy (flushPolicy : HardwarePersistenceFlushPolicy)
  | backendMut (backend : β)

namespace ManagerCall

def cartridge? : ManagerCall β κ → Option κ
  | .notePersistibleWrite c | .flush c | .forceSave c | .close c => some c
  | .setFlushPolicy _ | .backendMut _ => none

/-- The cartridge of the call, if it has one, keeps its state on a battery. -/
def BatteryBacked (call : ManagerCall β κ) : Prop :=
  ∀ c ∈ call.cartridge?, usesBatteryBackedHardwarePersistence (persistenceMetadata c) = true

def notesWrite : ManagerCall β κ → Bool
  | .notePersistibleWrite _ => true
  | _ => false

end ManagerCall

def HardwarePersistenceManager.call (m : HardwarePersistenceManager β) :
    ManagerCall β κ → Option ActionOutcome × HardwarePersistenceManager β
  | .notePersistibleWrite c => (m.notePersistibleWrite c).map some id
  | .flush c => (m.flush c).map some id
  | .forceSave c => (m.forceSave c).map some id
  | .close c => (m.close c).map some id
  | .setFlushPolicy flushPolicy => (none, { m with flushPolicy })
  | .backendMut backend => (none, { m with backend })

/-! ## What the backend is asked -/

/-- A save that a backend was asked for, with what it answered. -/
structure BackendSave where
  key : CartridgeSaveKey
  metadata : CartridgePersistenceMetadata
  state : PersistentCartState
  answer : Except CartridgeSaveBackendError CartridgeSaveEnvelope

/-- A backend that does what the one inside does, and writes down the saves. -/
structure RecordingBackend (β : Type) where
  backend : β
  saves : List BackendSave

instance : CartridgeSaveBackend (RecordingBackend β) where
  currentUnixSeconds b := CartridgeSaveBackend.currentUnixSeconds b.backend
  load b := CartridgeSaveBackend.load b.backend
  save b key metadata state :=
    let (answer, backend) := CartridgeSaveBackend.save b.backend key metadata state
    (answer, { backend, saves := b.saves ++ [{ key, metadata, state, answer }] })
  save_carries {b _ _ _ _} h := CartridgeSaveBackend.save_carries (b := b.backend) h

omit [CartridgeSaveBackend β] in
def ManagerCall.recorded : ManagerCall β κ → ManagerCall (RecordingBackend β) κ
  | .notePersistibleWrite c => .notePersistibleWrite c
  | .flush c => .flush c
  | .forceSave c => .forceSave c
  | .close c => .close c
  | .setFlushPolicy flushPolicy => .setFlushPolicy flushPolicy
  | .backendMut backend => .backendMut { backend, saves := [] }

namespace HardwarePersistenceManager

omit [CartridgeSaveBackend β] in
def recorded (m : HardwarePersistenceManager β) :
    HardwarePersistenceManager (RecordingBackend β) :=
  { backend := { backend := m.backend, saves := [] }, key := m.key, flushPolicy := m.flushPolicy
    dirty := m.dirty }

omit [CartridgeSaveBackend β] in
def unrecorded (m : HardwarePersistenceManager (RecordingBackend β)) :
    HardwarePersistenceManager β :=
  { backend := m.backend.backend, key := m.key, flushPolicy := m.flushPolicy, dirty := m.dirty }

/-- The saves that a call asks of the backend, in order. -/
def backendSaves (m : HardwarePersistenceManager β) (call : ManagerCall β κ) : List BackendSave :=
  (m.recorded.call call.recorded).2.backend.saves

end HardwarePersistenceManager

/-- A call, the saves it asked of the backend and its answer. -/
structure ManagerEvent (β κ : Type) where
  call : ManagerCall β κ
  saves : List BackendSave
  outcome : Option ActionOutcome

def HardwarePersistenceManager.event (m : HardwarePersistenceManager β) (call : ManagerCall β κ) :
    ManagerEvent β κ :=
  { call, saves := m.backendSaves call, outcome := (m.call call).1 }

/-- The backend has stored an envelope under the key that carries the state the cartridge had. -/
def ManagerEvent.Saves (key : CartridgeSaveKey) (e : ManagerEvent β κ) : Prop :=
  ∃ c ∈ e.call.cartridge?, ∃ s ∈ e.saves, s.key = key ∧
    ∃ envelope, s.answer = .ok envelope ∧ envelope.persistentState = persistentState c

/-- A write has been noted, and the backend has not stored the cartridge since. -/
def Unsaved (key : CartridgeSaveKey) : List (ManagerEvent β κ) → Prop
  | [] => False
  | e :: earlier => ¬ e.Saves key ∧ (e.call.notesWrite = true ∨ Unsaved key earlier)

/-- The manager after some calls, and their history.  In both lists the latest is first. -/
def HardwarePersistenceManager.run (m : HardwarePersistenceManager β) :
    List (ManagerCall β κ) → HardwarePersistenceManager β × List (ManagerEvent β κ)
  | [] => (m, [])
  | call :: earlier =>
      let (m, history) := m.run earlier
      ((m.call call).2, m.event call :: history)

/-! ## One call -/

namespace HardwarePersistenceManager

/-- The manager asks the backend, and believes it. -/
def askBackend (m : HardwarePersistenceManager β) (c : κ) (trigger : HardwarePersistenceTrigger) :
    ActionOutcome × HardwarePersistenceManager β :=
  match CartridgeSaveBackend.save m.backend m.key (persistenceMetadata c) (persistentState c) with
  | (.error error, backend) => (.error (.backend error), { m with backend })
  | (.ok envelope, backend) => (.ok (.saved trigger envelope), { m with backend, dirty := false })

/-- A save attempt for a cartridge with a battery. -/
theorem performSave_eq {m : HardwarePersistenceManager β} {c : κ}
    (hbattery : usesBatteryBackedHardwarePersistence (persistenceMetadata c) = true)
    (trigger : HardwarePersistenceTrigger) (saveWhenClean : Bool) :
    m.performSave c trigger saveWhenClean =
      if saveWhenClean = true ∨ m.dirty = true then m.askBackend c trigger
      else (.ok .noPendingSave, m) := by
  unfold performSave saveHardwareCartridgePersistence askBackend
  simp only [hbattery, Bool.not_true, Bool.false_eq_true, if_false, if_true]
  cases saveWhenClean <;> cases m.dirty <;>
    rcases CartridgeSaveBackend.save m.backend m.key (persistenceMetadata c) (persistentState c)
      with ⟨error | envelope, backend⟩ <;> rfl

end HardwarePersistenceManager

/-- Whether the call has to save: a note does under the automatic policy, a flush when there is
something to flush, a close when there is something and the policy is not the manual one. -/
def ManagerCall.isDue (flushPolicy : HardwarePersistenceFlushPolicy) (dirty : Bool) :
    ManagerCall β κ → Bool
  | .notePersistibleWrite _ => flushPolicy = .autoFlushAfterPersistibleWrite
  | .flush _ => dirty
  | .forceSave _ => true
  | .close _ => dirty && flushPolicy ≠ .manual
  | .setFlushPolicy _ | .backendMut _ => false

/-- An answer of the manager that is neither a save nor an error. -/
def Quiet (outcome : Option ActionOutcome) : Prop :=
  ∀ answer ∈ outcome, ∃ result, answer = .ok result ∧
    ∀ trigger envelope, result ≠ .saved trigger envelope

theorem quiet_ok {result : HardwarePersistenceActionResult}
    (h : ∀ trigger envelope, result ≠ .saved trigger envelope) : Quiet (some (.ok result)) := by
  rintro answer ⟨⟩
  exact ⟨result, rfl, h⟩

theorem quiet_none : Quiet none := by
  rintro answer ⟨⟩

namespace HardwarePersistenceManager

variable {m : HardwarePersistenceManager β} {call : ManagerCall β κ}

/-- A call that is due asks the backend to save its cartridge and gives its answer; any other
asks for nothing and keeps the flag, raised by the write it notes. -/
theorem call_cases (m : HardwarePersistenceManager β) (hbattery : call.BatteryBacked) :
    (call.isDue m.flushPolicy m.dirty = false ∧
      (m.call call).2.dirty = (call.notesWrite || m.dirty) ∧ Quiet (m.call call).1 ∧
      ((m.call call).2.backend = m.backend ∨
        ∃ backend, call = .backendMut backend ∧ (m.call call).2.backend = backend)) ∨
    (call.isDue m.flushPolicy m.dirty = true ∧ ∃ c trigger, call.cartridge? = some c ∧
      m.call call =
        ({ m with dirty := call.notesWrite || m.dirty }.askBackend c trigger).map some id) := by
  obtain ⟨backend, key, flushPolicy, dirty⟩ := m
  cases call with
  | notePersistibleWrite c =>
      simp only [HardwarePersistenceManager.call, notePersistibleWrite, hbattery c rfl,
        Bool.not_true, Bool.false_eq_true, if_false, performSave_eq (hbattery c rfl), true_or,
        if_true]
      cases flushPolicy with
      | manual | saveOnClose => exact .inl ⟨rfl, rfl, quiet_ok (by simp), .inl rfl⟩
      | autoFlushAfterPersistibleWrite => exact .inr ⟨rfl, c, .persistibleWrite, rfl, rfl⟩
  | flush c =>
      simp only [HardwarePersistenceManager.call, flush, performSave_eq (hbattery c rfl)]
      cases dirty with
      | false => exact .inl ⟨rfl, rfl, quiet_ok (by simp), .inl rfl⟩
      | true => exact .inr ⟨rfl, c, .manualFlush, rfl, rfl⟩
  | forceSave c =>
      simp only [HardwarePersistenceManager.call, forceSave, performSave_eq (hbattery c rfl),
        true_or, if_true]
      exact .inr ⟨rfl, c, .forcedSave, rfl, rfl⟩
  | close c =>
      simp only [HardwarePersistenceManager.call, close, hbattery c rfl, Bool.not_true,
        Bool.false_eq_true, if_false, performSave_eq (hbattery c rfl), true_or, if_true]
      cases dirty with
      | false => exact .inl ⟨rfl, rfl, quiet_ok (by simp), .inl rfl⟩
      | true =>
          cases flushPolicy with
          | manual => exact .inl ⟨rfl, rfl, quiet_ok (by simp), .inl rfl⟩
          | saveOnClose | autoFlushAfterPersistibleWrite => exact .inr ⟨rfl, c, .close, rfl, rfl⟩
  | setFlushPolicy flushPolicy => exact .inl ⟨rfl, rfl, quiet_none, .inl rfl⟩
  | backendMut backend => exact .inl ⟨rfl, rfl, quiet_none, .inr ⟨backend, rfl, rfl⟩⟩

end HardwarePersistenceManager

/-! ## The record

With the record and without it a call answers the same and leaves the same manager. -/

namespace HardwarePersistenceManager

theorem askBackend_unrecorded (m : HardwarePersistenceManager (RecordingBackend β)) (c : κ)
    (trigger : HardwarePersistenceTrigger) :
    (m.askBackend c trigger).map id unrecorded = m.unrecorded.askBackend c trigger := by
  simp only [askBackend, CartridgeSaveBackend.save, unrecorded]
  rcases CartridgeSaveBackend.save m.backend.backend m.key (persistenceMetadata c)
    (persistentState c) with ⟨error | envelope, backend⟩ <;> rfl

theorem performSave_unrecorded (m : HardwarePersistenceManager (RecordingBackend β)) (c : κ)
    (trigger : HardwarePersistenceTrigger) (saveWhenClean : Bool) :
    (m.performSave c trigger saveWhenClean).map id unrecorded =
      m.unrecorded.performSave c trigger saveWhenClean := by
  cases hbattery : usesBatteryBackedHardwarePersistence (persistenceMetadata c) with
  | false =>
      simp only [performSave, hbattery, Bool.not_false, if_true]
      rfl
  | true =>
      have hdirty : m.unrecorded.dirty = m.dirty := rfl
      rw [performSave_eq hbattery, performSave_eq hbattery, hdirty]
      split
      · exact m.askBackend_unrecorded c trigger
      · rfl

theorem call_recorded (m : HardwarePersistenceManager β) (call : ManagerCall β κ) :
    (m.recorded.call call.recorded).map id unrecorded = m.call call := by
  have hsave {c : κ} {trigger : HardwarePersistenceTrigger} {saveWhenClean : Bool}
      (m : HardwarePersistenceManager (RecordingBackend β)) :
      ((m.performSave c trigger saveWhenClean).map some id).map id unrecorded =
        (m.unrecorded.performSave c trigger saveWhenClean).map some id :=
    congrArg (Prod.map some id) (m.performSave_unrecorded c trigger saveWhenClean)
  obtain ⟨backend, key, flushPolicy, dirty⟩ := m
  cases call with
  | notePersistibleWrite c =>
      simp only [ManagerCall.recorded, HardwarePersistenceManager.call, notePersistibleWrite]
      cases usesBatteryBackedHardwarePersistence (persistenceMetadata c) with
      | false => rfl
      | true =>
          cases flushPolicy with
          | manual | saveOnClose => rfl
          | autoFlushAfterPersistibleWrite => exact hsave _
  | flush c | forceSave c => exact hsave _
  | close c =>
      simp only [ManagerCall.recorded, HardwarePersistenceManager.call, close]
      cases usesBatteryBackedHardwarePersistence (persistenceMetadata c) with
      | false => rfl
      | true =>
          cases dirty with
          | false => rfl
          | true =>
              cases flushPolicy with
              | manual => rfl
              | saveOnClose | autoFlushAfterPersistibleWrite => exact hsave _
  | setFlushPolicy flushPolicy => rfl
  | backendMut backend => rfl

variable {m : HardwarePersistenceManager β} {call : ManagerCall β κ}

/-- What one call asks the backend for, and what the manager makes of the answer. -/
inductive Answers (m : HardwarePersistenceManager β) (call : ManagerCall β κ) : Prop where
  | quiet (hdue : call.isDue m.flushPolicy m.dirty = false) (hsaves : m.backendSaves call = [])
      (houtcome : Quiet (m.call call).1)
      (hdirty : (m.call call).2.dirty = (call.notesWrite || m.dirty))
  | refused (c : κ) (error : CartridgeSaveBackendError) (hcartridge : call.cartridge? = some c)
      (hsaves : m.backendSaves call =
        [{ key := m.key, metadata := persistenceMetadata c, state := persistentState c
           answer := .error error }])
      (houtcome : (m.call call).1 = some (.error (.backend error)))
      (hdirty : (m.call call).2.dirty = (call.notesWrite || m.dirty))
  | stored (c : κ) (trigger : HardwarePersistenceTrigger) (envelope : CartridgeSaveEnvelope)
      (hcartridge : call.cartridge? = some c)
      (hsaves : m.backendSaves call =
        [{ key := m.key, metadata := persistenceMetadata c, state := persistentState c
           answer := .ok envelope }])
      (hstate : envelope.persistentState = persistentState c)
      (houtcome : (m.call call).1 = some (.ok (.saved trigger envelope)))
      (hdirty : (m.call call).2.dirty = false)

theorem answers_call (m : HardwarePersistenceManager β) (hbattery : call.BatteryBacked) :
    m.Answers call := by
  have hrecorded : call.recorded.BatteryBacked := by
    cases call <;> exact hbattery
  have hnotes : call.recorded.notesWrite = call.notesWrite := by cases call <;> rfl
  have hcartridge : call.recorded.cartridge? = call.cartridge? := by cases call <;> rfl
  have hdue : call.recorded.isDue m.flushPolicy m.dirty = call.isDue m.flushPolicy m.dirty := by
    cases call <;> rfl
  have hcall := m.call_recorded call
  have houtcome : (m.recorded.call call.recorded).1 = (m.call call).1 := congrArg Prod.fst hcall
  have hdirty : (m.recorded.call call.recorded).2.dirty = (m.call call).2.dirty :=
    congrArg (·.2.dirty) hcall
  rcases m.recorded.call_cases hrecorded with
    ⟨hnotdue, hflag, hquiet, hbackend⟩ | ⟨-, c, trigger, hc, heq⟩
  · refine .quiet (hdue ▸ hnotdue) ?_ (houtcome ▸ hquiet) (by rw [← hdirty, hflag, hnotes]; rfl)
    rcases hbackend with hsame | ⟨backend, hmut, hbackend⟩
    · exact congrArg RecordingBackend.saves hsame
    · cases call with
      | backendMut => cases hmut; exact congrArg RecordingBackend.saves hbackend
      | _ => cases hmut
  · rw [hcartridge] at hc
    rw [hnotes] at heq
    have hsaves : m.backendSaves call = _ := congrArg (·.2.backend.saves) heq
    replace houtcome := houtcome.symm.trans (congrArg Prod.fst heq)
    replace hdirty := hdirty.symm.trans (congrArg (·.2.dirty) heq)
    rcases hsave : CartridgeSaveBackend.save m.backend m.key (persistenceMetadata c)
      (persistentState c) with ⟨error | envelope, backend⟩
    · simp only [askBackend, CartridgeSaveBackend.save, recorded, hsave] at hsaves houtcome hdirty
      exact .refused c error hc hsaves houtcome hdirty
    · have hcarries := CartridgeSaveBackend.save_carries (congrArg Prod.fst hsave)
      simp only [askBackend, CartridgeSaveBackend.save, recorded, hsave] at hsaves houtcome hdirty
      exact .stored c trigger envelope hc hsaves hcarries.2 houtcome hdirty

end HardwarePersistenceManager

/-! ## Runs -/

section Runs

variable {m : HardwarePersistenceManager β} {call : ManagerCall β κ}

/-- The flag after a call: it stands unless the backend has stored the cartridge, and was raised
by this call or before it. -/
theorem dirty_call_iff (m : HardwarePersistenceManager β) (hbattery : call.BatteryBacked) :
    (m.call call).2.dirty = true ↔
      ¬ (m.event call).Saves m.key ∧ (call.notesWrite = true ∨ m.dirty = true) := by
  have hkept (hnone : ∀ s ∈ m.backendSaves call, ∀ envelope, s.answer ≠ .ok envelope)
      (hdirty : (m.call call).2.dirty = (call.notesWrite || m.dirty)) :
      (m.call call).2.dirty = true ↔
        ¬ (m.event call).Saves m.key ∧ (call.notesWrite = true ∨ m.dirty = true) := by
    rw [hdirty, Bool.or_eq_true]
    refine ⟨fun h => ⟨?_, h⟩, fun h => h.2⟩
    rintro ⟨_, _, s, hs, _, envelope, hanswer, _⟩
    exact hnone s hs envelope hanswer
  rcases m.answers_call hbattery with
    ⟨_, hsaves, _, hdirty⟩ | ⟨c, error, _, hsaves, _, hdirty⟩ |
    ⟨c, trigger, envelope, hc, hsaves, hstate, _, hdirty⟩
  · exact hkept (by simp [hsaves]) hdirty
  · exact hkept (by simp [hsaves]) hdirty
  · refine ⟨fun h => ?_, fun ⟨h, _⟩ => absurd ?_ h⟩
    · rw [hdirty] at h
      cases h
    · exact ⟨c, hc, _, hsaves ▸ List.mem_singleton.mpr rfl, rfl, envelope, rfl, hstate⟩

theorem key_performSave (m : HardwarePersistenceManager β) (c : κ)
    (trigger : HardwarePersistenceTrigger) (saveWhenClean : Bool) :
    (m.performSave c trigger saveWhenClean).2.key = m.key := by
  unfold HardwarePersistenceManager.performSave
  repeat' split
  all_goals rfl

theorem key_call (m : HardwarePersistenceManager β) (call : ManagerCall β κ) :
    (m.call call).2.key = m.key := by
  cases call with
  | notePersistibleWrite c =>
      show (m.notePersistibleWrite c).2.key = m.key
      unfold HardwarePersistenceManager.notePersistibleWrite
      split
      · rfl
      · dsimp only
        split
        · exact key_performSave ..
        · rfl
        · rfl
  | flush c | forceSave c => exact key_performSave ..
  | close c =>
      show (m.close c).2.key = m.key
      unfold HardwarePersistenceManager.close
      split
      · rfl
      · split
        · rfl
        · split
          · rfl
          · exact key_performSave ..
          · exact key_performSave ..
  | setFlushPolicy flushPolicy => rfl
  | backendMut backend => rfl

theorem key_run (m : HardwarePersistenceManager β) (calls : List (ManagerCall β κ)) :
    (m.run calls).1.key = m.key := by
  induction calls with
  | nil => rfl
  | cons call earlier ih => exact (key_call _ call).trans ih

/-- In every run from a clean manager the flag says whether a noted write is unsaved. -/
theorem dirty_run_iff {m : HardwarePersistenceManager β} (hclean : m.dirty = false)
    {calls : List (ManagerCall β κ)} (hbattery : ∀ call ∈ calls, call.BatteryBacked) :
    (m.run calls).1.dirty = true ↔ Unsaved m.key (m.run calls).2 := by
  induction calls with
  | nil =>
      show m.dirty = true ↔ False
      rw [hclean]
      decide
  | cons call earlier ih =>
      have hearlier := ih fun c hc => hbattery c (.tail _ hc)
      have hcall := dirty_call_iff (m.run earlier).1 (hbattery call (.head _))
      rw [key_run] at hcall
      show ((m.run earlier).1.call call).2.dirty = true ↔ _
      rw [hcall, hearlier]
      rfl

theorem close_ne_noPendingSave {m : HardwarePersistenceManager β} {c : κ}
    (hbattery : usesBatteryBackedHardwarePersistence (persistenceMetadata c) = true)
    (hdirty : m.dirty = true) : (m.close c).1 ≠ .ok .noPendingSave := by
  obtain ⟨backend, key, flushPolicy, dirty⟩ := m
  obtain rfl : dirty = true := hdirty
  simp only [HardwarePersistenceManager.close, hbattery, Bool.not_true, Bool.false_eq_true,
    if_false, HardwarePersistenceManager.performSave_eq hbattery, true_or, if_true,
    HardwarePersistenceManager.askBackend]
  cases flushPolicy with
  | manual => simp
  | saveOnClose | autoFlushAfterPersistibleWrite =>
      dsimp only
      split <;> simp

/-- No noted write is lost.  After any calls, with any backend and any failures of it, the
manager is dirty exactly when a noted write is unsaved, as the backend's own answers have it.  A
call that is due asks the backend once, for the state the cartridge has; what the backend refuses
is what the caller is told, and clears nothing; and no `close` reports that nothing is pending
while a noted write is unsaved. -/
theorem hardwarePersistenceManager_losesNoWrite (backend : β) (key : CartridgeSaveKey)
    (flushPolicy : HardwarePersistenceFlushPolicy) (calls : List (ManagerCall β κ))
    (hbattery : ∀ call ∈ calls, call.BatteryBacked) :
    let (m, history) := (HardwarePersistenceManager.new backend key flushPolicy).run calls
    (m.dirty = true ↔ Unsaved key history) ∧
    (∀ call : ManagerCall β κ, call.BatteryBacked →
      (∀ c ∈ call.cartridge?, call.isDue m.flushPolicy m.dirty = true → ∃ answer,
        m.backendSaves call =
          [{ key, metadata := persistenceMetadata c, state := persistentState c, answer }]) ∧
      (∀ s ∈ m.backendSaves call, ∀ error, s.answer = .error error →
        (m.call call).1 = some (.error (.backend error)) ∧
        (m.call call).2.dirty = (call.notesWrite || m.dirty)) ∧
      (∀ error, (m.call call).1 = some (.error error) →
        ∃ s ∈ m.backendSaves call, ∃ refusal, s.answer = .error refusal ∧
          error = .backend refusal)) ∧
    (∀ c : κ, usesBatteryBackedHardwarePersistence (persistenceMetadata c) = true →
      Unsaved key history → (m.close c).1 ≠ .ok .noPendingSave) := by
  have hdirty := dirty_run_iff (m := .new backend key flushPolicy) rfl hbattery
  have hkey := key_run (.new backend key flushPolicy) calls
  rcases hrun : (HardwarePersistenceManager.new backend key flushPolicy).run calls
    with ⟨m, history⟩
  rw [hrun] at hdirty hkey
  obtain rfl : m.key = key := hkey
  refine ⟨hdirty, fun call hcall => ?_, fun c hc hunsaved =>
    close_ne_noPendingSave hc (hdirty.mpr hunsaved)⟩
  rcases m.answers_call hcall with
    ⟨hdue, hsaves, hquiet, _⟩ | ⟨c, error, hc, hsaves, houtcome, hflag⟩ |
    ⟨c, trigger, envelope, hc, hsaves, _, houtcome, _⟩
  · refine ⟨fun c _ h => ?_, by simp [hsaves], fun error herror => ?_⟩
    · rw [hdue] at h
      cases h
    · obtain ⟨_, hok, _⟩ := hquiet _ herror
      cases hok
  · refine ⟨fun c' hc' _ => ?_, fun s hs error' herror => ?_, fun error' herror => ?_⟩
    · obtain rfl := Option.some.inj (hc.symm.trans hc')
      exact ⟨_, hsaves⟩
    · rw [hsaves, List.mem_singleton] at hs
      subst hs
      cases herror
      exact ⟨houtcome, hflag⟩
    · rw [houtcome] at herror
      cases herror
      exact ⟨_, hsaves ▸ List.mem_singleton.mpr rfl, error, rfl, rfl⟩
  · refine ⟨fun c' hc' _ => ?_, fun s hs error' herror => ?_, fun error' herror => ?_⟩
    · obtain rfl := Option.some.inj (hc.symm.trans hc')
      exact ⟨_, hsaves⟩
    · rw [hsaves, List.mem_singleton] at hs
      subst hs
      cases herror
    · rw [houtcome] at herror
      cases herror

end Runs

/-! A run with a write that fails: one byte of RAM, a disk that refuses the next write, and a
`close` after the note. -/

/-- A disk on which the next writes fail. -/
structure FlakyDisk where
  failures : Nat

instance : SaveFiles FlakyDisk where
  read _ _ := .ok none
  writeSaveFileWithSafeReplace disk _ _ :=
    match disk.failures with
    | 0 => (.ok (), disk)
    | failures + 1 => (.error (.io "replace save file"), { failures })

def flakyManager :
    HardwarePersistenceManager
      (FilesystemCartridgeSaveBackend FlakyDisk FixedCartridgeSaveTimeSource) :=
  .new
    { files := { failures := 1 }, root := [], clock := { unixSeconds := 0 }, fileExtension := .p1 }
    { key := "k", nonempty := by decide
      portable := fun c hc => by
        obtain rfl := List.mem_singleton.mp hc
        decide }
    .saveOnClose

def oneByteCartridge : CartridgeSlot where
  device := some (.noMbc
    { rom := [], ram := some [7], hasBattery := true
      header :=
        { nintendoLogo := [], titleBytes := [], title := [], cgbFlag := decodeCgbFlag 0x00
          cartridgeType := 0x09, romSize := .decode 0x00, ramSize := .decode 0x02
          destinationCode := 0 }
      classification := .supported 0x09 "ROM+RAM+BATTERY" .noMbc })

/-- The disk refuses the save of the first `close`, which says so.  The write is still unsaved,
and the next `close` asks again for the byte and is answered. -/
theorem hardwarePersistenceManager_losesNoWrite_flakyDisk :
    let (m, history) :=
      flakyManager.run [.close oneByteCartridge, .notePersistibleWrite oneByteCartridge]
    m.dirty = true ∧ Unsaved flakyManager.key history ∧
      (∃ answer, m.backendSaves (.close oneByteCartridge) =
        [{ key := flakyManager.key, metadata := oneByteCartridge.persistenceMetadata
           state := .noMbcRam [7], answer }]) ∧
      (m.call (.close oneByteCartridge)).2.dirty = false ∧
      (m.close oneByteCartridge).1 ≠ .ok .noPendingSave := by
  obtain ⟨hdirty, hcalls, hclose⟩ :=
    hardwarePersistenceManager_losesNoWrite flakyManager.backend flakyManager.key .saveOnClose
      [.close oneByteCartridge, .notePersistibleWrite oneByteCartridge] (by
        intro call hcall c hc
        simp only [List.mem_cons, List.not_mem_nil, or_false] at hcall
        rcases hcall with rfl | rfl <;> cases hc <;> rfl)
  have hunsaved := hdirty.mp rfl
  obtain ⟨hasked, -, -⟩ := hcalls (.close oneByteCartridge) (by
    rintro c ⟨⟩
    rfl)
  exact ⟨rfl, hunsaved, hasked _ rfl rfl, rfl, hclose oneByteCartridge rfl hunsaved⟩

end GbCycle
