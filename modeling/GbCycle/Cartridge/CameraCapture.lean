import GbCycle.Cartridge.PocketCamera
import GbCycle.Countdown

/-!
# When a capture is over

A capture works until it is paused and again once it is resumed.  What it has worked is summed
here from one event to the next, with no regard to the times at which the cartridge expects it to
be over; the cartridge is then shown to commit the staged tiles at the first access to the RAM
window that finds the whole duration worked, and at no other.
-/

namespace GbCycle

/-- The last T-cycle of a machine. -/
def lastTCycle : Nat := 2 ^ 64 - 1

inductive CameraEvent where
  | readRam (address : U16)
  | writeRam (address : U16) (value : U8)
  | writeRom (address : U16) (value : U8)
  | setHostFrame (frame : PocketCameraFrame)
  | clearHostFrame
  deriving Repr, DecidableEq

/-- An access to the RAM window. -/
def CameraEvent.isAccess : CameraEvent → Bool
  | readRam _ | writeRam .. => true
  | _ => false

/-- The times of a run, which never go back. -/
def TimesFrom : Nat → List (Nat × CameraEvent) → Prop
  | _, [] => True
  | now, (t, _) :: es => now ≤ t ∧ t ≤ lastTCycle ∧ TimesFrom t es

/-! ## What a capture has worked -/

structure CaptureProgress where
  worked : Nat
  working : Bool
  now : Nat
  deriving Repr, DecidableEq

namespace CaptureProgress

def workedAt (p : CaptureProgress) (t : Nat) : Nat :=
  p.worked + if p.working then t - p.now else 0

/-- Up to an event, which may write the capture bit. -/
def step (p : CaptureProgress) (t : Nat) (bit : Option Bool) : CaptureProgress :=
  { worked := p.workedAt t, working := bit.getD p.working, now := t }

/-- The capture is over, by its duration or with the clock. -/
def Over (p : CaptureProgress) (duration t : Nat) : Prop :=
  p.working = true ∧ (duration ≤ p.workedAt t ∨ t = lastTCycle)

/-- An event between that leaves the capture bit alone changes nothing. -/
theorem workedAt_step {p : CaptureProgress} {t t' : Nat} (ht : p.now ≤ t) (ht' : t ≤ t') :
    (p.step t none).workedAt t' = p.workedAt t' := by
  unfold workedAt step workedAt
  dsimp only [Option.getD_none]
  split
  · omega
  · rfl

end CaptureProgress

namespace PocketCameraCartridge

/-! ## Events -/

/-- What an event does by itself, after a capture that is over has been committed. -/
def act (c : PocketCameraCartridge) (t : Nat) : CameraEvent → PocketCameraCartridge
  | .readRam _ => c
  | .writeRam address value => c.writeRamAfterReadyResolution address value (some t)
  | .writeRom address value => c.writeRom address value
  | .setHostFrame frame => (c.setHostFrame frame).2
  | .clearHostFrame => c.clearHostFrame

def step (c : PocketCameraCartridge) (t : Nat) : CameraEvent → PocketCameraCartridge
  | .readRam address => (c.readRamTimed address t).2
  | .writeRam address value => c.writeRamTimed address value t
  | .writeRom address value => c.writeRom address value
  | .setHostFrame frame => (c.setHostFrame frame).2
  | .clearHostFrame => c.clearHostFrame

/-- The capture bit that an event writes. -/
def captureBit (c : PocketCameraCartridge) : CameraEvent → Option Bool
  | .writeRam address value =>
    if c.registersSelected ∧ registerOffset address = 0 then some (value &&& 0x01 ≠ 0) else none
  | _ => none

/-- The program's own write to the RAM, where the RAM takes it. -/
def writtenRam (c : PocketCameraCartridge) : CameraEvent → List U8
  | .writeRam address value =>
    if c.registersSelected || c.captureIsWorking || !c.ramEnabled then c.ram
    else c.ram.set (c.effectiveRamOffset address) value
  | _ => c.ram

theorem step_eq (c : PocketCameraCartridge) (t : Nat) (e : CameraEvent) :
    c.step t e = (if e.isAccess then c.maybeCompleteCapture (some t) else c).act t e := by
  cases e <;> rfl

/-- An idle camera has nothing to complete. -/
theorem step_of_idle {c : PocketCameraCartridge} (hidle : c.captureState = .idle) (t : Nat)
    (e : CameraEvent) : c.step t e = c.act t e := by
  have hsame : c.maybeCompleteCapture (some t) = c := by
    unfold maybeCompleteCapture
    rw [hidle]
  rw [step_eq, hsame, ite_self]

theorem writeCaptureBit_ram (c : PocketCameraCartridge) (bit : Bool) (t : Option Nat) :
    (c.writeCaptureBit bit t).ram = c.ram := by
  unfold writeCaptureBit startNewCapture resumeCapture pauseCapture captureIsWorking
  cases bit <;> cases hstate : c.captureState <;> rfl

/-- An event by itself changes the RAM by the program's write alone. -/
theorem act_ram (c : PocketCameraCartridge) (t : Nat) (e : CameraEvent) :
    (c.act t e).ram = c.writtenRam e := by
  cases e with
  | readRam address => rfl
  | writeRom address value =>
      show (c.writeRom address value).ram = c.ram
      unfold writeRom
      split
      · rfl
      · split
        · rfl
        · split <;> rfl
  | setHostFrame frame =>
      show (c.setHostFrame frame).2.ram = c.ram
      unfold setHostFrame
      split <;> rfl
  | clearHostFrame => exact c.clearHostFrame_ram
  | writeRam address value =>
      show (c.writeRamAfterReadyResolution address value (some t)).ram = _
      unfold writeRamAfterReadyResolution writtenRam
      dsimp only
      cases hselected : c.registersSelected with
      | true =>
          rw [if_pos rfl, Bool.true_or, Bool.true_or, if_pos rfl]
          unfold writeRegister
          dsimp only
          split
          · rw [writeCaptureBit_ram]
            rfl
          · split <;> rfl
      | false =>
          rw [if_neg Bool.false_ne_true, Bool.false_or]
          split <;> rfl

/-! ## The capture state -/

/-- What an event does to a capture that has started. -/
def capturedAfter (state : PocketCameraCaptureState) (t : Nat) :
    Option Bool → PocketCameraCaptureState
  | some true =>
    match state with
    | .paused remaining tiles => .working (saturatingAdd 64 t remaining) tiles
    | state => state
  | some false =>
    match state with
    | .working readyAt tiles => .paused (readyAt - t) tiles
    | state => state
  | none => state

theorem writeCaptureBit_captureState {c : PocketCameraCartridge} (hstarted : c.captureState ≠ .idle)
    (bit : Bool) (t : Nat) :
    (c.writeCaptureBit bit (some t)).captureState = capturedAfter c.captureState t (some bit) := by
  unfold writeCaptureBit capturedAfter
  cases hstate : c.captureState with
  | idle => exact absurd hstate hstarted
  | working readyAt tiles =>
      cases bit with
      | true => exact hstate
      | false =>
          unfold captureIsWorking pauseCapture
          rw [hstate]
          rfl
  | paused remaining tiles =>
      cases bit with
      | true =>
          unfold resumeCapture
          rw [hstate]
          rfl
      | false =>
          unfold captureIsWorking
          rw [hstate]
          exact hstate

/-- An event leaves the capture alone, or is a write of the capture bit. -/
theorem act_cases (c : PocketCameraCartridge) (t : Nat) (e : CameraEvent) :
    (c.captureBit e = none ∧ (c.act t e).captureState = c.captureState) ∨
      ∃ value bit, c.captureBit e = some bit ∧
        c.act t e = (c.setRegister 0 value).writeCaptureBit bit (some t) := by
  cases e with
  | readRam address => exact .inl ⟨rfl, rfl⟩
  | writeRom address value =>
      refine .inl ⟨rfl, ?_⟩
      show (c.writeRom address value).captureState = c.captureState
      unfold writeRom
      split
      · rfl
      · split
        · rfl
        · split <;> rfl
  | setHostFrame frame =>
      refine .inl ⟨rfl, ?_⟩
      show (c.setHostFrame frame).2.captureState = c.captureState
      unfold setHostFrame
      split <;> rfl
  | clearHostFrame => exact .inl ⟨rfl, c.clearHostFrame_captureState⟩
  | writeRam address value =>
      show _ ∨ ∃ value' bit, _ ∧ c.writeRamAfterReadyResolution address value (some t) = _
      unfold captureBit
      dsimp only
      by_cases hregister : c.registersSelected = true ∧ registerOffset address = 0
      · rw [if_pos hregister]
        refine .inr ⟨value &&& 0x06, _, rfl, ?_⟩
        unfold writeRamAfterReadyResolution writeRegister
        dsimp only
        rw [if_pos hregister.1, if_pos hregister.2]
      · rw [if_neg hregister]
        refine .inl ⟨rfl, ?_⟩
        show (c.writeRamAfterReadyResolution address value (some t)).captureState = _
        unfold writeRamAfterReadyResolution writeRegister
        dsimp only
        split
        · next hselected =>
            have hoffset : registerOffset address ≠ 0 := fun h => hregister ⟨hselected, h⟩
            rw [if_neg hoffset]
            split <;> rfl
        · split <;> rfl

theorem act_captureState {c : PocketCameraCartridge} (hstarted : c.captureState ≠ .idle)
    (t : Nat) (e : CameraEvent) :
    (c.act t e).captureState = capturedAfter c.captureState t (c.captureBit e) := by
  rcases c.act_cases t e with ⟨hbit, hsame⟩ | ⟨value, bit, hbit, hact⟩
  · rw [hbit, hsame]
    rfl
  · rw [hbit, hact]
    exact writeCaptureBit_captureState (c := c.setRegister 0 value) hstarted bit t

/-- An idle camera is started by nothing but the capture bit. -/
theorem act_of_idle {c : PocketCameraCartridge} (hidle : c.captureState = .idle) (t : Nat)
    {e : CameraEvent} (hbit : c.captureBit e ≠ some true) : (c.act t e).captureState = .idle := by
  rcases c.act_cases t e with ⟨-, hsame⟩ | ⟨value, bit, hsome, hact⟩
  · rw [hsame, hidle]
  · rw [hact]
    have hidle : (c.setRegister 0 value).captureState = .idle := hidle
    cases bit with
    | true => exact absurd hsome hbit
    | false =>
        unfold writeCaptureBit captureIsWorking
        rw [hidle]
        exact hidle

/-- The expected end of a capture agrees with what it has worked. -/
def Tracks (state : PocketCameraCaptureState) (tiles : List U8) (duration : Nat)
    (p : CaptureProgress) : Prop :=
  if p.working then
    ∃ ready, state = .working (min ready lastTCycle) tiles ∧
      ready + p.worked = p.now + duration
  else
    ∃ remaining, state = .paused remaining tiles ∧ p.worked ≤ duration ∧
      remaining ≤ duration - p.worked ∧
      (remaining = duration - p.worked ∨ lastTCycle ≤ p.now + remaining)

variable {state : PocketCameraCaptureState} {tiles : List U8} {duration t : Nat}
  {p : CaptureProgress}

theorem Tracks.not_idle (h : Tracks state tiles duration p) : state ≠ .idle := by
  unfold Tracks at h
  split at h
  · obtain ⟨ready, rfl, -⟩ := h
    nofun
  · obtain ⟨remaining, rfl, -⟩ := h
    nofun

/-- The cartridge finds a capture over exactly when it is. -/
theorem Tracks.over_iff (h : Tracks state tiles duration p) (hnow : p.now ≤ t)
    (hlast : t ≤ lastTCycle) :
    p.Over duration t ↔ ∃ readyAt, state = .working readyAt tiles ∧ readyAt ≤ t := by
  unfold Tracks at h
  unfold CaptureProgress.Over CaptureProgress.workedAt
  cases hworking : p.working with
  | true =>
      rw [hworking, if_pos rfl] at h
      obtain ⟨ready, rfl, hready⟩ := h
      rw [if_pos rfl]
      constructor
      · rintro ⟨-, hover⟩
        refine ⟨_, rfl, ?_⟩
        omega
      · rintro ⟨readyAt, heq, hle⟩
        cases heq
        refine ⟨rfl, ?_⟩
        omega
  | false =>
      rw [hworking, if_neg Bool.false_ne_true] at h
      obtain ⟨remaining, rfl, -⟩ := h
      constructor
      · rintro ⟨habsurd, -⟩
        exact absurd habsurd Bool.false_ne_true
      · rintro ⟨readyAt, heq, -⟩
        cases heq

/-- A capture goes on through an event that does not find it over. -/
theorem Tracks.step (h : Tracks state tiles duration p) (hnow : p.now ≤ t)
    (hlast : t ≤ lastTCycle) (bit : Option Bool) (hover : bit.isSome = true → ¬p.Over duration t) :
    Tracks (capturedAfter state t bit) tiles duration (p.step t bit) := by
  unfold Tracks at h
  cases hworking : p.working with
  | true =>
      rw [hworking, if_pos rfl] at h
      obtain ⟨ready, rfl, hready⟩ := h
      have hworked : p.workedAt t = p.worked + (t - p.now) := by
        unfold CaptureProgress.workedAt
        rw [hworking, if_pos rfl]
      have hgoes : ready + p.workedAt t = t + duration := by omega
      rcases bit with _ | _ | _
      · unfold Tracks CaptureProgress.step
        rw [Option.getD_none, hworking, if_pos rfl]
        exact ⟨ready, rfl, hgoes⟩
      · have hless : ¬(duration ≤ p.workedAt t ∨ t = lastTCycle) := fun habsurd =>
          hover rfl ⟨hworking, habsurd⟩
        unfold Tracks CaptureProgress.step
        rw [Option.getD_some, if_neg Bool.false_ne_true]
        refine ⟨_, rfl, ?_, ?_, ?_⟩
        · dsimp only
          omega
        · dsimp only
          omega
        · dsimp only
          omega
      · unfold Tracks CaptureProgress.step
        rw [Option.getD_some, if_pos rfl]
        exact ⟨ready, rfl, hgoes⟩
  | false =>
      rw [hworking, if_neg Bool.false_ne_true] at h
      obtain ⟨remaining, rfl, hle, hremaining, hexact⟩ := h
      have hworked : p.workedAt t = p.worked := by
        unfold CaptureProgress.workedAt
        rw [hworking, if_neg Bool.false_ne_true]
        rfl
      have hpaused : Tracks (.paused remaining tiles) tiles duration
          { worked := p.workedAt t, working := false, now := t } := by
        unfold Tracks
        rw [if_neg Bool.false_ne_true, hworked]
        refine ⟨remaining, rfl, hle, hremaining, ?_⟩
        dsimp only
        omega
      rcases bit with _ | _ | _
      · unfold CaptureProgress.step
        rw [Option.getD_none, hworking]
        exact hpaused
      · exact hpaused
      · unfold Tracks CaptureProgress.step
        rw [Option.getD_some, if_pos rfl, hworked]
        refine ⟨t + (duration - p.worked), ?_, ?_⟩
        · unfold capturedAfter saturatingAdd
          dsimp only
          congr 1
          unfold lastTCycle at *
          omega
        · dsimp only
          omega

/-- The camera with its tiles in the RAM, ready for the next capture. -/
def captured (c : PocketCameraCartridge) (tiles : List U8) : PocketCameraCartridge :=
  { c with captureState := .idle }.commitStagedTiles tiles

theorem captured_captureState (c : PocketCameraCartridge) (tiles : List U8) :
    (c.captured tiles).captureState = .idle := by
  unfold captured commitStagedTiles
  dsimp only
  split <;> rfl

theorem captured_ram {c : PocketCameraCartridge} {tiles : List U8}
    (hram : c.ram.length = pocketCameraSupportedRamBytes)
    (htiles : tiles.length = pocketCameraCaptureTileBytes) :
    (c.captured tiles).ram = c.ram.take pocketCameraCaptureTileBaseOffset ++ tiles ++
      c.ram.drop (pocketCameraCaptureTileBaseOffset + tiles.length) := by
  unfold captured commitStagedTiles
  dsimp only
  rw [if_pos]
  rw [hram, htiles]
  decide

theorem maybeCompleteCapture_of_over {c : PocketCameraCartridge}
    (h : Tracks c.captureState tiles duration p) (hnow : p.now ≤ t) (hlast : t ≤ lastTCycle)
    (hover : p.Over duration t) : c.maybeCompleteCapture (some t) = c.captured tiles := by
  obtain ⟨readyAt, hstate, hready⟩ := (h.over_iff hnow hlast).mp hover
  unfold maybeCompleteCapture
  rw [hstate]
  exact if_pos hready

theorem maybeCompleteCapture_of_not_over {c : PocketCameraCartridge}
    (h : Tracks c.captureState tiles duration p) (hnow : p.now ≤ t) (hlast : t ≤ lastTCycle)
    (hover : ¬p.Over duration t) : c.maybeCompleteCapture (some t) = c := by
  rw [h.over_iff hnow hlast] at hover
  unfold maybeCompleteCapture
  split
  · next tCycle readyAt tiles' hcycle hstate =>
      obtain rfl := Option.some.inj hcycle
      refine if_neg fun hready => ?_
      unfold Tracks at h
      split at h
      · obtain ⟨ready, heq, -⟩ := h
        obtain ⟨rfl, rfl⟩ := PocketCameraCaptureState.working.inj (hstate.symm.trans heq)
        exact hover ⟨_, hstate, hready⟩
      · obtain ⟨remaining, heq, -⟩ := h
        cases hstate.symm.trans heq
  · rfl

theorem isAccess_of_captureBit {c : PocketCameraCartridge} {e : CameraEvent}
    (h : (c.captureBit e).isSome = true) : e.isAccess = true := by
  cases e with
  | writeRam address value => rfl
  | readRam address => cases h
  | writeRom address value => cases h
  | setHostFrame frame => cases h
  | clearHostFrame => cases h

end PocketCameraCartridge

/-! ## Runs -/

/-- A camera with what its capture has worked. -/
structure CameraRun where
  camera : PocketCameraCartridge
  progress : CaptureProgress

namespace CameraRun

open PocketCameraCartridge

def step (r : CameraRun) (e : Nat × CameraEvent) : CameraRun :=
  { camera := r.camera.step e.1 e.2
    progress := r.progress.step e.1 (r.camera.captureBit e.2) }

def after (r : CameraRun) (es : List (Nat × CameraEvent)) : CameraRun := es.foldl step r

/-- An access that finds the capture over. -/
def Commits (duration : Nat) (r : CameraRun) (e : Nat × CameraEvent) : Prop :=
  e.2.isAccess = true ∧ r.progress.Over duration e.1

/-- A capture of some tiles under way. -/
structure Capturing (r : CameraRun) (tiles : List U8) (duration : Nat) : Prop where
  tracks : Tracks r.camera.captureState tiles duration r.progress
  ram : r.camera.ram.length = pocketCameraSupportedRamBytes

variable {r : CameraRun} {tiles : List U8} {duration t : Nat} {e : CameraEvent}

theorem length_writtenRam (c : PocketCameraCartridge) (e : CameraEvent) :
    (c.writtenRam e).length = c.ram.length := by
  unfold writtenRam
  split
  · split
    · rfl
    · exact List.length_set
  · rfl

/-- An event that does not commit leaves the capture to go on. -/
theorem Capturing.step_of_not_commits (h : r.Capturing tiles duration)
    (hnow : r.progress.now ≤ t) (hlast : t ≤ lastTCycle) (hnot : ¬r.Commits duration (t, e)) :
    (r.step (t, e)).camera = r.camera.act t e ∧ (r.step (t, e)).Capturing tiles duration := by
  have hact : r.camera.step t e = r.camera.act t e := by
    rw [step_eq]
    by_cases haccess : e.isAccess = true
    · rw [if_pos haccess, maybeCompleteCapture_of_not_over h.tracks hnow hlast]
      exact fun hover => hnot ⟨haccess, hover⟩
    · rw [if_neg haccess]
  refine ⟨hact, ?_, ?_⟩
  · show Tracks (r.camera.step t e).captureState tiles duration _
    rw [hact, act_captureState h.tracks.not_idle]
    refine h.tracks.step hnow hlast _ fun hbit hover => hnot ⟨?_, hover⟩
    exact isAccess_of_captureBit hbit
  · show (r.camera.step t e).ram.length = _
    rw [hact, act_ram, length_writtenRam]
    exact h.ram

theorem Capturing.after (h : r.Capturing tiles duration) {es : List (Nat × CameraEvent)}
    (htimes : TimesFrom r.progress.now (es ++ [(t, e)]))
    (hnot : AllAllowed step (fun r e => ¬r.Commits duration e) r es) :
    (r.after es).Capturing tiles duration ∧ (r.after es).progress.now ≤ t ∧ t ≤ lastTCycle := by
  induction es generalizing r with
  | nil => exact ⟨h, htimes.1, htimes.2.1⟩
  | cons first es ih =>
      obtain ⟨hnow, hlast, hlater⟩ := htimes
      exact ih (h.step_of_not_commits hnow hlast hnot.1).2 hlater hnot.2

end CameraRun

/-! ## One capture -/

namespace CameraRun

open PocketCameraCartridge

/-- A capture that an idle camera starts with an event. -/
def start (c : PocketCameraCartridge) (t : Nat) (e : CameraEvent) : CameraRun :=
  { camera := c.step t e, progress := { worked := 0, working := true, now := t } }

/-- The tiles that a capture stages at its start: of the frame, by the registers. -/
def tiles (r : CameraRun) : List U8 := r.camera.registers.buildCaptureTiles r.camera.hostFrame

def duration (r : CameraRun) : Nat := r.camera.captureDurationTCycles

theorem capturing_start {c : PocketCameraCartridge} (hidle : c.captureState = .idle)
    (hram : c.ram.length = pocketCameraSupportedRamBytes) (t : Nat) {e : CameraEvent}
    (hbit : c.captureBit e = some true) :
    (start c t e).Capturing (start c t e).tiles (start c t e).duration ∧
      (c.step t e).ram = c.ram := by
  rcases c.act_cases t e with ⟨hnone, -⟩ | ⟨value, bit, hsome, hact⟩
  · cases hnone.symm.trans hbit
  · obtain rfl : bit = true := Option.some.inj (hsome.symm.trans hbit)
    have hidle' : (c.setRegister 0 value).captureState = .idle := hidle
    have hstep : c.step t e = (c.setRegister 0 value).startNewCapture (some t) := by
      rw [step_of_idle hidle, hact]
      unfold writeCaptureBit
      rw [hidle']
    unfold start tiles duration
    dsimp only
    rw [hstep]
    refine ⟨⟨?_, hram⟩, rfl⟩
    unfold Tracks
    rw [if_pos rfl]
    exact ⟨t + (c.setRegister 0 value).captureDurationTCycles, rfl, rfl⟩

/-- A capture that an idle camera starts goes on, paused and resumed however often, through all
events that do not find it over, which change the RAM by the program's own writes alone.  The
first access that finds it over puts the tiles into the RAM, and the camera is idle then; an idle
camera commits nothing until it is started again.  What a capture has worked does not depend on
the events between. -/
theorem capture_commits_once {c : PocketCameraCartridge} (hidle : c.captureState = .idle)
    (hram : c.ram.length = pocketCameraSupportedRamBytes) {t₀ : Nat} {e₀ : CameraEvent}
    (hbit : c.captureBit e₀ = some true) {r : CameraRun} (hr : r = start c t₀ e₀)
    {es : List (Nat × CameraEvent)} {t : Nat} {e : CameraEvent}
    (htimes : TimesFrom t₀ (es ++ [(t, e)]))
    (hnot : AllAllowed step (fun r' e => ¬r'.Commits r.duration e) r es) :
    (r.camera.ram = c.ram ∧ (r.after es).camera.captureState ≠ .idle) ∧
      (¬(r.after es).Commits r.duration (t, e) →
        (r.after (es ++ [(t, e)])).camera.ram = (r.after es).camera.writtenRam e ∧
          (r.after (es ++ [(t, e)])).camera.captureState ≠ .idle) ∧
      ((r.after es).Commits r.duration (t, e) →
        ∃ committed : PocketCameraCartridge,
          committed.ram = (r.after es).camera.ram.take pocketCameraCaptureTileBaseOffset ++
            r.tiles ++ (r.after es).camera.ram.drop
              (pocketCameraCaptureTileBaseOffset + pocketCameraCaptureTileBytes) ∧
          committed.captureState = .idle ∧
          (r.after (es ++ [(t, e)])).camera = committed.act t e ∧
          (r.after (es ++ [(t, e)])).camera.ram = committed.writtenRam e) ∧
      (∀ (idle : PocketCameraCartridge) (t : Nat) (e : CameraEvent), idle.captureState = .idle →
        (idle.step t e).ram = idle.writtenRam e ∧
          (idle.captureBit e ≠ some true → (idle.step t e).captureState = .idle)) ∧
      (∀ (p : CaptureProgress) (t t' : Nat), p.now ≤ t → t ≤ t' →
        (p.step t none).workedAt t' = p.workedAt t') := by
  obtain ⟨hstarted, hkept⟩ := capturing_start hidle hram t₀ hbit
  subst hr
  obtain ⟨hcapturing, hnow, hlast⟩ := hstarted.after htimes hnot
  have hlater : (start c t₀ e₀).after (es ++ [(t, e)]) =
      ((start c t₀ e₀).after es).step (t, e) := List.foldl_append
  rw [hlater]
  refine ⟨⟨hkept, hcapturing.tracks.not_idle⟩, ?_, ?_, ?_, ?_⟩
  · intro hgoes
    obtain ⟨hact, hstill⟩ := hcapturing.step_of_not_commits hnow hlast hgoes
    exact ⟨by rw [hact, act_ram], hstill.tracks.not_idle⟩
  · rintro ⟨haccess, hover⟩
    have hlength := CameraRegisters.length_buildCaptureTiles (start c t₀ e₀).camera.registers
      (start c t₀ e₀).camera.hostFrame
    have hcommitted := captured_ram hcapturing.ram hlength
    rw [hlength] at hcommitted
    have hact : (((start c t₀ e₀).after es).step (t, e)).camera =
        (((start c t₀ e₀).after es).camera.captured (start c t₀ e₀).tiles).act t e := by
      show ((start c t₀ e₀).after es).camera.step t e = _
      rw [step_eq, if_pos haccess, maybeCompleteCapture_of_over hcapturing.tracks hnow hlast hover]
    refine ⟨((start c t₀ e₀).after es).camera.captured (start c t₀ e₀).tiles, hcommitted,
      captured_captureState _ _, hact, ?_⟩
    rw [hact, act_ram]
  · intro idle t e hidle
    rw [step_of_idle hidle]
    exact ⟨act_ram idle t e, act_of_idle hidle t⟩
  · intro p t t' ht ht'
    exact CaptureProgress.workedAt_step ht ht'

/-- A camera with its registers in the RAM window. -/
def selectedCamera : PocketCameraCartridge :=
  (powerOn [] { nintendoLogo := [], titleBytes := [], title := [], cgbFlag := decodeCgbFlag 0x00
                cartridgeType := 0xFC, romSize := .decode 0x05, ramSize := .decode 0x04
                destinationCode := 0 }
    (.supported 0xFC "POCKET CAMERA" .pocketCamera)).writeRom 0x4000 0x10

/-- Its capture, started at once. -/
def startedCapture : CameraRun := start selectedCamera 0 (.writeRam 0xA000 0x01)

theorem startedCapture_duration : startedCapture.duration = 131832 := by decide +kernel

/-- Paused after 1000 T-cycles and resumed 4000 later. -/
def pausedAndResumed : List (Nat × CameraEvent) :=
  [(1000, .writeRam 0xA000 0x00), (5000, .writeRam 0xA000 0x01)]

theorem capture_commits_once_resumed :
    (startedCapture.after
        (pausedAndResumed ++ [(135831, .readRam 0xA000)])).camera.captureState ≠ .idle ∧
      (startedCapture.after
        (pausedAndResumed ++ [(135832, .readRam 0xA000)])).camera.captureState = .idle := by
  have hr : startedCapture = start selectedCamera 0 (.writeRam 0xA000 0x01) := rfl
  have hidle : selectedCamera.captureState = .idle := rfl
  have hram : selectedCamera.ram.length = pocketCameraSupportedRamBytes := List.length_replicate
  have hbit : selectedCamera.captureBit (.writeRam 0xA000 0x01) = some true := by decide +kernel
  have hnot : AllAllowed step (fun r' e => ¬r'.Commits startedCapture.duration e) startedCapture
      pausedAndResumed := by
    rw [startedCapture_duration]
    refine ⟨?_, ?_, trivial⟩
    · rintro ⟨-, -, hover⟩
      exact absurd hover (by decide)
    · rintro ⟨-, hworking, -⟩
      exact absurd hworking (by decide +kernel)
  have hprogress : (startedCapture.after pausedAndResumed).progress = ⟨1000, true, 5000⟩ := by
    decide +kernel
  have hcommits : ∀ t, (startedCapture.after pausedAndResumed).Commits startedCapture.duration
      (t, .readRam 0xA000) ↔ 131832 ≤ 1000 + (t - 5000) ∨ t = lastTCycle := by
    intro t
    simp only [Commits, CaptureProgress.Over, CaptureProgress.workedAt, hprogress,
      startedCapture_duration, CameraEvent.isAccess, if_true, true_and]
  constructor
  · have htimes : TimesFrom 0 (pausedAndResumed ++ [(135831, .readRam 0xA000)]) := by
      refine ⟨?_, ?_, ?_, ?_, ?_, ?_, trivial⟩ <;> decide
    obtain ⟨-, hgoes, -⟩ := capture_commits_once hidle hram hbit hr htimes hnot
    refine (hgoes ?_).2
    rw [hcommits]
    decide
  · have htimes : TimesFrom 0 (pausedAndResumed ++ [(135832, .readRam 0xA000)]) := by
      refine ⟨?_, ?_, ?_, ?_, ?_, ?_, trivial⟩ <;> decide
    obtain ⟨-, -, hcommit, -⟩ := capture_commits_once hidle hram hbit hr htimes hnot
    obtain ⟨committed, -, hdone, hcamera, -⟩ := hcommit ((hcommits _).mpr (.inl (by decide)))
    exact (congrArg PocketCameraCartridge.captureState hcamera).trans hdone

/-- A capture whose duration has passed waits for an access. -/
theorem capture_waits_for_access :
    startedCapture.progress.Over startedCapture.duration 140000 ∧
      (startedCapture.step (140000, .writeRom 0x0000 0x0A)).camera.ram = selectedCamera.ram ∧
      (startedCapture.step (140000, .writeRom 0x0000 0x0A)).camera.captureReadyAt =
        some 131832 := by
  refine ⟨⟨rfl, .inl ?_⟩, ?_, ?_⟩
  · rw [startedCapture_duration]
    decide
  · obtain ⟨-, hkept⟩ := capturing_start (c := selectedCamera) (e := .writeRam 0xA000 0x01) rfl
      List.length_replicate 0 (by decide +kernel)
    show (startedCapture.camera.step 140000 (.writeRom 0x0000 0x0A)).ram = _
    rw [step_eq, if_neg (by decide), act_ram]
    exact hkept
  · decide +kernel

end CameraRun

end GbCycle
