import GbCycle.ExternalPort
import GbCycle.SerialLaws

/-!
# The short ticks of the serial unit

The step loop of a machine takes a short way through the serial unit where it expects that the
whole tick has nothing to do: without a transfer, and while one waits for a clock from outside
with nothing plugged in.
-/

namespace GbCycle

structure SerialTickTelemetry where
  activeTCycles : Nat := 0
  internalTicks : Nat := 0
  externalTicks : Nat := 0
  externalWaitTicks : Nat := 0
  shiftEdges : Nat := 0
  completedBytes : Nat := 0
  externalPortTicks : Nat := 0
  deriving Repr, DecidableEq

namespace SerialTickTelemetry

def externalPortTick : SerialTickTelemetry := { externalPortTicks := 1 }

def accumulate (t other : SerialTickTelemetry) : SerialTickTelemetry :=
  { activeTCycles := saturatingAdd 64 t.activeTCycles other.activeTCycles
    internalTicks := saturatingAdd 64 t.internalTicks other.internalTicks
    externalTicks := saturatingAdd 64 t.externalTicks other.externalTicks
    externalWaitTicks := saturatingAdd 64 t.externalWaitTicks other.externalWaitTicks
    shiftEdges := saturatingAdd 64 t.shiftEdges other.shiftEdges
    completedBytes := saturatingAdd 64 t.completedBytes other.completedBytes
    externalPortTicks := saturatingAdd 64 t.externalPortTicks other.externalPortTicks }

/-- What a shift edge adds. -/
def withShift (t : SerialTickTelemetry) (completed : Bool) : SerialTickTelemetry :=
  { t with shiftEdges := 1, completedBytes := if completed then 1 else 0 }

end SerialTickTelemetry

namespace Serial

/-- What `tick_t_cycle_for_speed` reports of its tick. -/
def tickTelemetry (s : Serial) (speed : CgbSpeedMode) : SerialTickTelemetry :=
  match s.transferState with
  | .idle => {}
  | .transferRequested bits =>
    match s.clockMode with
    | .internal =>
      let telemetry : SerialTickTelemetry := { activeTCycles := 1, internalTicks := 1 }
      if serialInternalClockEdge s.clockCounter (s.clockCounter + 1) speed s.cgbHighSpeedClock then
        telemetry.withShift (bits + 1 = 8)
      else telemetry
    | .external =>
      let telemetry : SerialTickTelemetry := { activeTCycles := 1, externalTicks := 1 }
      if s.externalClockPulsesPending ≠ 0 then telemetry.withShift (bits + 1 = 8)
      else { telemetry with externalWaitTicks := 1 }

/-- What `tick_external_wait_t_cycle` reports. -/
def externalWaitTelemetry : SerialTickTelemetry :=
  { activeTCycles := 1, externalTicks := 1, externalWaitTicks := 1 }

end Serial

/-- The serial unit and what is plugged into it, with what a T-cycle gives to the rest of the
machine.  A tick that records nothing gives an empty telemetry. -/
structure SerialTick (π : Type) where
  serial : Serial
  externalPort : ExternalPort π
  interrupt : Option InterruptSource
  telemetry : SerialTickTelemetry
  deriving Repr, DecidableEq

section Step

variable {π : Type}

/-- The step loop waits for a clock from outside that nothing can give. -/
def selectsExternalWait (s : Serial) (port : ExternalPort π) : Bool :=
  port.attachmentKind == .none && s.externalWaitWithoutPendingClock

def selectsFull (s : Serial) (port : ExternalPort π) : Bool :=
  s.requiresFullTCycleTick || port.requiresTCycleTick

variable [PrinterDevice π]

/-- The whole tick, with the one of a device that has its own. -/
def fullSerialTick (s : Serial) (port : ExternalPort π) (speed : CgbSpeedMode) : SerialTick π :=
  let telemetry : SerialTickTelemetry := {}
  let (port, telemetry) :=
    if port.requiresTCycleTick then
      (port.tickTCycle, telemetry.accumulate .externalPortTick)
    else (port, telemetry)
  let telemetry := telemetry.accumulate (s.tickTelemetry speed)
  let (s, interrupt) := s.tickTCycleForSpeed speed
  let port :=
    match s.latestCompletedOutputByte with
    | some outputByte =>
      if port.handlesCompletedSerialByte then port.handleCompletedSerialByte outputByte else port
    | none => port
  let s := if port.requiresSerialPeerRefreshAfterTCycle then s.setPeer port.serialPeer else s
  { serial := s, externalPort := port, interrupt, telemetry }

/-- The serial tick of the step loop. -/
def stepSerial (s : Serial) (port : ExternalPort π) (speed : CgbSpeedMode) : SerialTick π :=
  if selectsExternalWait s port then
    { serial := s.tickExternalWaitTCycle, externalPort := port, interrupt := none
      telemetry := Serial.externalWaitTelemetry }
  else if selectsFull s port then fullSerialTick s port speed
  else { serial := s.tickIdleTCycle, externalPort := port, interrupt := none, telemetry := {} }

/-! ## Agreement -/

/-- Without a device that has a tick of its own the whole tick is the serial unit's. -/
theorem fullSerialTick_eq {s : Serial} {port : ExternalPort π}
    (hport : port.requiresTCycleTick = false) (speed : CgbSpeedMode) :
    fullSerialTick s port speed =
      { serial := (s.tickTCycleForSpeed speed).1, externalPort := port
        interrupt := (s.tickTCycleForSpeed speed).2
        telemetry := SerialTickTelemetry.accumulate {} (s.tickTelemetry speed) } := by
  have hhandles : port.handlesCompletedSerialByte = false := hport
  have hrefresh : port.requiresSerialPeerRefreshAfterTCycle = false := hport
  unfold fullSerialTick
  simp only [hport, Bool.false_eq_true, if_false]
  have hkept : (match (s.tickTCycleForSpeed speed).1.latestCompletedOutputByte with
      | some outputByte =>
        if port.handlesCompletedSerialByte then port.handleCompletedSerialByte outputByte else port
      | none => port) = port := by
    split
    · rw [if_neg (by rw [hhandles]; exact Bool.false_ne_true)]
    · rfl
  simp only [hhandles, Bool.false_eq_true, if_false] at hkept ⊢
  simp only [hkept, hrefresh, Bool.false_eq_true, if_false]

/-- In every state of the unit and of what is plugged into it the tick that the step loop takes
gives what the whole tick would. -/
theorem serial_fast_path (s : Serial) (port : ExternalPort π) (speed : CgbSpeedMode) :
    stepSerial s port speed = fullSerialTick s port speed := by
  unfold stepSerial
  by_cases hwait : selectsExternalWait s port = true
  · rw [if_pos hwait]
    unfold selectsExternalWait Serial.externalWaitWithoutPendingClock at hwait
    simp only [Bool.and_eq_true, beq_iff_eq] at hwait
    obtain ⟨hnone, ⟨hmode, hrequested⟩, hpending⟩ := hwait
    have hport : port.requiresTCycleTick = false := by
      unfold ExternalPort.requiresTCycleTick
      rw [hnone]
      rfl
    rw [fullSerialTick_eq hport]
    cases hstate : s.transferState with
    | idle =>
        rw [hstate] at hrequested
        cases hrequested
    | transferRequested bits =>
        have htick : s.tickTCycleForSpeed speed = (s.tickExternalWaitTCycle, none) := by
          unfold Serial.tickTCycleForSpeed
          simp only [hstate, hmode, hpending, bne_self_eq_false, Bool.false_eq_true, if_false]
          rfl
        have htelemetry : s.tickTelemetry speed = Serial.externalWaitTelemetry := by
          unfold Serial.tickTelemetry
          simp only [hstate, hmode, hpending, ne_eq, not_true_eq_false, if_false]
          rfl
        rw [htick, htelemetry]
        rfl
  · rw [if_neg hwait]
    by_cases hfull : selectsFull s port = true
    · rw [if_pos hfull]
    · rw [if_neg hfull]
      unfold selectsFull Serial.requiresFullTCycleTick at hfull
      rw [Bool.not_eq_true, Bool.or_eq_false_iff, Bool.or_eq_false_iff] at hfull
      obtain ⟨⟨hidle, -⟩, hport⟩ := hfull
      rw [fullSerialTick_eq hport]
      cases hstate : s.transferState with
      | idle =>
          have htelemetry : s.tickTelemetry speed = {} := by
            unfold Serial.tickTelemetry
            rw [hstate]
          rw [Serial.tickTCycleForSpeed_idle hstate, htelemetry]
          rfl
      | transferRequested bits =>
          rw [hstate] at hidle
          cases hidle

end Step

end GbCycle
