import GbCycle.Sgb.Host

/-!
# Runs of the host

What the machine tells the host is an event: a write to the joypad port, a frame start, the
end of the boot ROM, a cartridge header, or something that concerns the devices alone.  A run
is a list of events from a new host.

The rest of the file says what a command can touch: the commands that start a transfer do
that and nothing else to the protocol, and no other command touches the transfer at all.
-/

namespace GbCycle

/-! ## Events -/

inductive SgbHostEvent (ρ : Type) where
  | joypWrite (value : U8)
  | frameStart (frame : SgbFrameStart)
  | realBootHandoff
  | cartridgeHeader (header : Option SgbHeaderFields)
  /-- Controllers, palette overrides and whatever else never reaches the protocol. -/
  | devices (change : ρ → ρ)

/-- Devices that take no notice of anything. -/
instance : SgbHostDevices Unit where
  observeJoypWrite _ _ := id
  applyDirectPaletteCommand _ _ := id
  applyAttrBlkCommand _ := id
  applyAttrLinCommand _ := id
  applyAttrDivCommand _ := id
  applyAttrChrCommand _ := id
  soundRequest _ := id
  applyPalSetCommand _ := id
  dataSendRequest _ := id
  applyMltReqCommand _ := id
  jumpRequest _ := id
  applyAttrSetCommand _ := id
  applyMaskCommand _ := id
  applyObjTrnCommand _ := id
  applyPalPriCommand _ := id
  startGameBorderFadeOut := id
  advanceShellFrame := id
  captureObjFrame _ _ := id
  applyVramTransfer _ := id
  dispatchCompletedVramTransfer _ := id
  applyCartridgeHeader _ _ := id

namespace SgbHost

variable {ρ : Type} [SgbHostDevices ρ]

def step (host : SgbHost ρ) : SgbHostEvent ρ → SgbHost ρ
  | .joypWrite value => host.observeJoypWrite value
  | .frameStart frame => (host.advanceFrameStart frame.vram frame.display).1
  | .realBootHandoff => host.finishRealBootHandoff
  | .cartridgeHeader header => host.applyCartridgeHeader header
  | .devices change => { host with devices := change host.devices }

def run (events : List (SgbHostEvent ρ)) (host : SgbHost ρ) : SgbHost ρ := events.foldl step host

@[simp] theorem run_nil (host : SgbHost ρ) : run [] host = host := rfl

@[simp] theorem run_cons (event : SgbHostEvent ρ) (events : List (SgbHostEvent ρ))
    (host : SgbHost ρ) : run (event :: events) host = run events (host.step event) := rfl

theorem run_append (events more : List (SgbHostEvent ρ)) (host : SgbHost ρ) :
    run (events ++ more) host = run more (run events host) := List.foldl_append

/-! ## What a command touches -/

/-- A command that does not request a transfer: it tells the devices or changes a system
control, and keeps the host busy for one frame at most. -/
def LeavesTransfer (host host' : SgbHost ρ) : Prop :=
  ∃ system devices frames, frames ≤ sgbObjTrnBusyFrames ∧
    host' = { host with
      system
      devices
      packetGate := host.packetGate.startBusyFrames frames }

omit [SgbHostDevices ρ] in
theorem leavesTransfer_update (host : SgbHost ρ) (system : SgbSystemControlState) (devices : ρ) :
    LeavesTransfer host { host with system, devices } := by
  have hidle : host.packetGate.startBusyFrames 0 = host.packetGate := by
    simp [SgbPacketGateState.startBusyFrames]
  exact ⟨system, devices, 0, Nat.zero_le _, by rw [hidle]⟩

omit [SgbHostDevices ρ] in
theorem leavesTransfer_busy (host : SgbHost ρ) (devices : ρ) :
    LeavesTransfer host
      { host with
        devices
        packetGate := host.packetGate.startBusyFrames sgbObjTrnBusyFrames } :=
  ⟨host.system, devices, sgbObjTrnBusyFrames, le_refl _, rfl⟩

omit [SgbHostDevices ρ] in
theorem leavesTransfer_ite {host a b : SgbHost ρ} {c : Prop} [Decidable c]
    (ha : LeavesTransfer host a) (hb : LeavesTransfer host b) :
    LeavesTransfer host (if c then a else b) := by
  split
  · exact ha
  · exact hb

/-- A one-packet transfer command requests its transfer; everything else leaves the transfer
alone. -/
theorem dispatchCompletedCommand_cases (commandId : U8) (packetCount : Nat) (host : SgbHost ρ) :
    (∃ target devices, packetCount = 1 ∧
      transferTarget commandId host.command.packetBuffer[0] = some target ∧
      dispatchCompletedCommand commandId packetCount host =
        startVramTransfer commandId target { host with devices }) ∨
    ((packetCount = 1 → transferTarget commandId host.command.packetBuffer[0] = none) ∧
      LeavesTransfer host (dispatchCompletedCommand commandId packetCount host)) := by
  by_cases hsingle : packetCount = 1
  · subst hsingle
    cases htarget : transferTarget commandId host.command.packetBuffer[0] with
    | some target =>
        left
        unfold transferTarget at htarget
        split_ifs at htarget with hid hid hid hid hid hid
        all_goals
          rw [← Option.some.inj htarget, hid]
          exact ⟨_, _, rfl, rfl, rfl⟩
    | none =>
        right
        refine ⟨fun _ => rfl, ?_⟩
        have hno : ∀ id, transferTarget id host.command.packetBuffer[0] ≠ none →
            ¬ (commandId = id ∧ 1 = 1) := by
          rintro id hsome ⟨rfl, _⟩
          exact hsome htarget
        unfold dispatchCompletedCommand
        dsimp only
        rw [if_neg (hno sgbCommandSouTrn (Option.some_ne_none _)),
          if_neg (hno sgbCommandPalTrn (Option.some_ne_none _)),
          if_neg (hno sgbCommandDataTrn (Option.some_ne_none _)),
          if_neg (hno sgbCommandChrTrn (Option.some_ne_none _)),
          if_neg (hno sgbCommandPctTrn (Option.some_ne_none _)),
          if_neg (hno sgbCommandAttrTrn (Option.some_ne_none _))]
        repeat' first
          | apply leavesTransfer_ite
          | exact leavesTransfer_update host _ _
          | exact leavesTransfer_busy host _
  · right
    refine ⟨fun h => absurd h hsingle, ?_⟩
    unfold dispatchCompletedCommand
    dsimp only
    simp only [hsingle, and_false, if_false]
    repeat' first
      | apply leavesTransfer_ite
      | exact leavesTransfer_update host _ _

/-! ## What a packet touches -/

omit [SgbHostDevices ρ] in
/-- Receiving a packet changes the command being assembled, the gate's counters and the
trace. -/
theorem receivePacket_frame (bytes : SgbPacket) (host : SgbHost ρ) :
    ∃ command packetGate lastTrace,
      (receivePacket bytes host).1 =
        { host with
          command
          packetGate
          packetTransport := { host.packetTransport with lastTrace } } ∧
      packetGate.busyFramesRemaining = host.packetGate.busyFramesRemaining ∧
      command.acceptedCommandCount = host.command.acceptedCommandCount ∧
      command.lastCommandId = host.command.lastCommandId := by
  unfold receivePacket
  split
  · exact ⟨_, host.packetGate, _, rfl, rfl, rfl, rfl⟩
  · split
    · dsimp only
      split
      · exact ⟨host.command, _, _, rfl, rfl, rfl, rfl⟩
      · split
        · exact ⟨host.command, _, _, rfl, rfl, rfl, rfl⟩
        · split
          · exact ⟨_, host.packetGate, _, rfl, rfl, rfl, rfl⟩
          · exact ⟨_, host.packetGate, _, rfl, rfl, rfl, rfl⟩
    · exact ⟨_, host.packetGate, _, rfl, rfl, rfl, rfl⟩

/-- A completed command is not active any more, and nothing of the transport has changed. -/
theorem completeAcceptedCommand_frame (commandId : U8) (packetCount : Nat) (host : SgbHost ρ) :
    ∃ system devices packetGate vramTransfer,
      completeAcceptedCommand commandId packetCount host =
        { host with
          system, devices, packetGate, vramTransfer
          command :=
            { host.command with
              lastCommandId := some commandId
              acceptedCommandCount := saturatingAdd 64 host.command.acceptedCommandCount 1
              activeCommandId := none } } := by
  unfold completeAcceptedCommand
  dsimp only
  obtain ⟨target, devices, -, -, hdispatch⟩ | ⟨-, system, devices, frames, -, hdispatch⟩ :=
    dispatchCompletedCommand_cases commandId packetCount
      { host with
        command :=
          { host.command with
            lastCommandId := some commandId
            acceptedCommandCount := saturatingAdd 64 host.command.acceptedCommandCount 1 } }
  · rw [hdispatch]
    exact ⟨host.system, devices, _, _, rfl⟩
  · rw [hdispatch]
    exact ⟨system, devices, _, host.vramTransfer, rfl⟩

/-- A packet leaves the transport as it is, but for the trace. -/
theorem decodeCompletePacket_frame (bytes : SgbPacket) (host : SgbHost ρ) :
    ∃ lastTrace,
      (decodeCompletePacket bytes host).packetTransport =
        { host.packetTransport with lastTrace } ∧
      (decodeCompletePacket bytes host).hostPlatform = host.hostPlatform ∧
      (decodeCompletePacket bytes host).commandAcceptance = host.commandAcceptance := by
  obtain ⟨command, packetGate, lastTrace, hreceive, -, -, -⟩ := receivePacket_frame bytes host
  unfold decodeCompletePacket
  cases hpair : receivePacket bytes host with
  | mk received completed =>
      rw [hpair] at hreceive
      dsimp only at hreceive
      subst hreceive
      cases completed with
      | none => exact ⟨lastTrace, rfl, rfl, rfl⟩
      | some done =>
          obtain ⟨commandId, packetCount⟩ := done
          obtain ⟨system, devices, gate, vramTransfer, hcomplete⟩ :=
            completeAcceptedCommand_frame commandId packetCount
              { host with
                command
                packetGate
                packetTransport := { host.packetTransport with lastTrace } }
          dsimp only
          rw [hcomplete]
          exact ⟨lastTrace, rfl, rfl, rfl⟩

end SgbHost

end GbCycle
