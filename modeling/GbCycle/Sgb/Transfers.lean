import GbCycle.Sgb.Commands

/-!
# Transfers along a run

A transfer is requested in one place and captured in another, and what keeps the two apart is
the busy counter: it is set when the transfer is requested, and it reaches zero at the frame
start that completes the transfer.  So no command is started in between, and a request always
finds the host without a transfer.
-/

namespace GbCycle

/-- The picture that an event shows to the host. -/
def SgbHostEvent.frame {ρ : Type} : SgbHostEvent ρ → Option SgbFrameStart
  | .frameStart frame => some frame
  | .joypWrite _ | .realBootHandoff | .cartridgeHeader _ | .devices _ => none

namespace SgbHost

variable {ρ : Type} [SgbHostDevices ρ]

/-! ## Requests and completions -/

/-- The transfer that an event requests. -/
def requestAt (host : SgbHost ρ) (event : SgbHostEvent ρ) : Option (U8 × SgbVramTransferTarget) :=
  (host.packetAt event).bind fun packet => requestedBy packet host

/-- The transfer that an event completes. -/
def transferAt (host : SgbHost ρ) : SgbHostEvent ρ → Option SgbCompletedVramTransfer
  | .frameStart frame => (host.advanceFrameStart frame.vram frame.display).2
  | .joypWrite _ | .realBootHandoff | .cartridgeHeader _ | .devices _ => none

def requestedTransfers : List (SgbHostEvent ρ) → SgbHost ρ → List (U8 × SgbVramTransferTarget)
  | [], _ => []
  | event :: events, host =>
      (host.requestAt event).toList ++ requestedTransfers events (host.step event)

def completedTransfers : List (SgbHostEvent ρ) → SgbHost ρ → List SgbCompletedVramTransfer
  | [], _ => []
  | event :: events, host =>
      (host.transferAt event).toList ++ completedTransfers events (host.step event)

/-! ## What a write does to a transfer -/

/-- A completed command requests a transfer or leaves it alone, as the request says. -/
theorem decodeCompletePacket_transfer (packet : SgbPacket) (host : SgbHost ρ) :
    match requestedBy packet host with
    | some (commandId, target) =>
        (decodeCompletePacket packet host).vramTransfer =
          host.vramTransfer.requestVramTransfer commandId target ∧
        (decodeCompletePacket packet host).packetGate.busyFramesRemaining =
          max host.packetGate.busyFramesRemaining sgbVramTransferTotalFrames
    | none =>
        (decodeCompletePacket packet host).vramTransfer = host.vramTransfer ∧
        (decodeCompletePacket packet host).packetGate.busyFramesRemaining ≤
          max host.packetGate.busyFramesRemaining sgbObjTrnBusyFrames ∧
        (completedCommand packet host = none →
          (decodeCompletePacket packet host).packetGate.busyFramesRemaining =
            host.packetGate.busyFramesRemaining) := by
  obtain ⟨command, gate, trace, hreceive, hbusy, -, -⟩ := receivePacket_frame packet host
  unfold requestedBy decodeCompletePacket completedCommand
  cases hpair : receivePacket packet host with
  | mk received done =>
      rw [hpair] at hreceive
      dsimp only at hreceive
      subst hreceive
      cases done with
      | none => exact ⟨rfl, by dsimp only; omega, fun _ => hbusy⟩
      | some done =>
          obtain ⟨commandId, packetCount⟩ := done
          dsimp only [Option.bind_some]
          unfold completeAcceptedCommand
          dsimp only
          obtain ⟨target, devices, hsingle, htarget, hdispatch⟩ |
              ⟨hnone, system, devices, frames, hframes, hdispatch⟩ :=
            dispatchCompletedCommand_cases commandId packetCount
              { host with
                command :=
                  { command with
                    lastCommandId := some commandId
                    acceptedCommandCount := saturatingAdd 64 command.acceptedCommandCount 1 }
                packetGate := gate
                packetTransport := { host.packetTransport with lastTrace := trace } }
          · dsimp only at htarget
            rw [if_pos hsingle, htarget, hdispatch]
            refine ⟨rfl, ?_⟩
            show max gate.busyFramesRemaining _ = _
            rw [hbusy]
          · have hrequest : (if packetCount = 1 then
                (transferTarget commandId command.packetBuffer[0]).map
                  fun target => (commandId, target)
                else none) = none := by
              split
              · next hsingle => rw [hnone hsingle, Option.map_none]
              · rfl
            rw [hrequest, hdispatch]
            refine ⟨rfl, ?_, nofun⟩
            show max gate.busyFramesRemaining frames ≤ _
            omega

theorem requestedBy_onlyTransport {value : U8} {host host' : SgbHost ρ} (packet : SgbPacket)
    (h : OnlyTransport (writeSeen value host) host') :
    requestedBy packet host' = requestedBy packet host ∧
      completedCommand packet host' = completedCommand packet host := by
  obtain ⟨hdone, -, -, -, hbuffer⟩ := receivePacket_onlyTransport packet h
  unfold requestedBy completedCommand SgbCommandState.commandPayload
  rw [hdone, hbuffer]
  exact ⟨rfl, rfl⟩

/-- What a write does to the transfer and to the busy counter. -/
theorem observeJoypWrite_transfer (value : U8) {host : SgbHost ρ}
    (hsgb : host.hostPlatform.isSgb) :
    match requestAt host (.joypWrite value) with
    | some (commandId, target) =>
        (observeJoypWrite value host).vramTransfer =
          host.vramTransfer.requestVramTransfer commandId target ∧
        (observeJoypWrite value host).packetGate.busyFramesRemaining =
          max host.packetGate.busyFramesRemaining sgbVramTransferTotalFrames
    | none =>
        (observeJoypWrite value host).vramTransfer = host.vramTransfer ∧
        (observeJoypWrite value host).packetGate.busyFramesRemaining ≤
          max host.packetGate.busyFramesRemaining sgbObjTrnBusyFrames ∧
        (commandAt host (.joypWrite value) = none →
          (observeJoypWrite value host).packetGate.busyFramesRemaining =
            host.packetGate.busyFramesRemaining) := by
  have hat : requestAt host (.joypWrite value) =
      (completedPacket value host).bind fun packet => requestedBy packet host := rfl
  have hcommandAt : commandAt host (.joypWrite value) =
      (completedPacket value host).bind fun packet => completedCommand packet host := rfl
  rw [hat, hcommandAt]
  cases hpacket : completedPacket value host with
  | none =>
      obtain ⟨transport, invalid, hwrite⟩ := observeJoypWrite_of_completedPacket_none hsgb hpacket
      rw [hwrite, Option.bind_none]
      exact ⟨rfl, Nat.le_max_left _ _, fun _ => rfl⟩
  | some packet =>
      obtain ⟨host', honly, -, hwrite⟩ := observeJoypWrite_of_completedPacket hpacket
      obtain ⟨hrequest, hcommand⟩ := requestedBy_onlyTransport packet honly
      have hdecode := decodeCompletePacket_transfer packet host'
      obtain ⟨transport, invalid, honly⟩ := honly
      have htransfer : host'.vramTransfer = host.vramTransfer := by
        rw [honly]
        rfl
      have hbusy : host'.packetGate = host.packetGate := by
        rw [honly]
        rfl
      rw [hrequest, hcommand, htransfer, hbusy] at hdecode
      rw [hwrite, Option.bind_some, Option.bind_some]
      exact hdecode

/-! ## The invariant -/

/-- No transfer is pending; at most the frame after an `OBJ_TRN` is busy. -/
structure Settled (host : SgbHost ρ) : Prop where
  sgb : host.hostPlatform.isSgb
  pending : host.vramTransfer.pending = none
  busy : host.packetGate.busyFramesRemaining ≤ sgbObjTrnBusyFrames

/-- A transfer is pending, these frames of it have been captured, and the host is busy until
the rest are. -/
structure Transferring (request : U8 × SgbVramTransferTarget) (frames : List SgbFrameStart)
    (host : SgbHost ρ) : Prop where
  sgb : host.hostPlatform.isSgb
  capturing : Capturing request frames host.vramTransfer
  busy : host.packetGate.busyFramesRemaining = sgbVramTransferTotalFrames - frames.length
  inactive : host.command.activeCommandId = none

omit [SgbHostDevices ρ] in
/-- A busy host that is not assembling a command starts none. -/
theorem receivePacket_busy {host : SgbHost ρ} (hbusy : host.packetGate.busyFramesRemaining ≠ 0)
    (hinactive : host.command.activeCommandId = none) (packet : SgbPacket) :
    (receivePacket packet host).2 = none ∧
      (receivePacket packet host).1.command.activeCommandId = none := by
  unfold receivePacket
  by_cases hrejected : host.commandAcceptance ≠ .accepted
  · simp only [if_pos hrejected, hinactive, and_self]
  · simp only [if_neg hrejected, hinactive]
    by_cases hsuppressed : host.system.registerFileTransferDisabled
    · simp only [if_pos hsuppressed, hinactive, and_self]
    · simp only [if_neg hsuppressed, if_pos hbusy, hinactive, and_self]

/-- While a transfer is pending no command is started. -/
theorem transferring_commandAt {request : U8 × SgbVramTransferTarget} {frames : List SgbFrameStart}
    {host : SgbHost ρ} (h : Transferring request frames host) (event : SgbHostEvent ρ) :
    host.requestAt event = none ∧ host.commandAt event = none ∧
      (host.step event).command.activeCommandId = none := by
  have hpositive : host.packetGate.busyFramesRemaining ≠ 0 := by
    have := h.capturing.few
    rw [h.busy]
    omega
  cases hpacket : host.packetAt event with
  | none =>
      refine ⟨by rw [requestAt, hpacket]; rfl, by rw [commandAt, hpacket]; rfl, ?_⟩
      by_cases hevent : event.Interrupts
      · cases event with
        | realBootHandoff =>
            simp only [step, finishRealBootHandoff]
            split
            · exact h.inactive
            · rfl
        | cartridgeHeader header => exact h.inactive
        | joypWrite value => exact absurd hevent id
        | frameStart frame => exact absurd hevent id
        | devices change => exact absurd hevent id
      · obtain ⟨⟨invalid, hcommand⟩, -⟩ := step_of_packetAt_none h.sgb hevent hpacket
        rw [hcommand]
        exact h.inactive
  | some packet =>
      obtain ⟨value, hvalue, hcompleted⟩ := eq_joypWrite_of_packetAt hpacket
      obtain ⟨hnone, hinactive⟩ := receivePacket_busy hpositive h.inactive packet
      have hcommand : completedCommand packet host = none := by
        rw [completedCommand, hnone]
        rfl
      obtain ⟨-, hwrite⟩ := command_of_completedPacket hcompleted
      rw [hcommand] at hwrite
      subst hvalue
      refine ⟨?_, ?_, hwrite.1.trans hinactive⟩
      · rw [requestAt, hpacket, Option.bind_some, requestedBy, hnone]
        rfl
      · rw [commandAt, hpacket, Option.bind_some, hcommand]

/-- Nothing but a frame start advances the transfer or the busy counter, unless a command is
completed. -/
theorem step_transfer {host : SgbHost ρ} {event : SgbHostEvent ρ}
    (hsgb : host.hostPlatform.isSgb) (hframe : event.frame = none)
    (hrequest : host.requestAt event = none) :
    (host.step event).vramTransfer = host.vramTransfer ∧
      (host.step event).packetGate.busyFramesRemaining ≤
        max host.packetGate.busyFramesRemaining sgbObjTrnBusyFrames ∧
      (host.commandAt event = none →
        (host.step event).packetGate.busyFramesRemaining =
          host.packetGate.busyFramesRemaining) ∧
      host.transferAt event = none := by
  have hsame : host.packetGate.busyFramesRemaining ≤
      max host.packetGate.busyFramesRemaining sgbObjTrnBusyFrames := Nat.le_max_left _ _
  cases event with
  | joypWrite value =>
      have hwrite := observeJoypWrite_transfer value hsgb
      rw [hrequest] at hwrite
      exact ⟨hwrite.1, hwrite.2.1, hwrite.2.2, rfl⟩
  | frameStart frame => contradiction
  | realBootHandoff =>
      simp only [step, finishRealBootHandoff]
      split
      · exact ⟨rfl, hsame, fun _ => rfl, rfl⟩
      · exact ⟨rfl, hsame, fun _ => rfl, rfl⟩
  | cartridgeHeader header => exact ⟨rfl, hsame, fun _ => rfl, rfl⟩
  | devices change => exact ⟨rfl, hsame, fun _ => rfl, rfl⟩

/-! ## Steps -/

/-- A frame start advances the transfer and the busy counter together. -/
theorem step_frameStart {host : SgbHost ρ} (hsgb : host.hostPlatform.isSgb)
    (frame : SgbFrameStart) :
    host.transferAt (.frameStart frame) =
        (host.vramTransfer.advancePendingVramTransfer frame.vram frame.display).2 ∧
      (host.step (.frameStart frame)).vramTransfer =
        (host.vramTransfer.advancePendingVramTransfer frame.vram frame.display).1 ∧
      (host.step (.frameStart frame)).packetGate.busyFramesRemaining =
        (if (host.vramTransfer.advancePendingVramTransfer frame.vram frame.display).2.isSome then 0
          else host.packetGate.busyFramesRemaining - 1) := by
  simp only [transferAt, step, advanceFrameStart]
  rw [if_neg (by simp [hsgb])]
  cases (host.vramTransfer.advancePendingVramTransfer frame.vram frame.display).2 <;>
    exact ⟨rfl, rfl, rfl⟩

/-- A transfer is applied at the frame start that completes it. -/
theorem devices_of_transferAt {host : SgbHost ρ} (hsgb : host.hostPlatform.isSgb)
    {frame : SgbFrameStart} {completed : SgbCompletedVramTransfer}
    (h : host.transferAt (.frameStart frame) = some completed) :
    (host.step (.frameStart frame)).devices =
      SgbHostDevices.dispatchCompletedVramTransfer completed
        (SgbHostDevices.captureObjFrame frame.vram frame.display
          (SgbHostDevices.applyVramTransfer completed
            (SgbHostDevices.advanceShellFrame host.devices))) := by
  simp only [transferAt, advanceFrameStart] at h
  rw [if_neg (by simp [hsgb])] at h
  simp only [step, advanceFrameStart]
  rw [if_neg (by simp [hsgb])]
  cases hadvance : (host.vramTransfer.advancePendingVramTransfer frame.vram frame.display).2 with
  | none =>
      rw [hadvance] at h
      contradiction
  | some done =>
      rw [hadvance] at h
      rw [Option.some.inj h]

/-- Without a transfer, an event requests one or none, and completes none. -/
theorem settled_step {host : SgbHost ρ} (h : Settled host) (event : SgbHostEvent ρ) :
    host.transferAt event = none ∧
    match host.requestAt event with
    | none => Settled (host.step event)
    | some request => Transferring request [] (host.step event) := by
  obtain ⟨hsgb, hpending, hbusy⟩ := h
  have hsgb' : (host.step event).hostPlatform.isSgb := by
    rw [step_hostPlatform]
    exact hsgb
  have hobj : sgbObjTrnBusyFrames = 1 := rfl
  have hframes : sgbVramTransferTotalFrames = 5 := rfl
  cases hrequest : host.requestAt event with
  | none =>
      cases hframe : event.frame with
      | none =>
          obtain ⟨htransfer, hbound, -, hdone⟩ := step_transfer hsgb hframe hrequest
          exact ⟨hdone, hsgb', by rw [htransfer]; exact hpending, by omega⟩
      | some frame =>
          cases event with
          | frameStart frame =>
              obtain ⟨hdone, htransfer, hgate⟩ := step_frameStart hsgb frame
              have hidle := SgbVramTransferState.advancePendingVramTransfer_none hpending
                frame.vram frame.display
              rw [hidle] at hdone htransfer hgate
              refine ⟨hdone, hsgb', by rw [htransfer]; exact hpending, ?_⟩
              rw [hgate, if_neg (by simp)]
              omega
          | joypWrite value => contradiction
          | realBootHandoff => contradiction
          | cartridgeHeader header => contradiction
          | devices change => contradiction
  | some request =>
      cases hpacket : host.packetAt event with
      | none =>
          rw [requestAt, hpacket] at hrequest
          contradiction
      | some packet =>
          obtain ⟨value, hvalue, hcompleted⟩ := eq_joypWrite_of_packetAt hpacket
          subst hvalue
          have hwrite := observeJoypWrite_transfer value hsgb
          rw [hrequest] at hwrite
          obtain ⟨htransfer, hgate⟩ := hwrite
          refine ⟨rfl, hsgb', ?_, ?_, ?_⟩
          · rw [step, htransfer]
            exact SgbVramTransferState.capturing_requestVramTransfer request _
          · rw [step, hgate, List.length_nil]
            omega
          · obtain ⟨-, hcommand⟩ := command_of_completedPacket hcompleted
            have hdone : completedCommand packet host ≠ none := by
              intro hnone
              rw [requestAt, hpacket, Option.bind_some, requestedBy] at hrequest
              rw [completedCommand, Option.map_eq_none_iff] at hnone
              rw [hnone] at hrequest
              contradiction
            obtain ⟨command, hsome⟩ := Option.ne_none_iff_exists'.mp hdone
            rw [hsome] at hcommand
            exact hcommand.1

/-- While a transfer is pending, a frame start captures one more picture or completes it, and
no other event touches it. -/
theorem transferring_step {request : U8 × SgbVramTransferTarget} {frames : List SgbFrameStart}
    {host : SgbHost ρ} (h : Transferring request frames host) (event : SgbHostEvent ρ) :
    match event.frame with
    | none => host.transferAt event = none ∧ Transferring request frames (host.step event)
    | some frame =>
        if frames.length + 1 < sgbVramTransferTotalFrames then
          host.transferAt event = none ∧
            Transferring request (frames ++ [frame]) (host.step event)
        else
          ∃ payload, host.transferAt event = some
              { commandId := request.1, target := request.2, payload } ∧
            MadeOfPictures (frames ++ [frame]) payload ∧ Settled (host.step event) := by
  obtain ⟨hrequest, hcommand, hinactive⟩ := transferring_commandAt h event
  obtain ⟨hsgb, hcapturing, hbusy, -⟩ := h
  have hsgb' : (host.step event).hostPlatform.isSgb := by
    rw [step_hostPlatform]
    exact hsgb
  cases hframe : event.frame with
  | none =>
      obtain ⟨htransfer, -, hgate, hdone⟩ := step_transfer hsgb hframe hrequest
      exact ⟨hdone, hsgb', by rw [htransfer]; exact hcapturing, (hgate hcommand).trans hbusy,
        hinactive⟩
  | some frame =>
      cases event with
      | joypWrite value => contradiction
      | realBootHandoff => contradiction
      | cartridgeHeader header => contradiction
      | devices change => contradiction
      | frameStart shown =>
          have hshown : shown = frame := Option.some.inj hframe
          subst hshown
          obtain ⟨hdone, htransfer, hgate⟩ := step_frameStart hsgb shown
          obtain ⟨hless, s', hadvance, hcapturing', -, -⟩ |
              ⟨hlast, s', payload, hadvance, hmade, hpending, -, -, -⟩ :=
            SgbVramTransferState.advancePendingVramTransfer_spec hcapturing shown
          · rw [hadvance] at hdone htransfer hgate
            dsimp only
            rw [if_pos hless]
            refine ⟨hdone, hsgb', by rw [htransfer]; exact hcapturing', ?_, hinactive⟩
            rw [hgate, if_neg (by simp), hbusy, List.length_append, List.length_singleton]
            omega
          · rw [hadvance] at hdone htransfer hgate
            dsimp only
            rw [if_neg (by omega)]
            refine ⟨payload, hdone, hmade, hsgb', by rw [htransfer]; exact hpending, ?_⟩
            rw [hgate, if_pos (by rfl)]
            exact Nat.zero_le _

/-! ## Runs -/

/-- A host on which a run has been going on. -/
def Reached (host : SgbHost ρ) : Prop :=
  Settled host ∨ ∃ request frames, Transferring request frames host

theorem reached_step {host : SgbHost ρ} (h : Reached host) (event : SgbHostEvent ρ) :
    Reached (host.step event) := by
  rcases h with hsettled | ⟨request, frames, htransferring⟩
  · have hstep := (settled_step hsettled event).2
    cases hrequest : host.requestAt event with
    | none =>
        rw [hrequest] at hstep
        exact .inl hstep
    | some request =>
        rw [hrequest] at hstep
        exact .inr ⟨request, [], hstep⟩
  · have hstep := transferring_step htransferring event
    cases hframe : event.frame with
    | none =>
        rw [hframe] at hstep
        exact .inr ⟨request, frames, hstep.2⟩
    | some frame =>
        rw [hframe] at hstep
        dsimp only at hstep
        split at hstep
        · exact .inr ⟨request, frames ++ [frame], hstep.2⟩
        · obtain ⟨payload, -, -, hsettled⟩ := hstep
          exact .inl hsettled

theorem reached_run {hostPlatform : HostPlatform} (hsgb : hostPlatform.isSgb) (devices : ρ)
    (events : List (SgbHostEvent ρ)) : Reached (run events (new hostPlatform devices)) := by
  induction events using List.reverseRecOn with
  | nil => exact .inl ⟨hsgb, rfl, Nat.zero_le _⟩
  | append_singleton events event ih =>
      rw [run_append, run_cons, run_nil]
      exact reached_step ih event

/-- A request finds no transfer pending, and starts its own. -/
theorem transferring_of_requestAt {host : SgbHost ρ} (h : Reached host) {event : SgbHostEvent ρ}
    {request : U8 × SgbVramTransferTarget} (hrequest : host.requestAt event = some request) :
    host.vramTransfer.pending = none ∧ Transferring request [] (host.step event) := by
  rcases h with hsettled | ⟨other, frames, htransferring⟩
  · have hstep := (settled_step hsettled event).2
    rw [hrequest] at hstep
    exact ⟨hsettled.pending, hstep⟩
  · have hnone := (transferring_commandAt htransferring event).1
    rw [hrequest] at hnone
    contradiction

/-- Before its last frame a transfer goes on, whatever happens. -/
theorem transferring_run {request : U8 × SgbVramTransferTarget} {frames : List SgbFrameStart}
    {host : SgbHost ρ} (h : Transferring request frames host) (events : List (SgbHostEvent ρ))
    (hfew : frames.length + (events.filterMap SgbHostEvent.frame).length <
      sgbVramTransferTotalFrames) :
    Transferring request (frames ++ events.filterMap SgbHostEvent.frame) (run events host) ∧
      completedTransfers events host = [] ∧ completedCommands events host = [] := by
  induction events generalizing frames host with
  | nil => exact ⟨by simpa using h, rfl, rfl⟩
  | cons event events ih =>
      have hstep := transferring_step h event
      obtain ⟨-, hcommand, -⟩ := transferring_commandAt h event
      rw [run_cons, completedTransfers, completedCommands, hcommand]
      cases hframe : event.frame with
      | none =>
          rw [List.filterMap_cons_none hframe] at hfew ⊢
          rw [hframe] at hstep
          rw [hstep.1]
          exact ih hstep.2 hfew
      | some frame =>
          rw [List.filterMap_cons_some hframe, List.length_cons] at hfew
          rw [List.filterMap_cons_some hframe]
          rw [hframe] at hstep
          dsimp only at hstep
          rw [if_pos (by omega)] at hstep
          rw [hstep.1, List.append_cons]
          exact ih hstep.2 (by
            rw [List.length_append, List.length_singleton]
            omega)

/-- The transfer that has been requested and not completed. -/
def pendingRequest (host : SgbHost ρ) : List (U8 × SgbVramTransferTarget) :=
  host.vramTransfer.pending.toList.map fun pending => (pending.commandId, pending.target)

omit [SgbHostDevices ρ] in
theorem pendingRequest_settled {host : SgbHost ρ} (h : Settled host) :
    host.pendingRequest = [] := by
  rw [pendingRequest, h.pending]
  rfl

omit [SgbHostDevices ρ] in
theorem pendingRequest_transferring {request : U8 × SgbVramTransferTarget}
    {frames : List SgbFrameStart} {host : SgbHost ρ} (h : Transferring request frames host) :
    host.pendingRequest = [request] := by
  obtain ⟨pending, hpending, hid, htarget, -⟩ := h.capturing.pending
  rw [pendingRequest, hpending, Option.toList_some, List.map_singleton, hid, htarget]

/-- One event requests a transfer, completes the pending one, or neither. -/
theorem pendingRequest_step {host : SgbHost ρ} (h : Reached host) (event : SgbHostEvent ρ) :
    host.pendingRequest ++ (host.requestAt event).toList =
      (host.transferAt event).toList.map (fun completed => (completed.commandId, completed.target))
        ++ (host.step event).pendingRequest := by
  rcases h with hsettled | ⟨request, frames, htransferring⟩
  · obtain ⟨hnone, hstep⟩ := settled_step hsettled event
    rw [pendingRequest_settled hsettled, hnone]
    cases hrequest : host.requestAt event with
    | none =>
        rw [hrequest] at hstep
        rw [pendingRequest_settled hstep]
        rfl
    | some request =>
        rw [hrequest] at hstep
        rw [pendingRequest_transferring hstep]
        rfl
  · obtain ⟨hrequest, -, -⟩ := transferring_commandAt htransferring event
    have hstep := transferring_step htransferring event
    rw [pendingRequest_transferring htransferring, hrequest]
    cases hframe : event.frame with
    | none =>
        rw [hframe] at hstep
        rw [hstep.1, pendingRequest_transferring hstep.2]
        rfl
    | some frame =>
        rw [hframe] at hstep
        dsimp only at hstep
        split at hstep
        · rw [hstep.1, pendingRequest_transferring hstep.2]
          rfl
        · obtain ⟨payload, hdone, -, hsettled⟩ := hstep
          rw [hdone, pendingRequest_settled hsettled]
          rfl

/-- Every transfer that is requested is completed, in the order of the requests, but for the
last one when it is still pending. -/
theorem requestedTransfers_eq {host : SgbHost ρ} (h : Reached host)
    (events : List (SgbHostEvent ρ)) :
    host.pendingRequest ++ requestedTransfers events host =
      (completedTransfers events host).map
          (fun completed => (completed.commandId, completed.target)) ++
        (run events host).pendingRequest := by
  induction events generalizing host with
  | nil => rw [requestedTransfers, completedTransfers, List.append_nil]; rfl
  | cons event events ih =>
      rw [requestedTransfers, completedTransfers, run_cons, List.map_append, List.append_assoc,
        ← ih (reached_step h event), ← List.append_assoc, ← List.append_assoc,
        pendingRequest_step h event]

/-! ## A requested transfer -/

omit [SgbHostDevices ρ] in
/-- An admitted packet that is its whole command requests the transfer of that command. -/
theorem requestedBy_admits {packet : SgbPacket} {host : SgbHost ρ} (h : host.Admits packet)
    (hsingle : packet.packetCount = 1) :
    requestedBy packet host =
      (transferTarget packet.commandId packet).map fun target => (packet.commandId, target) := by
  obtain ⟨haccepted, hinactive, hshown, hfree, hcount⟩ := h
  rw [hsingle] at hcount
  have hfirst : (emptyPacketBuffer.set 0 packet)[0] = packet := Vector.getElem_set_self _
  unfold requestedBy receivePacket
  simp only [haccepted, ne_eq, not_true_eq_false, if_false, hinactive, hshown, hfree, hcount,
    and_self, Bool.false_eq_true, hsingle, if_true, Option.bind_some, hfirst]

/-- Writes that complete no packet leave the gate, the system controls and the command being
assembled alone. -/
theorem run_writeLines_quiet (lines : List SgbJoypLineState) {host : SgbHost ρ}
    (hsgb : host.hostPlatform.isSgb) (hnone : completedPackets (writeLines lines) host = []) :
    (run (writeLines lines) host).commandAcceptance = host.commandAcceptance ∧
      (run (writeLines lines) host).system = host.system ∧
      (run (writeLines lines) host).packetGate = host.packetGate ∧
      (run (writeLines lines) host).command.activeCommandId = host.command.activeCommandId := by
  induction lines generalizing host with
  | nil => exact ⟨rfl, rfl, rfl, rfl⟩
  | cons line lines ih =>
      have hcons : (writeLines (line :: lines) : List (SgbHostEvent ρ)) =
          .joypWrite line.joypValue :: writeLines lines := rfl
      rw [hcons, completedPackets, List.append_eq_nil_iff] at hnone
      obtain ⟨hfirst, hrest⟩ := hnone
      have hpacket : completedPacket line.joypValue host = none := by
        simpa [packetAt] using hfirst
      have hsgb' : (host.step (.joypWrite line.joypValue)).hostPlatform.isSgb := by
        rw [step_hostPlatform]
        exact hsgb
      obtain ⟨haccepted, hsystem, hgate, hactive⟩ := ih hsgb' hrest
      obtain ⟨transport, invalid, hwrite⟩ :=
        observeJoypWrite_of_completedPacket_none hsgb hpacket
      rw [hcons, run_cons, haccepted, hsystem, hgate, hactive, step, hwrite]
      exact ⟨rfl, rfl, rfl, rfl⟩

/-- A cartridge that may use the host. -/
def sgbHeader : SgbHeaderFields := { sgbFlag := .supported, oldLicenseeCode := 0x33 }

/-- All the writes of a packet but the last. -/
def sendUpToStop (packet : SgbPacket) : List (SgbHostEvent ρ) :=
  .cartridgeHeader (some sgbHeader) :: writeLines (packetWord (packetBits packet) ++ [.zero])

/-- A packet sent to a new host is complete with the idle level after its stop pulse, and is
admitted if it declares a number of packets. -/
theorem admits_sendUpToStop (devices : ρ) (packet : SgbPacket)
    (hcount : sgbPacketCountMin ≤ packet.packetCount ∧ packet.packetCount ≤ sgbPacketCountMax) :
    completedPacket sgbJoypIdleBits (run (sendUpToStop packet) (new .sgb devices)) = some packet ∧
      (run (sendUpToStop packet) (new .sgb devices)).Admits packet := by
  have hvalid : .invalid ∉ packetWord (packetBits packet) ++ [SgbJoypLineState.zero] := by
    simp only [packetWord, List.mem_append, List.mem_cons, List.not_mem_nil,
      invalid_notMem_pulses, reduceCtorEq, or_self, not_false_eq_true]
  have hpulses := packetPulses_packetWord (packetBits packet)
  have hfull : (packetBits packet).length = sgbPacketBits := length_packetBits packet
  -- the header is no line state, so the history is the pulses
  have hrepresents : Represents
      (.receive (packetWord (packetBits packet) ++ [.zero]))
      (run (sendUpToStop packet) (new .sgb devices)).packetTransport := by
    have hhistory : joypHistory (sendUpToStop packet : List (SgbHostEvent ρ)) =
        packetWord (packetBits packet) ++ [.zero] := by
      rw [sendUpToStop, joypHistory_cartridgeHeader, joypHistory_writeLines hvalid]
    have hrun : Represents (.receive (joypHistory (sendUpToStop packet : List (SgbHostEvent ρ))))
        (run (sendUpToStop packet) (new .sgb devices)).packetTransport :=
      represents_run rfl devices _
    rw [hhistory] at hrun
    exact hrun
  have hsgb : (run (sendUpToStop packet) (new .sgb devices)).hostPlatform.isSgb := by
    rw [run_hostPlatform]
    rfl
  refine ⟨?_, ?_⟩
  · have hcompletes : (Reception.receive (packetWord (packetBits packet) ++ [.zero])).completes
        .idle = some (packetBits packet) :=
      (Reception.completes_iff _ hvalid _ _).mpr
        ⟨rfl, hfull, [], _, [.zero], false, rfl, hpulses, .single false⟩
    have hwrite := completedPacket_eq hsgb hrepresents sgbJoypIdleBits
    rw [show SgbJoypLineState.fromJoypValue sgbJoypIdleBits = .idle from rfl, hcompletes]
      at hwrite
    obtain ⟨packet', hpacket, hbits⟩ := Option.map_eq_some_iff.mp hwrite
    rw [hpacket, packetBits_injective hbits]
  · have hstart : Represents .idle
        ((new .sgb devices).applyCartridgeHeader (some sgbHeader)).packetTransport :=
      ⟨(fun h => by cases h), rfl⟩
    have hsilent : completedPackets (writeLines (packetWord (packetBits packet) ++ [.zero]))
        ((new .sgb devices).applyCartridgeHeader (some sgbHeader)) = [] := by
      have hkeep : ∀ event ∈ (writeLines (packetWord (packetBits packet) ++ [.zero]) :
          List (SgbHostEvent ρ)), event ≠ .realBootHandoff := by
        intro event hevent
        obtain ⟨line, -, hline⟩ := List.mem_map.mp hevent
        rw [← hline]
        intro hhandoff
        cases hhandoff
      have hpackets := completedPackets_eq rfl hstart _ hkeep
      obtain ⟨hnone, -⟩ := Reception.completions_packetPulses hpulses (by omega) .idle
      rw [filterMap_line_writeLines hvalid, Reception.completions_append, hnone] at hpackets
      exact List.map_eq_nil_iff.mp hpackets
    obtain ⟨haccepted, hsystem, hgate, hactive⟩ := run_writeLines_quiet _ rfl hsilent
    have hrun : run (sendUpToStop packet) (new .sgb devices) =
        run (writeLines (packetWord (packetBits packet) ++ [.zero]))
          ((new .sgb devices).applyCartridgeHeader (some sgbHeader)) := run_cons _ _ _
    rw [hrun]
    refine ⟨haccepted, hactive, ?_, by rw [hgate]; rfl, hcount⟩
    rw [hsystem]
    show SgbSystemControlState.initial.registerFileTransferDisabled = false
    decide

/-! ## Every transfer is completed -/

/-- Transfers along a run.  While one is pending, the busy counter is the number of frames
still to capture, and no command is started.  A transfer is requested when none is pending, and
stays pending until its fifth frame start, which completes it with a chunk of each frame's
picture and applies it to the devices.  So the completed transfers are the requested ones. -/
theorem transfers_complete {hostPlatform : HostPlatform} (hsgb : hostPlatform.isSgb)
    (devices : ρ) (events : List (SgbHostEvent ρ)) (host : SgbHost ρ)
    (hhost : run events (new hostPlatform devices) = host) :
    (∀ pending, host.vramTransfer.pending = some pending →
      host.packetGate.busyFramesRemaining = pending.totalFrames - pending.framesCaptured ∧
      0 < host.packetGate.busyFramesRemaining ∧
      ∀ event, host.requestAt event = none ∧ host.commandAt event = none ∧
        (host.step event).command.activeCommandId = none) ∧
    (∀ event request, host.requestAt event = some request →
      host.vramTransfer.pending = none ∧
      ∀ more : List (SgbHostEvent ρ),
        ((more.filterMap SgbHostEvent.frame).length < sgbVramTransferTotalFrames →
          (run more (host.step event)).pendingRequest = [request] ∧
          completedTransfers more (host.step event) = [] ∧
          completedCommands more (host.step event) = []) ∧
        ((more.filterMap SgbHostEvent.frame).length + 1 = sgbVramTransferTotalFrames →
          ∀ frame, ∃ payload,
            (run more (host.step event)).transferAt (.frameStart frame) =
              some { commandId := request.1, target := request.2, payload } ∧
            MadeOfPictures (more.filterMap SgbHostEvent.frame ++ [frame]) payload ∧
            ((run more (host.step event)).step (.frameStart frame)).pendingRequest = [] ∧
            ((run more (host.step event)).step (.frameStart frame)).devices =
              SgbHostDevices.dispatchCompletedVramTransfer
                { commandId := request.1, target := request.2, payload }
                (SgbHostDevices.captureObjFrame frame.vram frame.display
                  (SgbHostDevices.applyVramTransfer
                    { commandId := request.1, target := request.2, payload }
                    (SgbHostDevices.advanceShellFrame
                      (run more (host.step event)).devices))))) ∧
    requestedTransfers events (new hostPlatform devices) =
      (completedTransfers events (new hostPlatform devices)).map
          (fun completed => (completed.commandId, completed.target)) ++ host.pendingRequest ∧
    (∀ i < sgbVramTransferBytes, ∃ c,
      (c < sgbVramTransferTotalFrames ∧
        (vramTransferChunkRange c sgbVramTransferTotalFrames).1 ≤ i ∧
        i < (vramTransferChunkRange c sgbVramTransferTotalFrames).2) ∧
      ∀ c', c' < sgbVramTransferTotalFrames →
        (vramTransferChunkRange c' sgbVramTransferTotalFrames).1 ≤ i →
        i < (vramTransferChunkRange c' sgbVramTransferTotalFrames).2 → c' = c) := by
  have hreached : Reached host := by
    rw [← hhost]
    exact reached_run hsgb devices events
  refine ⟨?_, ?_, ?_, ?_⟩
  · intro pending hpending
    rcases hreached with hsettled | ⟨request, frames, htransferring⟩
    · rw [hsettled.pending] at hpending
      contradiction
    · obtain ⟨held, hheld, -, -, -, hcaptured, htotal, -⟩ := htransferring.capturing.pending
      have hsame : held = pending := Option.some.inj (hheld.symm.trans hpending)
      subst hsame
      have hbusy := htransferring.busy
      have hfew := htransferring.capturing.few
      refine ⟨by rw [hbusy, htotal, hcaptured], by omega, ?_⟩
      intro event
      exact transferring_commandAt htransferring event
  · intro event request hrequest
    obtain ⟨hpending, hstep⟩ := transferring_of_requestAt hreached hrequest
    refine ⟨hpending, fun more => ⟨?_, ?_⟩⟩
    · intro hfew
      obtain ⟨htransferring, hnone, hcommands⟩ := transferring_run hstep more (by
        rw [List.length_nil]
        omega)
      exact ⟨pendingRequest_transferring htransferring, hnone, hcommands⟩
    · intro hlast frame
      obtain ⟨htransferring, -, -⟩ := transferring_run hstep more (by
        rw [List.length_nil]
        omega)
      rw [List.nil_append] at htransferring
      have hframe := transferring_step htransferring (.frameStart frame)
      dsimp only [SgbHostEvent.frame] at hframe
      rw [if_neg (by omega)] at hframe
      obtain ⟨payload, hdone, hmade, hsettled'⟩ := hframe
      exact ⟨payload, hdone, hmade, pendingRequest_settled hsettled',
        devices_of_transferAt htransferring.sgb hdone⟩
  · have hall := requestedTransfers_eq (.inl ⟨hsgb, rfl, Nat.zero_le _⟩ :
      Reached (new hostPlatform devices)) events
    rw [hhost] at hall
    exact hall
  · intro i hi
    exact existsUnique_chunk hi

theorem palTrn_requested :
    (run (sendUpToStop palTrnPacket) (new .sgb ())).requestAt (.joypWrite sgbJoypIdleBits) =
      some (sgbCommandPalTrn, .pal) := by
  obtain ⟨hpacket, hadmits⟩ := admits_sendUpToStop () palTrnPacket (by decide)
  have hat : (run (sendUpToStop palTrnPacket) (new .sgb ())).requestAt
      (.joypWrite sgbJoypIdleBits) =
        (completedPacket sgbJoypIdleBits (run (sendUpToStop palTrnPacket) (new .sgb ()))).bind
          fun packet => requestedBy packet (run (sendUpToStop palTrnPacket) (new .sgb ())) := rfl
  rw [hat, hpacket, Option.bind_some, requestedBy_admits hadmits (by decide)]
  rfl

/-- A screen full of one byte. -/
def filledFrame (lcdc value : U8) : SgbFrameStart :=
  { vram := { bytes := List.replicate sgbGbVramBytes value, full := by simp }
    display := { lcdc, scy := 0, scx := 0, bgp := 0xE4 } }

theorem byte_filledFrame (lcdc value : U8) {i : Nat} (hi : i < sgbGbVramBytes) :
    (filledFrame lcdc value).vram.byte i = value := by
  simp [filledFrame, SgbVramBytes.byte, hi]

/-- The transfer of `PAL_TRN` is still pending after four frames. -/
theorem transfers_complete_palTrn :
    (run (List.replicate 4 (.frameStart (filledFrame 0x91 0)))
      ((run (sendUpToStop palTrnPacket) (new .sgb ())).step
        (.joypWrite sgbJoypIdleBits))).pendingRequest = [(sgbCommandPalTrn, .pal)] := by
  have hrun := (transfers_complete rfl () (sendUpToStop palTrnPacket) _ rfl).2.1 _ _
    palTrn_requested
  refine ((hrun.2 (List.replicate 4 (.frameStart (filledFrame 0x91 0)))).1 ?_).1
  decide

/-- The picture of a frame in a mode that is fixed for all frames. -/
def pictureInMode (mode : SgbVramTransferSourceMode) (frame : SgbFrameStart) :
    SgbVramTransferBuffer :=
  if mode = .displayOrder then .inDisplayOrder frame.vram frame.display
  else .fromSourceBytes frame.vram

/-- The fifth chunk need not be the picture at the fifth frame start: when the screen has been
switched off it is the last picture that was visible. -/
theorem transfer_not_of_each_frame :
    ¬ ∀ (events more : List (SgbHostEvent Unit)) (event : SgbHostEvent Unit)
      (request : U8 × SgbVramTransferTarget) (frame : SgbFrameStart)
      (completed : SgbCompletedVramTransfer),
      (run events (new .sgb ())).requestAt event = some request →
      (more.filterMap SgbHostEvent.frame).length + 1 = sgbVramTransferTotalFrames →
      (run more ((run events (new .sgb ())).step event)).transferAt (.frameStart frame) =
        some completed →
      ∀ c last, (more.filterMap SgbHostEvent.frame ++ [frame])[c]? = some last →
        ∀ i (hi : i < sgbVramTransferBytes),
          (vramTransferChunkRange c sgbVramTransferTotalFrames).1 ≤ i →
          i < (vramTransferChunkRange c sgbVramTransferTotalFrames).2 →
          completed.payload[i] =
            (pictureInMode (transferSourceMode (more.filterMap SgbHostEvent.frame)) last)[i] := by
  intro hclaim
  have hreached : Reached (run (sendUpToStop palTrnPacket) (new .sgb ())) :=
    reached_run rfl () _
  have hstep := (transferring_of_requestAt hreached palTrn_requested).2
  -- four frames with a black screen, then a white one that is switched off
  have hframes : (List.replicate 4 (.frameStart (filledFrame 0x91 0)) :
      List (SgbHostEvent Unit)).filterMap SgbHostEvent.frame =
        List.replicate 4 (filledFrame 0x91 0) := rfl
  obtain ⟨htransferring, -, -⟩ := transferring_run hstep
    (List.replicate 4 (.frameStart (filledFrame 0x91 0))) (by decide)
  rw [hframes, List.nil_append] at htransferring
  have hlast := transferring_step htransferring (.frameStart (filledFrame 0x11 0xFF))
  dsimp only [SgbHostEvent.frame] at hlast
  rw [if_neg (by decide)] at hlast
  obtain ⟨payload, hdone, hmade, -⟩ := hlast
  have hin : 4095 < sgbVramTransferBytes := by decide
  have hclaimed := hclaim _ _ _ _ _ _ palTrn_requested (by rw [hframes]; decide) hdone 4 _ rfl
    4095 hin (by decide) (by decide)
  have hactual := hmade 4 _ rfl 4095 hin (by decide) (by decide)
  have hpicture : transferPicture
      (List.replicate 4 (filledFrame 0x91 0) ++ [filledFrame 0x11 0xFF])
      (filledFrame 0x11 0xFF) =
        .inDisplayOrder (filledFrame 0x91 0).vram (filledFrame 0x91 0).display := rfl
  have hmode : pictureInMode (transferSourceMode (List.replicate 4 (filledFrame 0x91 0)))
      (filledFrame 0x11 0xFF) =
        .inDisplayOrder (filledFrame 0x11 0xFF).vram (filledFrame 0x11 0xFF).display := rfl
  rw [hframes] at hclaimed
  rw [List.take_of_length_le (by decide), hpicture,
    SgbVramTransferBuffer.getElem_inDisplayOrder _ _ _ hin,
    byte_filledFrame _ _ (transferTileSource_add_lt _ _ _ (by decide))] at hactual
  rw [hmode, SgbVramTransferBuffer.getElem_inDisplayOrder _ _ _ hin,
    byte_filledFrame _ _ (transferTileSource_add_lt _ _ _ (by decide)), hactual] at hclaimed
  exact absurd hclaimed (by decide)

end SgbHost

end GbCycle
