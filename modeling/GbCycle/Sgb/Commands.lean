import GbCycle.Sgb.Packets

/-!
# From packets to commands

The header byte of the first packet says how many packets a command has.  A command is
admitted at its first packet, and its other packets follow whatever happens to the gate in the
meantime.  It is completed at its last packet, once, with the bytes of all its packets.
-/

namespace GbCycle

structure SgbCommand where
  commandId : U8
  packetCount : Nat
  payload : List U8
  deriving Repr, DecidableEq

/-- The bytes of the packets after the header byte. -/
def payloadOf (packets : List SgbPacket) : List U8 := (packets.flatMap Vector.toList).drop 1

/-- Resets and headers, which interrupt a command. -/
def SgbHostEvent.Interrupts {ρ : Type} : SgbHostEvent ρ → Prop
  | .realBootHandoff | .cartridgeHeader _ => True
  | .joypWrite _ | .frameStart _ | .devices _ => False

namespace SgbHost

variable {ρ : Type} [SgbHostDevices ρ]

/-- The host takes this packet as the first of a command. -/
structure Admits (host : SgbHost ρ) (packet : SgbPacket) : Prop where
  accepted : host.commandAcceptance = .accepted
  inactive : host.command.activeCommandId = none
  shown : host.system.registerFileTransferDisabled = false
  free : host.packetGate.busyFramesRemaining = 0
  count : sgbPacketCountMin ≤ packet.packetCount ∧ packet.packetCount ≤ sgbPacketCountMax

/-- The command that a packet completes. -/
def completedCommand (packet : SgbPacket) (host : SgbHost ρ) : Option SgbCommand :=
  (receivePacket packet host).2.map fun done =>
    { commandId := done.1
      packetCount := done.2
      payload := (receivePacket packet host).1.command.commandPayload done.2 }

/-- The command that an event completes. -/
def commandAt (host : SgbHost ρ) (event : SgbHostEvent ρ) : Option SgbCommand :=
  (host.packetAt event).bind fun packet => completedCommand packet host

/-- The commands completed along a run. -/
def completedCommands : List (SgbHostEvent ρ) → SgbHost ρ → List SgbCommand
  | [], _ => []
  | event :: events, host =>
      (host.commandAt event).toList ++ completedCommands events (host.step event)

/-! ## One packet -/

/-- The transport, the devices and the count of invalid packets do not enter into a command. -/
theorem receivePacket_onlyTransport {value : U8} {host host' : SgbHost ρ} (packet : SgbPacket)
    (h : OnlyTransport (writeSeen value host) host') :
    (receivePacket packet host').2 = (receivePacket packet host).2 ∧
      (receivePacket packet host').1.command.activeCommandId =
        (receivePacket packet host).1.command.activeCommandId ∧
      (receivePacket packet host').1.command.expectedPacketCount =
        (receivePacket packet host).1.command.expectedPacketCount ∧
      (receivePacket packet host').1.command.receivedPacketCount =
        (receivePacket packet host).1.command.receivedPacketCount ∧
      (receivePacket packet host').1.command.packetBuffer =
        (receivePacket packet host).1.command.packetBuffer := by
  obtain ⟨transport, invalid, honly⟩ := h
  subst honly
  unfold receivePacket writeSeen
  by_cases hrejected : host.commandAcceptance ≠ .accepted
  · simp only [if_pos hrejected, and_self]
  · simp only [if_neg hrejected]
    cases hactive : host.command.activeCommandId with
    | some commandId => simp only [and_self]
    | none =>
        dsimp only
        split
        · simp only [hactive, and_self]
        · split
          · simp only [hactive, and_self]
          · split <;> simp only [and_self]

/-! ## One write -/

/-- Without a packet the command being assembled stays as it is. -/
theorem command_of_completedPacket_none {value : U8} {host : SgbHost ρ}
    (hsgb : host.hostPlatform.isSgb) (h : completedPacket value host = none) :
    (∃ invalidPacketCount, (observeJoypWrite value host).command =
      { host.command with invalidPacketCount }) ∧
    (observeJoypWrite value host).commandAcceptance = host.commandAcceptance := by
  obtain ⟨transport, invalid, hwrite⟩ := observeJoypWrite_of_completedPacket_none hsgb h
  rw [hwrite]
  exact ⟨⟨invalid, rfl⟩, rfl⟩

/-- A packet is received; when it completes a command, the command is completed. -/
theorem command_of_completedPacket {value : U8} {host : SgbHost ρ} {packet : SgbPacket}
    (h : completedPacket value host = some packet) :
    (observeJoypWrite value host).commandAcceptance = host.commandAcceptance ∧
    match completedCommand packet host with
    | none =>
        (observeJoypWrite value host).command.activeCommandId =
          (receivePacket packet host).1.command.activeCommandId ∧
        (observeJoypWrite value host).command.expectedPacketCount =
          (receivePacket packet host).1.command.expectedPacketCount ∧
        (observeJoypWrite value host).command.receivedPacketCount =
          (receivePacket packet host).1.command.receivedPacketCount ∧
        (observeJoypWrite value host).command.packetBuffer =
          (receivePacket packet host).1.command.packetBuffer ∧
        (observeJoypWrite value host).command.acceptedCommandCount =
          host.command.acceptedCommandCount ∧
        (observeJoypWrite value host).command.lastCommandId = host.command.lastCommandId
    | some command =>
        (observeJoypWrite value host).command.activeCommandId = none ∧
        (observeJoypWrite value host).command.acceptedCommandCount =
          saturatingAdd 64 host.command.acceptedCommandCount 1 ∧
        (observeJoypWrite value host).command.lastCommandId = some command.commandId := by
  obtain ⟨host', honly, -, hwrite⟩ := observeJoypWrite_of_completedPacket h
  obtain ⟨hdone, hactive, hexpected, hreceived, hbuffer⟩ :=
    receivePacket_onlyTransport packet honly
  obtain ⟨command, gate, trace, hreceive, -, haccepted, hlast⟩ := receivePacket_frame packet host'
  obtain ⟨-, -, -, hacceptance⟩ := decodeCompletePacket_frame packet host'
  obtain ⟨transport, invalid, honly⟩ := honly
  have hcount : host'.command.acceptedCommandCount = host.command.acceptedCommandCount := by
    rw [honly]
    rfl
  have hlastId : host'.command.lastCommandId = host.command.lastCommandId := by
    rw [honly]
    rfl
  have hsame : host'.commandAcceptance = host.commandAcceptance := by
    rw [honly]
    rfl
  refine ⟨by rw [hwrite, ← hsame, ← hacceptance], ?_⟩
  rw [hwrite]
  unfold completedCommand
  rw [← hdone, ← hactive, ← hexpected, ← hreceived, ← hbuffer]
  unfold decodeCompletePacket
  cases hpair : receivePacket packet host' with
  | mk received done =>
      rw [hpair] at hreceive
      dsimp only at hreceive
      subst hreceive
      cases done with
      | none => exact ⟨rfl, rfl, rfl, rfl, haccepted.trans hcount, hlast.trans hlastId⟩
      | some done =>
          obtain ⟨commandId, packetCount⟩ := done
          obtain ⟨system, devices, packetGate, vramTransfer, hcomplete⟩ :=
            completeAcceptedCommand_frame commandId packetCount
              { host' with
                command
                packetGate := gate
                packetTransport := { host'.packetTransport with lastTrace := trace } }
          dsimp only [Option.map_some]
          rw [hcomplete]
          refine ⟨rfl, ?_, rfl⟩
          show saturatingAdd 64 command.acceptedCommandCount 1 = _
          rw [haccepted, hcount]

/-! ## Assembling a command -/

/-- The host has `first` and the packets of `rest` and waits for more. -/
structure Assembling (first : SgbPacket) (rest : List SgbPacket) (host : SgbHost ρ) : Prop where
  sgb : host.hostPlatform.isSgb
  accepted : host.commandAcceptance = .accepted
  active : host.command.activeCommandId = some first.commandId
  expected : host.command.expectedPacketCount = first.packetCount
  received : host.command.receivedPacketCount = rest.length + 1
  few : rest.length + 1 < first.packetCount
  bounded : first.packetCount ≤ sgbPacketCountMax
  buffer : ∀ i < rest.length + 1, host.command.packetBuffer[i]? = (first :: rest)[i]?

/-- The payload of a buffer that holds the packets. -/
theorem commandPayload_eq {s : SgbCommandState} {first : SgbPacket} {rest : List SgbPacket}
    (hfew : rest.length + 1 ≤ sgbPacketCountMax)
    (hbuffer : ∀ i < rest.length + 1, s.packetBuffer[i]? = (first :: rest)[i]?) :
    s.commandPayload (rest.length + 1) = payloadOf (first :: rest) := by
  have hfirst : s.packetBuffer[0] = first := by
    have h := hbuffer 0 (by omega)
    rw [List.getElem?_cons_zero, Vector.getElem?_eq_getElem (by decide)] at h
    exact Option.some.inj h
  have hmin : min (rest.length + 1) sgbPacketCountMax - 1 = rest.length := by omega
  have hrest : ((List.range' 1 rest.length).flatMap fun i =>
      (s.packetBuffer[i]?.getD .zero).toList) = rest.flatMap Vector.toList := by
    have hmap : (List.range' 1 rest.length).map (fun i => s.packetBuffer[i]?.getD .zero) =
        rest := by
      refine List.ext_getElem (by simp) fun i hi hi' => ?_
      rw [List.getElem_map, List.getElem_range', hbuffer _ (by omega)]
      simp [Nat.add_comm 1 i, hi']
    rw [← List.flatMap_map, hmap]
  unfold SgbCommandState.commandPayload payloadOf
  dsimp only
  rw [hmin, hrest, hfirst, List.flatMap_cons, List.drop_append_of_le_length]
  rw [Vector.length_toList]
  decide

omit [SgbHostDevices ρ] in
/-- One more packet of a command. -/
theorem receivePacket_assembling {first : SgbPacket} {rest : List SgbPacket} {host : SgbHost ρ}
    (h : Assembling first rest host) (packet : SgbPacket) :
    (receivePacket packet host).1.command.activeCommandId = some first.commandId ∧
      (receivePacket packet host).1.command.expectedPacketCount = first.packetCount ∧
      (receivePacket packet host).1.command.receivedPacketCount = (rest ++ [packet]).length + 1 ∧
      (∀ i < (rest ++ [packet]).length + 1,
        (receivePacket packet host).1.command.packetBuffer[i]? =
          (first :: (rest ++ [packet]))[i]?) ∧
      completedCommand packet host =
        if first.packetCount ≤ rest.length + 2 then
          some
            { commandId := first.commandId
              packetCount := first.packetCount
              payload := payloadOf (first :: (rest ++ [packet])) }
        else none := by
  obtain ⟨-, haccepted, hactive, hexpected, hreceived, hfew, hbounded, hbuffer⟩ := h
  have hmax : sgbPacketCountMax = 7 := rfl
  have hcount : saturatingAdd 8 (rest.length + 1) 1 = rest.length + 2 := by
    unfold saturatingAdd
    omega
  have hroom : rest.length + 2 ≤ sgbPacketCountMax := by omega
  have hlength : (rest ++ [packet]).length + 1 = rest.length + 2 := by simp
  have hreceive : (receivePacket packet host).1.command =
        { host.command with
          receivedPacketCount := rest.length + 2
          packetBuffer := host.command.packetBuffer.setIfInBounds (rest.length + 1) packet } ∧
      (receivePacket packet host).2 =
        if first.packetCount ≤ rest.length + 2 then some (first.commandId, first.packetCount)
        else none := by
    unfold receivePacket
    simp only [haccepted, ne_eq, not_true_eq_false, if_false, hactive, hexpected, hreceived,
      hcount, if_pos hroom, and_true]
    rfl
  have hfilled : ∀ i < (rest ++ [packet]).length + 1,
      (receivePacket packet host).1.command.packetBuffer[i]? =
        (first :: (rest ++ [packet]))[i]? := by
    intro i hi
    rw [hreceive.1]
    dsimp only
    rw [Vector.getElem?_setIfInBounds]
    by_cases hnew : rest.length + 1 = i
    · subst hnew
      have hin : rest.length + 1 < sgbPacketCountMax := by omega
      simp [hin]
    · have hold : i < rest.length + 1 := by omega
      rw [if_neg hnew, hbuffer i hold, ← List.cons_append,
        List.getElem?_append_left (by simpa using hold)]
  refine ⟨by rw [hreceive.1]; exact hactive, by rw [hreceive.1]; exact hexpected,
    by rw [hreceive.1, hlength], hfilled, ?_⟩
  unfold completedCommand
  rw [hreceive.2]
  split
  · next hlast =>
      have hn : first.packetCount = (rest ++ [packet]).length + 1 := by omega
      rw [Option.map_some]
      dsimp only
      have hpayload : (receivePacket packet host).1.command.commandPayload
          ((rest ++ [packet]).length + 1) = payloadOf (first :: (rest ++ [packet])) :=
        commandPayload_eq (by omega) hfilled
      rw [← hn] at hpayload
      rw [hpayload]
  · rfl

omit [SgbHostDevices ρ] in
/-- The first packet of a command. -/
theorem receivePacket_admits {first : SgbPacket} {host : SgbHost ρ} (h : host.Admits first) :
    (receivePacket first host).1.command.activeCommandId =
        (if first.packetCount = 1 then none else some first.commandId) ∧
      (receivePacket first host).1.command.expectedPacketCount = first.packetCount ∧
      (receivePacket first host).1.command.receivedPacketCount = 1 ∧
      (∀ i < 1, (receivePacket first host).1.command.packetBuffer[i]? = [first][i]?) ∧
      completedCommand first host =
        if first.packetCount = 1 then
          some
            { commandId := first.commandId
              packetCount := first.packetCount
              payload := payloadOf [first] }
        else none := by
  obtain ⟨haccepted, hinactive, hshown, hfree, hcount⟩ := h
  have hreceive : (receivePacket first host).1.command =
        { host.command with
          expectedPacketCount := first.packetCount
          receivedPacketCount := 1
          packetBuffer := emptyPacketBuffer.set 0 first
          activeCommandId := if first.packetCount = 1 then none else some first.commandId } ∧
      (receivePacket first host).2 =
        if first.packetCount = 1 then some (first.commandId, first.packetCount) else none := by
    unfold receivePacket
    simp only [haccepted, ne_eq, not_true_eq_false, if_false, hinactive, hshown, hfree, hcount,
      and_self, Bool.false_eq_true]
  have hfilled : ∀ i < 1,
      (receivePacket first host).1.command.packetBuffer[i]? = [first][i]? := by
    intro i hi
    have hzero : i = 0 := by omega
    subst hzero
    rw [hreceive.1]
    dsimp only
    rw [Vector.getElem?_set_self, List.getElem?_cons_zero]
  refine ⟨by rw [hreceive.1], by rw [hreceive.1], by rw [hreceive.1], hfilled, ?_⟩
  unfold completedCommand
  rw [hreceive.2]
  split
  · next hsingle =>
      have hpayload : (receivePacket first host).1.command.commandPayload
          (([] : List SgbPacket).length + 1) = payloadOf [first] :=
        commandPayload_eq (by decide) hfilled
      rw [Option.map_some, hsingle]
      dsimp only
      rw [show 1 = ([] : List SgbPacket).length + 1 from rfl, hpayload]
  · rfl

/-! ## Runs -/

/-- Without a packet, nothing changes for the command being assembled. -/
theorem step_of_packetAt_none {event : SgbHostEvent ρ} {host : SgbHost ρ}
    (hsgb : host.hostPlatform.isSgb) (hevent : ¬ event.Interrupts)
    (h : host.packetAt event = none) :
    (∃ invalidPacketCount,
      (host.step event).command = { host.command with invalidPacketCount }) ∧
    (host.step event).commandAcceptance = host.commandAcceptance := by
  have hquiet : ∃ invalidPacketCount, host.command =
      { host.command with invalidPacketCount } := ⟨host.command.invalidPacketCount, rfl⟩
  cases event with
  | joypWrite value => exact command_of_completedPacket_none hsgb h
  | frameStart frame =>
      simp only [step, advanceFrameStart]
      split
      · exact ⟨hquiet, rfl⟩
      · cases (host.vramTransfer.advancePendingVramTransfer frame.vram frame.display).2 <;>
          exact ⟨hquiet, rfl⟩
  | realBootHandoff => exact absurd trivial hevent
  | cartridgeHeader header => exact absurd trivial hevent
  | devices change => exact ⟨hquiet, rfl⟩

omit [SgbHostDevices ρ] in
/-- Packets come from writes. -/
theorem eq_joypWrite_of_packetAt {event : SgbHostEvent ρ} {host : SgbHost ρ} {packet : SgbPacket}
    (h : host.packetAt event = some packet) :
    ∃ value, event = .joypWrite value ∧ completedPacket value host = some packet := by
  cases event with
  | joypWrite value => exact ⟨value, rfl, h⟩
  | frameStart frame => contradiction
  | realBootHandoff => contradiction
  | cartridgeHeader header => contradiction
  | devices change => contradiction

/-- One event while a command is assembled: nothing, one packet more, or its completion. -/
theorem assembling_step {first : SgbPacket} {rest : List SgbPacket} {host : SgbHost ρ}
    (h : Assembling first rest host) {event : SgbHostEvent ρ} (hevent : ¬ event.Interrupts) :
    match host.packetAt event with
    | none => host.commandAt event = none ∧ Assembling first rest (host.step event)
    | some packet =>
        if first.packetCount ≤ rest.length + 2 then
          host.commandAt event = some
            { commandId := first.commandId
              packetCount := first.packetCount
              payload := payloadOf (first :: (rest ++ [packet])) } ∧
          (host.step event).command.activeCommandId = none
        else
          host.commandAt event = none ∧ Assembling first (rest ++ [packet]) (host.step event) := by
  have hsgb : (host.step event).hostPlatform.isSgb := by
    rw [step_hostPlatform]
    exact h.sgb
  cases hpacket : host.packetAt event with
  | none =>
      obtain ⟨⟨invalid, hcommand⟩, haccepted⟩ := step_of_packetAt_none h.sgb hevent hpacket
      refine ⟨by rw [commandAt, hpacket]; rfl, ?_⟩
      obtain ⟨-, hok, hactive, hexpected, hreceived, hfew, hbounded, hbuffer⟩ := h
      exact ⟨hsgb, haccepted.trans hok, by rw [hcommand]; exact hactive,
        by rw [hcommand]; exact hexpected, by rw [hcommand]; exact hreceived, hfew, hbounded,
        by rw [hcommand]; exact hbuffer⟩
  | some packet =>
      obtain ⟨value, hvalue, hcompleted⟩ := eq_joypWrite_of_packetAt hpacket
      obtain ⟨hactive, hexpected, hreceived, hbuffer, hdone⟩ := receivePacket_assembling h packet
      obtain ⟨haccepted, hwrite⟩ := command_of_completedPacket hcompleted
      have hat : host.commandAt event = completedCommand packet host := by
        rw [commandAt, hpacket]
        rfl
      dsimp only
      rw [hat, hdone]
      rw [hdone] at hwrite
      subst hvalue
      split
      · next hlast =>
          rw [if_pos hlast] at hwrite
          exact ⟨rfl, hwrite.1⟩
      · next hmore =>
          rw [if_neg hmore] at hwrite
          obtain ⟨hactive', hexpected', hreceived', hbuffer', -, -⟩ := hwrite
          refine ⟨rfl, hsgb, haccepted.trans h.accepted, hactive'.trans hactive,
            hexpected'.trans hexpected, hreceived'.trans hreceived, ?_, h.bounded, ?_⟩
          · rw [List.length_append, List.length_singleton]
            omega
          · intro i hi
            rw [step, hbuffer']
            exact hbuffer i hi

/-- Without packets no command is completed. -/
theorem completedCommands_of_no_packets {events : List (SgbHostEvent ρ)} {host : SgbHost ρ}
    (h : completedPackets events host = []) : completedCommands events host = [] := by
  induction events generalizing host with
  | nil => rfl
  | cons event events ih =>
      rw [completedPackets, List.append_eq_nil_iff] at h
      obtain ⟨hevent, hrest⟩ := h
      have hnone : host.packetAt event = none := by simpa using hevent
      rw [completedCommands, ih hrest, commandAt, hnone]
      rfl

/-- A command that is being assembled is completed at its last packet, and only there. -/
theorem assembling_run {first : SgbPacket} {rest more : List SgbPacket} {host : SgbHost ρ}
    (h : Assembling first rest host) {events : List (SgbHostEvent ρ)}
    (hevents : ∀ event ∈ events, ¬ event.Interrupts)
    (hmore : completedPackets events host = more)
    (hfew : rest.length + 1 + more.length ≤ first.packetCount) :
    completedCommands events host =
      if rest.length + 1 + more.length = first.packetCount then
        [{ commandId := first.commandId
           packetCount := first.packetCount
           payload := payloadOf (first :: (rest ++ more)) }]
      else [] := by
  induction events generalizing rest more host with
  | nil =>
      subst hmore
      have hwaiting : ¬ rest.length + 1 + (completedPackets [] host).length =
          first.packetCount := by
        have := h.few
        rw [completedPackets, List.length_nil]
        omega
      rw [if_neg hwaiting]
      rfl
  | cons event events ih =>
      have hevent := hevents event List.mem_cons_self
      have hevents' : ∀ other ∈ events, ¬ other.Interrupts := by
        intro other hother
        exact hevents other (List.mem_cons_of_mem _ hother)
      have hstep := assembling_step h hevent
      rw [completedPackets] at hmore
      rw [completedCommands]
      cases hpacket : host.packetAt event with
      | none =>
          rw [hpacket] at hstep hmore
          obtain ⟨hat, hassembling⟩ := hstep
          rw [hat]
          exact ih hassembling hevents' hmore hfew
      | some packet =>
          rw [hpacket] at hstep hmore
          dsimp only at hstep
          subst hmore
          rw [Option.toList_some, List.singleton_append, List.length_cons] at hfew ⊢
          split at hstep
          · next hlast =>
              have hnone : completedPackets events (host.step event) = [] := by
                refine List.eq_nil_of_length_eq_zero ?_
                omega
              rw [hstep.1, completedCommands_of_no_packets hnone, hnone, if_pos (by
                rw [List.length_nil]
                omega)]
              rfl
          · next hwait =>
              rw [hstep.1, Option.toList_none, List.nil_append,
                ih hstep.2 hevents' rfl (by
                  rw [List.length_append, List.length_singleton]
                  omega)]
              have hcount : (rest ++ [packet]).length + 1 +
                  (completedPackets events (host.step event)).length =
                    rest.length + 1 +
                      ((completedPackets events (host.step event)).length + 1) := by
                rw [List.length_append, List.length_singleton]
                omega
              rw [hcount, List.append_assoc]
              rfl

/-- From the packet that is admitted, the command is completed at its last packet. -/
theorem admitted_run {value : U8} {first : SgbPacket} {host : SgbHost ρ}
    (hsgb : host.hostPlatform.isSgb) (hpacket : completedPacket value host = some first)
    (hadmits : host.Admits first) {events : List (SgbHostEvent ρ)}
    (hevents : ∀ event ∈ events, ¬ event.Interrupts)
    (hfew : (completedPackets (.joypWrite value :: events) host).length ≤ first.packetCount) :
    completedCommands (.joypWrite value :: events) host =
      if (completedPackets (.joypWrite value :: events) host).length = first.packetCount then
        [{ commandId := first.commandId
           packetCount := first.packetCount
           payload := payloadOf (completedPackets (.joypWrite value :: events) host) }]
      else [] := by
  obtain ⟨hactive, hexpected, hreceived, hbuffer, hdone⟩ := receivePacket_admits hadmits
  obtain ⟨haccepted, hwrite⟩ := command_of_completedPacket hpacket
  have hat : host.packetAt (.joypWrite value) = some first := hpacket
  have hcommand : host.commandAt (.joypWrite value) = completedCommand first host := by
    rw [commandAt, hat]
    rfl
  have hpackets : completedPackets (.joypWrite value :: events) host =
      first :: completedPackets events (host.step (.joypWrite value)) := by
    rw [completedPackets, hat]
    rfl
  rw [hpackets, List.length_cons] at hfew
  rw [hpackets, completedCommands, hcommand, hdone, List.length_cons]
  rw [hdone] at hwrite
  by_cases hsingle : first.packetCount = 1
  · have hnone : completedPackets events (host.step (.joypWrite value)) = [] :=
      List.eq_nil_of_length_eq_zero (by omega)
    rw [if_pos hsingle, hnone, completedCommands_of_no_packets hnone,
      if_pos (by rw [hsingle]; rfl)]
    rfl
  · rw [if_neg hsingle] at hwrite hactive ⊢
    obtain ⟨hactive', hexpected', hreceived', hbuffer', -, -⟩ := hwrite
    obtain ⟨hlow, hhigh⟩ := hadmits.count
    have hassembling : Assembling first [] (host.step (.joypWrite value)) := by
      refine ⟨?_, haccepted.trans hadmits.accepted, hactive'.trans hactive,
        hexpected'.trans hexpected, hreceived'.trans hreceived, ?_, hhigh, ?_⟩
      · rw [step_hostPlatform]
        exact hsgb
      · simp only [sgbPacketCountMin] at hlow
        rw [List.length_nil]
        omega
      · intro i hi
        rw [step, hbuffer']
        exact hbuffer i hi
    rw [assembling_run hassembling hevents rfl (by rw [List.length_nil]; omega)]
    rw [List.length_nil, Nat.zero_add, Nat.add_comm 1]
    rfl

/-- The host counts the commands that are completed. -/
theorem acceptedCommandCount_run (events : List (SgbHostEvent ρ)) (host : SgbHost ρ)
    (hsgb : host.hostPlatform.isSgb) :
    (run events host).command.acceptedCommandCount =
      (completedCommands events host).foldl (fun count _ => saturatingAdd 64 count 1)
        host.command.acceptedCommandCount := by
  induction events generalizing host with
  | nil => rfl
  | cons event events ih =>
      have hsgb' : (host.step event).hostPlatform.isSgb := by
        rw [step_hostPlatform]
        exact hsgb
      rw [run_cons, ih _ hsgb', completedCommands, List.foldl_append]
      congr 1
      cases hpacket : host.packetAt event with
      | none =>
          rw [commandAt, hpacket, Option.bind_none, Option.toList_none, List.foldl_nil]
          by_cases hevent : event.Interrupts
          · cases event with
            | realBootHandoff =>
                simp only [step, finishRealBootHandoff]
                split <;> rfl
            | cartridgeHeader header => rfl
            | joypWrite value => exact absurd hevent id
            | frameStart frame => exact absurd hevent id
            | devices change => exact absurd hevent id
          · obtain ⟨⟨invalid, hcommand⟩, -⟩ := step_of_packetAt_none hsgb hevent hpacket
            rw [hcommand]
      | some packet =>
          obtain ⟨value, hvalue, hcompleted⟩ := eq_joypWrite_of_packetAt hpacket
          obtain ⟨-, hwrite⟩ := command_of_completedPacket hcompleted
          subst hvalue
          rw [commandAt, hpacket, Option.bind_some]
          cases hdone : completedCommand packet host with
          | none =>
              rw [hdone] at hwrite
              exact hwrite.2.2.2.2.1
          | some command =>
              rw [hdone] at hwrite
              exact hwrite.2.1

/-! ## The protocol -/

/-- The packet protocol of the host, in whatever state a run has left it.  A packet sent pulse
by pulse is completed once, with its bits in order.  A write completes a packet exactly when it
is the idle level that closes the pulses of that packet since the last reset, and every other
write leaves packets and commands alone.  A command whose first packet is admitted is completed
once, at its last packet, with the bytes of its packets in order. -/
theorem packets_and_commands {hostPlatform : HostPlatform} (hsgb : hostPlatform.isSgb)
    (devices : ρ) (events : List (SgbHostEvent ρ)) (host : SgbHost ρ)
    (hhost : run events (new hostPlatform devices) = host) :
    (∀ (packet : SgbPacket) (stop : Bool) (sent : List (SgbHostEvent ρ)),
      (∀ event ∈ sent, event ≠ .realBootHandoff) →
      sent.filterMap SgbHostEvent.line =
        packetWord (packetBits packet) ++ [.ofBit stop] ++ [.idle] →
      completedPackets sent host = [packet]) ∧
    (∀ value packet, completedPacket value host = some packet ↔
      SgbJoypLineState.fromJoypValue value = .idle ∧
        ∃ before word stop bit, joypHistory events = before ++ word ++ stop ∧
          PacketPulses word (packetBits packet) ∧ IsDataRun stop bit) ∧
    (∀ value, completedPacket value host = none →
      OnlyTransport (writeSeen value host) (observeJoypWrite value host)) ∧
    (∀ value first, completedPacket value host = some first → host.Admits first →
      ∀ more : List (SgbHostEvent ρ), (∀ event ∈ more, ¬ event.Interrupts) →
        (completedPackets (.joypWrite value :: more) host).length ≤ first.packetCount →
        completedCommands (.joypWrite value :: more) host =
          if (completedPackets (.joypWrite value :: more) host).length = first.packetCount then
            [{ commandId := first.commandId
               packetCount := first.packetCount
               payload := payloadOf (completedPackets (.joypWrite value :: more) host) }]
          else []) ∧
    host.command.acceptedCommandCount =
      (completedCommands events (new hostPlatform devices)).foldl
        (fun count _ => saturatingAdd 64 count 1) 0 := by
  have hplatform : host.hostPlatform.isSgb := by
    rw [← hhost, run_hostPlatform]
    exact hsgb
  have hrepresents : Represents (.receive (joypHistory events)) host.packetTransport := by
    rw [← hhost]
    exact represents_run hsgb devices events
  refine ⟨?_, ?_, ?_, ?_, ?_⟩
  · intro packet stop sent hkeep hlines
    have hpackets := completedPackets_eq hplatform hrepresents sent hkeep
    rw [hlines, Reception.completions_packet (packetPulses_packetWord _)
      (length_packetBits packet) (.single stop)] at hpackets
    obtain ⟨packet', hsingle, hbits⟩ := List.map_eq_singleton_iff.mp hpackets
    rw [hsingle, packetBits_injective hbits]
  · intro value packet
    have hwrite := completedPacket_eq hplatform hrepresents value
    have hiff := Reception.completes_iff (joypHistory events)
      (invalid_notMem_joypHistory events) (.fromJoypValue value) (packetBits packet)
    rw [← hwrite] at hiff
    constructor
    · intro h
      rw [h] at hiff
      obtain ⟨hidle, -, hword⟩ := hiff.mp rfl
      exact ⟨hidle, hword⟩
    · rintro ⟨hidle, hword⟩
      have hcompleted := hiff.mpr ⟨hidle, length_packetBits packet, hword⟩
      obtain ⟨packet', hpacket, hbits⟩ := Option.map_eq_some_iff.mp hcompleted
      rw [hpacket, packetBits_injective hbits]
  · intro value hnone
    exact observeJoypWrite_of_completedPacket_none hplatform hnone
  · intro value first hpacket hadmits more hmore hfew
    exact admitted_run hplatform hpacket hadmits hmore hfew
  · rw [← hhost, acceptedCommandCount_run events _ hsgb]
    rfl

/-- A packet of zeros, sent to a new host. -/
theorem packets_and_commands_zero :
    completedPackets
      (writeLines (packetWord (packetBits .zero) ++ [.zero] ++ [.idle])) (new .sgb ()) =
        [SgbPacket.zero] := by
  refine (packets_and_commands rfl () [] (new .sgb ()) rfl).1 .zero false _ ?_ ?_
  · intro event hevent
    obtain ⟨line, -, hline⟩ := List.mem_map.mp hevent
    rw [← hline]
    exact nofun
  · refine filterMap_line_writeLines ?_
    simp only [packetWord, List.mem_append, List.mem_cons, List.not_mem_nil,
      invalid_notMem_pulses, reduceCtorEq, or_self, not_false_eq_true]

/-- The pulses of a packet in which the first data pulse changes its level before it idles. -/
def glitchedWord (rest : List Bool) : List SgbJoypLineState :=
  [.start, .idle, .zero, .one, .idle] ++ rest.flatMap fun bit => [.ofBit bit, .idle]

theorem packetPulses_glitchedWord (rest : List Bool) :
    PacketPulses (glitchedWord rest) (true :: rest) := by
  have hglitch : IsDataRun [.zero, .one] true := ⟨[false], rfl⟩
  exact ((PacketPulses.start 0).bit 0 hglitch).append rest

/-- A packet need not be sent with one data level for each bit: two levels in a row are one
pulse. -/
theorem packets_need_not_be_strict :
    ¬ ∀ (events : List (SgbHostEvent Unit)) (value : U8) (packet : SgbPacket),
      completedPacket value (run events (new .sgb ())) = some packet →
      ∃ before stop, joypHistory events =
        before ++ packetWord (packetBits packet) ++ [SgbJoypLineState.ofBit stop] := by
  intro hclaim
  obtain ⟨rest, hrest⟩ : ∃ rest : List Bool, rest.length = 127 :=
    ⟨List.replicate 127 false, List.length_replicate⟩
  have hvalid : .invalid ∉ glitchedWord rest ++ [SgbJoypLineState.zero] := by
    simp only [glitchedWord, List.mem_append, List.mem_cons, List.not_mem_nil,
      invalid_notMem_pulses, reduceCtorEq, or_self, not_false_eq_true]
  have hhistory : joypHistory (writeLines (glitchedWord rest ++ [.zero]) :
      List (SgbHostEvent Unit)) = glitchedWord rest ++ [.zero] := joypHistory_writeLines hvalid
  have hlength : (glitchedWord rest ++ [SgbJoypLineState.zero]).length =
      (packetWord rest).length + 4 := by
    simp only [glitchedWord, packetWord, List.length_append, List.length_cons, List.length_nil]
    omega
  have hcompletes : (Reception.receive (glitchedWord rest ++ [.zero])).completes .idle =
      some (true :: rest) := by
    refine (Reception.completes_iff _ hvalid _ _).mpr ⟨rfl, ?_, ?_⟩
    · rw [List.length_cons, hrest]
      rfl
    · exact ⟨[], glitchedWord rest, [.zero], false, rfl, packetPulses_glitchedWord rest,
        .single false⟩
  -- the host completes a packet when the receiver does
  have hrepresents : Represents (.receive (glitchedWord rest ++ [.zero]))
      (run (writeLines (glitchedWord rest ++ [.zero])) (new .sgb ())).packetTransport := by
    have hrun : Represents (.receive (joypHistory (writeLines (glitchedWord rest ++ [.zero]))))
        (run (writeLines (glitchedWord rest ++ [.zero])) (new .sgb ())).packetTransport :=
      represents_run rfl () _
    rw [hhistory] at hrun
    exact hrun
  have hsgb : (run (writeLines (glitchedWord rest ++ [.zero]))
      (new .sgb () : SgbHost Unit)).hostPlatform.isSgb := by
    rw [run_hostPlatform]
    rfl
  have hwrite := completedPacket_eq hsgb hrepresents sgbJoypIdleBits
  rw [show SgbJoypLineState.fromJoypValue sgbJoypIdleBits = .idle from rfl, hcompletes] at hwrite
  obtain ⟨packet, hpacket, -⟩ := Option.map_eq_some_iff.mp hwrite
  obtain ⟨before, stop, hstrict⟩ := hclaim _ _ _ hpacket
  -- a strict packet is one write shorter, so it would begin with the second line state
  rw [hhistory] at hstrict
  have hbefore : before.length = 1 := by
    have hsame := congrArg List.length hstrict
    rw [hlength] at hsame
    simp only [List.length_append, length_packetWord, length_packetBits, List.length_singleton,
      hrest] at hsame
    omega
  obtain ⟨first, rfl⟩ := List.length_eq_one_iff.mp hbefore
  have hsecond := congrArg (fun lines => lines[1]?) hstrict
  simp [glitchedWord, packetWord] at hsecond

end SgbHost

end GbCycle
