import GbCycle.Model
import GbCycle.Sgb.Protocol
import GbCycle.Sgb.VramTransfer

/-!
# The host side of the Super Game Boy

The host watches the writes to the joypad port.  The transport turns pulses into packets, the
command state turns packets into commands, and the packet gate keeps new commands out while
the host is busy.  Frame starts come from the machine, once every `456 × 154` T-cycles.

What the commands do to palettes, attributes, border, controllers and the sound and SNES side
is the affair of those devices; here they are a parameter that is told what happens.
-/

namespace GbCycle

/-! ## The devices behind the host -/

inductive SgbFlag where
  | none
  | supported
  | unknown (value : U8)
  deriving Repr, DecidableEq

/-- The two header bytes that decide whether commands are accepted. -/
structure SgbHeaderFields where
  sgbFlag : SgbFlag
  oldLicenseeCode : U8
  deriving Repr, DecidableEq

/-- The parts of the host that commands and frames act on, with one function for each thing
the host tells them. -/
class SgbHostDevices (ρ : Type) where
  observeJoypWrite : SgbJoypLineState → U8 → ρ → ρ
  applyDirectPaletteCommand : U8 → SgbPacket → ρ → ρ
  applyAttrBlkCommand : List U8 → ρ → ρ
  applyAttrLinCommand : List U8 → ρ → ρ
  applyAttrDivCommand : SgbPacket → ρ → ρ
  applyAttrChrCommand : List U8 → ρ → ρ
  soundRequest : SgbPacket → ρ → ρ
  applyPalSetCommand : SgbPacket → ρ → ρ
  dataSendRequest : SgbPacket → ρ → ρ
  applyMltReqCommand : SgbPacket → ρ → ρ
  jumpRequest : SgbPacket → ρ → ρ
  applyAttrSetCommand : SgbPacket → ρ → ρ
  applyMaskCommand : SgbPacket → ρ → ρ
  applyObjTrnCommand : SgbPacket → ρ → ρ
  applyPalPriCommand : SgbPacket → ρ → ρ
  startGameBorderFadeOut : ρ → ρ
  advanceShellFrame : ρ → ρ
  captureObjFrame : SgbVramBytes → SgbVramTransferDisplayState → ρ → ρ
  /-- Border tiles, border map, system palettes or attribute files, by the target. -/
  applyVramTransfer : SgbCompletedVramTransfer → ρ → ρ
  /-- The sound and SNES requests and the border transition, by the target. -/
  dispatchCompletedVramTransfer : SgbCompletedVramTransfer → ρ → ρ
  applyCartridgeHeader : SgbCommandAcceptance → Option SgbHeaderFields → ρ → ρ

/-! ## State -/

structure SgbSystemControlState where
  attractionDisabled : Bool
  atrcEnCount : Nat
  testModeEnabled : Bool
  testEnCount : Nat
  iconDisableBits : U8
  iconEnCount : Nat
  lastSystemCommandId : Option U8
  deriving Repr, DecidableEq

structure SgbPacketGateState where
  busyFramesRemaining : Nat
  busyRejectedPacketCount : Nat
  iconSuppressedPacketCount : Nat
  lastBusyCommandId : Option U8
  lastSuppressedCommandId : Option U8
  deriving Repr, DecidableEq

structure SgbPacketTransportState where
  lastJoypLineState : SgbJoypLineState
  phase : SgbPacketTransportPhase
  transferActive : Bool
  pendingDataBit : Option U8
  packetBitsBuffered : Nat
  packetBytesBuffered : Nat
  currentPacket : SgbPacket
  resetPulseCount : Nat
  dataPulseCount : Nat
  invalidPulseCount : Nat
  invalidStopBitCount : Nat
  lastTrace : SgbPacketTrace
  deriving Repr, DecidableEq

structure SgbCommandState where
  activeCommandId : Option U8
  expectedPacketCount : Nat
  receivedPacketCount : Nat
  packetBuffer : Vector SgbPacket sgbPacketCountMax
  lastCommandId : Option U8
  acceptedCommandCount : Nat
  rejectedPacketCount : Nat
  invalidPacketCount : Nat
  deriving Repr, DecidableEq

structure SgbHost (ρ : Type) where
  hostPlatform : HostPlatform
  commandAcceptance : SgbCommandAcceptance
  system : SgbSystemControlState
  packetGate : SgbPacketGateState
  packetTransport : SgbPacketTransportState
  command : SgbCommandState
  vramTransfer : SgbVramTransferState
  devices : ρ
  deriving Repr, DecidableEq

def SgbSystemControlState.initial : SgbSystemControlState :=
  { attractionDisabled := false, atrcEnCount := 0, testModeEnabled := false, testEnCount := 0
    iconDisableBits := 0, iconEnCount := 0, lastSystemCommandId := none }

def SgbPacketGateState.initial : SgbPacketGateState :=
  { busyFramesRemaining := 0, busyRejectedPacketCount := 0, iconSuppressedPacketCount := 0
    lastBusyCommandId := none, lastSuppressedCommandId := none }

def SgbPacketTransportState.initial : SgbPacketTransportState :=
  { lastJoypLineState := .idle, phase := .idle, transferActive := false, pendingDataBit := none
    packetBitsBuffered := 0, packetBytesBuffered := 0, currentPacket := .zero
    resetPulseCount := 0, dataPulseCount := 0, invalidPulseCount := 0, invalidStopBitCount := 0
    lastTrace :=
      { status := .none, commandId := none, packetCount := 0, packetIndex := 0
        bitsBuffered := 0, bytes := .zero } }

def emptyPacketBuffer : Vector SgbPacket sgbPacketCountMax :=
  Vector.replicate sgbPacketCountMax .zero

def SgbCommandState.initial : SgbCommandState :=
  { activeCommandId := none, expectedPacketCount := 0, receivedPacketCount := 0
    packetBuffer := emptyPacketBuffer, lastCommandId := none, acceptedCommandCount := 0
    rejectedPacketCount := 0, invalidPacketCount := 0 }

/-! ## The packet gate and the system commands -/

namespace SgbPacketGateState

def startBusyFrames (frames : Nat) (s : SgbPacketGateState) : SgbPacketGateState :=
  { s with busyFramesRemaining := max s.busyFramesRemaining frames }

def clearBusy (s : SgbPacketGateState) : SgbPacketGateState := { s with busyFramesRemaining := 0 }

def advanceFrame (s : SgbPacketGateState) : SgbPacketGateState :=
  { s with busyFramesRemaining := s.busyFramesRemaining - 1 }

end SgbPacketGateState

namespace SgbSystemControlState

def applyAtrcEn (bytes : SgbPacket) (s : SgbSystemControlState) : SgbSystemControlState :=
  { s with
    attractionDisabled := bytes[1] &&& 0x01 != 0
    atrcEnCount := saturatingAdd 64 s.atrcEnCount 1
    lastSystemCommandId := some sgbCommandAtrcEn }

def applyTestEn (bytes : SgbPacket) (s : SgbSystemControlState) : SgbSystemControlState :=
  { s with
    testModeEnabled := bytes[1] &&& 0x01 != 0
    testEnCount := saturatingAdd 64 s.testEnCount 1
    lastSystemCommandId := some sgbCommandTestEn }

def applyIconEn (bytes : SgbPacket) (s : SgbSystemControlState) : SgbSystemControlState :=
  { s with
    iconDisableBits := bytes[1] &&& 0x7F
    iconEnCount := saturatingAdd 64 s.iconEnCount 1
    lastSystemCommandId := some sgbCommandIconEn }

def registerFileTransferDisabled (s : SgbSystemControlState) : Bool :=
  s.iconDisableBits &&& 0x04 != 0

end SgbSystemControlState

/-- The target of a transfer command, read from its packet. -/
def transferTarget (commandId : U8) (packet : SgbPacket) : Option SgbVramTransferTarget :=
  if commandId = sgbCommandSouTrn then some .sound
  else if commandId = sgbCommandPalTrn then some .pal
  else if commandId = sgbCommandDataTrn then
    some (.snesData (.fromPacketBytes packet[1] packet[2] packet[3]))
  else if commandId = sgbCommandChrTrn then some (.chr (.fromCommandByte packet[1]))
  else if commandId = sgbCommandPctTrn then some .pct
  else if commandId = sgbCommandAttrTrn then some .attr
  else none

/-- The bytes of a command after its header byte. -/
def SgbCommandState.commandPayload (s : SgbCommandState) (packetCount : Nat) : List U8 :=
  let packetCount := min packetCount sgbPacketCountMax
  s.packetBuffer[0].toList.drop 1 ++
    (List.range' 1 (packetCount - 1)).flatMap fun i => (s.packetBuffer[i]?.getD .zero).toList

namespace SgbHost

variable {ρ : Type} [SgbHostDevices ρ]

/-! ## Commands -/

def sgbObjTrnBusyFrames : Nat := 1

/-- A transfer request, which keeps the host busy for as long as the transfer takes. -/
def startVramTransfer (commandId : U8) (target : SgbVramTransferTarget) (host : SgbHost ρ) :
    SgbHost ρ :=
  { host with
    vramTransfer := host.vramTransfer.requestVramTransfer commandId target
    packetGate := host.packetGate.startBusyFrames sgbVramTransferTotalFrames }

def dispatchCompletedCommand (commandId : U8) (packetCount : Nat) (host : SgbHost ρ) : SgbHost ρ :=
  let packet := host.command.packetBuffer[0]
  let payload := host.command.commandPayload packetCount
  let toDevices (f : ρ → ρ) : SgbHost ρ := { host with devices := f host.devices }
  let single := packetCount = 1
  if (directPaletteCommandPair commandId).isSome ∧ single then
    toDevices (SgbHostDevices.applyDirectPaletteCommand commandId packet)
  else if commandId = sgbCommandAttrBlk then toDevices (SgbHostDevices.applyAttrBlkCommand payload)
  else if commandId = sgbCommandAttrLin then toDevices (SgbHostDevices.applyAttrLinCommand payload)
  else if commandId = sgbCommandAttrDiv ∧ single then
    toDevices (SgbHostDevices.applyAttrDivCommand packet)
  else if commandId = sgbCommandAttrChr then toDevices (SgbHostDevices.applyAttrChrCommand payload)
  else if commandId = sgbCommandSound ∧ single then
    toDevices (SgbHostDevices.soundRequest packet)
  else if commandId = sgbCommandSouTrn ∧ single then startVramTransfer commandId .sound host
  else if commandId = sgbCommandAtrcEn ∧ single then
    { host with system := host.system.applyAtrcEn packet }
  else if commandId = sgbCommandTestEn ∧ single then
    { host with system := host.system.applyTestEn packet }
  else if commandId = sgbCommandIconEn ∧ single then
    { host with system := host.system.applyIconEn packet }
  else if commandId = sgbCommandPalSet ∧ single then
    toDevices (SgbHostDevices.applyPalSetCommand packet)
  else if commandId = sgbCommandPalTrn ∧ single then startVramTransfer commandId .pal host
  else if commandId = sgbCommandDataSnd ∧ single then
    toDevices (SgbHostDevices.dataSendRequest packet)
  else if commandId = sgbCommandDataTrn ∧ single then
    startVramTransfer commandId
      (.snesData (.fromPacketBytes packet[1] packet[2] packet[3])) host
  else if commandId = sgbCommandMltReq ∧ single then
    toDevices (SgbHostDevices.applyMltReqCommand packet)
  else if commandId = sgbCommandJump ∧ single then toDevices (SgbHostDevices.jumpRequest packet)
  else if commandId = sgbCommandChrTrn ∧ single then
    startVramTransfer commandId (.chr (.fromCommandByte packet[1]))
      (toDevices SgbHostDevices.startGameBorderFadeOut)
  else if commandId = sgbCommandPctTrn ∧ single then
    startVramTransfer commandId .pct (toDevices SgbHostDevices.startGameBorderFadeOut)
  else if commandId = sgbCommandAttrTrn ∧ single then startVramTransfer commandId .attr host
  else if commandId = sgbCommandAttrSet ∧ single then
    toDevices (SgbHostDevices.applyAttrSetCommand packet)
  else if commandId = sgbCommandMaskEn ∧ single then
    toDevices (SgbHostDevices.applyMaskCommand packet)
  else if commandId = sgbCommandObjTrn ∧ single then
    { toDevices (SgbHostDevices.applyObjTrnCommand packet) with
      packetGate := host.packetGate.startBusyFrames sgbObjTrnBusyFrames }
  else if commandId = sgbCommandPalPri ∧ single then
    toDevices (SgbHostDevices.applyPalPriCommand packet)
  else host

def completeAcceptedCommand (commandId : U8) (packetCount : Nat) (host : SgbHost ρ) : SgbHost ρ :=
  let host :=
    { host with
      command :=
        { host.command with
          lastCommandId := some commandId
          acceptedCommandCount := saturatingAdd 64 host.command.acceptedCommandCount 1 } }
  let host := dispatchCompletedCommand commandId packetCount host
  { host with command := { host.command with activeCommandId := none } }

/-- `self.packet_transport.last_trace = SgbPacketTrace { .. }` of a complete packet. -/
def tracePacket (status : SgbPacketTraceStatus) (commandId : Option U8)
    (packetCount packetIndex : Nat) (bytes : SgbPacket) (t : SgbPacketTransportState) :
    SgbPacketTransportState :=
  { t with
    lastTrace :=
      { status, commandId, packetCount, packetIndex, bitsBuffered := t.packetBitsBuffered
        bytes } }

/-- What a complete packet does to the command that is being assembled.  The command that it
completes, if any, is returned with its number of packets. -/
def receivePacket (bytes : SgbPacket) (host : SgbHost ρ) : SgbHost ρ × Option (U8 × Nat) :=
  if host.commandAcceptance ≠ .accepted then
    ({ host with
        command :=
          { host.command with
            rejectedPacketCount := saturatingAdd 64 host.command.rejectedPacketCount 1 }
        packetTransport := tracePacket .rejectedByHeader (some bytes.commandId) bytes.packetCount
          (saturatingAdd 8 host.command.receivedPacketCount 1) bytes host.packetTransport },
      none)
  else
    match host.command.activeCommandId with
    | none =>
        let commandId := bytes.commandId
        let packetCount := bytes.packetCount
        if host.system.registerFileTransferDisabled then
          ({ host with
              packetGate :=
                { host.packetGate with
                  iconSuppressedPacketCount :=
                    saturatingAdd 64 host.packetGate.iconSuppressedPacketCount 1
                  lastSuppressedCommandId := some commandId }
              packetTransport := tracePacket .suppressedByIcon (some commandId) packetCount 1
                bytes host.packetTransport },
            none)
        else if host.packetGate.busyFramesRemaining ≠ 0 then
          ({ host with
              packetGate :=
                { host.packetGate with
                  busyRejectedPacketCount :=
                    saturatingAdd 64 host.packetGate.busyRejectedPacketCount 1
                  lastBusyCommandId := some commandId }
              packetTransport := tracePacket .rejectedWhileBusy (some commandId) packetCount 1
                bytes host.packetTransport },
            none)
        else if ¬ (sgbPacketCountMin ≤ packetCount ∧ packetCount ≤ sgbPacketCountMax) then
          ({ host with
              command :=
                { host.command with
                  invalidPacketCount := saturatingAdd 64 host.command.invalidPacketCount 1 }
              packetTransport := tracePacket .invalidPacketLength (some commandId) packetCount 1
                bytes host.packetTransport },
            none)
        else
          ({ host with
              command :=
                { host.command with
                  expectedPacketCount := packetCount
                  receivedPacketCount := 1
                  packetBuffer := emptyPacketBuffer.set 0 bytes
                  activeCommandId := if packetCount = 1 then none else some commandId }
              packetTransport := tracePacket .complete (some commandId) packetCount 1
                bytes host.packetTransport },
            if packetCount = 1 then some (commandId, packetCount) else none)
    | some commandId =>
        let packetCount := host.command.expectedPacketCount
        let received := saturatingAdd 8 host.command.receivedPacketCount 1
        ({ host with
            command :=
              { host.command with
                receivedPacketCount := received
                packetBuffer :=
                  if received ≤ sgbPacketCountMax then
                    host.command.packetBuffer.setIfInBounds (received - 1) bytes
                  else host.command.packetBuffer }
            packetTransport := tracePacket .complete (some commandId) packetCount received
              bytes host.packetTransport },
          if packetCount ≤ received then some (commandId, packetCount) else none)

/-- The transfer that a packet requests: it completes a transfer command of one packet. -/
def requestedBy (packet : SgbPacket) (host : SgbHost ρ) : Option (U8 × SgbVramTransferTarget) :=
  (receivePacket packet host).2.bind fun done =>
    if done.2 = 1 then
      (transferTarget done.1 (receivePacket packet host).1.command.packetBuffer[0]).map
        fun target => (done.1, target)
    else none

def decodeCompletePacket (bytes : SgbPacket) (host : SgbHost ρ) : SgbHost ρ :=
  match receivePacket bytes host with
  | (host, some (commandId, packetCount)) => completeAcceptedCommand commandId packetCount host
  | (host, none) => host

/-! ## The transport -/

def recordPacketTrace (status : SgbPacketTraceStatus) (host : SgbHost ρ) : SgbHost ρ :=
  { host with
    packetTransport := tracePacket status host.command.activeCommandId
      host.command.expectedPacketCount host.command.receivedPacketCount
      host.packetTransport.currentPacket host.packetTransport }

def countInvalidPacket (host : SgbHost ρ) : SgbHost ρ :=
  { host with
    command :=
      { host.command with
        invalidPacketCount := saturatingAdd 64 host.command.invalidPacketCount 1 } }

def countInvalidPulse (host : SgbHost ρ) : SgbHost ρ :=
  { host with
    packetTransport :=
      { host.packetTransport with
        invalidPulseCount := saturatingAdd 64 host.packetTransport.invalidPulseCount 1 } }

def completePacketTransfer (host : SgbHost ρ) : SgbHost ρ :=
  let bytes := host.packetTransport.currentPacket
  decodeCompletePacket bytes
    { host with
      packetTransport :=
        { host.packetTransport with
          phase := .idle, transferActive := false, pendingDataBit := none } }

/-- `current_packet[bit / 8] |= 1 << (bit % 8)`. -/
def setPacketBit (packet : SgbPacket) (bitIndex : Nat) : SgbPacket :=
  packet.setIfInBounds (bitIndex / 8)
    ((packet[bitIndex / 8]?.getD 0) ||| BitVec.twoPow 8 (bitIndex % 8))

def confirmPacketDataBit (bit : U8) (host : SgbHost ρ) : SgbHost ρ :=
  let t := host.packetTransport
  if t.packetBitsBuffered < sgbPacketBits then
    let bitIndex := t.packetBitsBuffered
    { host with
      packetTransport :=
        { t with
          currentPacket := if bit ≠ 0 then setPacketBit t.currentPacket bitIndex
            else t.currentPacket
          packetBitsBuffered := bitIndex + 1
          packetBytesBuffered := (bitIndex + 1 + 7) / 8
          phase := .receiving } }
  else
    let host :=
      if bit ≠ 0 then
        let host := recordPacketTrace .invalidStopBit host
        let host := countInvalidPulse host
        let host :=
          { host with
            packetTransport :=
              { host.packetTransport with
                invalidStopBitCount :=
                  saturatingAdd 64 host.packetTransport.invalidStopBitCount 1 } }
        countInvalidPacket host
      else host
    completePacketTransfer host

def confirmPacketStart (host : SgbHost ρ) : SgbHost ρ :=
  { host with
    packetTransport := { host.packetTransport with phase := .receiving, transferActive := true } }

def beginPacketStartPulse (incompleteReset : Bool) (host : SgbHost ρ) : SgbHost ρ :=
  let host :=
    if incompleteReset ∧ (host.packetTransport.packetBitsBuffered ≠ 0 ∨
        host.packetTransport.pendingDataBit.isSome) then
      countInvalidPacket (recordPacketTrace .incompleteReset host)
    else host
  { host with
    packetTransport :=
      { host.packetTransport with
        phase := .startPending
        transferActive := false
        pendingDataBit := none
        packetBitsBuffered := 0
        packetBytesBuffered := 0
        currentPacket := .zero
        resetPulseCount := saturatingAdd 64 host.packetTransport.resetPulseCount 1 } }

def observeJoypIdle (host : SgbHost ρ) : SgbHost ρ :=
  match host.packetTransport.phase with
  | .idle | .receiving => host
  | .startPending => confirmPacketStart host
  | .dataPending =>
      match host.packetTransport.pendingDataBit with
      | none => host
      | some bit =>
          confirmPacketDataBit bit
            { host with packetTransport := { host.packetTransport with pendingDataBit := none } }

def observeJoypStart (host : SgbHost ρ) : SgbHost ρ :=
  match host.packetTransport.phase with
  | .startPending => host
  | .idle => beginPacketStartPulse false host
  | .receiving | .dataPending => beginPacketStartPulse true host

def observeJoypDataCandidate (bit : U8) (host : SgbHost ρ) : SgbHost ρ :=
  match host.packetTransport.phase with
  | .receiving | .dataPending =>
      { host with
        packetTransport :=
          { host.packetTransport with
            phase := .dataPending
            pendingDataBit := some bit
            dataPulseCount := saturatingAdd 64 host.packetTransport.dataPulseCount 1 } }
  | .startPending =>
      let host := countInvalidPacket (countInvalidPulse (recordPacketTrace .conflictingPulse host))
      { host with
        packetTransport :=
          { host.packetTransport with
            phase := .idle, transferActive := false, pendingDataBit := none } }
  | .idle => countInvalidPacket (countInvalidPulse (recordPacketTrace .orphanDataPulse host))

/-- A write to the joypad port. -/
def observeJoypWrite (value : U8) (host : SgbHost ρ) : SgbHost ρ :=
  if ¬ host.hostPlatform.isSgb then host
  else
    let lineState := SgbJoypLineState.fromJoypValue value
    let previousLineState := host.packetTransport.lastJoypLineState
    let host :=
      { host with
        devices := SgbHostDevices.observeJoypWrite previousLineState value host.devices }
    let host :=
      match lineState with
      | .idle => observeJoypIdle host
      | .start => if previousLineState = SgbJoypLineState.start then host else observeJoypStart host
      | .zero | .one => observeJoypDataCandidate (lineState.dataBit.getD 0) host
      | .invalid =>
          countInvalidPacket (countInvalidPulse (recordPacketTrace .conflictingPulse host))
    { host with packetTransport := { host.packetTransport with lastJoypLineState := lineState } }

/-! ## Frames and lifecycle -/

/-- A frame start; the transfer that it completes is returned. -/
def advanceFrameStart (vram : SgbVramBytes) (display : SgbVramTransferDisplayState)
    (host : SgbHost ρ) : SgbHost ρ × Option SgbCompletedVramTransfer :=
  if ¬ host.hostPlatform.isSgb then (host, none)
  else
    let devices := SgbHostDevices.advanceShellFrame host.devices
    let advanced := host.vramTransfer.advancePendingVramTransfer vram display
    let devices :=
      match advanced.2 with
      | some completed => SgbHostDevices.applyVramTransfer completed devices
      | none => devices
    let devices := SgbHostDevices.captureObjFrame vram display devices
    match advanced.2 with
    | some completed =>
        ({ host with
            vramTransfer := advanced.1
            devices := SgbHostDevices.dispatchCompletedVramTransfer completed devices
            packetGate := host.packetGate.clearBusy },
          some completed)
    | none =>
        ({ host with
            vramTransfer := advanced.1
            devices
            packetGate := host.packetGate.advanceFrame },
          none)

/-- When the boot ROM hands over, whatever it had begun to send is forgotten. -/
def finishRealBootHandoff (host : SgbHost ρ) : SgbHost ρ :=
  if ¬ host.hostPlatform.isSgb then host
  else
    { host with
      packetTransport :=
        { host.packetTransport with
          lastJoypLineState := .idle
          phase := .idle
          transferActive := false
          pendingDataBit := none
          packetBitsBuffered := 0
          packetBytesBuffered := 0
          currentPacket := .zero }
      command :=
        { host.command with
          activeCommandId := none
          expectedPacketCount := 0
          receivedPacketCount := 0
          packetBuffer := emptyPacketBuffer } }

def sgbHeaderOldLicenseeCodeRequired : U8 := 0x33

/-- Whether a cartridge may use the host at all. -/
def headerAcceptance (hostPlatform : HostPlatform) (header : Option SgbHeaderFields) :
    SgbCommandAcceptance :=
  if ¬ hostPlatform.isSgb then .disabled
  else
    match header with
    | none => .awaitingCartridgeHeader
    | some header =>
        if header.sgbFlag = .supported ∧
            header.oldLicenseeCode = sgbHeaderOldLicenseeCodeRequired then .accepted
        else .rejectedByHeader

def applyCartridgeHeader (header : Option SgbHeaderFields) (host : SgbHost ρ) : SgbHost ρ :=
  let commandAcceptance := headerAcceptance host.hostPlatform header
  { host with
    commandAcceptance
    devices := SgbHostDevices.applyCartridgeHeader commandAcceptance header host.devices }

/-- A new host, whose devices are in their initial state. -/
def new (hostPlatform : HostPlatform) (devices : ρ) : SgbHost ρ :=
  { hostPlatform
    commandAcceptance := if hostPlatform.isSgb then .awaitingCartridgeHeader else .disabled
    system := .initial
    packetGate := .initial
    packetTransport := .initial
    command := .initial
    vramTransfer := .initial
    devices }

end SgbHost

end GbCycle
