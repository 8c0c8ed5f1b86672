import GbCycle.Printer.Compression
import GbCycle.Printer.Render

/-!
# The printer

The printer takes a packet byte by byte: the magic word, a command, a compression flag, a
length, the data and a checksum.  The byte it sends back while it receives one was staged
before; once a packet is complete it queues an alive byte and its status, one for each of the
next two bytes.

A panic of the source, by an addition that overflows, an index out of range or an assertion
that fails, is `none` here.
-/

namespace GbCycle

namespace Printer

def printerMagic0 : U8 := 0x88
def printerMagic1 : U8 := 0x33
def printerPacketTimeoutTCycles : Nat := 419430
def printerImageBufferCapacityBytes : Nat := 8000

inductive PrinterCommand where
  | initializePrinter
  | print
  | data
  | status
  deriving Repr, DecidableEq

def PrinterCommand.fromByte (byte : U8) : Option PrinterCommand :=
  if byte = 0x01 then some .initializePrinter
  else if byte = 0x02 then some .print
  else if byte = 0x04 then some .data
  else if byte = 0x0F then some .status
  else none

def PrinterMargins.fromByte (byte : U8) : PrinterMargins where
  before := byte >>> 4
  after := byte &&& 0x0F

structure PrinterStatusBits where
  lowBattery : Bool
  otherError : Bool
  paperJam : Bool
  packetError : Bool
  unprocessedData : Bool
  imageDataFull : Bool
  currentlyPrinting : Bool
  checksumError : Bool
  deriving Repr, DecidableEq

namespace PrinterStatusBits

/-- `PrinterStatusBits::default`. -/
def initial : PrinterStatusBits :=
  ⟨false, false, false, false, false, false, false, false⟩

def bit (b : Bool) : U8 := if b then 1 else 0

def toByte (s : PrinterStatusBits) : U8 :=
  (bit s.lowBattery <<< 7) ||| (bit s.otherError <<< 6) ||| (bit s.paperJam <<< 5) |||
    (bit s.packetError <<< 4) ||| (bit s.unprocessedData <<< 3) ||| (bit s.imageDataFull <<< 2) |||
    (bit s.currentlyPrinting <<< 1) ||| bit s.checksumError

end PrinterStatusBits

inductive PrinterParserState where
  | awaitMagic0
  | awaitMagic1
  | awaitCommand
  | awaitCompressionFlag (command : U8)
  | awaitLengthLo (command compressionFlag : U8)
  | awaitLengthHi (command compressionFlag dataLenLo : U8)
  | receiveData (command compressionFlag : U8) (expectedDataLen receivedLen : Nat)
  | awaitChecksumLo (command compressionFlag : U8) (expectedDataLen : Nat)
  | awaitChecksumHi (command compressionFlag : U8) (expectedDataLen : Nat) (checksumLo : U8)
  deriving Repr, DecidableEq

inductive PrinterProcessingState where
  | idle
  | dataBuffered
  | printingPendingStatus
  | printing
  | printComplete
  deriving Repr, DecidableEq

structure PrinterDevice where
  parserState : PrinterParserState
  processingState : PrinterProcessingState
  stagedResponseByte : U8
  responseQueue : List U8
  imageBuffer : List U8
  packetData : List U8
  packetChecksumSum : U16
  lastPrintArgs : Option PrinterPrintArgs
  printedPages : List PrintedPage
  status : PrinterStatusBits
  packetTimeoutTCycles : Nat
  printArmed : Bool
  deriving Repr, DecidableEq

namespace PrinterDevice

def new : PrinterDevice where
  parserState := .awaitMagic0
  processingState := .idle
  stagedResponseByte := 0
  responseQueue := []
  imageBuffer := []
  packetData := []
  packetChecksumSum := 0
  lastPrintArgs := none
  printedPages := []
  status := .initial
  packetTimeoutTCycles := 0
  printArmed := false

def resetToInitializedState (d : PrinterDevice) : PrinterDevice :=
  { d with
    parserState := .awaitMagic0
    processingState := .idle
    stagedResponseByte := 0
    responseQueue := []
    imageBuffer := []
    packetData := []
    packetChecksumSum := 0
    lastPrintArgs := none
    status := .initial
    packetTimeoutTCycles := 0
    printArmed := false }

def queueResponse (d : PrinterDevice) (aliveIndicator status : U8) : PrinterDevice :=
  { d with responseQueue := d.responseQueue ++ [aliveIndicator, status] }

def clearCurrentPacket (d : PrinterDevice) : PrinterDevice :=
  { d with packetData := [], packetChecksumSum := 0 }

def recomputeStatus (d : PrinterDevice) : PrinterDevice :=
  let filled := !d.imageBuffer.isEmpty
  let status : PrinterStatusBits :=
    { PrinterStatusBits.initial with
      packetError := d.status.packetError
      checksumError := d.status.checksumError }
  let status : PrinterStatusBits :=
    match d.processingState with
    | .idle => status
    | .dataBuffered | .printingPendingStatus => { status with unprocessedData := filled }
    | .printing => { status with imageDataFull := filled, currentlyPrinting := true }
    | .printComplete => { status with imageDataFull := filled }
  { d with
    status :=
      if printerImageBufferCapacityBytes ≤ d.imageBuffer.length then
        { status with imageDataFull := true }
      else status }

/-! ## Commands -/

def handleInitialize (d : PrinterDevice) : PrinterDevice := d.resetToInitializedState

def handlePrint (d : PrinterDevice) (commandData : List U8) : Option PrinterDevice :=
  match commandData with
  | [sheets, margins, palette, exposure] =>
      let printArgs : PrinterPrintArgs :=
        { sheets, margins := .fromByte margins, palette, exposure }
      let d := { d with lastPrintArgs := some printArgs }
      if d.imageBuffer.isEmpty || !d.printArmed then some d.recomputeStatus
      else
        let d := { d with processingState := .printingPendingStatus, printArmed := false }
        if printArgs.sheets ≠ 0 then
          (renderPrintedPage d.imageBuffer printArgs).map fun page =>
            { d with printedPages := d.printedPages ++ [page] }.recomputeStatus
        else some d.recomputeStatus
  | _ => some { d with status := { d.status with packetError := true } }

def handleData (d : PrinterDevice) (commandData : List U8) : PrinterDevice :=
  if commandData.isEmpty then
    (if d.imageBuffer.isEmpty then d else { d with printArmed := true }).recomputeStatus
  else
    let availableSpace := printerImageBufferCapacityBytes - d.imageBuffer.length
    let acceptedLen := min availableSpace commandData.length
    { d with
      imageBuffer := d.imageBuffer ++ commandData.take acceptedLen
      processingState := .dataBuffered
      printArmed := false }.recomputeStatus

def handleStatusCommand (d : PrinterDevice) : PrinterDevice :=
  match d.processingState with
  | .printingPendingStatus => { d with processingState := .printing }.recomputeStatus
  | .printing => { d with processingState := .printComplete }.recomputeStatus
  | .idle | .dataBuffered | .printComplete => d

def executeCommand (d : PrinterDevice) (command : PrinterCommand) (commandData : List U8) :
    Option PrinterDevice :=
  match command with
  | .initializePrinter => some d.handleInitialize
  | .print => d.handlePrint commandData
  | .data => some (d.handleData commandData)
  | .status => some d.handleStatusCommand

/-! ## The packet parser -/

def commandPayloadLenIsValid (command : PrinterCommand) (len : Nat) : Bool :=
  match command with
  | .initializePrinter | .status => len == 0
  | .print => len == 4
  | .data => len ≤ printerMaxDataPacketBytes

/-- The command and the data of a packet whose checksum is right, unless it is rejected. -/
def acceptedCommand (command compressionFlag : U8) (commandData : List U8) :
    Option (PrinterCommand × List U8) :=
  (PrinterCommand.fromByte command).bind fun command =>
    let decoded :=
      if compressionFlag = 0x00 then some commandData
      else if command = .data ∧ compressionFlag = 0x01 then decodeCompressedDataPacket commandData
      else none
    decoded.bind fun commandData =>
      if commandPayloadLenIsValid command commandData.length then some (command, commandData)
      else none

def rejectCurrentPacket (d : PrinterDevice) : PrinterDevice :=
  let d := { d with status := { d.status with packetError := true } }
  (d.queueResponse 0x81 d.status.toByte).clearCurrentPacket

def finishPacket (d : PrinterDevice) (command compressionFlag : U8) (expectedDataLen : Nat)
    (checksum : U16) : Option PrinterDevice :=
  let d := { d with parserState := .awaitMagic0 }
  let commandData := d.packetData.drop 4
  if commandData.length ≠ expectedDataLen then none
  else if checksum ≠ d.packetChecksumSum then
    let d := { d with status := { d.status with checksumError := true } }
    some (d.queueResponse 0x81 d.status.toByte).clearCurrentPacket
  else
    let d := { d with status := { d.status with checksumError := false } }
    match acceptedCommand command compressionFlag commandData with
    | none => some d.rejectCurrentPacket
    | some (command, commandData) =>
        ({ d with status := { d.status with packetError := false } }.executeCommand command
          commandData).map fun (d : PrinterDevice) =>
            (d.queueResponse 0x81 d.status.toByte).clearCurrentPacket

/-- A byte of the packet that goes into its checksum. -/
def pushPacketByte (d : PrinterDevice) (byte : U8) (parserState : PrinterParserState) :
    PrinterDevice :=
  { d with
    packetData := d.packetData ++ [byte]
    packetChecksumSum := d.packetChecksumSum + U16.ofByte byte
    parserState }

def consumeByte (d : PrinterDevice) (byte : U8) : Option PrinterDevice :=
  match d.parserState with
  | .awaitMagic0 =>
      some (if byte = printerMagic0 then { d with parserState := .awaitMagic1 } else d)
  | .awaitMagic1 =>
      some
        (if byte = printerMagic1 then
          { d with packetData := [], packetChecksumSum := 0, parserState := .awaitCommand }
        else if byte = printerMagic0 then { d with parserState := .awaitMagic1 }
        else { d with parserState := .awaitMagic0 })
  | .awaitCommand => some (d.pushPacketByte byte (.awaitCompressionFlag byte))
  | .awaitCompressionFlag command => some (d.pushPacketByte byte (.awaitLengthLo command byte))
  | .awaitLengthLo command compressionFlag =>
      some (d.pushPacketByte byte (.awaitLengthHi command compressionFlag byte))
  | .awaitLengthHi command compressionFlag dataLenLo =>
      let expectedDataLen := (U16.ofBytes byte dataLenLo).toNat
      some
        (d.pushPacketByte byte
          (if expectedDataLen = 0 then .awaitChecksumLo command compressionFlag expectedDataLen
          else .receiveData command compressionFlag expectedDataLen 0))
  | .receiveData command compressionFlag expectedDataLen receivedLen =>
      (checkedAdd 16 receivedLen 1).map fun receivedLen =>
        d.pushPacketByte byte
          (if receivedLen = expectedDataLen then
            .awaitChecksumLo command compressionFlag expectedDataLen
          else .receiveData command compressionFlag expectedDataLen receivedLen)
  | .awaitChecksumLo command compressionFlag expectedDataLen =>
      some { d with parserState := .awaitChecksumHi command compressionFlag expectedDataLen byte }
  | .awaitChecksumHi command compressionFlag expectedDataLen checksumLo =>
      d.finishPacket command compressionFlag expectedDataLen (U16.ofBytes byte checksumLo)

/-! ## The port -/

def tickTCycle (d : PrinterDevice) : PrinterDevice :=
  if d.parserState = .awaitMagic0 then d
  else
    let d := { d with packetTimeoutTCycles := saturatingAdd 32 d.packetTimeoutTCycles 1 }
    if printerPacketTimeoutTCycles ≤ d.packetTimeoutTCycles then d.resetToInitializedState else d

/-- The next response is staged in the place of the one just sent. -/
def stageResponse (d : PrinterDevice) : PrinterDevice :=
  { d with stagedResponseByte := d.responseQueue.headD 0, responseQueue := d.responseQueue.tail }

def receiveSerialByte (d : PrinterDevice) (byte : U8) : Option PrinterDevice :=
  ({ d with packetTimeoutTCycles := 0 }.consumeByte byte).map stageResponse

def takePrintedPages (d : PrinterDevice) : List PrintedPage × PrinterDevice :=
  (d.printedPages, { d with printedPages := [] })

end PrinterDevice

end Printer

end GbCycle
