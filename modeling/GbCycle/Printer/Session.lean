import GbCycle.Printer.Device

/-!
# Sessions with a printer

A session is any sequence of bytes, ticks and collections of printed pages.  What the printer
takes note of in it are the packets it recognises and the timeouts; the image buffer and the
printed pages are a function of these notes, which `PrinterJob` computes without a parser, a
status or a timer.

The packet under way and its checksum are determined by the state of the parser, so no addition
overflows, no assertion fails and no index is out of range in any session.
-/

namespace GbCycle

namespace Printer

/-! ## Packets -/

structure PrinterPacket where
  command : U8
  compressionFlag : U8
  data : List U8
  checksum : U16
  deriving Repr, DecidableEq

/-- The sum of bytes in a `u16`, wrapping. -/
def sumBytes (bytes : List U8) : U16 := bytes.foldl (fun sum byte => sum + U16.ofByte byte) 0

theorem sumBytes_concat (bytes : List U8) (byte : U8) :
    sumBytes (bytes ++ [byte]) = sumBytes bytes + U16.ofByte byte := by
  rw [sumBytes, List.foldl_append]
  rfl

/-- Command, compression flag and length of a packet, low byte first. -/
def packetHeader (command compressionFlag : U8) (length : Nat) : List U8 :=
  [command, compressionFlag, U16.low (BitVec.ofNat 16 length), U16.high (BitVec.ofNat 16 length)]

namespace PrinterPacket

def header (p : PrinterPacket) : List U8 :=
  packetHeader p.command p.compressionFlag p.data.length

/-- The checksum that the packet should have. -/
def sum (p : PrinterPacket) : U16 := sumBytes (p.header ++ p.data)

/-- What the packet asks for, where its checksum is right and it is not rejected. -/
def accepted (p : PrinterPacket) : Option (PrinterCommand × List U8) :=
  if p.checksum = p.sum then
    PrinterDevice.acceptedCommand p.command p.compressionFlag p.data
  else none

/-- The bytes that a game sends for the packet. -/
def bytes (p : PrinterPacket) : List U8 :=
  [printerMagic0, printerMagic1] ++ p.header ++ p.data ++ [p.checksum.low, p.checksum.high]

end PrinterPacket

/-! ## The packet under way -/

/-- What a parser that has seen the magic word has stored. -/
inductive Receiving : PrinterParserState → List U8 → Prop where
  | awaitCommand : Receiving .awaitCommand []
  | awaitCompressionFlag (command : U8) : Receiving (.awaitCompressionFlag command) [command]
  | awaitLengthLo (command flag : U8) : Receiving (.awaitLengthLo command flag) [command, flag]
  | awaitLengthHi (command flag lo : U8) :
      Receiving (.awaitLengthHi command flag lo) [command, flag, lo]
  | receiveData {command flag : U8} {length : Nat} {data : List U8} (short : data.length < length)
      (word : length < 2 ^ 16) :
      Receiving (.receiveData command flag length data.length)
        (packetHeader command flag length ++ data)
  | awaitChecksumLo {command flag : U8} {data : List U8} (word : data.length < 2 ^ 16) :
      Receiving (.awaitChecksumLo command flag data.length)
        (packetHeader command flag data.length ++ data)
  | awaitChecksumHi {command flag : U8} {data : List U8} (lo : U8) (word : data.length < 2 ^ 16) :
      Receiving (.awaitChecksumHi command flag data.length lo)
        (packetHeader command flag data.length ++ data)

namespace PrinterDevice

/-- The parser waits for the magic word. -/
def Seeking (d : PrinterDevice) : Prop :=
  d.parserState = .awaitMagic0 ∨ d.parserState = .awaitMagic1

/-- The parser has seen the magic word, and what it stores is the packet under way. -/
structure Parsing (d : PrinterDevice) : Prop where
  receiving : Receiving d.parserState d.packetData
  checksum : d.packetChecksumSum = sumBytes d.packetData

end PrinterDevice

/-! ## Events and notes -/

inductive PrinterEvent where
  | byte (byte : U8)
  | tick
  | takePrintedPages
  deriving Repr, DecidableEq

inductive PrinterNote where
  | packet (packet : PrinterPacket)
  | timeout
  deriving Repr, DecidableEq

namespace PrinterDevice

/-- What the printer takes note of with an event: a tick that is one too many, or the last byte
of a packet. -/
def noteOf (d : PrinterDevice) : PrinterEvent → Option PrinterNote
  | .tick =>
      if d.parserState ≠ .awaitMagic0 ∧
          printerPacketTimeoutTCycles ≤ saturatingAdd 32 d.packetTimeoutTCycles 1 then
        some .timeout
      else none
  | .byte byte =>
      match d.parserState with
      | .awaitChecksumHi command compressionFlag _ checksumLo =>
          some
            (.packet
              { command, compressionFlag, data := d.packetData.drop 4
                checksum := U16.ofBytes byte checksumLo })
      | _ => none
  | .takePrintedPages => none

end PrinterDevice

/-- A printer with what has happened to it: the notes it took, the bytes it answered and the
pages that were collected. -/
structure PrinterSession where
  device : PrinterDevice
  notes : List PrinterNote
  replies : List U8
  taken : List PrintedPage

namespace PrinterSession

def new : PrinterSession := { device := .new, notes := [], replies := [], taken := [] }

def step (s : PrinterSession) (e : PrinterEvent) : Option PrinterSession :=
  let notes := s.notes ++ (s.device.noteOf e).toList
  match e with
  | .byte byte =>
      (s.device.receiveSerialByte byte).map fun device =>
        { s with device, notes, replies := s.replies ++ [s.device.stagedResponseByte] }
  | .tick => some { s with device := s.device.tickTCycle, notes }
  | .takePrintedPages =>
      some
        { s with
          device := s.device.takePrintedPages.2
          notes
          taken := s.taken ++ s.device.takePrintedPages.1 }

def run (s : PrinterSession) (es : List PrinterEvent) : Option PrinterSession := es.foldlM step s

end PrinterSession

/-! ## What the notes mean -/

/-- The image buffer, whether a print is armed, and the pages printed so far. -/
@[ext] structure PrinterJob where
  image : List U8
  armed : Bool
  pages : List PrintedPage
  deriving Repr, DecidableEq

namespace PrinterJob

def new : PrinterJob := { image := [], armed := false, pages := [] }

def reset (j : PrinterJob) : PrinterJob := { j with image := [], armed := false }

/-- A print command prints an armed image, unless it asks for no sheet. -/
def print (j : PrinterJob) (args : PrinterPrintArgs) : PrinterJob :=
  if j.armed then
    { j with
      armed := false
      pages := j.pages ++ if args.sheets = 0 then [] else [pageOf j.image args] }
  else j

/-- Data is added up to the capacity; an empty data packet arms the print of an image. -/
def addData (j : PrinterJob) (data : List U8) : PrinterJob :=
  if data.isEmpty then { j with armed := !j.image.isEmpty }
  else
    { j with
      image := (j.image ++ data).take printerImageBufferCapacityBytes
      armed := false }

/-- `PrinterPrintArgs` from the four bytes of a print packet. -/
def printArgs (data : List U8) : PrinterPrintArgs where
  sheets := data.getD 0 0
  margins := .fromByte (data.getD 1 0)
  palette := data.getD 2 0
  exposure := data.getD 3 0

def execute (j : PrinterJob) (command : PrinterCommand) (data : List U8) : PrinterJob :=
  match command with
  | .initializePrinter => j.reset
  | .print => j.print (printArgs data)
  | .data => j.addData data
  | .status => j

def note (j : PrinterJob) : PrinterNote → PrinterJob
  | .timeout => j.reset
  | .packet packet =>
      match packet.accepted with
      | none => j
      | some (command, data) => j.execute command data

def ofNotes (notes : List PrinterNote) : PrinterJob := notes.foldl note new

end PrinterJob

/-! ## The device does the job -/

namespace PrinterJob

/-- Only an image can be armed, and it has room in the buffer. -/
structure Sound (j : PrinterJob) : Prop where
  armed : j.armed = true → j.image ≠ []
  bounded : j.image.length ≤ printerImageBufferCapacityBytes

theorem sound_new : new.Sound := ⟨nofun, Nat.zero_le _⟩

theorem Sound.reset {j : PrinterJob} : j.reset.Sound := ⟨nofun, Nat.zero_le _⟩

theorem Sound.execute {j : PrinterJob} (h : j.Sound) (command : PrinterCommand) (data : List U8) :
    (j.execute command data).Sound := by
  cases command with
  | initializePrinter => exact .reset
  | print =>
      show (j.print _).Sound
      unfold PrinterJob.print
      split
      · exact ⟨nofun, h.bounded⟩
      · exact h
  | data =>
      show (j.addData data).Sound
      unfold PrinterJob.addData
      split
      · refine ⟨fun harmed hnil => ?_, h.bounded⟩
        simp only at harmed hnil
        rw [hnil] at harmed
        cases harmed
      · exact ⟨nofun, List.length_take_le _ _⟩
  | status => exact h

theorem Sound.note {j : PrinterJob} (h : j.Sound) (n : PrinterNote) : (j.note n).Sound := by
  cases n with
  | timeout => exact .reset
  | packet packet =>
      show (match packet.accepted with
        | none => j
        | some (command, data) => j.execute command data).Sound
      cases packet.accepted with
      | none => exact h
      | some accepted => exact h.execute accepted.1 accepted.2

theorem ofNotes_concat (notes : List PrinterNote) (n : PrinterNote) :
    ofNotes (notes ++ [n]) = (ofNotes notes).note n := List.foldl_concat ..

theorem sound_ofNotes (notes : List PrinterNote) : (ofNotes notes).Sound := by
  induction notes using List.reverseRecOn with
  | nil => exact sound_new
  | append_singleton notes n ih =>
      rw [ofNotes_concat]
      exact ih.note n

end PrinterJob

namespace PrinterDevice

/-- The job of a printer from which some pages have been taken. -/
def job (d : PrinterDevice) (taken : List PrintedPage) : PrinterJob where
  image := d.imageBuffer
  armed := d.printArmed
  pages := taken ++ d.printedPages

variable {d : PrinterDevice} {taken : List PrintedPage}

@[simp] theorem recomputeStatus_job (d : PrinterDevice) (taken : List PrintedPage) :
    d.recomputeStatus.job taken = d.job taken := rfl

@[simp] theorem recomputeStatus_parserState (d : PrinterDevice) :
    d.recomputeStatus.parserState = d.parserState := rfl

@[simp] theorem recomputeStatus_responseQueue (d : PrinterDevice) :
    d.recomputeStatus.responseQueue = d.responseQueue := rfl

/-- What a command does to the job; it leaves the parser where it starts a packet, no response
in an empty queue, and a timer that is not running. -/
structure Executes (d d' : PrinterDevice) (taken : List PrintedPage) (j : PrinterJob) : Prop where
  job : d'.job taken = j
  parserState : d'.parserState = .awaitMagic0
  responseQueue : d.responseQueue = [] → d'.responseQueue = []
  timer : d.packetTimeoutTCycles = 0 → d'.packetTimeoutTCycles = 0

theorem handlePrint_executes (hstate : d.parserState = .awaitMagic0)
    (hsound : (d.job taken).Sound) {data : List U8} (hlength : data.length = 4) :
    ∃ d', d.handlePrint data = some d' ∧
      d.Executes d' taken ((d.job taken).print (PrinterJob.printArgs data)) := by
  match data, hlength with
  | [sheets, margins, palette, exposure], _ =>
      unfold handlePrint PrinterJob.print
      by_cases hready : (d.imageBuffer.isEmpty || !d.printArmed) = true
      · have hidle : (d.job taken).armed = false := by
          by_contra harmed
          rw [Bool.not_eq_false] at harmed
          have himage := hsound.armed harmed
          rw [show d.printArmed = true from harmed, Bool.not_true, Bool.or_false,
            List.isEmpty_iff] at hready
          exact himage hready
        simp only [hready, if_true, hidle]
        exact ⟨_, rfl, rfl, hstate, id, id⟩
      · have harmed : (d.job taken).armed = true := by
          rw [Bool.not_eq_true, Bool.or_eq_false_iff, Bool.not_eq_false'] at hready
          exact hready.2
        simp only [hready, harmed, if_true]
        by_cases hsheets : sheets = 0
        · refine ⟨_, if_neg (not_not_intro hsheets), ?_, hstate, id, id⟩
          refine PrinterJob.ext rfl rfl ?_
          show taken ++ d.printedPages = taken ++ d.printedPages ++ if sheets = 0 then [] else _
          rw [if_pos hsheets, List.append_nil]
        · have hrender := renderPrintedPage_eq hsound.bounded
            (PrinterJob.printArgs [sheets, margins, palette, exposure])
          refine ⟨_, (if_pos hsheets).trans (congrArg _ hrender), ?_, hstate, id, id⟩
          refine PrinterJob.ext rfl rfl ?_
          show taken ++ (d.printedPages ++ [_]) =
            taken ++ d.printedPages ++ if sheets = 0 then [] else [_]
          rw [if_neg hsheets, List.append_assoc]

theorem handleData_executes (hstate : d.parserState = .awaitMagic0)
    (hsound : (d.job taken).Sound) (data : List U8) :
    d.Executes (d.handleData data) taken ((d.job taken).addData data) := by
  unfold handleData PrinterJob.addData
  by_cases hempty : data.isEmpty = true
  · rw [if_pos hempty, if_pos hempty]
    by_cases hfilled : d.imageBuffer.isEmpty = true
    · rw [if_pos hfilled]
      refine ⟨?_, hstate, id, id⟩
      have hidle : d.printArmed = false := by
        by_contra harmed
        rw [Bool.not_eq_false] at harmed
        exact hsound.armed harmed (List.isEmpty_iff.mp hfilled)
      refine PrinterJob.ext rfl ?_ rfl
      show d.printArmed = !d.imageBuffer.isEmpty
      rw [hidle, hfilled]
      rfl
    · rw [if_neg hfilled]
      refine ⟨?_, hstate, id, id⟩
      refine PrinterJob.ext rfl ?_ rfl
      show true = !d.imageBuffer.isEmpty
      rw [Bool.not_eq_true] at hfilled
      rw [hfilled]
      rfl
  · rw [if_neg hempty, if_neg hempty]
    refine ⟨?_, hstate, id, id⟩
    have htake : d.imageBuffer ++ data.take (min (printerImageBufferCapacityBytes -
          d.imageBuffer.length) data.length) =
        (d.imageBuffer ++ data).take printerImageBufferCapacityBytes := by
      have hbounded : d.imageBuffer.length ≤ printerImageBufferCapacityBytes := hsound.bounded
      rw [List.take_append, List.take_of_length_le hbounded, ← List.take_take, List.take_length]
    exact PrinterJob.ext htake rfl rfl

theorem executeCommand_executes (hstate : d.parserState = .awaitMagic0)
    (hsound : (d.job taken).Sound) {command : PrinterCommand} {data : List U8}
    (hvalid : commandPayloadLenIsValid command data.length = true) :
    ∃ d', d.executeCommand command data = some d' ∧
      d.Executes d' taken ((d.job taken).execute command data) := by
  cases command with
  | initializePrinter => exact ⟨_, rfl, rfl, rfl, fun _ => rfl, fun _ => rfl⟩
  | print => exact handlePrint_executes hstate hsound (beq_iff_eq.mp hvalid)
  | data => exact ⟨_, rfl, handleData_executes hstate hsound data⟩
  | status =>
      refine ⟨_, rfl, ?_⟩
      unfold handleStatusCommand
      split <;> exact ⟨rfl, hstate, id, id⟩

/-- A complete packet does what it is accepted for, and queues its two responses. -/
theorem finishPacket_spec (hsound : (d.job taken).Sound) {p : PrinterPacket}
    (hdata : d.packetData = p.header ++ p.data) (hsum : d.packetChecksumSum = sumBytes d.packetData)
    (hqueue : d.responseQueue = []) (htimer : d.packetTimeoutTCycles = 0) :
    ∃ d', d.finishPacket p.command p.compressionFlag p.data.length p.checksum = some d' ∧
      d'.job taken = (d.job taken).note (.packet p) ∧ d'.parserState = .awaitMagic0 ∧
      d'.responseQueue = [0x81, d'.status.toByte] ∧ d'.packetTimeoutTCycles = 0 := by
  have hdrop : d.packetData.drop 4 = p.data := by
    rw [hdata]
    rfl
  have hchecksum : d.packetChecksumSum = p.sum := by rw [hsum, hdata, PrinterPacket.sum]
  unfold finishPacket PrinterJob.note PrinterPacket.accepted
  simp only [hdrop, hchecksum, ne_eq, not_true_eq_false, if_false]
  by_cases hright : p.checksum = p.sum
  · rw [if_neg (not_not_intro hright), if_pos hright]
    cases haccepted : acceptedCommand p.command p.compressionFlag p.data with
    | none => exact ⟨_, rfl, rfl, rfl, congrArg (· ++ _) hqueue, htimer⟩
    | some accepted =>
        obtain ⟨command, data⟩ := accepted
        have hvalid : commandPayloadLenIsValid command data.length = true := by
          unfold acceptedCommand at haccepted
          obtain ⟨command', _, hrest⟩ := Option.bind_eq_some_iff.mp haccepted
          obtain ⟨data', _, hlast⟩ := Option.bind_eq_some_iff.mp hrest
          split at hlast
          · next hvalid =>
              cases hlast
              exact hvalid
          · cases hlast
        let started : PrinterDevice :=
          { d with
            parserState := .awaitMagic0
            packetChecksumSum := p.sum
            status := { d.status with checksumError := false, packetError := false } }
        have hstarted : (started.job taken).Sound := hsound
        obtain ⟨d', hexecute, hexecutes⟩ :=
          executeCommand_executes (d := started) rfl hstarted hvalid
        refine ⟨(d'.queueResponse 0x81 d'.status.toByte).clearCurrentPacket, ?_, hexecutes.job,
          hexecutes.parserState, ?_, hexecutes.timer htimer⟩
        · show (started.executeCommand command data).map _ = _
          rw [hexecute]
          rfl
        · exact congrArg (· ++ _) (hexecutes.responseQueue hqueue)
  · rw [if_pos hright, if_neg hright]
    exact ⟨_, rfl, rfl, rfl, congrArg (· ++ _) hqueue, htimer⟩

/-- The parser is where its packet is, a packet is under way with an empty queue, and the timer
runs only while one is. -/
structure Coherent (d : PrinterDevice) : Prop where
  parser : d.Seeking ∨ d.Parsing
  queue : d.parserState = .awaitMagic0 ∧ d.responseQueue.length ≤ 1 ∨ d.responseQueue = []
  timer : d.parserState = .awaitMagic0 → d.packetTimeoutTCycles = 0

theorem coherent_new : new.Coherent := ⟨.inl (.inl rfl), .inr rfl, fun _ => rfl⟩

/-- What a byte does to a printer: the parser goes on, and only the last byte of a packet does
something to the job and queues responses. -/
theorem consumeByte_spec (h : d.Coherent) (htimer : d.packetTimeoutTCycles = 0)
    (hsound : (d.job taken).Sound) (byte : U8) :
    ∃ d', d.consumeByte byte = some d' ∧ (d'.Seeking ∨ d'.Parsing) ∧
      d'.job taken = (d.noteOf (.byte byte)).elim (d.job taken) (d.job taken).note ∧
      (d.noteOf (.byte byte) = none ∧ d'.responseQueue = d.responseQueue ∨
        d'.parserState = .awaitMagic0 ∧ d'.responseQueue = [0x81, d'.status.toByte] ∧
          d.noteOf (.byte byte) ≠ none) ∧
      d'.packetTimeoutTCycles = 0 := by
  rcases h.parser with hseeking | hparsing
  · unfold consumeByte noteOf
    rcases hseeking with hstate | hstate
    · simp only [hstate, Option.elim_none]
      refine ⟨_, rfl, ?_, ?_, .inl ⟨trivial, ?_⟩, ?_⟩
      · by_cases hmagic : byte = printerMagic0
        · rw [if_pos hmagic]
          exact .inl (.inr rfl)
        · rw [if_neg hmagic]
          exact .inl (.inl hstate)
      · split <;> rfl
      · split <;> rfl
      · split <;> exact htimer
    · simp only [hstate, Option.elim_none]
      refine ⟨_, rfl, ?_, ?_, .inl ⟨trivial, ?_⟩, ?_⟩
      · by_cases hmagic1 : byte = printerMagic1
        · rw [if_pos hmagic1]
          exact .inr ⟨.awaitCommand, rfl⟩
        · rw [if_neg hmagic1]
          by_cases hmagic0 : byte = printerMagic0
          · rw [if_pos hmagic0]
            exact .inl (.inr rfl)
          · rw [if_neg hmagic0]
            exact .inl (.inl rfl)
      · split
        · rfl
        · split <;> rfl
      · split
        · rfl
        · split <;> rfl
      · split
        · exact htimer
        · split <;> exact htimer
  · have hsum := hparsing.checksum
    have hpush (state : PrinterParserState) {data : List U8} (hdata : d.packetData = data)
        (hreceiving : Receiving state (data ++ [byte])) :
        (d.pushPacketByte byte state).Parsing := by
      constructor
      · show Receiving state (d.packetData ++ [byte])
        rw [hdata]
        exact hreceiving
      · show d.packetChecksumSum + U16.ofByte byte = sumBytes (d.packetData ++ [byte])
        rw [sumBytes_concat, hsum]
    have hqueue := h.queue
    unfold consumeByte noteOf
    have hreceiving := hparsing.receiving
    generalize hstate : d.parserState = state at hreceiving hqueue ⊢
    generalize hstored : d.packetData = stored at hreceiving ⊢
    cases hreceiving with
    | awaitCommand =>
        exact ⟨_, rfl, .inr (hpush _ hstored (.awaitCompressionFlag byte)), rfl,
          .inl ⟨rfl, rfl⟩, htimer⟩
    | awaitCompressionFlag command =>
        exact ⟨_, rfl, .inr (hpush _ hstored (.awaitLengthLo command byte)), rfl,
          .inl ⟨rfl, rfl⟩, htimer⟩
    | awaitLengthLo command flag =>
        exact ⟨_, rfl, .inr (hpush _ hstored (.awaitLengthHi command flag byte)), rfl,
          .inl ⟨rfl, rfl⟩, htimer⟩
    | awaitLengthHi command flag lo =>
        refine ⟨_, rfl, .inr (hpush _ hstored ?_), rfl, .inl ⟨rfl, rfl⟩, htimer⟩
        have hheader : [command, flag, lo] ++ [byte] =
            packetHeader command flag (U16.ofBytes byte lo).toNat := by
          rw [packetHeader, BitVec.ofNat_toNat, BitVec.setWidth_eq, U16.ofBytes_low,
            U16.ofBytes_high]
          rfl
        rw [hheader]
        have hword := (U16.ofBytes byte lo).isLt
        by_cases hzero : (U16.ofBytes byte lo).toNat = 0
        · have hempty : Receiving (.awaitChecksumLo command flag ([] : List U8).length)
              (packetHeader command flag ([] : List U8).length ++ []) :=
            .awaitChecksumLo (by decide)
          rw [if_pos hzero, hzero]
          exact hempty
        · have hempty : Receiving (.receiveData command flag (U16.ofBytes byte lo).toNat
                ([] : List U8).length)
              (packetHeader command flag (U16.ofBytes byte lo).toNat ++ []) :=
            .receiveData (Nat.pos_of_ne_zero hzero) hword
          rw [if_neg hzero]
          exact hempty
    | @receiveData command flag length data short word =>
        have hadd : checkedAdd 16 data.length 1 = some (data.length + 1) := if_pos (by omega)
        simp only [hadd, Option.map_some]
        refine ⟨_, rfl, .inr (hpush _ hstored ?_), rfl, .inl ⟨trivial, rfl⟩, htimer⟩
        rw [List.append_assoc]
        have hlength : (data ++ [byte]).length = data.length + 1 := by
          rw [List.length_append, List.length_singleton]
        by_cases hlast : data.length + 1 = length
        · rw [if_pos hlast, ← hlast, ← hlength]
          exact .awaitChecksumLo (by omega)
        · rw [if_neg hlast, ← hlength]
          exact .receiveData (by omega) word
    | awaitChecksumLo word =>
        refine ⟨_, rfl, .inr ⟨.awaitChecksumHi byte word, ?_⟩, rfl, .inl ⟨rfl, rfl⟩, htimer⟩
        show d.packetChecksumSum = sumBytes _
        rw [hsum, hstored]
    | @awaitChecksumHi command flag data lo word =>
        have hpacket : d.packetData = PrinterPacket.header ⟨command, flag, data,
            U16.ofBytes byte lo⟩ ++ data := hstored
        have hempty : d.responseQueue = [] := hqueue.resolve_left fun h => nomatch h.1
        obtain ⟨d', hfinish, hjob, hmagic, hresponses, htimer'⟩ :=
          finishPacket_spec hsound hpacket hsum hempty htimer
        exact ⟨d', hfinish, .inl (.inl hmagic), hjob, .inr ⟨hmagic, hresponses, nofun⟩, htimer'⟩

/-- A byte stages what was queued, and the responses to a packet with its last byte. -/
theorem receiveSerialByte_spec (h : d.Coherent) (hsound : (d.job taken).Sound) (byte : U8) :
    ∃ d', d.receiveSerialByte byte = some d' ∧ d'.Coherent ∧
      d'.job taken = (d.noteOf (.byte byte)).elim (d.job taken) (d.job taken).note ∧
      d'.packetTimeoutTCycles = 0 ∧
      (d.noteOf (.byte byte) = none → d'.stagedResponseByte = d.responseQueue.headD 0 ∧
        d'.responseQueue = []) ∧
      (d.noteOf (.byte byte) ≠ none → d'.parserState = .awaitMagic0 ∧
        d'.stagedResponseByte = 0x81 ∧ d'.responseQueue = [d'.status.toByte]) := by
  have h' : ({ d with packetTimeoutTCycles := 0 } : PrinterDevice).Coherent :=
    ⟨h.parser.imp_right fun h => ⟨h.receiving, h.checksum⟩, h.queue, fun _ => rfl⟩
  obtain ⟨d', hconsume, hparser, hjob, hresponses, htimer⟩ :=
    consumeByte_spec (d := { d with packetTimeoutTCycles := 0 }) h' rfl hsound byte
  have htail : d.responseQueue.tail = [] := by
    rcases h.queue with ⟨-, hshort⟩ | hempty
    · cases hq : d.responseQueue with
      | nil => rfl
      | cons response rest =>
          rw [hq, List.length_cons] at hshort
          exact List.eq_nil_of_length_eq_zero (show rest.length = 0 by omega)
    · rw [hempty]
      rfl
  refine ⟨d'.stageResponse, by rw [receiveSerialByte, hconsume, Option.map_some],
    ⟨hparser.imp_right fun h => ⟨h.receiving, h.checksum⟩, ?_, fun _ => htimer⟩, hjob, htimer,
    fun hnone => ?_, fun hsome => ?_⟩
  · rcases hresponses with ⟨-, hsame⟩ | ⟨hmagic, hqueued, -⟩
    · refine .inr ?_
      show d'.responseQueue.tail = []
      rw [hsame]
      exact htail
    · refine .inl ⟨hmagic, ?_⟩
      show d'.responseQueue.tail.length ≤ 1
      rw [hqueued]
      exact Nat.le_refl _
  · rcases hresponses with ⟨-, hsame⟩ | ⟨-, -, hnote⟩
    · refine ⟨congrArg (List.headD · 0) hsame, ?_⟩
      show d'.responseQueue.tail = []
      rw [hsame]
      exact htail
    · exact absurd hnone hnote
  · rcases hresponses with ⟨hnone, -⟩ | ⟨hmagic, hqueued, -⟩
    · exact absurd hnone hsome
    · exact ⟨hmagic, congrArg (List.headD · 0) hqueued, congrArg List.tail hqueued⟩

theorem tickTCycle_spec (h : d.Coherent) (taken : List PrintedPage) :
    d.tickTCycle.Coherent ∧
    d.tickTCycle.job taken = (d.noteOf .tick).elim (d.job taken) (d.job taken).note := by
  unfold tickTCycle noteOf
  by_cases hidle : d.parserState = .awaitMagic0
  · rw [if_pos hidle]
    simp only [hidle, ne_eq, not_true_eq_false, false_and, if_false]
    exact ⟨h, rfl⟩
  · rw [if_neg hidle]
    by_cases hlate : printerPacketTimeoutTCycles ≤ saturatingAdd 32 d.packetTimeoutTCycles 1
    · simp only [hlate, hidle, ne_eq, not_false_eq_true, and_self, if_true]
      exact ⟨⟨.inl (.inl rfl), .inr rfl, fun _ => rfl⟩, rfl⟩
    · simp only [hlate, and_false, if_false]
      exact ⟨⟨h.parser.imp_right fun h => ⟨h.receiving, h.checksum⟩, h.queue,
        fun hmagic => absurd hmagic hidle⟩, rfl⟩

end PrinterDevice

namespace PrinterSession

/-- The device is coherent and has done the job of its notes. -/
structure Faithful (s : PrinterSession) : Prop where
  coherent : s.device.Coherent
  job : s.device.job s.taken = PrinterJob.ofNotes s.notes

theorem faithful_new : new.Faithful := ⟨PrinterDevice.coherent_new, rfl⟩

variable {s : PrinterSession}

theorem Faithful.sound (h : s.Faithful) : (s.device.job s.taken).Sound :=
  h.job ▸ PrinterJob.sound_ofNotes s.notes

theorem ofNotes_elim (notes : List PrinterNote) (n : Option PrinterNote) :
    n.elim (PrinterJob.ofNotes notes) (PrinterJob.ofNotes notes).note =
      PrinterJob.ofNotes (notes ++ n.toList) := by
  cases n with
  | none => exact congrArg _ (List.append_nil notes).symm
  | some n => exact (PrinterJob.ofNotes_concat notes n).symm

/-- No event makes the printer panic, and the job goes on with what it takes note of. -/
theorem Faithful.step (h : s.Faithful) (e : PrinterEvent) :
    ∃ s', s.step e = some s' ∧ s'.Faithful ∧ s'.notes = s.notes ++ (s.device.noteOf e).toList := by
  cases e with
  | byte byte =>
      obtain ⟨d', hreceive, hcoherent, hjob, -⟩ :=
        PrinterDevice.receiveSerialByte_spec h.coherent h.sound byte
      refine ⟨_, by rw [PrinterSession.step, hreceive, Option.map_some], ⟨hcoherent, ?_⟩, rfl⟩
      rw [← ofNotes_elim, ← h.job]
      exact hjob
  | tick =>
      obtain ⟨hcoherent, hjob⟩ := PrinterDevice.tickTCycle_spec h.coherent s.taken
      refine ⟨_, rfl, ⟨hcoherent, ?_⟩, rfl⟩
      rw [← ofNotes_elim, ← h.job]
      exact hjob
  | takePrintedPages =>
      refine ⟨_, rfl, ⟨⟨h.coherent.parser.imp_right fun h => ⟨h.receiving, h.checksum⟩,
        h.coherent.queue, h.coherent.timer⟩, ?_⟩, rfl⟩
      rw [← ofNotes_elim, ← h.job]
      exact PrinterJob.ext rfl rfl (List.append_nil _)

theorem Faithful.run (h : s.Faithful) (es : List PrinterEvent) :
    ∃ s', s.run es = some s' ∧ s'.Faithful := by
  induction es generalizing s with
  | nil => exact ⟨s, rfl, h⟩
  | cons e es ih =>
      obtain ⟨s₁, hstep, h₁, -⟩ := h.step e
      obtain ⟨s', hrun, h'⟩ := ih h₁
      refine ⟨s', ?_, h'⟩
      rw [PrinterSession.run, List.foldlM_cons, hstep]
      exact hrun

end PrinterSession

end Printer

end GbCycle
