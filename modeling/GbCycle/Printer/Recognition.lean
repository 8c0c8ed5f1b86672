import GbCycle.Printer.History

/-!
# The printer recognises what is sent

A game sends packets with noise between them, which is any bytes without the magic word, and
leaves gaps between bytes that stay below the timeout.  The gaps change nothing, noise leaves
the parser looking for the magic word, and the bytes of a packet take it through its states to
the end, where it takes note of exactly that packet.  The bytes that follow are answered with
the alive byte and the status.
-/

namespace GbCycle

namespace Printer

/-- Bytes without gaps. -/
def byteEvents (bytes : List U8) : List PrinterEvent := bytes.map PrinterEvent.byte

/-- Bytes, each after some ticks. -/
def timedEvents (bytes : List (Nat × U8)) : List PrinterEvent :=
  bytes.flatMap fun x => List.replicate x.1 .tick ++ [.byte x.2]

/-- What the parser still remembers of the magic word. -/
def pendingMagic (state : PrinterParserState) : List U8 :=
  if state = .awaitMagic1 then [printerMagic0] else []

/-- The bytes do not hold the magic word. -/
def Noise (bytes : List U8) : Prop := ¬ [printerMagic0, printerMagic1] <:+: bytes

theorem Noise.of_append {bytes : List U8} (more : List U8) (h : Noise (more ++ bytes)) :
    Noise bytes := fun hinside => h (hinside.trans (List.suffix_append more bytes).isInfix)

namespace PrinterSession

variable {s s' : PrinterSession}

theorem run_append (s : PrinterSession) (es es' : List PrinterEvent) :
    s.run (es ++ es') = (s.run es).bind (·.run es') := by
  rw [PrinterSession.run, List.foldlM_append]
  rfl

theorem run_cons (s : PrinterSession) (e : PrinterEvent) (es : List PrinterEvent) :
    s.run (e :: es) = (s.step e).bind (·.run es) := by
  rw [PrinterSession.run, List.foldlM_cons]
  rfl

theorem run_single (s : PrinterSession) (e : PrinterEvent) : s.run [e] = s.step e := by
  rw [run_cons]
  exact Option.bind_fun_some _

/-! ## Gaps -/

/-- Ticks below the timeout only move the timer. -/
theorem run_ticks {n : Nat} (h : s.device.packetTimeoutTCycles + n < printerPacketTimeoutTCycles) :
    ∃ timer, s.run (List.replicate n .tick) =
      some { s with device := { s.device with packetTimeoutTCycles := timer } } := by
  induction n generalizing s with
  | zero => exact ⟨_, rfl⟩
  | succ n ih =>
      have hstep : ∃ timer ≤ s.device.packetTimeoutTCycles + 1, s.step .tick =
          some { s with device := { s.device with packetTimeoutTCycles := timer } } := by
        by_cases hidle : s.device.parserState = .awaitMagic0
        · have hsame : s.device.tickTCycle = s.device := if_pos hidle
          have hnone : s.device.noteOf .tick = none := if_neg fun hlate => hlate.1 hidle
          refine ⟨s.device.packetTimeoutTCycles, Nat.le_succ _, ?_⟩
          rw [PrinterSession.step, hsame, hnone, Option.toList_none, List.append_nil]
        · have hadd : saturatingAdd 32 s.device.packetTimeoutTCycles 1 =
              s.device.packetTimeoutTCycles + 1 := by
            unfold saturatingAdd
            unfold printerPacketTimeoutTCycles at h
            omega
          have hearly : ¬ printerPacketTimeoutTCycles ≤ s.device.packetTimeoutTCycles + 1 := by
            omega
          refine ⟨s.device.packetTimeoutTCycles + 1, Nat.le_refl _, ?_⟩
          unfold PrinterSession.step PrinterDevice.tickTCycle PrinterDevice.noteOf
          simp only [hidle, hadd, hearly, and_false, if_false, Option.toList_none,
            List.append_nil]
      obtain ⟨timer, hle, hstep⟩ := hstep
      obtain ⟨timer', hrun⟩ := ih (s := { s with device :=
        { s.device with packetTimeoutTCycles := timer } }) (show timer + n < _ by omega)
      refine ⟨timer', ?_⟩
      rw [List.replicate_succ, run_cons, hstep]
      exact hrun

/-- A byte after a gap below the timeout is a byte without one. -/
theorem run_gap {n : Nat} (htimer : s.device.packetTimeoutTCycles = 0)
    (hn : n < printerPacketTimeoutTCycles) (byte : U8) :
    s.run (List.replicate n .tick ++ [.byte byte]) = s.step (.byte byte) := by
  obtain ⟨timer, hrun⟩ := run_ticks (s := s) (show _ + n < _ by omega)
  rw [run_append, hrun, Option.bind_some, run_single]
  rfl

theorem Faithful.step_timer (h : s.Faithful) {byte : U8} (hstep : s.step (.byte byte) = some s') :
    s'.device.packetTimeoutTCycles = 0 := by
  obtain ⟨d', hreceive, -, -, htimer, -⟩ :=
    PrinterDevice.receiveSerialByte_spec h.coherent h.sound byte
  rw [PrinterSession.step, hreceive] at hstep
  cases hstep
  exact htimer

theorem Faithful.run_timed (h : s.Faithful) (htimer : s.device.packetTimeoutTCycles = 0)
    {bytes : List (Nat × U8)} (hgaps : ∀ x ∈ bytes, x.1 < printerPacketTimeoutTCycles) :
    s.run (timedEvents bytes) = s.run (byteEvents (bytes.map Prod.snd)) := by
  induction bytes generalizing s with
  | nil => rfl
  | cons x bytes ih =>
      rw [timedEvents, List.flatMap_cons, run_append,
        run_gap htimer (hgaps x (List.mem_cons_self ..))]
      show _ = s.run (.byte x.2 :: byteEvents (bytes.map Prod.snd))
      rw [run_cons]
      obtain ⟨s₁, hstep, h₁, -⟩ := h.step (.byte x.2)
      rw [hstep]
      exact ih h₁ (h.step_timer hstep) fun y hy => hgaps y (List.mem_cons_of_mem _ hy)

/-- What a byte makes of a session, from what the parser makes of the byte. -/
theorem Faithful.step_byte (h : s.Faithful) (byte : U8) :
    ∃ s' d', s.step (.byte byte) = some s' ∧ s'.Faithful ∧
      ({ s.device with packetTimeoutTCycles := 0 } : PrinterDevice).consumeByte byte = some d' ∧
      s'.device.parserState = d'.parserState ∧ s'.device.packetData = d'.packetData ∧
      s'.notes = s.notes ++ (s.device.noteOf (.byte byte)).toList ∧
      s'.device.packetTimeoutTCycles = 0 := by
  obtain ⟨s', hstep, h', hnotes⟩ := h.step (.byte byte)
  have htimer := h.step_timer hstep
  rw [PrinterSession.step] at hstep
  obtain ⟨d, hreceive, rfl⟩ := Option.map_eq_some_iff.mp hstep
  obtain ⟨d', hconsume, rfl⟩ := Option.map_eq_some_iff.mp hreceive
  exact ⟨_, d', hstep, h', hconsume, rfl, rfl, hnotes, htimer⟩

/-! ## Noise -/

/-- Where the parser goes that looks for the magic word. -/
theorem consumeByte_seeking {d : PrinterDevice} (hseeking : d.Seeking) (byte : U8) :
    d.noteOf (.byte byte) = none ∧
    ∃ d', d.consumeByte byte = some d' ∧
      d'.parserState =
        if d.parserState = .awaitMagic1 ∧ byte = printerMagic1 then .awaitCommand
        else if byte = printerMagic0 then .awaitMagic1
        else .awaitMagic0 := by
  unfold PrinterDevice.consumeByte PrinterDevice.noteOf
  rcases hseeking with hstate | hstate
  · simp only [hstate]
    refine ⟨trivial, _, rfl, ?_⟩
    rw [if_neg (show ¬ (PrinterParserState.awaitMagic0 = .awaitMagic1 ∧ _) from nofun)]
    split
    · rfl
    · exact hstate
  · simp only [hstate, true_and]
    refine ⟨_, rfl, ?_⟩
    split
    · rfl
    · split <;> rfl

/-- Noise is passed over. -/
theorem Faithful.run_noise (h : s.Faithful) (htimer : s.device.packetTimeoutTCycles = 0)
    (hseeking : s.device.Seeking) {noise : List U8}
    (hquiet : Noise (pendingMagic s.device.parserState ++ noise)) :
    ∃ s', s.run (byteEvents noise) = some s' ∧ s'.Faithful ∧ s'.device.Seeking ∧
      s'.notes = s.notes ∧ s'.device.packetTimeoutTCycles = 0 := by
  induction noise generalizing s with
  | nil => exact ⟨s, rfl, h, hseeking, rfl, htimer⟩
  | cons byte noise ih =>
      have hrest : Noise (byte :: noise) := hquiet.of_append _
      have htail : Noise noise := Noise.of_append [byte] hrest
      obtain ⟨s₁, d₁, hstep, h₁, hconsume, hstate₁, -, hnotes₁, htimer₁⟩ := h.step_byte byte
      obtain ⟨-, d₂, hconsume₂, hstate₂⟩ :=
        consumeByte_seeking (d := { s.device with packetTimeoutTCycles := 0 }) hseeking byte
      obtain rfl := Option.some.inj (hconsume₂.symm.trans hconsume)
      have hnone : s.device.noteOf (.byte byte) = none := (consumeByte_seeking hseeking byte).1
      have hnot : ¬ (s.device.parserState = .awaitMagic1 ∧ byte = printerMagic1) := by
        rintro ⟨hmagic1, rfl⟩
        rw [show pendingMagic s.device.parserState = [printerMagic0] from if_pos hmagic1] at hquiet
        exact hquiet ⟨[], noise, rfl⟩
      have hnext : s₁.device.Seeking ∧ Noise (pendingMagic s₁.device.parserState ++ noise) := by
        rw [PrinterDevice.Seeking, hstate₁, hstate₂, if_neg hnot]
        by_cases hmagic : byte = printerMagic0
        · rw [if_pos hmagic]
          refine ⟨.inr rfl, ?_⟩
          rw [show pendingMagic .awaitMagic1 = [printerMagic0] from if_pos rfl, ← hmagic]
          exact hrest
        · rw [if_neg hmagic]
          exact ⟨.inl rfl, htail⟩
      obtain ⟨s', hrun, h', hseeking', hnotes', htimer'⟩ := ih h₁ htimer₁ hnext.1 hnext.2
      refine ⟨s', ?_, h', hseeking', ?_, htimer'⟩
      · show s.run (.byte byte :: byteEvents noise) = some s'
        rw [run_cons, hstep]
        exact hrun
      · rw [hnotes', hnotes₁, hnone]
        exact List.append_nil _

/-! ## Packets -/

/-- The parser is in a state with some bytes of a packet. -/
structure At (s : PrinterSession) (state : PrinterParserState) (data : List U8) : Prop where
  state : s.device.parserState = state
  data : s.device.packetData = data

/-- A byte that is stored and takes the parser to its next state. -/
theorem Faithful.step_push (h : s.Faithful) {state state' : PrinterParserState} {data : List U8}
    (byte : U8) (hat : s.At state data)
    (hconsume : ∀ d : PrinterDevice, d.parserState = state →
      d.consumeByte byte = some (d.pushPacketByte byte state') ∧ d.noteOf (.byte byte) = none) :
    ∃ s', s.step (.byte byte) = some s' ∧ s'.Faithful ∧ s'.At state' (data ++ [byte]) ∧
      s'.notes = s.notes := by
  obtain ⟨s', d', hstep, h', hconsume', hstate, hdata, hnotes, -⟩ := h.step_byte byte
  obtain ⟨hpush, -⟩ := hconsume { s.device with packetTimeoutTCycles := 0 } hat.state
  obtain rfl := Option.some.inj (hpush.symm.trans hconsume')
  refine ⟨s', hstep, h', ⟨hstate, ?_⟩, ?_⟩
  · rw [hdata, ← hat.data]
    rfl
  · rw [hnotes, (hconsume s.device hat.state).2]
    exact List.append_nil _

/-- The data bytes of a packet. -/
theorem Faithful.run_data (h : s.Faithful) {command flag : U8} {stored : List U8}
    {length received : Nat} {data : List U8} (hne : data ≠ [])
    (hlength : received + data.length = length) (hword : length < 2 ^ 16)
    (hat : s.At (.receiveData command flag length received) stored) :
    ∃ s', s.run (byteEvents data) = some s' ∧ s'.Faithful ∧
      s'.At (.awaitChecksumLo command flag length) (stored ++ data) ∧ s'.notes = s.notes := by
  induction data generalizing s stored received with
  | nil => exact absurd rfl hne
  | cons byte data ih =>
      rw [List.length_cons] at hlength
      have hadd : checkedAdd 16 received 1 = some (received + 1) := if_pos (by omega)
      have hconsume : ∀ d : PrinterDevice,
          d.parserState = .receiveData command flag length received →
          d.consumeByte byte = some (d.pushPacketByte byte
            (if received + 1 = length then .awaitChecksumLo command flag length
              else .receiveData command flag length (received + 1))) ∧
          d.noteOf (.byte byte) = none := by
        intro d hstate
        unfold PrinterDevice.consumeByte PrinterDevice.noteOf
        simp only [hstate, hadd, Option.map_some, and_true]
      obtain ⟨s₁, hstep, h₁, hat₁, hnotes₁⟩ := h.step_push byte hat hconsume
      have hcons (s' : PrinterSession) (hrun : s₁.run (byteEvents data) = some s') :
          s.run (byteEvents (byte :: data)) = some s' := by
        show s.run (.byte byte :: byteEvents data) = some s'
        rw [run_cons, hstep]
        exact hrun
      by_cases hlast : received + 1 = length
      · have hnil : data = [] := List.eq_nil_of_length_eq_zero (by omega)
        subst hnil
        rw [if_pos hlast] at hat₁
        exact ⟨s₁, hcons s₁ rfl, h₁, hat₁, hnotes₁⟩
      · rw [if_neg hlast] at hat₁
        have hmore : data ≠ [] := by
          rintro rfl
          exact hlast hlength
        obtain ⟨s', hrun, h', hat', hnotes'⟩ := ih h₁ hmore (by omega) hat₁
        refine ⟨s', hcons s' hrun, h', ?_, hnotes'.trans hnotes₁⟩
        rw [List.append_assoc] at hat'
        exact hat'

/-- Command, compression flag and length. -/
theorem Faithful.run_header (h : s.Faithful) (command flag : U8) {length : Nat}
    (hword : length < 2 ^ 16) (hat : s.At .awaitCommand []) :
    ∃ s', s.run (byteEvents (packetHeader command flag length)) = some s' ∧ s'.Faithful ∧
      s'.At (if length = 0 then .awaitChecksumLo command flag length
        else .receiveData command flag length 0) (packetHeader command flag length) ∧
      s'.notes = s.notes := by
  have hlength : (U16.ofBytes (U16.high (BitVec.ofNat 16 length))
      (U16.low (BitVec.ofNat 16 length))).toNat = length := by
    rw [U16.ofBytes_high_low, BitVec.toNat_ofNat, Nat.mod_eq_of_lt hword]
  obtain ⟨s₁, hstep₁, h₁, hat₁, hnotes₁⟩ := h.step_push command hat fun d hd => by
    unfold PrinterDevice.consumeByte PrinterDevice.noteOf
    rw [hd]
    exact ⟨rfl, rfl⟩
  obtain ⟨s₂, hstep₂, h₂, hat₂, hnotes₂⟩ := h₁.step_push flag hat₁ fun d hd => by
    unfold PrinterDevice.consumeByte PrinterDevice.noteOf
    rw [hd]
    exact ⟨rfl, rfl⟩
  obtain ⟨s₃, hstep₃, h₃, hat₃, hnotes₃⟩ := h₂.step_push
    (U16.low (BitVec.ofNat 16 length)) hat₂ fun d hd => by
      unfold PrinterDevice.consumeByte PrinterDevice.noteOf
      rw [hd]
      exact ⟨rfl, rfl⟩
  obtain ⟨s₄, hstep₄, h₄, hat₄, hnotes₄⟩ := h₃.step_push
    (U16.high (BitVec.ofNat 16 length)) hat₃ fun d hd => by
      unfold PrinterDevice.consumeByte PrinterDevice.noteOf
      rw [hd]
      exact ⟨rfl, rfl⟩
  rw [hlength] at hat₄
  refine ⟨s₄, ?_, h₄, hat₄, by rw [hnotes₄, hnotes₃, hnotes₂, hnotes₁]⟩
  show s.run [.byte command, .byte flag, .byte (U16.low (BitVec.ofNat 16 length)),
    .byte (U16.high (BitVec.ofNat 16 length))] = some s₄
  rw [run_cons, hstep₁, Option.bind_some, run_cons, hstep₂, Option.bind_some, run_cons, hstep₃,
    Option.bind_some, run_single, hstep₄]

/-- The magic word starts a packet from where the parser looks for it. -/
theorem Faithful.run_magic (h : s.Faithful) (hseeking : s.device.Seeking) :
    ∃ s', s.run (byteEvents [printerMagic0, printerMagic1]) = some s' ∧ s'.Faithful ∧
      s'.At .awaitCommand [] ∧ s'.notes = s.notes := by
  obtain ⟨s₁, d₁, hstep₁, h₁, hconsume₁, hstate₁, -, hnotes₁, -⟩ := h.step_byte printerMagic0
  obtain ⟨-, d, hconsume, hstate⟩ := consumeByte_seeking
    (d := { s.device with packetTimeoutTCycles := 0 }) hseeking printerMagic0
  obtain rfl := Option.some.inj (hconsume.symm.trans hconsume₁)
  rw [if_neg fun h => absurd h.2 (by decide), if_pos rfl] at hstate
  have hmagic₁ : s₁.device.parserState = .awaitMagic1 := hstate₁.trans hstate
  obtain ⟨s₂, d₂, hstep₂, h₂, hconsume₂, hstate₂, -, hnotes₂, -⟩ := h₁.step_byte printerMagic1
  obtain ⟨-, d', hconsume', hstate'⟩ := consumeByte_seeking
    (d := { s₁.device with packetTimeoutTCycles := 0 }) (.inr hmagic₁) printerMagic1
  obtain rfl := Option.some.inj (hconsume'.symm.trans hconsume₂)
  rw [if_pos ⟨hmagic₁, rfl⟩] at hstate'
  have hcommand : s₂.device.parserState = .awaitCommand := hstate₂.trans hstate'
  refine ⟨s₂, ?_, h₂, ⟨hcommand, ?_⟩, ?_⟩
  · show s.run [.byte printerMagic0, .byte printerMagic1] = some s₂
    rw [run_cons, hstep₁, Option.bind_some, run_single, hstep₂]
  · rcases h₂.coherent.parser with (hmagic | hmagic) | hparsing
    · exact absurd (hcommand.symm.trans hmagic) nofun
    · exact absurd (hcommand.symm.trans hmagic) nofun
    · have hreceiving := hparsing.receiving
      rw [hcommand] at hreceiving
      generalize s₂.device.packetData = data at hreceiving ⊢
      cases hreceiving
      rfl
  · rw [hnotes₂, hnotes₁, (consumeByte_seeking (.inr hmagic₁) printerMagic1).1,
      (consumeByte_seeking hseeking printerMagic0).1, Option.toList_none, List.append_nil,
      List.append_nil]

/-- The checksum ends a packet, of which the printer takes note, and stages the alive byte with
the status behind it. -/
theorem Faithful.run_checksum (h : s.Faithful) {p : PrinterPacket}
    (hat : s.At (.awaitChecksumLo p.command p.compressionFlag p.data.length)
      (p.header ++ p.data)) :
    ∃ s', s.run (byteEvents [p.checksum.low, p.checksum.high]) = some s' ∧ s'.Faithful ∧
      s'.device.parserState = .awaitMagic0 ∧ s'.notes = s.notes ++ [.packet p] ∧
      s'.device.stagedResponseByte = 0x81 ∧
      s'.device.responseQueue = [s'.device.status.toByte] := by
  obtain ⟨s₁, d₁, hstep₁, h₁, hconsume₁, hstate₁, hdata₁, hnotes₁, -⟩ :=
    h.step_byte p.checksum.low
  have hconsume : ({ s.device with packetTimeoutTCycles := 0 } : PrinterDevice).consumeByte
      p.checksum.low = some { s.device with
        packetTimeoutTCycles := 0
        parserState := .awaitChecksumHi p.command p.compressionFlag p.data.length
          p.checksum.low } := by
    unfold PrinterDevice.consumeByte
    simp only [hat.state]
  obtain rfl := Option.some.inj (hconsume.symm.trans hconsume₁)
  have hnone : s.device.noteOf (.byte p.checksum.low) = none := by
    unfold PrinterDevice.noteOf
    simp only [hat.state]
  have hnote : s₁.device.noteOf (.byte p.checksum.high) = some (.packet p) := by
    unfold PrinterDevice.noteOf
    have hdrop : s₁.device.packetData.drop 4 = p.data := by
      rw [hdata₁]
      show s.device.packetData.drop 4 = p.data
      rw [hat.data]
      rfl
    simp only [hstate₁, hdrop, U16.ofBytes_high_low]
  obtain ⟨d, hreceive, -, -, -, -, hreplies⟩ :=
    PrinterDevice.receiveSerialByte_spec h₁.coherent h₁.sound p.checksum.high
  obtain ⟨hmagic, hstaged, hqueue⟩ := hreplies (by rw [hnote]; exact nofun)
  obtain ⟨s₂, hstep₂, h₂, hnotes₂⟩ := h₁.step (.byte p.checksum.high)
  have hdevice : s₂.device = d := by
    rw [PrinterSession.step, hreceive] at hstep₂
    cases hstep₂
    rfl
  refine ⟨s₂, ?_, h₂, hdevice ▸ hmagic, ?_, hdevice ▸ hstaged, hdevice ▸ hqueue⟩
  · show s.run [.byte p.checksum.low, .byte p.checksum.high] = some s₂
    rw [run_cons, hstep₁, Option.bind_some, run_single, hstep₂]
  · rw [hnotes₂, hnote, hnotes₁, hnone, Option.toList_none, List.append_nil]
    rfl

/-- The bytes of a packet are recognised as the packet. -/
theorem Faithful.run_packet (h : s.Faithful) (hseeking : s.device.Seeking) {p : PrinterPacket}
    (hword : p.data.length < 2 ^ 16) :
    ∃ s', s.run (byteEvents p.bytes) = some s' ∧ s'.Faithful ∧
      s'.device.parserState = .awaitMagic0 ∧ s'.notes = s.notes ++ [.packet p] ∧
      s'.device.stagedResponseByte = 0x81 ∧
      s'.device.responseQueue = [s'.device.status.toByte] := by
  obtain ⟨s₁, hmagic, h₁, hat₁, hnotes₁⟩ := h.run_magic hseeking
  obtain ⟨s₂, hheader, h₂, hat₂, hnotes₂⟩ :=
    h₁.run_header p.command p.compressionFlag hword hat₁
  have hbody : ∃ s₃, s₂.run (byteEvents p.data) = some s₃ ∧ s₃.Faithful ∧
      s₃.At (.awaitChecksumLo p.command p.compressionFlag p.data.length) (p.header ++ p.data) ∧
      s₃.notes = s₂.notes := by
    by_cases hempty : p.data = []
    · rw [if_pos (List.length_eq_zero_iff.mpr hempty)] at hat₂
      refine ⟨s₂, by rw [hempty]; rfl, h₂, ⟨hat₂.state, ?_⟩, rfl⟩
      rw [hat₂.data, hempty, List.append_nil]
      rw [PrinterPacket.header, hempty]
    · have hpos : p.data.length ≠ 0 := fun h => hempty (List.eq_nil_of_length_eq_zero h)
      rw [if_neg hpos] at hat₂
      exact h₂.run_data hempty (Nat.zero_add _) hword hat₂
  obtain ⟨s₃, hdata, h₃, hat₃, hnotes₃⟩ := hbody
  obtain ⟨s₄, hchecksum, h₄, hstate₄, hnotes₄, hreplies⟩ := h₃.run_checksum hat₃
  refine ⟨s₄, ?_, h₄, hstate₄, by rw [hnotes₄, hnotes₃, hnotes₂, hnotes₁], hreplies⟩
  have hsplit : byteEvents p.bytes = byteEvents [printerMagic0, printerMagic1] ++
      (byteEvents p.header ++ (byteEvents p.data ++
        byteEvents [p.checksum.low, p.checksum.high])) := by
    unfold PrinterPacket.bytes byteEvents
    simp only [List.map_append, List.append_assoc]
  rw [hsplit, run_append, hmagic, Option.bind_some, run_append]
  rw [show s₁.run (byteEvents p.header) = some s₂ from hheader, Option.bind_some, run_append,
    hdata, Option.bind_some, hchecksum]

end PrinterSession

/-! ## Packets with noise between them -/

/-- A packet as it is sent: after noise, each byte after a gap below the timeout. -/
structure PrinterSegment where
  packet : PrinterPacket
  noise : List (Nat × U8)
  sent : List (Nat × U8)
  word : packet.data.length < 2 ^ 16
  quiet : Noise (noise.map Prod.snd)
  bytes : sent.map Prod.snd = packet.bytes
  prompt : ∀ x ∈ noise ++ sent, x.1 < printerPacketTimeoutTCycles

def PrinterSegment.events (g : PrinterSegment) : List PrinterEvent :=
  timedEvents (g.noise ++ g.sent)

namespace PrinterSession

variable {s : PrinterSession}

theorem Faithful.run_segment (h : s.Faithful) (hidle : s.device.parserState = .awaitMagic0)
    (g : PrinterSegment) :
    ∃ s', s.run g.events = some s' ∧ s'.Faithful ∧ s'.device.parserState = .awaitMagic0 ∧
      s'.notes = s.notes ++ [.packet g.packet] ∧ s'.device.stagedResponseByte = 0x81 ∧
      s'.device.responseQueue = [s'.device.status.toByte] := by
  have htimer : s.device.packetTimeoutTCycles = 0 := h.coherent.timer hidle
  have hquiet : Noise (pendingMagic s.device.parserState ++ g.noise.map Prod.snd) := by
    rw [show pendingMagic s.device.parserState = [] from if_neg (by rw [hidle]; exact nofun)]
    exact g.quiet
  obtain ⟨s₁, hnoise, h₁, hseeking₁, hnotes₁, -⟩ := h.run_noise htimer (.inl hidle) hquiet
  obtain ⟨s₂, hpacket, h₂, hidle₂, hnotes₂, hreplies⟩ := h₁.run_packet hseeking₁ g.word
  refine ⟨s₂, ?_, h₂, hidle₂, by rw [hnotes₂, hnotes₁], hreplies⟩
  have hbytes : byteEvents ((g.noise ++ g.sent).map Prod.snd) =
      byteEvents (g.noise.map Prod.snd) ++ byteEvents g.packet.bytes := by
    rw [List.map_append, g.bytes]
    exact List.map_append
  rw [PrinterSegment.events, h.run_timed htimer g.prompt, hbytes, run_append, hnoise,
    Option.bind_some, hpacket]

/-- The packets of the segments are recognised, each once and nothing else. -/
theorem Faithful.run_segments (h : s.Faithful) (hidle : s.device.parserState = .awaitMagic0)
    (segments : List PrinterSegment) :
    ∃ s', s.run (segments.flatMap PrinterSegment.events) = some s' ∧ s'.Faithful ∧
      s'.device.parserState = .awaitMagic0 ∧
      s'.notes = s.notes ++ segments.map (.packet ·.packet) := by
  induction segments generalizing s with
  | nil => exact ⟨s, rfl, h, hidle, (List.append_nil _).symm⟩
  | cons g segments ih =>
      obtain ⟨s₁, hsegment, h₁, hidle₁, hnotes₁, -⟩ := h.run_segment hidle g
      obtain ⟨s', hrun, h', hidle', hnotes'⟩ := ih h₁ hidle₁
      refine ⟨s', ?_, h', hidle', ?_⟩
      · rw [List.flatMap_cons, run_append, hsegment]
        exact hrun
      · rw [hnotes', hnotes₁, List.append_assoc]
        rfl

theorem Faithful.step_reply (h : s.Faithful) {byte : U8} (hstep : s.step (.byte byte) = some s')
    (hnone : s.device.noteOf (.byte byte) = none) :
    s'.replies = s.replies ++ [s.device.stagedResponseByte] ∧
      s'.device.stagedResponseByte = s.device.responseQueue.headD 0 := by
  obtain ⟨d, hreceive, -, -, -, hquiet, -⟩ :=
    PrinterDevice.receiveSerialByte_spec h.coherent h.sound byte
  rw [PrinterSession.step, hreceive] at hstep
  cases hstep
  exact ⟨rfl, (hquiet hnone).1⟩

/-- The two bytes that follow a packet are answered with the alive byte and the status. -/
theorem Faithful.run_replies (h : s.Faithful) (hidle : s.device.parserState = .awaitMagic0)
    (hstaged : s.device.stagedResponseByte = 0x81)
    (hqueue : s.device.responseQueue = [s.device.status.toByte]) {x y : Nat × U8}
    (hx : x.1 < printerPacketTimeoutTCycles) (hy : y.1 < printerPacketTimeoutTCycles) :
    ∃ s', s.run (timedEvents [x, y]) = some s' ∧
      s'.replies = s.replies ++ [0x81, s.device.status.toByte] := by
  have hprompt : ∀ z ∈ [x, y], z.1 < printerPacketTimeoutTCycles := by
    intro z hz
    rcases List.mem_pair.mp hz with rfl | rfl
    · exact hx
    · exact hy
  obtain ⟨s₁, hstep₁, h₁, -⟩ := h.step (.byte x.2)
  obtain ⟨s₂, hstep₂, -⟩ := h₁.step (.byte y.2)
  obtain ⟨hreplies₁, hstaged₁⟩ :=
    h.step_reply hstep₁ (consumeByte_seeking (.inl hidle) x.2).1
  have hreplies₂ : s₂.replies = s₁.replies ++ [s₁.device.stagedResponseByte] := by
    rw [PrinterSession.step] at hstep₂
    obtain ⟨d, -, rfl⟩ := Option.map_eq_some_iff.mp hstep₂
    rfl
  refine ⟨s₂, ?_, ?_⟩
  · rw [h.run_timed (h.coherent.timer hidle) hprompt]
    show s.run [.byte x.2, .byte y.2] = some s₂
    rw [run_cons, hstep₁, Option.bind_some, run_single, hstep₂]
  · rw [hreplies₂, hreplies₁, hstaged₁, hstaged, hqueue, List.append_assoc]
    rfl

end PrinterSession

/-! ## End to end -/

/-- A packet after a byte of noise, with a short gap before each of its bytes. -/
def segmentAfterNoise (packet : PrinterPacket) (word : packet.data.length < 2 ^ 16) :
    PrinterSegment where
  packet := packet
  noise := [(3, 0x88)]
  sent := packet.bytes.map (7, ·)
  word := word
  quiet := by
    unfold Noise
    decide
  bytes := by
    rw [List.map_map]
    exact List.map_id _
  prompt := by
    intro x hx
    rcases List.mem_append.mp hx with hnoise | hsent
    · rw [List.mem_singleton.mp hnoise]
      decide
    · obtain ⟨byte, -, rfl⟩ := List.mem_map.mp hsent
      show 7 < printerPacketTimeoutTCycles
      decide

/-- One tile, whose first row is set. -/
def tilePacket : PrinterPacket :=
  { command := 0x04, compressionFlag := 0, data := [0xFF] ++ List.replicate 15 0
    checksum := 0x113 }

def endOfDataPacket : PrinterPacket :=
  { command := 0x04, compressionFlag := 0, data := [], checksum := 0x04 }

def printPacket : PrinterPacket :=
  { command := 0x02, compressionFlag := 0, data := [1, 0x13, 0xE4, 0x40], checksum := 0x13E }

def pageSegments : List PrinterSegment :=
  [segmentAfterNoise tilePacket (by decide), segmentAfterNoise endOfDataPacket (by decide),
    segmentAfterNoise printPacket (by decide)]

/-- In every session, with any bytes at any times, the printer never panics; its image is the
data that it accepted since the last reset, as far as it fits; a page is printed by an accepted
print packet that asks for a sheet and finds the image armed, and by nothing else; a packet with
a wrong checksum leaves the image and the pages alone.  Packets that are sent with noise between
them are recognised, each once, and answered with the alive byte and the status. -/
theorem printer_endToEnd :
    (∀ es, ∃ s, PrinterSession.new.run es = some s ∧
      s.device.imageBuffer = (imageOf s.notes).take printerImageBufferCapacityBytes ∧
      ∀ e, ∃ s', s.step e = some s' ∧ s'.notes = s.notes ++ (s.device.noteOf e).toList ∧
        s'.taken ++ s'.device.printedPages = s.taken ++ s.device.printedPages ++
          (s.device.noteOf e).toList.flatMap (pageOfNote s.notes) ∧
        ∀ p, s.device.noteOf e = some (.packet p) → p.checksum ≠ p.sum →
          s'.device.imageBuffer = s.device.imageBuffer ∧
          s'.taken ++ s'.device.printedPages = s.taken ++ s.device.printedPages) ∧
    ∀ es s, PrinterSession.new.run es = some s → s.device.parserState = .awaitMagic0 →
      ∀ segments g, ∃ s', s.run ((segments ++ [g]).flatMap PrinterSegment.events) = some s' ∧
        s'.device.parserState = .awaitMagic0 ∧
        s'.notes = s.notes ++ (segments ++ [g]).map (.packet ·.packet) ∧
        ∀ x y : Nat × U8, x.1 < printerPacketTimeoutTCycles → y.1 < printerPacketTimeoutTCycles →
          ∃ s'', s'.run (timedEvents [x, y]) = some s'' ∧
            s''.replies = s'.replies ++ [0x81, s'.device.status.toByte] := by
  refine ⟨fun es => ?_, fun es s hrun hidle segments g => ?_⟩
  · obtain ⟨s, hrun, hs⟩ := PrinterSession.faithful_new.run es
    refine ⟨s, hrun, ?_, fun e => ?_⟩
    · rw [← ofNotes_image, ← hs.job]
      rfl
    · obtain ⟨s', hstep, hs', hnotes⟩ := hs.step e
      have hjob : s'.device.job s'.taken =
          (s.device.noteOf e).elim (s.device.job s.taken) (s.device.job s.taken).note := by
        rw [hs'.job, hnotes, ← PrinterSession.ofNotes_elim, hs.job]
      refine ⟨s', hstep, hnotes, ?_, fun p hp hwrong => ?_⟩
      · show (s'.device.job s'.taken).pages = (s.device.job s.taken).pages ++ _
        rw [hs'.job, hs.job, hnotes]
        cases s.device.noteOf e with
        | none => rw [Option.toList_none, List.append_nil, List.flatMap_nil, List.append_nil]
        | some n => rw [Option.toList_some, ofNotes_pages_concat, List.flatMap_singleton]
      · have hrejected : p.accepted = none := if_neg hwrong
        have hsame : (s.device.job s.taken).note (.packet p) = s.device.job s.taken := by
          unfold PrinterJob.note
          simp only [hrejected]
        rw [hp, Option.elim_some, hsame] at hjob
        exact ⟨congrArg PrinterJob.image hjob, congrArg PrinterJob.pages hjob⟩
  · obtain ⟨s₀, hrun₀, hs⟩ := PrinterSession.faithful_new.run es
    obtain rfl := Option.some.inj (hrun₀.symm.trans hrun)
    obtain ⟨s₁, hsegments, h₁, hidle₁, hnotes₁⟩ := hs.run_segments hidle segments
    obtain ⟨s₂, hsegment, h₂, hidle₂, hnotes₂, hstaged, hqueue⟩ := h₁.run_segment hidle₁ g
    refine ⟨s₂, ?_, hidle₂, ?_, fun x y hx hy => ?_⟩
    · rw [List.flatMap_append, List.flatMap_singleton, PrinterSession.run_append, hsegments]
      exact hsegment
    · rw [hnotes₂, hnotes₁, List.map_append, List.append_assoc]
      rfl
    · exact h₂.run_replies hidle₂ hstaged hqueue hx hy

theorem printer_endToEnd_page :
    ∃ s', PrinterSession.new.run (pageSegments.flatMap PrinterSegment.events) = some s' ∧
      s'.notes = pageSegments.map (.packet ·.packet) ∧
      s'.device.imageBuffer = (imageOf s'.notes).take printerImageBufferCapacityBytes ∧
      (s'.taken ++ s'.device.printedPages).map (fun page => (page.height, page.pixels.take 10)) =
        [(8, [1, 1, 1, 1, 1, 1, 1, 1, 0, 0])] := by
  have hpages : (PrinterSession.new.run (pageSegments.flatMap PrinterSegment.events)).map
      (fun s => (s.taken ++ s.device.printedPages).map fun page =>
        (page.height, page.pixels.take 10)) = some [(8, [1, 1, 1, 1, 1, 1, 1, 1, 0, 0])] := by
    decide +kernel
  obtain ⟨s', hrun, hpages⟩ := Option.map_eq_some_iff.mp hpages
  obtain ⟨s₁, hrun₁, himage, -⟩ := printer_endToEnd.1 (pageSegments.flatMap PrinterSegment.events)
  obtain ⟨s₂, hrun₂, -, hnotes, -⟩ := printer_endToEnd.2 [] PrinterSession.new rfl rfl
    [segmentAfterNoise tilePacket (by decide), segmentAfterNoise endOfDataPacket (by decide)]
    (segmentAfterNoise printPacket (by decide))
  obtain rfl := Option.some.inj (hrun₁.symm.trans hrun)
  obtain rfl := Option.some.inj (hrun₂.symm.trans hrun)
  exact ⟨s₂, hrun, hnotes, himage, hpages⟩

/-- Two print packets that follow an empty data packet and print no page: the first finds no
image, the second asks for no sheet. -/
theorem printer_endToEnd_noPage :
    let emptyData : PrinterPacket :=
      { command := 0x04, compressionFlag := 0, data := [], checksum := 0x04 }
    let tile : PrinterPacket :=
      { command := 0x04, compressionFlag := 0, data := List.replicate 16 0, checksum := 0x14 }
    let printSheet : PrinterPacket :=
      { command := 0x02, compressionFlag := 0, data := [1, 0, 0, 0], checksum := 0x07 }
    let printNone : PrinterPacket :=
      { command := 0x02, compressionFlag := 0, data := [0, 0, 0, 0], checksum := 0x06 }
    (emptyData.accepted = some (.data, []) ∧ printSheet.accepted = some (.print, [1, 0, 0, 0]) ∧
      (PrinterSession.new.run (byteEvents (emptyData.bytes ++ printSheet.bytes))).map
        (fun s => (s.notes, s.taken ++ s.device.printedPages)) =
          some ([.packet emptyData, .packet printSheet], [])) ∧
    printNone.accepted = some (.print, [0, 0, 0, 0]) ∧
      (PrinterSession.new.run
        (byteEvents (tile.bytes ++ emptyData.bytes ++ printNone.bytes))).map
        (fun s => (s.notes, s.taken ++ s.device.printedPages)) =
          some ([.packet tile, .packet emptyData, .packet printNone], []) := by
  refine ⟨⟨by decide, by decide, ?_⟩, by decide, ?_⟩
  · rfl
  · rfl

end Printer

end GbCycle
