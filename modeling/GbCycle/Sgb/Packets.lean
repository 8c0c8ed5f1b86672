import GbCycle.Sgb.Reception
import GbCycle.Sgb.Run

/-!
# From writes to packets

The transport with its registers does what the receiver of `Reception` does: its phase, its
pending bit and the packet it fills represent what the receiver has.  So the writes that
complete a packet are the ones that close the pulses of that packet.
-/

namespace GbCycle

/-! ## Filling a packet -/

theorem packetBits_zero : packetBits .zero = List.replicate sgbPacketBits false := by
  refine List.ext_getElem (by simp [sgbPacketBits]) fun k hk _ => ?_
  rw [length_packetBits] at hk
  have hbyte : k / 8 < sgbPacketBytes := by
    simp only [sgbPacketBytes]
    omega
  simp [packetBits, SgbPacket.zero, hbyte]

/-- Setting a bit of the packet sets that bit of the sequence. -/
theorem packetBits_setPacketBit (packet : SgbPacket) {k : Nat} (hk : k < sgbPacketBits) :
    packetBits (SgbHost.setPacketBit packet k) = (packetBits packet).set k true := by
  refine List.ext_getElem (by simp) fun n hn _ => ?_
  rw [length_packetBits] at hn
  have hbits : sgbPacketBits = 128 := rfl
  have hbyteK : k / 8 < sgbPacketBytes := by
    simp only [sgbPacketBytes]
    omega
  have hbyteN : n / 8 < sgbPacketBytes := by
    simp only [sgbPacketBytes]
    omega
  rw [List.getElem_set]
  simp only [packetBits, List.getElem_map, List.getElem_range, SgbHost.setPacketBit]
  rw [Vector.getElem?_setIfInBounds]
  by_cases hsameByte : k / 8 = n / 8
  · rw [if_pos hsameByte, if_pos (hsameByte ▸ hbyteK), Option.getD_some, BitVec.getLsbD_or,
      BitVec.getLsbD_twoPow, hsameByte]
    have hmod : n % 8 < 8 := Nat.mod_lt _ (by omega)
    by_cases hsame : k = n
    · subst hsame
      simp [hmod]
    · have hother : ¬ k % 8 = n % 8 := by omega
      simp [hsame, hother]
  · have hne : k ≠ n := fun h => hsameByte (by rw [h])
    rw [if_neg hsameByte, if_neg hne]

/-- The bits received so far, the rest of the packet still zero. -/
def PacketHolds (bits : List Bool) (packet : SgbPacket) : Prop :=
  bits.length ≤ sgbPacketBits ∧
    packetBits packet = bits ++ List.replicate (sgbPacketBits - bits.length) false

theorem packetHolds_nil : PacketHolds [] .zero :=
  ⟨Nat.zero_le _, packetBits_zero⟩

/-- The wire value of a bit. -/
def bitValue (bit : Bool) : U8 := if bit then 1 else 0

theorem packetHolds_append {bits : List Bool} {packet : SgbPacket} (h : PacketHolds bits packet)
    (hless : bits.length < sgbPacketBits) (bit : Bool) :
    PacketHolds (bits ++ [bit])
      (if bitValue bit ≠ 0 then SgbHost.setPacketBit packet bits.length else packet) := by
  have hrest : sgbPacketBits - bits.length = sgbPacketBits - (bits ++ [bit]).length + 1 := by
    rw [List.length_append, List.length_singleton]
    omega
  refine ⟨by rw [List.length_append, List.length_singleton]; omega, ?_⟩
  cases bit with
  | false =>
      rw [if_neg (by decide), h.2, hrest, List.replicate_succ, List.append_assoc]
      rfl
  | true =>
      rw [if_pos (by decide), packetBits_setPacketBit packet hless, h.2, hrest,
        List.set_append_right _ _ (le_refl _), Nat.sub_self, List.replicate_succ,
        List.set_cons_zero, List.append_assoc]
      rfl

namespace SgbHost

variable {ρ : Type} [SgbHostDevices ρ]

/-! ## One write -/

/-- The packet that a write hands to the command decoder. -/
def completedPacket (value : U8) (host : SgbHost ρ) : Option SgbPacket :=
  if host.hostPlatform.isSgb ∧ SgbJoypLineState.fromJoypValue value = .idle ∧
      host.packetTransport.phase = .dataPending ∧
      host.packetTransport.pendingDataBit.isSome ∧
      ¬ host.packetTransport.packetBitsBuffered < sgbPacketBits then
    some host.packetTransport.currentPacket
  else none

/-- What the transport changes on its own: its state and the count of invalid packets. -/
def OnlyTransport (host host' : SgbHost ρ) : Prop :=
  ∃ packetTransport invalidPacketCount,
    host' = { host with
      packetTransport
      command := { host.command with invalidPacketCount } }

/-- The host once the controllers have seen a write. -/
def writeSeen (value : U8) (host : SgbHost ρ) : SgbHost ρ :=
  { host with
    devices := SgbHostDevices.observeJoypWrite host.packetTransport.lastJoypLineState value
      host.devices }

omit [SgbHostDevices ρ] in
theorem onlyTransport_dataCandidate (bit : U8) (host : SgbHost ρ) :
    OnlyTransport host (observeJoypDataCandidate bit host) := by
  unfold observeJoypDataCandidate
  split
  · exact ⟨_, host.command.invalidPacketCount, rfl⟩
  · exact ⟨_, host.command.invalidPacketCount, rfl⟩
  · exact ⟨_, _, rfl⟩
  · exact ⟨_, _, rfl⟩

omit [SgbHostDevices ρ] in
theorem onlyTransport_start (host : SgbHost ρ) : OnlyTransport host (observeJoypStart host) := by
  have hbegin : ∀ reset, OnlyTransport host (beginPacketStartPulse reset host) := by
    intro reset
    unfold beginPacketStartPulse
    dsimp only
    split
    · exact ⟨_, _, rfl⟩
    · exact ⟨_, host.command.invalidPacketCount, rfl⟩
  unfold observeJoypStart
  split
  · exact ⟨host.packetTransport, host.command.invalidPacketCount, rfl⟩
  · exact hbegin false
  · exact hbegin true
  · exact hbegin true

/-- An idle level either changes the transport alone or, when it closes the stop pulse, hands
the packet to the command decoder. -/
theorem observeJoypIdle_cases (host : SgbHost ρ) :
    (¬ (host.packetTransport.phase = .dataPending ∧ host.packetTransport.pendingDataBit.isSome ∧
        ¬ host.packetTransport.packetBitsBuffered < sgbPacketBits) ∧
      OnlyTransport host (observeJoypIdle host)) ∨
    ((host.packetTransport.phase = .dataPending ∧ host.packetTransport.pendingDataBit.isSome ∧
        ¬ host.packetTransport.packetBitsBuffered < sgbPacketBits) ∧
      ∃ host', OnlyTransport host host' ∧ host'.packetTransport.phase = .idle ∧
        observeJoypIdle host = decodeCompletePacket host.packetTransport.currentPacket host') := by
  have hquiet : OnlyTransport host host :=
    ⟨host.packetTransport, host.command.invalidPacketCount, rfl⟩
  unfold observeJoypIdle
  cases hphase : host.packetTransport.phase with
  | idle => exact .inl ⟨by simp, hquiet⟩
  | receiving => exact .inl ⟨by simp, hquiet⟩
  | startPending =>
      exact .inl ⟨by simp, _, host.command.invalidPacketCount, rfl⟩
  | dataPending =>
      cases hbit : host.packetTransport.pendingDataBit with
      | none => exact .inl ⟨by simp, hquiet⟩
      | some bit =>
          dsimp only
          unfold confirmPacketDataBit
          dsimp only
          by_cases hless : host.packetTransport.packetBitsBuffered < sgbPacketBits
          · rw [if_pos hless]
            exact .inl ⟨by simp [hless], _, host.command.invalidPacketCount, rfl⟩
          · rw [if_neg hless]
            refine .inr ⟨⟨rfl, rfl, hless⟩, ?_⟩
            split
            · refine ⟨_, ?_, ?_, rfl⟩
              · exact ⟨_, _, rfl⟩
              · rfl
            · refine ⟨_, ?_, ?_, rfl⟩
              · exact ⟨_, host.command.invalidPacketCount, rfl⟩
              · rfl

/-- A write that completes no packet leaves completed packets and commands untouched. -/
theorem observeJoypWrite_of_completedPacket_none {value : U8} {host : SgbHost ρ}
    (hsgb : host.hostPlatform.isSgb) (h : completedPacket value host = none) :
    OnlyTransport (writeSeen value host) (observeJoypWrite value host) := by
  unfold observeJoypWrite
  rw [if_neg (by simp [hsgb])]
  have hline := SgbJoypLineState.fromJoypValue_ne_invalid value
  cases hvalue : SgbJoypLineState.fromJoypValue value with
  | invalid => contradiction
  | idle =>
      obtain ⟨-, transport, invalid, hidle⟩ | ⟨hcomplete, -⟩ :=
        observeJoypIdle_cases (writeSeen value host)
      · rw [writeSeen] at hidle
        dsimp only
        rw [hidle]
        exact ⟨_, _, rfl⟩
      · have hsome : completedPacket value host = some host.packetTransport.currentPacket :=
          if_pos ⟨hsgb, hvalue, hcomplete⟩
        rw [h] at hsome
        contradiction
  | start =>
      dsimp only
      split
      · exact ⟨_, host.command.invalidPacketCount, rfl⟩
      · obtain ⟨transport, invalid, hstart⟩ := onlyTransport_start (writeSeen value host)
        rw [writeSeen] at hstart
        rw [hstart]
        exact ⟨_, _, rfl⟩
  | zero =>
      obtain ⟨transport, invalid, hdata⟩ := onlyTransport_dataCandidate 0 (writeSeen value host)
      rw [writeSeen] at hdata
      simp only [SgbJoypLineState.dataBit, Option.getD_some, hdata]
      exact ⟨_, _, rfl⟩
  | one =>
      obtain ⟨transport, invalid, hdata⟩ := onlyTransport_dataCandidate 1 (writeSeen value host)
      rw [writeSeen] at hdata
      simp only [SgbJoypLineState.dataBit, Option.getD_some, hdata]
      exact ⟨_, _, rfl⟩

/-- A write that completes a packet decodes it, on a host that is otherwise unchanged. -/
theorem observeJoypWrite_of_completedPacket {value : U8} {host : SgbHost ρ} {packet : SgbPacket}
    (h : completedPacket value host = some packet) :
    ∃ host', OnlyTransport (writeSeen value host) host' ∧ host'.packetTransport.phase = .idle ∧
      observeJoypWrite value host =
        { decodeCompletePacket packet host' with
          packetTransport :=
            { (decodeCompletePacket packet host').packetTransport with
              lastJoypLineState := .idle } } := by
  unfold completedPacket at h
  split at h
  · next hcomplete =>
      obtain ⟨hsgb, hvalue, hcomplete⟩ := hcomplete
      have hpacket : host.packetTransport.currentPacket = packet := Option.some.inj h
      obtain ⟨hnot, -⟩ | ⟨-, host', honly, hphase, hidle⟩ :=
        observeJoypIdle_cases (writeSeen value host)
      · exact absurd hcomplete hnot
      · rw [writeSeen] at hidle
        dsimp only at hidle
        rw [hpacket] at hidle
        unfold observeJoypWrite
        rw [if_neg (by simp [hsgb]), hvalue]
        dsimp only
        rw [hidle]
        exact ⟨host', honly, hphase, rfl⟩
  · contradiction

end SgbHost

/-! ## The receiver behind the transport -/

/-- The registers hold what the receiver has. -/
def Held : Reception → SgbPacketTransportState → Prop
  | .idle, t => t.phase = .idle
  | .startPending, t => t.phase = .startPending ∧ t.packetBitsBuffered = 0 ∧
      t.currentPacket = .zero
  | .receiving bits, t => t.phase = .receiving ∧ t.packetBitsBuffered = bits.length ∧
      PacketHolds bits t.currentPacket
  | .dataPending bits bit, t => t.phase = .dataPending ∧ t.pendingDataBit = some (bitValue bit) ∧
      t.packetBitsBuffered = bits.length ∧ PacketHolds bits t.currentPacket

/-- The transport represents the receiver; while the reset level is held, the start of a packet
is pending. -/
structure Represents (r : Reception) (t : SgbPacketTransportState) : Prop where
  start : t.lastJoypLineState = .start → r = .startPending
  held : Held r t

namespace SgbHost

variable {ρ : Type} [SgbHostDevices ρ]

omit [SgbHostDevices ρ] in
theorem held_data {r : Reception} {host : SgbHost ρ} (h : Held r host.packetTransport)
    (bit : Bool) :
    Held (r.data bit) (observeJoypDataCandidate (bitValue bit) host).packetTransport := by
  unfold observeJoypDataCandidate
  cases r with
  | idle =>
      rw [show host.packetTransport.phase = .idle from h]
      exact h
  | startPending =>
      obtain ⟨hphase, -, -⟩ := h
      rw [hphase]
      rfl
  | receiving bits =>
      obtain ⟨hphase, hlength, hholds⟩ := h
      rw [hphase]
      exact ⟨rfl, rfl, hlength, hholds⟩
  | dataPending bits last =>
      obtain ⟨hphase, -, hlength, hholds⟩ := h
      rw [hphase]
      exact ⟨rfl, rfl, hlength, hholds⟩

omit [SgbHostDevices ρ] in
theorem held_start {r : Reception} {host : SgbHost ρ} (h : Held r host.packetTransport) :
    Held .startPending (observeJoypStart host).packetTransport := by
  have hbegin : ∀ reset, Held .startPending (beginPacketStartPulse reset host).packetTransport := by
    intro reset
    exact ⟨rfl, rfl, rfl⟩
  unfold observeJoypStart
  cases r with
  | idle =>
      rw [show host.packetTransport.phase = .idle from h]
      exact hbegin false
  | startPending =>
      rw [h.1]
      exact h
  | receiving bits =>
      rw [h.1]
      exact hbegin true
  | dataPending bits bit =>
      rw [h.1]
      exact hbegin true

theorem held_idle {r : Reception} {host : SgbHost ρ} (h : Held r host.packetTransport) :
    Held (r.next .idle) (observeJoypIdle host).packetTransport := by
  cases r with
  | idle =>
      unfold observeJoypIdle
      rw [show host.packetTransport.phase = .idle from h]
      exact h
  | startPending =>
      obtain ⟨hphase, hlength, hzero⟩ := h
      unfold observeJoypIdle
      rw [hphase]
      refine ⟨rfl, hlength, ?_⟩
      rw [confirmPacketStart, hzero]
      exact packetHolds_nil
  | receiving bits =>
      unfold observeJoypIdle
      rw [h.1]
      exact h
  | dataPending bits bit =>
      obtain ⟨hphase, hbit, hlength, hholds⟩ := h
      by_cases hless : bits.length < sgbPacketBits
      · simp only [Reception.next, if_pos hless]
        simp only [observeJoypIdle, hphase, hbit, confirmPacketDataBit, hlength, if_pos hless]
        refine ⟨rfl, by simp, ?_⟩
        exact packetHolds_append hholds hless bit
      · simp only [Reception.next, if_neg hless]
        obtain ⟨hnot, -⟩ | ⟨-, host', -, hidle, hdecode⟩ := observeJoypIdle_cases host
        · refine absurd ⟨hphase, ?_, ?_⟩ hnot
          · rw [hbit]
            rfl
          · rw [hlength]
            exact hless
        · obtain ⟨lastTrace, htransport, -, -⟩ :=
            decodeCompletePacket_frame host.packetTransport.currentPacket host'
          rw [hdecode, htransport]
          exact hidle

/-- The receiver takes each write as the transport does. -/
theorem represents_observeJoypWrite {r : Reception} {host : SgbHost ρ}
    (hsgb : host.hostPlatform.isSgb) (h : Represents r host.packetTransport) (value : U8) :
    Represents (r.next (.fromJoypValue value)) (observeJoypWrite value host).packetTransport := by
  have hheld : Held r (writeSeen value host).packetTransport := h.held
  unfold observeJoypWrite
  rw [if_neg (by simp [hsgb])]
  have hline := SgbJoypLineState.fromJoypValue_ne_invalid value
  -- the line state that is remembered last is none of the receiver's business
  have hlast : ∀ (r : Reception) (t : SgbPacketTransportState) (line : SgbJoypLineState),
      Held r t → Held r { t with lastJoypLineState := line } := by
    intro r t line hr
    cases r <;> exact hr
  cases hvalue : SgbJoypLineState.fromJoypValue value with
  | invalid => contradiction
  | idle => exact ⟨nofun, hlast _ _ _ (held_idle hheld)⟩
  | start =>
      refine ⟨fun _ => rfl, hlast _ _ _ ?_⟩
      dsimp only
      split
      · next hstart =>
          have hpending := h.start hstart
          subst hpending
          exact hheld
      · exact held_start hheld
  | zero => exact ⟨nofun, hlast _ _ _ (held_data hheld false)⟩
  | one => exact ⟨nofun, hlast _ _ _ (held_data hheld true)⟩

omit [SgbHostDevices ρ] in
/-- A write completes the packet that the receiver completes. -/
theorem completedPacket_eq {r : Reception} {host : SgbHost ρ} (hsgb : host.hostPlatform.isSgb)
    (h : Represents r host.packetTransport) (value : U8) :
    (completedPacket value host).map packetBits = r.completes (.fromJoypValue value) := by
  have hheld := h.held
  unfold completedPacket
  by_cases hidle : SgbJoypLineState.fromJoypValue value = .idle
  · rw [hidle]
    cases r with
    | idle =>
        rw [if_neg (by rintro ⟨-, -, hphase, -⟩; rw [hheld] at hphase; contradiction)]
        rfl
    | startPending =>
        rw [if_neg (by rintro ⟨-, -, hphase, -⟩; rw [hheld.1] at hphase; contradiction)]
        rfl
    | receiving bits =>
        rw [if_neg (by rintro ⟨-, -, hphase, -⟩; rw [hheld.1] at hphase; contradiction)]
        rfl
    | dataPending bits bit =>
        obtain ⟨hphase, hbit, hlength, hfew, hholds⟩ := hheld
        simp only [Reception.completes]
        by_cases hless : bits.length < sgbPacketBits
        · rw [if_neg (by rintro ⟨-, -, -, -, hfull⟩; exact hfull (hlength ▸ hless)), if_pos hless]
          rfl
        · have hfull : sgbPacketBits - bits.length = 0 := by omega
          rw [hfull, List.replicate_zero, List.append_nil] at hholds
          rw [if_pos ⟨hsgb, trivial, hphase, by rw [hbit]; rfl, hlength ▸ hless⟩, if_neg hless,
            Option.map_some, hholds]
  · rw [if_neg (by rintro ⟨-, hvalue, -⟩; exact hidle hvalue)]
    have hother : ∀ line, line ≠ .idle → r.completes line = none := by
      intro line hline
      cases line with
      | idle => contradiction
      | start => rfl
      | zero => rfl
      | one => rfl
      | invalid => rfl
    rw [hother _ hidle]
    rfl

end SgbHost

/-! ## Runs -/

/-- The line states since the transport was last reset, the newest last. -/
def joypHistory {ρ : Type} (events : List (SgbHostEvent ρ)) : List SgbJoypLineState :=
  events.foldl (fun lines event =>
    match event with
    | .joypWrite value => lines ++ [.fromJoypValue value]
    | .realBootHandoff => []
    | .frameStart _ | .cartridgeHeader _ | .devices _ => lines) []

theorem joypHistory_cartridgeHeader {ρ : Type} (header : Option SgbHeaderFields)
    (events : List (SgbHostEvent ρ)) :
    joypHistory (.cartridgeHeader header :: events) = joypHistory events := rfl

theorem invalid_notMem_joypHistory {ρ : Type} (events : List (SgbHostEvent ρ)) :
    SgbJoypLineState.invalid ∉ joypHistory events := by
  induction events using List.reverseRecOn with
  | nil => exact List.not_mem_nil
  | append_singleton events event ih =>
      rw [joypHistory, List.foldl_append, List.foldl_cons, List.foldl_nil]
      cases event with
      | joypWrite value =>
          intro hmem
          rcases List.mem_append.mp hmem with hold | hnew
          · exact ih hold
          · exact SgbJoypLineState.fromJoypValue_ne_invalid value (List.mem_singleton.mp hnew).symm
      | realBootHandoff => exact List.not_mem_nil
      | frameStart frame => exact ih
      | cartridgeHeader header => exact ih
      | devices change => exact ih

/-- A value that puts this line state on the port. -/
def SgbJoypLineState.joypValue : SgbJoypLineState → U8
  | .start => sgbJoypStartBits
  | .zero => sgbJoypZeroBits
  | .one => sgbJoypOneBits
  | .idle | .invalid => sgbJoypIdleBits

def writeLines {ρ : Type} (lines : List SgbJoypLineState) : List (SgbHostEvent ρ) :=
  lines.map fun line => .joypWrite line.joypValue

theorem fromJoypValue_joypValue {line : SgbJoypLineState} (h : line ≠ .invalid) :
    SgbJoypLineState.fromJoypValue line.joypValue = line := by
  cases line with
  | invalid => contradiction
  | idle => rfl
  | start => rfl
  | zero => rfl
  | one => rfl

theorem joypHistory_writeLines {ρ : Type} {lines : List SgbJoypLineState}
    (h : .invalid ∉ lines) : joypHistory (writeLines lines : List (SgbHostEvent ρ)) = lines := by
  induction lines using List.reverseRecOn with
  | nil => rfl
  | append_singleton lines line ih =>
      have hline : line ≠ .invalid := by
        rintro rfl
        exact h (List.mem_append_right _ (List.mem_singleton_self _))
      have hlines : joypHistory (writeLines lines : List (SgbHostEvent ρ)) = lines :=
        ih fun hmem => h (List.mem_append_left _ hmem)
      rw [joypHistory] at hlines
      rw [writeLines, List.map_append, List.map_singleton, joypHistory, List.foldl_append,
        List.foldl_cons, List.foldl_nil, ← writeLines, hlines]
      dsimp only
      rw [fromJoypValue_joypValue hline]

/-- The line state that an event puts on the port. -/
def SgbHostEvent.line {ρ : Type} : SgbHostEvent ρ → Option SgbJoypLineState
  | .joypWrite value => some (.fromJoypValue value)
  | .frameStart _ | .realBootHandoff | .cartridgeHeader _ | .devices _ => none

theorem filterMap_line_writeLines {ρ : Type} {lines : List SgbJoypLineState}
    (h : .invalid ∉ lines) :
    (writeLines lines : List (SgbHostEvent ρ)).filterMap SgbHostEvent.line = lines := by
  rw [writeLines, List.filterMap_map]
  have hline : ∀ line ∈ lines, (SgbHostEvent.line ∘ fun line : SgbJoypLineState =>
      (.joypWrite line.joypValue : SgbHostEvent ρ)) line = some line := by
    intro line hmem
    have hvalid : line ≠ .invalid := by
      rintro rfl
      exact h hmem
    simp only [Function.comp_apply, SgbHostEvent.line, fromJoypValue_joypValue hvalid]
  rw [List.filterMap_congr hline, List.filterMap_some]

namespace SgbHost

variable {ρ : Type} [SgbHostDevices ρ]

/-- The packet that an event completes. -/
def packetAt (host : SgbHost ρ) : SgbHostEvent ρ → Option SgbPacket
  | .joypWrite value => completedPacket value host
  | .frameStart _ | .realBootHandoff | .cartridgeHeader _ | .devices _ => none

/-- The packets completed along a run. -/
def completedPackets : List (SgbHostEvent ρ) → SgbHost ρ → List SgbPacket
  | [], _ => []
  | event :: events, host =>
      (host.packetAt event).toList ++ completedPackets events (host.step event)

theorem observeJoypWrite_hostPlatform (value : U8) (host : SgbHost ρ) :
    (observeJoypWrite value host).hostPlatform = host.hostPlatform := by
  by_cases hsgb : host.hostPlatform.isSgb
  · cases hpacket : completedPacket value host with
    | none =>
        obtain ⟨transport, invalid, hwrite⟩ := observeJoypWrite_of_completedPacket_none hsgb hpacket
        rw [hwrite]
        rfl
    | some packet =>
        obtain ⟨host', ⟨transport, invalid, honly⟩, -, hwrite⟩ :=
          observeJoypWrite_of_completedPacket hpacket
        obtain ⟨-, -, hplatform, -⟩ := decodeCompletePacket_frame packet host'
        rw [hwrite]
        show (decodeCompletePacket packet host').hostPlatform = _
        rw [hplatform, honly]
        rfl
  · unfold observeJoypWrite
    rw [if_pos (by simpa using hsgb)]

theorem step_hostPlatform (host : SgbHost ρ) (event : SgbHostEvent ρ) :
    (host.step event).hostPlatform = host.hostPlatform := by
  cases event with
  | joypWrite value => exact observeJoypWrite_hostPlatform value host
  | frameStart frame =>
      simp only [step, advanceFrameStart]
      split
      · rfl
      · cases (host.vramTransfer.advancePendingVramTransfer frame.vram frame.display).2 <;> rfl
  | realBootHandoff =>
      simp only [step, finishRealBootHandoff]
      split <;> rfl
  | cartridgeHeader header => rfl
  | devices change => rfl

theorem run_hostPlatform (events : List (SgbHostEvent ρ)) (host : SgbHost ρ) :
    (run events host).hostPlatform = host.hostPlatform := by
  induction events generalizing host with
  | nil => rfl
  | cons event events ih => rw [run_cons, ih, step_hostPlatform]

/-- Frames and headers do not touch the transport. -/
theorem step_packetTransport {host : SgbHost ρ} {event : SgbHostEvent ρ}
    (hline : event.line = none) (hreset : event ≠ .realBootHandoff) :
    (host.step event).packetTransport = host.packetTransport := by
  cases event with
  | joypWrite value => contradiction
  | frameStart frame =>
      simp only [step, advanceFrameStart]
      split
      · rfl
      · cases (host.vramTransfer.advancePendingVramTransfer frame.vram frame.display).2 <;> rfl
  | realBootHandoff => contradiction
  | cartridgeHeader header => rfl
  | devices change => rfl

/-- Along every run, the transport represents what the receiver has read since the last
reset. -/
theorem represents_run {hostPlatform : HostPlatform} (hsgb : hostPlatform.isSgb) (devices : ρ)
    (events : List (SgbHostEvent ρ)) :
    Represents (.receive (joypHistory events))
      (run events (new hostPlatform devices)).packetTransport := by
  induction events using List.reverseRecOn with
  | nil => exact ⟨nofun, rfl⟩
  | append_singleton events event ih =>
      have hplatform : (run events (new hostPlatform devices)).hostPlatform.isSgb := by
        rw [run_hostPlatform]
        exact hsgb
      rw [run_append, run_cons, run_nil, joypHistory, List.foldl_append, List.foldl_cons,
        List.foldl_nil]
      cases event with
      | joypWrite value =>
          dsimp only
          rw [Reception.receive_snoc]
          exact represents_observeJoypWrite hplatform ih value
      | realBootHandoff =>
          have hreset : (finishRealBootHandoff
              (run events (new hostPlatform devices))).packetTransport.phase = .idle ∧
              (finishRealBootHandoff
                (run events (new hostPlatform devices))).packetTransport.lastJoypLineState =
                  .idle := by
            unfold finishRealBootHandoff
            rw [if_neg (by simp [hplatform])]
            exact ⟨rfl, rfl⟩
          refine ⟨fun hstart => ?_, hreset.1⟩
          rw [step, hreset.2] at hstart
          contradiction
      | frameStart frame =>
          have hkept : ((run events (new hostPlatform devices)).step
              (.frameStart frame)).packetTransport =
                (run events (new hostPlatform devices)).packetTransport :=
            step_packetTransport rfl nofun
          rw [hkept]
          exact ih
      | cartridgeHeader header => exact ih
      | devices change => exact ih

/-- The packets completed along a run, unless the transport is reset, are those the receiver
completes on the lines written. -/
theorem completedPackets_eq {r : Reception} {host : SgbHost ρ}
    (hsgb : host.hostPlatform.isSgb) (h : Represents r host.packetTransport)
    (events : List (SgbHostEvent ρ)) (hkeep : ∀ event ∈ events, event ≠ .realBootHandoff) :
    (completedPackets events host).map packetBits =
      Reception.completions (events.filterMap SgbHostEvent.line) r := by
  induction events generalizing r host with
  | nil => rfl
  | cons event events ih =>
      have hsgb' : (host.step event).hostPlatform.isSgb := by
        rw [step_hostPlatform]
        exact hsgb
      have hkeep' : ∀ other ∈ events, other ≠ .realBootHandoff := by
        intro other hother
        exact hkeep other (List.mem_cons_of_mem _ hother)
      have hevent : event ≠ .realBootHandoff := hkeep event List.mem_cons_self
      cases hline : event.line with
      | some line =>
          cases event with
          | joypWrite value =>
              have hvalue : SgbJoypLineState.fromJoypValue value = line := Option.some.inj hline
              subst hvalue
              rw [List.filterMap_cons_some hline, Reception.completions, completedPackets,
                List.map_append, ih hsgb' (represents_observeJoypWrite hsgb h value) hkeep',
                ← completedPacket_eq hsgb h value]
              cases hpacket : completedPacket value host <;> simp [packetAt, hpacket]
          | frameStart frame => contradiction
          | realBootHandoff => contradiction
          | cartridgeHeader header => contradiction
          | devices change => contradiction
      | none =>
          have hnone : host.packetAt event = none := by
            cases event with
            | joypWrite value => contradiction
            | frameStart frame => rfl
            | realBootHandoff => rfl
            | cartridgeHeader header => rfl
            | devices change => rfl
          have htransport : (host.step event).packetTransport = host.packetTransport :=
            step_packetTransport hline hevent
          rw [List.filterMap_cons_none hline, completedPackets, hnone, Option.toList_none,
            List.nil_append]
          refine ih hsgb' ?_ hkeep'
          rw [htransport]
          exact h

end SgbHost

end GbCycle
