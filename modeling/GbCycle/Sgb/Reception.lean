import GbCycle.Sgb.Protocol
import Mathlib.Data.List.Induction

/-!
# Pulses

What the packet transport is for, without its registers and counters: a receiver that reads
the line states one by one and keeps the bits it has so far.  The receiver is deterministic
and never stuck, and the words on which it completes a packet are described directly:
`PacketPulses` is a reset pulse followed by one group of data lines for each bit, every group
closed by the idle level.  The last data line of a group is its bit, so a line that changes
from one data level to the other without idling in between is one pulse, not two.
-/

namespace GbCycle

/-! ## Bits of a packet -/

/-- The data level of a bit. -/
def SgbJoypLineState.ofBit : Bool → SgbJoypLineState
  | false => .zero
  | true => .one

/-- The bits of a packet, the least significant bit of its first byte first. -/
def packetBits (packet : SgbPacket) : List Bool :=
  (List.range sgbPacketBits).map fun k => (packet[k / 8]?.getD 0).getLsbD (k % 8)

@[simp] theorem length_packetBits (packet : SgbPacket) : (packetBits packet).length = 128 := by
  simp [packetBits, sgbPacketBits]

theorem getElem_packetBits (packet : SgbPacket) {i j : Nat} (hi : i < 16) (hj : j < 8) :
    (packetBits packet)[8 * i + j]? = some (packet[i].getLsbD j) := by
  have hk : 8 * i + j < 128 := by omega
  have hdiv : (8 * i + j) / 8 = i := by omega
  have hmod : (8 * i + j) % 8 = j := by omega
  have hsize : i < sgbPacketBytes := hi
  simp [packetBits, sgbPacketBits, hk, hdiv, hmod, Vector.getElem?_eq_getElem hsize]
  rfl

theorem packetBits_injective {p q : SgbPacket} (h : packetBits p = packetBits q) : p = q := by
  refine Vector.ext fun i hi => BitVec.eq_of_getLsbD_eq fun j hj => ?_
  have hbit := getElem_packetBits p hi hj
  rw [h, getElem_packetBits q hi hj] at hbit
  exact (Option.some.inj hbit).symm

/-! ## The receiver -/

inductive Reception where
  | idle
  | startPending
  | receiving (bits : List Bool)
  | dataPending (bits : List Bool) (bit : Bool)
  deriving Repr, DecidableEq

namespace Reception

/-- A data level is seen. -/
def data (bit : Bool) : Reception → Reception
  | .idle => .idle
  | .startPending => .idle
  | .receiving bits => .dataPending bits bit
  | .dataPending bits _ => .dataPending bits bit

/-- One more line state. -/
def next (line : SgbJoypLineState) (r : Reception) : Reception :=
  match line with
  | .start => .startPending
  | .zero => r.data false
  | .one => r.data true
  | .invalid => r
  | .idle =>
      match r with
      | .idle => .idle
      | .startPending => .receiving []
      | .receiving bits => .receiving bits
      | .dataPending bits bit =>
          if bits.length < sgbPacketBits then .receiving (bits ++ [bit]) else .idle

/-- The bits of the packet that this line state completes. -/
def completes (line : SgbJoypLineState) (r : Reception) : Option (List Bool) :=
  match line, r with
  | .idle, .dataPending bits _ => if bits.length < sgbPacketBits then none else some bits
  | _, _ => none

def nextAll (lines : List SgbJoypLineState) (r : Reception) : Reception :=
  lines.foldl (fun r line => next line r) r

/-- What the receiver has after these line states. -/
def receive (lines : List SgbJoypLineState) : Reception := nextAll lines .idle

@[simp] theorem nextAll_nil (r : Reception) : nextAll [] r = r := rfl

@[simp] theorem nextAll_cons (line : SgbJoypLineState) (lines : List SgbJoypLineState)
    (r : Reception) : nextAll (line :: lines) r = nextAll lines (r.next line) := rfl

theorem nextAll_append (lines more : List SgbJoypLineState) (r : Reception) :
    nextAll (lines ++ more) r = nextAll more (nextAll lines r) := List.foldl_append

theorem receive_append (lines more : List SgbJoypLineState) :
    receive (lines ++ more) = nextAll more (receive lines) := nextAll_append lines more .idle

theorem receive_snoc (lines : List SgbJoypLineState) (line : SgbJoypLineState) :
    receive (lines ++ [line]) = (receive lines).next line := receive_append lines [line]

@[simp] theorem next_ofBit (bit : Bool) (r : Reception) :
    r.next (.ofBit bit) = r.data bit := by
  cases bit <;> rfl

end Reception

/-! ## The words of a packet -/

/-- Data levels only, the last of which is the bit. -/
def IsDataRun (run : List SgbJoypLineState) (bit : Bool) : Prop :=
  ∃ glitches : List Bool, run = glitches.map SgbJoypLineState.ofBit ++ [.ofBit bit]

/-- A reset pulse, and a pulse for each of the bits. -/
inductive PacketPulses : List SgbJoypLineState → List Bool → Prop where
  | start (n : Nat) : PacketPulses (.start :: List.replicate (n + 1) .idle) []
  | bit {word : List SgbJoypLineState} {bits : List Bool} {run : List SgbJoypLineState}
      {bit : Bool} (n : Nat) :
      PacketPulses word bits → IsDataRun run bit →
      PacketPulses (word ++ run ++ List.replicate (n + 1) .idle) (bits ++ [bit])

theorem PacketPulses.idle {word : List SgbJoypLineState} {bits : List Bool}
    (h : PacketPulses word bits) : PacketPulses (word ++ [.idle]) bits := by
  cases h with
  | start n =>
      have hlonger := PacketPulses.start (n + 1)
      rw [List.replicate_succ'] at hlonger
      exact hlonger
  | bit n hword hrun =>
      have hlonger := PacketPulses.bit (n + 1) hword hrun
      rw [List.replicate_succ', ← List.append_assoc] at hlonger
      exact hlonger

theorem IsDataRun.single (bit : Bool) : IsDataRun [.ofBit bit] bit := ⟨[], rfl⟩

theorem IsDataRun.snoc {run : List SgbJoypLineState} {bit : Bool} (h : IsDataRun run bit)
    (bit' : Bool) : IsDataRun (run ++ [.ofBit bit']) bit' := by
  obtain ⟨glitches, hrun⟩ := h
  exact ⟨glitches ++ [bit], by rw [hrun, List.map_append, List.map_singleton]⟩

namespace Reception

theorem nextAll_dataRun {run : List SgbJoypLineState} {bit : Bool} (hrun : IsDataRun run bit)
    (bits : List Bool) : nextAll run (.receiving bits) = .dataPending bits bit := by
  obtain ⟨glitches, hglitches⟩ := hrun
  subst hglitches
  rw [nextAll_append, nextAll_cons, nextAll_nil, next_ofBit]
  have hpending : ∀ last, ∃ last',
      nextAll (glitches.map .ofBit) (.dataPending bits last) = .dataPending bits last' := by
    induction glitches with
    | nil => exact fun last => ⟨last, rfl⟩
    | cons glitch rest ih =>
        intro last
        rw [List.map_cons, nextAll_cons, next_ofBit]
        exact ih glitch
  cases glitches with
  | nil => rfl
  | cons glitch rest =>
      obtain ⟨last, hlast⟩ := hpending false
      rw [List.map_cons, nextAll_cons, next_ofBit] at hlast ⊢
      have hsame : (Reception.receiving bits).data glitch =
          (Reception.dataPending bits false).data glitch := rfl
      rw [hsame, hlast]
      rfl

theorem nextAll_idles (n : Nat) (bits : List Bool) :
    nextAll (List.replicate n .idle) (.receiving bits) = .receiving bits := by
  induction n with
  | zero => rfl
  | succ n ih => exact ih

/-- Whatever came before, the receiver reads the pulses of a packet as its bits. -/
theorem receive_packetPulses (lines : List SgbJoypLineState) {word : List SgbJoypLineState}
    {bits : List Bool} (hword : PacketPulses word bits) (hfew : bits.length ≤ sgbPacketBits) :
    receive (lines ++ word) = .receiving bits := by
  induction hword with
  | start n =>
      rw [receive_append, nextAll_cons, List.replicate_succ, nextAll_cons]
      exact nextAll_idles n []
  | @bit word bits run bit n hword hrun ih =>
      have hless : bits.length < sgbPacketBits := by
        rw [List.length_append, List.length_singleton] at hfew
        omega
      rw [← List.append_assoc, ← List.append_assoc, receive_append, receive_append,
        ih (by omega), nextAll_dataRun hrun, List.replicate_succ, nextAll_cons]
      simp only [next, if_pos hless]
      exact nextAll_idles n (bits ++ [bit])

/-- What the receiver has is explained by the end of what it has read. -/
def Explains (lines : List SgbJoypLineState) : Reception → Prop
  | .idle => True
  | .startPending => ∃ before, lines = before ++ [.start]
  | .receiving bits => bits.length ≤ sgbPacketBits ∧
      ∃ before word, lines = before ++ word ∧ PacketPulses word bits
  | .dataPending bits bit => bits.length ≤ sgbPacketBits ∧
      ∃ before word run, lines = before ++ word ++ run ∧ PacketPulses word bits ∧
        IsDataRun run bit

theorem explains_data {lines : List SgbJoypLineState} {r : Reception} (h : Explains lines r)
    (bit : Bool) : Explains (lines ++ [.ofBit bit]) (r.data bit) := by
  cases r with
  | idle => trivial
  | startPending => trivial
  | receiving bits =>
      obtain ⟨hfew, before, word, hlines, hword⟩ := h
      exact ⟨hfew, before, word, [.ofBit bit], by rw [hlines], hword, .single bit⟩
  | dataPending bits last =>
      obtain ⟨hfew, before, word, run, hlines, hword, hrun⟩ := h
      exact ⟨hfew, before, word, run ++ [.ofBit bit], by rw [hlines]; simp, hword,
        hrun.snoc bit⟩

theorem explains_idle {lines : List SgbJoypLineState} {r : Reception} (h : Explains lines r) :
    Explains (lines ++ [.idle]) (r.next .idle) := by
  cases r with
  | idle => trivial
  | startPending =>
      obtain ⟨before, hlines⟩ := h
      refine ⟨Nat.zero_le _, before, [.start, .idle], ?_, PacketPulses.start 0⟩
      rw [hlines, List.append_assoc]
      rfl
  | receiving bits =>
      obtain ⟨hfew, before, word, hlines, hword⟩ := h
      exact ⟨hfew, before, word ++ [.idle], by rw [hlines, List.append_assoc], hword.idle⟩
  | dataPending bits bit =>
      obtain ⟨hfew, before, word, run, hlines, hword, hrun⟩ := h
      simp only [next]
      split
      · next hless =>
          refine ⟨by simp only [List.length_append, List.length_singleton]; omega, before,
            word ++ run ++ [.idle], ?_, PacketPulses.bit 0 hword hrun⟩
          rw [hlines]
          simp only [List.append_assoc]
      · trivial

theorem explains_receive (lines : List SgbJoypLineState) (hvalid : .invalid ∉ lines) :
    Explains lines (receive lines) := by
  induction lines using List.reverseRecOn with
  | nil => trivial
  | append_singleton lines line ih =>
      have hbefore : Explains lines (receive lines) := by
        refine ih fun hmem => hvalid ?_
        exact List.mem_append_left _ hmem
      rw [receive_snoc]
      cases line with
      | idle => exact explains_idle hbefore
      | start => exact ⟨lines, rfl⟩
      | zero => exact explains_data hbefore false
      | one => exact explains_data hbefore true
      | invalid =>
          refine absurd ?_ hvalid
          exact List.mem_append_right _ (List.mem_singleton_self _)

/-- A packet is completed by the idle level that closes a data pulse right after the pulses of
its 128 bits, and by nothing else. -/
theorem completes_iff (lines : List SgbJoypLineState) (hvalid : .invalid ∉ lines)
    (line : SgbJoypLineState) (bits : List Bool) :
    (receive lines).completes line = some bits ↔
      line = .idle ∧ bits.length = sgbPacketBits ∧
        ∃ before word stop bit, lines = before ++ word ++ stop ∧ PacketPulses word bits ∧
          IsDataRun stop bit := by
  constructor
  · intro h
    have hexplains := explains_receive lines hvalid
    cases hr : receive lines with
    | dataPending held bit =>
        rw [hr] at h hexplains
        obtain ⟨hfew, before, word, run, hlines, hword, hrun⟩ := hexplains
        cases line with
        | idle =>
            simp only [completes] at h
            split at h
            · contradiction
            · have hbits : held = bits := Option.some.inj h
              subst hbits
              exact ⟨rfl, by omega, before, word, run, bit, hlines, hword, hrun⟩
        | start => simp [completes] at h
        | zero => simp [completes] at h
        | one => simp [completes] at h
        | invalid => simp [completes] at h
    | idle => rw [hr] at h; simp [completes] at h
    | startPending => rw [hr] at h; simp [completes] at h
    | receiving held => rw [hr] at h; simp [completes] at h
  · rintro ⟨rfl, hlength, before, word, stop, bit, hlines, hword, hstop⟩
    have hreceive : receive lines = .dataPending bits bit := by
      rw [hlines, receive_append, receive_packetPulses before hword (by omega),
        nextAll_dataRun hstop]
    rw [hreceive]
    simp only [completes]
    rw [if_neg (by omega)]

/-! ## What a sequence completes -/

/-- The packets that are completed while these line states are read. -/
def completions : List SgbJoypLineState → Reception → List (List Bool)
  | [], _ => []
  | line :: lines, r => (r.completes line).toList ++ completions lines (r.next line)

theorem completions_append (lines more : List SgbJoypLineState) (r : Reception) :
    completions (lines ++ more) r = completions lines r ++ completions more (nextAll lines r) := by
  induction lines generalizing r with
  | nil => rfl
  | cons line lines ih =>
      rw [List.cons_append, completions, completions, nextAll_cons, ih, List.append_assoc]

theorem completes_ofBit (bit : Bool) (r : Reception) : r.completes (.ofBit bit) = none := by
  cases bit <;> rfl

theorem completions_dataRun {run : List SgbJoypLineState} {bit : Bool}
    (hrun : IsDataRun run bit) (r : Reception) : completions run r = [] := by
  obtain ⟨glitches, hglitches⟩ := hrun
  have hall : ∀ (levels : List Bool) (r : Reception),
      completions (levels.map .ofBit) r = [] := by
    intro levels
    induction levels with
    | nil => exact fun r => rfl
    | cons level rest ih =>
        intro r
        rw [List.map_cons, completions, completes_ofBit, ih]
        rfl
  have hmap : run = (glitches ++ [bit]).map .ofBit := by
    rw [hglitches, List.map_append, List.map_singleton]
  rw [hmap]
  exact hall (glitches ++ [bit]) r

theorem completions_idles (n : Nat) (bits : List Bool) :
    completions (List.replicate n .idle) (.receiving bits) = [] := by
  induction n with
  | zero => rfl
  | succ n ih => exact ih

/-- The pulses of a packet complete nothing: the packet is not complete before its stop
pulse. -/
theorem completions_packetPulses {word : List SgbJoypLineState} {bits : List Bool}
    (hword : PacketPulses word bits) (hfew : bits.length ≤ sgbPacketBits) (r : Reception) :
    completions word r = [] ∧ nextAll word r = .receiving bits := by
  induction hword with
  | start n =>
      rw [List.replicate_succ, completions, completions, nextAll_cons, nextAll_cons]
      exact ⟨completions_idles n [], nextAll_idles n []⟩
  | @bit word bits run bit n hword hrun ih =>
      have hless : bits.length < sgbPacketBits := by
        rw [List.length_append, List.length_singleton] at hfew
        omega
      obtain ⟨hnone, hreceiving⟩ := ih (by omega)
      have hclosed : (Reception.dataPending bits bit).next .idle = .receiving (bits ++ [bit]) := by
        simp only [next, if_pos hless]
      have hsilent : (Reception.dataPending bits bit).completes .idle = none := by
        simp only [completes, if_pos hless]
      have hpending : nextAll (word ++ run) r = .dataPending bits bit := by
        rw [nextAll_append, hreceiving, nextAll_dataRun hrun]
      have hquiet : completions (word ++ run) r = [] := by
        rw [completions_append, hnone, completions_dataRun hrun]
        rfl
      rw [completions_append, hquiet, nextAll_append (word ++ run), hpending,
        List.replicate_succ, completions, nextAll_cons, hclosed, hsilent]
      exact ⟨completions_idles n (bits ++ [bit]), nextAll_idles n (bits ++ [bit])⟩

/-- A packet sent as pulses is completed exactly once, whatever the receiver was doing. -/
theorem completions_packet {word stop : List SgbJoypLineState} {bits : List Bool} {bit : Bool}
    (hword : PacketPulses word bits) (hbits : bits.length = sgbPacketBits)
    (hstop : IsDataRun stop bit) (r : Reception) :
    completions (word ++ stop ++ [.idle]) r = [bits] := by
  obtain ⟨hnone, hreceiving⟩ := completions_packetPulses hword (by omega) r
  have hfull : ¬ bits.length < sgbPacketBits := by omega
  rw [completions_append, completions_append, nextAll_append, hnone, hreceiving,
    completions_dataRun hstop, nextAll_dataRun hstop]
  simp only [completions, completes, if_neg hfull]
  rfl

end Reception

/-- A packet as the protocol asks for it: each pulse is one level, closed by one idle. -/
def packetWord (bits : List Bool) : List SgbJoypLineState :=
  [.start, .idle] ++ bits.flatMap fun bit => [.ofBit bit, .idle]

/-- Pulses of one level each may follow any pulses. -/
theorem PacketPulses.append {word : List SgbJoypLineState} {held : List Bool}
    (h : PacketPulses word held) (bits : List Bool) :
    PacketPulses (word ++ bits.flatMap fun bit => [.ofBit bit, .idle]) (held ++ bits) := by
  induction bits using List.reverseRecOn with
  | nil => simpa using h
  | append_singleton bits bit ih =>
      have hlonger := PacketPulses.bit 0 ih (IsDataRun.single bit)
      simpa [List.flatMap_append, List.append_assoc] using hlonger

theorem packetPulses_packetWord (bits : List Bool) : PacketPulses (packetWord bits) bits :=
  (PacketPulses.start 0).append bits

theorem invalid_notMem_pulses (bits : List Bool) :
    SgbJoypLineState.invalid ∉ bits.flatMap fun bit => [.ofBit bit, .idle] := by
  intro hmem
  obtain ⟨bit, -, hbit⟩ := List.mem_flatMap.mp hmem
  cases bit <;> simp [SgbJoypLineState.ofBit] at hbit

@[simp] theorem length_packetWord (bits : List Bool) :
    (packetWord bits).length = 2 + 2 * bits.length := by
  unfold packetWord
  induction bits with
  | nil => rfl
  | cons bit bits ih =>
      simp only [List.flatMap_cons, List.length_append, List.length_cons, List.length_nil] at ih ⊢
      omega

end GbCycle
