import GbCycle.Link.Dmg07
import Mathlib.Tactic.IntervalCases

/-!
# The packets of the DMG-07

A session is a sequence of bytes: the adapter sends one, every console answers with one, and
`completeByte` moves the protocol on.  The invariant says, for the byte that is being sent,
which packet it is in and how far into it, what the two halves of the transmission buffer
hold, and what the marker counts count.  Each kind of byte keeps it, so it holds of every
byte of every session.
-/

namespace GbCycle

/-- What each port answers, if it answers at all. -/
abbrev Dmg07Answer := Dmg07Port → Option U8

/-! ## The transmission buffer -/

namespace Dmg07TransmissionBuffer

variable {b : Dmg07TransmissionBuffer} {size half i : Nat}

theorem slot?_setSlot? {slot offset : Nat} {value : U8} (hslot : slot < 8) (hoffset : offset < 4) :
    ∃ b', b.setSlot? slot offset value = some b' ∧ b'.position = b.position ∧
      b'.slot? slot offset = some value ∧
      ∀ s j, (s ≠ slot ∨ j ≠ offset) → b'.slot? s j = b.slot? s j := by
  refine ⟨_, if_pos ⟨hslot, hoffset⟩, rfl, ?_, fun s j hne => ?_⟩
  · rw [slot?, dif_pos ⟨hslot, hoffset⟩]
    simp
  · unfold slot?
    by_cases h : s < 8 ∧ j < 4
    · have hother : ¬ (s = slot ∧ j = offset) := by
        rintro ⟨rfl, rfl⟩
        rcases hne with hne | hne <;> exact hne rfl
      rw [dif_pos h, dif_pos h]
      exact congrArg some (if_neg hother)
    · rw [dif_neg h, dif_neg h]

/-- The captured bytes go to one offset of four slots, and nothing else changes. -/
theorem slot?_capture {base offset : Nat} (value : Dmg07Port → U8) (hbase : base ≤ 4)
    (hoffset : offset < 4) :
    ∃ b', Dmg07Port.all.foldlM (fun b port => b.setSlot? (base + port.index) offset
        (value port)) b = some b' ∧ b'.position = b.position ∧
      (∀ port, b'.slot? (base + port.index) offset = some (value port)) ∧
      ∀ s j, (j ≠ offset ∨ s < base ∨ base + 4 ≤ s) → b'.slot? s j = b.slot? s j := by
  have hset : ∀ (b : Dmg07TransmissionBuffer) (port : Dmg07Port), ∃ b',
      b.setSlot? (base + port.index) offset (value port) = some b' ∧
      b'.position = b.position ∧ b'.slot? (base + port.index) offset = some (value port) ∧
      ∀ s j, (s ≠ base + port.index ∨ j ≠ offset) → b'.slot? s j = b.slot? s j := by
    intro b port
    have hport := port.index_lt
    exact slot?_setSlot? (by omega) hoffset
  obtain ⟨b1, hb1, hp1, hv1, hk1⟩ := hset b .p1
  obtain ⟨b2, hb2, hp2, hv2, hk2⟩ := hset b1 .p2
  obtain ⟨b3, hb3, hp3, hv3, hk3⟩ := hset b2 .p3
  obtain ⟨b4, hb4, hp4, hv4, hk4⟩ := hset b3 .p4
  simp only [Dmg07Port.index] at hk1 hk2 hk3 hk4
  refine ⟨b4, ?_, by rw [hp4, hp3, hp2, hp1], fun port => ?_, fun s j hne => ?_⟩
  · simp only [Dmg07Port.all, List.foldlM, Option.bind_eq_bind, hb1, hb2, hb3, hb4,
      Option.bind_some, Option.pure_def]
  · cases port with
    | p1 =>
        simp only [Dmg07Port.index] at hv1 ⊢
        rw [hk4 _ _ (.inl (by omega)), hk3 _ _ (.inl (by omega)), hk2 _ _ (.inl (by omega)), hv1]
    | p2 =>
        simp only [Dmg07Port.index] at hv2 ⊢
        rw [hk4 _ _ (.inl (by omega)), hk3 _ _ (.inl (by omega)), hv2]
    | p3 =>
        simp only [Dmg07Port.index] at hv3 ⊢
        rw [hk4 _ _ (.inl (by omega)), hv3]
    | p4 => exact hv4
  · have hne' : ∀ m < 4, s ≠ base + m ∨ j ≠ offset := by omega
    rw [hk4 _ _ (hne' 3 (by omega)), hk3 _ _ (hne' 2 (by omega)), hk2 _ _ (hne' 1 (by omega)),
      hk1 _ _ (hne' 0 (by omega))]

/-- The position is in that half of the ring, `i` bytes into the packet. -/
structure At (b : Dmg07TransmissionBuffer) (size half i : Nat) : Prop where
  size_pos : 1 ≤ size
  size_le : size ≤ 4
  half_lt : half < 2
  index_lt : i < packetLenForSize size
  position : b.position = half * packetLenForSize size + i

/-- The byte that is sent comes from the slots of its half. -/
theorem At.currentByte (h : b.At size half i) :
    b.currentByte size = b.slot? (half * 4 + i / size) (i % size) := by
  obtain ⟨hpos, hle, hhalf, hlt, hposition⟩ := h
  have hring : b.ringPosition size = half * packetLenForSize size + i := by
    rw [ringPosition, hposition, ringLenForSize]
    refine Nat.mod_eq_of_lt ?_
    have := Nat.mul_le_mul_right (packetLenForSize size) (Nat.le_of_lt_succ hhalf)
    omega
  have hsplit : half * packetLenForSize size + i = size * (half * 4) + i := by
    rw [packetLenForSize, Nat.mul_left_comm]
  rw [Dmg07TransmissionBuffer.currentByte, if_neg (by omega), hring, hsplit,
    Nat.mul_add_div hpos, Nat.mul_add_mod]

/-- A byte at one of the positions `1` to `size` of the packet is captured in the other half,
one offset below its position; no other byte is. -/
theorem At.capture (h : b.At size half i) (connected : Dmg07Port → Bool) (o : Dmg07Answer) :
    ∃ b', b.captureCurrentByte size connected o = some b' ∧ b'.position = b.position ∧
      (1 ≤ i → i ≤ size → ∀ port : Dmg07Port, b'.slot? ((1 - half) * 4 + port.index) (i - 1) =
        some (if connected port then (o port).getD 0 else 0)) ∧
      (∀ s j, (j + 1 ≠ i ∨ s < (1 - half) * 4 ∨ (1 - half) * 4 + 4 ≤ s) →
        b'.slot? s j = b.slot? s j) := by
  obtain ⟨hpos, hle, hhalf, hlt, hposition⟩ := h
  have hpacket : b.packetPosition size = i := by
    rw [packetPosition, hposition, Nat.mul_comm, Nat.mul_add_mod, Nat.mod_eq_of_lt hlt]
  rw [captureCurrentByte, if_neg (by omega), hpacket]
  by_cases hwindow : i = 0 ∨ size < i
  · refine ⟨b, if_pos hwindow, rfl, fun h1 h2 => ?_, fun s j _ => rfl⟩
    omega
  · rw [if_neg hwindow]
    have htarget : (b.position - 1 + packetLenForSize size) % ringLenForSize size =
        size * ((1 - half) * 4) + (i - 1) := by
      rw [hposition, ringLenForSize]
      simp only [packetLenForSize] at hlt ⊢
      interval_cases half <;> interval_cases size <;> omega
    have hdiv : (size * ((1 - half) * 4) + (i - 1)) / size = (1 - half) * 4 := by
      rw [Nat.mul_add_div hpos, Nat.div_eq_of_lt (by omega), Nat.add_zero]
    have hmod : (size * ((1 - half) * 4) + (i - 1)) % size = i - 1 := by
      rw [Nat.mul_add_mod, Nat.mod_eq_of_lt (by omega)]
    simp only [htarget, hdiv, hmod]
    have hbase : (1 - half) * 4 ≤ 4 := by omega
    have hoffset : i - 1 < 4 := by omega
    obtain ⟨b', hb', hposition', hvalue, hkeep⟩ := slot?_capture (b := b)
      (fun port => if connected port then (o port).getD 0 else 0) hbase hoffset
    exact ⟨b', hb', hposition', fun _ _ => hvalue, fun s j hne => hkeep s j (by omega)⟩

/-- The position after the byte. -/
theorem At.advance (h : b.At size half i) :
    (b.advance size).position =
      if i + 1 = packetLenForSize size then (1 - half) * packetLenForSize size
      else half * packetLenForSize size + (i + 1) := by
  obtain ⟨hpos, hle, hhalf, hlt, hposition⟩ := h
  show (b.position + 1) % ringLenForSize size = _
  rw [hposition, ringLenForSize]
  by_cases hlast : i + 1 = packetLenForSize size
  · rw [if_pos hlast]
    simp only [packetLenForSize] at hlast ⊢
    interval_cases half <;> interval_cases size <;> omega
  · rw [if_neg hlast]
    simp only [packetLenForSize] at hlast hlt ⊢
    interval_cases half <;> interval_cases size <;> omega

end Dmg07TransmissionBuffer

/-! ## Counting marker bytes

Both marker counts work in the same way: a marker adds one, and another byte takes the count
back to zero unless it has reached three. -/

/-- Three bytes in a row of the bytes from `b` to `k` are marked. -/
def ThreeInARow (marks : Nat → Prop) (b k : Nat) : Prop :=
  ∃ m, b ≤ m ∧ m + 3 ≤ k ∧ marks m ∧ marks (m + 1) ∧ marks (m + 2)

/-- `c` counts the marked bytes at the end of the bytes from `b` to `k`, or is at least three
because there were three in a row. -/
structure Counted (marks : Nat → Prop) (b k c : Nat) : Prop where
  le : b + c ≤ k
  recent : c < 3 → ∀ m, k ≤ m + c → m < k → marks m
  three : 3 ≤ c → ThreeInARow marks b k

theorem ThreeInARow.succ {marks : Nat → Prop} {b k : Nat} (h : ThreeInARow marks b k) :
    ThreeInARow marks b (k + 1) := by
  obtain ⟨m, hb, hk, hmarks⟩ := h
  exact ⟨m, hb, by omega, hmarks⟩

theorem Counted.zero {marks : Nat → Prop} {b k : Nat} (h : b ≤ k) : Counted marks b k 0 where
  le := h
  recent _ m hm hk := by omega
  three h := absurd h (by decide)

theorem Counted.mark {marks : Nat → Prop} {b k c : Nat} (h : Counted marks b k c)
    (hk : marks k) : Counted marks b (k + 1) (saturatingCount c) := by
  have hle := h.le
  refine ⟨?_, fun hc m hm hlt => ?_, fun hc => ?_⟩
  · rw [saturatingCount]
    omega
  · rw [saturatingCount] at hc hm
    rcases Nat.lt_or_ge m k with hmk | hmk
    · exact h.recent (by omega) m (by omega) hmk
    · rw [show m = k by omega]
      exact hk
  · rw [saturatingCount] at hc
    rcases Nat.lt_or_ge c 3 with hlt | hge
    · have hrecent := h.recent hlt
      refine ⟨k - 2, by omega, by omega, hrecent _ (by omega) (by omega),
        hrecent _ (by omega) (by omega), ?_⟩
      rw [show k - 2 + 2 = k by omega]
      exact hk
    · exact (h.three hge).succ

/-- A byte that is no marker, or that the count does not look at. -/
theorem Counted.skip {marks : Nat → Prop} {b k c : Nat} (h : Counted marks b k c) :
    Counted marks b (k + 1) (if c < 3 then 0 else c) := by
  have hle := h.le
  by_cases hc : c < 3
  · rw [if_pos hc]
    exact .zero (by omega)
  · rw [if_neg hc]
    exact ⟨by omega, fun h' => absurd h' hc, fun _ => (h.three (by omega)).succ⟩

/-! ## What a byte does to the protocol -/

namespace Dmg07Protocol

variable {p q : Dmg07Protocol} {o : Dmg07Answer} {i half : Nat}

/-- What a byte of the ping phase leaves alone, and the one bound it keeps. -/
structure PingFrame (p q : Dmg07Protocol) : Prop where
  size : 1 ≤ p.size ∧ p.size ≤ 4 → 1 ≤ q.size ∧ q.size ≤ 4
  requested : q.transmissionRestartRequested = p.transmissionRestartRequested
  count : q.transitionMarkerCount = p.transitionMarkerCount
  phase : q.phase = p.phase

theorem PingFrame.trans {r : Dmg07Protocol} (h : PingFrame p q) (h' : PingFrame q r) :
    PingFrame p r where
  size hp := h'.size (h.size hp)
  requested := h'.requested.trans h.requested
  count := h'.count.trans h.count
  phase := h'.phase.trans h.phase

theorem consumePingResponse_frame (p : Dmg07Protocol) (o : Dmg07Answer) (port : Dmg07Port) :
    PingFrame p (p.consumePingResponse o port) := by
  have hsame : ∀ q : Dmg07Protocol, q.size = p.size →
      q.transmissionRestartRequested = p.transmissionRestartRequested →
      q.transitionMarkerCount = p.transitionMarkerCount → q.phase = p.phase → PingFrame p q :=
    fun q hs hr hc hp => ⟨fun h => by rw [hs]; exact h, hr, hc, hp⟩
  unfold consumePingResponse
  dsimp only
  split
  · split <;> exact hsame _ rfl rfl rfl rfl
  · split <;> exact hsame _ rfl rfl rfl rfl
  · split <;> exact hsame _ rfl rfl rfl rfl
  · split
    · split
      · next hsize => exact ⟨fun _ => hsize, rfl, rfl, rfl⟩
      · exact hsame _ rfl rfl rfl rfl
    · exact hsame _ rfl rfl rfl rfl
  · exact hsame _ rfl rfl rfl rfl

theorem consumePingResponseByte_frame (p : Dmg07Protocol) (o : Dmg07Answer) :
    PingFrame p (p.consumePingResponseByte o) := by
  rw [consumePingResponseByte]
  generalize Dmg07Port.all = ports
  induction ports generalizing p with
  | nil => exact ⟨id, rfl, rfl, rfl⟩
  | cons port ports ih => exact (p.consumePingResponse_frame o port).trans (ih _)

/-- The count after a ping byte. -/
theorem completePingByte_spec (p : Dmg07Protocol) (i : Nat) (o : Dmg07Answer) :
    ∃ c, (o .p1 = some dmg07TransmissionMarker ∧ c = saturatingCount p.transitionMarkerCount ∨
        c = if p.transitionMarkerCount < 3 then 0 else p.transitionMarkerCount) ∧
      (1 ≤ p.size ∧ p.size ≤ 4 →
        1 ≤ (p.completePingByte i o).size ∧ (p.completePingByte i o).size ≤ 4) ∧
      (p.completePingByte i o).transmissionRestartRequested = p.transmissionRestartRequested ∧
      (p.completePingByte i o).transitionMarkerCount = (if i + 1 = 4 then 0 else c) ∧
      (p.completePingByte i o).phase =
        if i + 1 = 4 then if 3 ≤ c then .transmissionIndicator 0 else .ping 0
        else .ping (i + 1) := by
  obtain ⟨r, c, hr, hc, hsize, hreq, hcount⟩ : ∃ r c,
      (if 0 < p.transitionMarkerCount ∨
          (p.pingResponseIndex .p1 = 0 ∧ o .p1 = some dmg07TransmissionMarker) then
        p.trackPingTransitionMarker (o .p1)
      else p.consumePingResponseByte o) = r ∧
      (o .p1 = some dmg07TransmissionMarker ∧ c = saturatingCount p.transitionMarkerCount ∨
        c = if p.transitionMarkerCount < 3 then 0 else p.transitionMarkerCount) ∧
      (1 ≤ p.size ∧ p.size ≤ 4 → 1 ≤ r.size ∧ r.size ≤ 4) ∧
      r.transmissionRestartRequested = p.transmissionRestartRequested ∧
      r.transitionMarkerCount = c := by
    refine ⟨_, _, rfl, ?_, ?_, ?_, rfl⟩
    all_goals split
    · rw [trackPingTransitionMarker]
      split
      · next hmark => exact .inl ⟨hmark, rfl⟩
      · split <;> exact .inr rfl
    · next hnone =>
        have hzero : p.transitionMarkerCount = 0 := by omega
        rw [(p.consumePingResponseByte_frame o).count, hzero]
        exact .inr rfl
    · rw [trackPingTransitionMarker]
      repeat' split
      all_goals exact id
    · exact (p.consumePingResponseByte_frame o).size
    · rw [trackPingTransitionMarker]
      repeat' split
      all_goals rfl
    · exact (p.consumePingResponseByte_frame o).requested
  refine ⟨c, hc, ?_⟩
  subst hcount
  simp only [completePingByte, hr, dmg07PingPacketBytes]
  by_cases hlast : i + 1 = 4
  · rw [if_pos hlast, if_pos hlast, if_pos hlast]
    split <;> exact ⟨hsize, hreq, rfl, rfl⟩
  · rw [if_neg hlast, if_neg hlast, if_neg hlast]
    exact ⟨hsize, hreq, rfl, rfl⟩

/-- The restart count and request after a transmission byte; the first byte of a packet
counts from zero. -/
theorem trackRestartMarker_spec (p : Dmg07Protocol) (i : Nat) (p1Outgoing : Option U8) :
    ∃ c r, p.trackRestartMarker i p1Outgoing =
        { p with restartMarkerCount := c, transmissionRestartRequested := r } ∧
      (p1Outgoing = some dmg07RestartMarker ∧
          c = saturatingCount (if i = 0 then 0 else p.restartMarkerCount) ∨
        c = if (if i = 0 then 0 else p.restartMarkerCount) < 3 then 0
          else if i = 0 then 0 else p.restartMarkerCount) ∧
      (r = true → p.transmissionRestartRequested = true ∨ 3 ≤ c) := by
  obtain ⟨n, hn, hstart⟩ : ∃ n, n = (if i = 0 then 0 else p.restartMarkerCount) ∧
      (if i = 0 then { p with restartMarkerCount := 0 } else p) =
        { p with restartMarkerCount := n } := by
    refine ⟨_, rfl, ?_⟩
    split <;> rfl
  rw [← hn, trackRestartMarker, hstart]
  dsimp only
  split
  · next hmark =>
      split
      · next hthree => exact ⟨_, true, rfl, .inl ⟨hmark, rfl⟩, fun _ => .inr hthree⟩
      · exact ⟨_, _, rfl, .inl ⟨hmark, rfl⟩, .inl⟩
  · split
    · exact ⟨0, _, rfl, .inr rfl, .inl⟩
    · exact ⟨n, _, rfl, .inr rfl, .inl⟩

/-- What of the settings of a session a byte of the transmission phase keeps. -/
structure SameSettings (p q : Dmg07Protocol) : Prop where
  size : p.size = q.size
  rate : p.rate = q.rate
  connected : p.connected = q.connected

theorem SameSettings.refl (p : Dmg07Protocol) : SameSettings p p := ⟨rfl, rfl, rfl⟩

theorem SameSettings.symm (h : SameSettings p q) : SameSettings q p :=
  ⟨h.size.symm, h.rate.symm, h.connected.symm⟩

theorem SameSettings.trans {r : Dmg07Protocol} (h : SameSettings p q) (h' : SameSettings q r) :
    SameSettings p r :=
  ⟨h.size.trans h'.size, h.rate.trans h'.rate, h.connected.trans h'.connected⟩

/-- The byte kept of what a port answered. -/
def capturedByte (p : Dmg07Protocol) (o : Dmg07Answer) (port : Dmg07Port) : U8 :=
  if p.connected port then (o port).getD 0 else 0

/-- What a transmission byte does: the packet goes on, or ends and leaves the half. -/
structure TransmissionStep (p q : Dmg07Protocol) (o : Dmg07Answer) (half i c : Nat)
    (restart : Bool) : Prop where
  settings : SameSettings p q
  transitionMarkerCount : q.transitionMarkerCount = p.transitionMarkerCount
  count : o .p1 = some dmg07RestartMarker ∧
      c = saturatingCount (if i = 0 then 0 else p.restartMarkerCount) ∨
    c = if (if i = 0 then 0 else p.restartMarkerCount) < 3 then 0
      else if i = 0 then 0 else p.restartMarkerCount
  requested : restart = true → p.transmissionRestartRequested = true ∨ 3 ≤ c
  captured : 1 ≤ i → i ≤ p.size → ∀ port : Dmg07Port,
    q.transmissionBuffer.slot? ((1 - half) * 4 + port.index) (i - 1) =
      some (p.capturedByte o port)
  kept : ∀ s j, (j + 1 ≠ i ∨ s < (1 - half) * 4 ∨ (1 - half) * 4 + 4 ≤ s) →
    q.transmissionBuffer.slot? s j = p.transmissionBuffer.slot? s j
  next : i + 1 < p.packetLen → q.phase = .transmission (i + 1) ∧
    q.restartMarkerCount = c ∧ q.transmissionRestartRequested = restart ∧
    q.transmissionBuffer.At q.size half (i + 1)
  last : i + 1 = p.packetLen → q.phase = (if restart then .pingRestartIndicator 0
      else .transmission 0) ∧ q.transmissionRestartRequested = false ∧
    q.transmissionBuffer.At q.size (1 - half) 0

theorem completeTransmissionByte_spec (h : p.transmissionBuffer.At p.size half i)
    (o : Dmg07Answer) :
    ∃ q c r, p.completeTransmissionByte i o = some q ∧ TransmissionStep p q o half i c r := by
  obtain ⟨b, hb, hposition, hcaptured, hkept⟩ := h.capture p.connected o
  obtain ⟨c, r, htrack, hcount, hreq⟩ :=
    trackRestartMarker_spec { p with transmissionBuffer := b } i (o .p1)
  have hadvance := h.advance
  have hadvance' : (b.advance p.size).position = (p.transmissionBuffer.advance p.size).position := by
    simp only [Dmg07TransmissionBuffer.advance, hposition]
  rw [← hadvance'] at hadvance
  rw [completeTransmissionByte, hb]
  dsimp only
  rw [htrack]
  dsimp only
  by_cases hlast : i + 1 = packetLenForSize p.size
  · rw [if_pos hlast] at hadvance ⊢
    have hat : (b.advance p.size).At p.size (1 - half) 0 :=
      ⟨h.size_pos, h.size_le, by omega, by have := h.index_lt; omega, hadvance⟩
    cases r with
    | true =>
        exact ⟨_, c, true, rfl, ⟨rfl, rfl, rfl⟩, rfl, hcount, hreq, hcaptured, hkept,
          fun hlt => absurd hlast (Nat.ne_of_lt hlt), fun _ => ⟨rfl, rfl, hat⟩⟩
    | false =>
        exact ⟨_, c, false, rfl, ⟨rfl, rfl, rfl⟩, rfl, hcount, hreq, hcaptured, hkept,
          fun hlt => absurd hlast (Nat.ne_of_lt hlt), fun _ => ⟨rfl, rfl, hat⟩⟩
  · rw [if_neg hlast] at hadvance ⊢
    have hat : (b.advance p.size).At p.size half (i + 1) :=
      ⟨h.size_pos, h.size_le, h.half_lt, by have := h.index_lt; omega, hadvance⟩
    exact ⟨_, c, r, rfl, ⟨rfl, rfl, rfl⟩, rfl, hcount, hreq, hcaptured, hkept,
      fun _ => ⟨rfl, rfl, rfl, hat⟩, fun hl => absurd hl hlast⟩

end Dmg07Protocol

/-! ## The invariant of a session

`P k` is the protocol while byte `k` is sent and `O k` what the ports answer to it. -/

section Session

variable {P : Nat → Dmg07Protocol} {O : Nat → Dmg07Answer} {k i half : Nat}

def StartMarker (O : Nat → Dmg07Answer) (m : Nat) : Prop :=
  O m .p1 = some dmg07TransmissionMarker

def RestartMarker (O : Nat → Dmg07Answer) (m : Nat) : Prop :=
  O m .p1 = some dmg07RestartMarker

/-- Byte `k` is byte `i` of a ping packet. -/
structure PingByte (P : Nat → Dmg07Protocol) (O : Nat → Dmg07Answer) (k i : Nat) : Prop where
  lt : i < dmg07PingPacketBytes
  le : i ≤ k
  packet : ∀ m ≤ i, (P (k - i + m)).phase = .ping m
  counted : Counted (StartMarker O) (k - i) k (P k).transitionMarkerCount
  noRestart : (P k).transmissionRestartRequested = false

/-- Byte `k` is byte `i` of an indicator. -/
structure IndicatorByte (P : Nat → Dmg07Protocol) (k i : Nat) : Prop where
  lt : i < dmg07IndicatorBytes
  noMarker : (P k).transitionMarkerCount = 0
  noRestart : (P k).transmissionRestartRequested = false

/-- The bytes from `b` to `b + n` are the first ones of a transmission packet. -/
def PacketBytes (P : Nat → Dmg07Protocol) (b n : Nat) : Prop :=
  ∀ m ≤ n, (P (b + m)).phase = .transmission m ∧ (P (b + m)).SameSettings (P b)

/-- What the packet that starts with byte `b` sends in place `r` of a port: what the port
answered to byte `r + 1` of the packet before, and zero if there was none. -/
def SentByte (P : Nat → Dmg07Protocol) (O : Nat → Dmg07Answer) (b : Nat) (port : Dmg07Port)
    (r : Nat) (value : U8) : Prop :=
  (1 ≤ b ∧ (P (b - 1)).phase = .transmissionIndicator 3 ∧ value = 0) ∨
  ((P b).packetLen ≤ b ∧ PacketBytes P (b - (P b).packetLen) ((P b).packetLen - 1) ∧
    (P b).SameSettings (P (b - (P b).packetLen)) ∧
    value = (P b).capturedByte (O (b - (P b).packetLen + r + 1)) port)

/-- Byte `k` is byte `i` of a transmission packet. -/
structure TransmissionByte (P : Nat → Dmg07Protocol) (O : Nat → Dmg07Answer) (k i half : Nat) :
    Prop where
  le : i ≤ k
  packet : PacketBytes P (k - i) i
  noMarker : (P k).transitionMarkerCount = 0
  ring : (P k).transmissionBuffer.At (P k).size half i
  sent : ∀ port : Dmg07Port, ∀ r < (P k).size, ∃ value,
    (P k).transmissionBuffer.slot? (half * 4 + port.index) r = some value ∧
    SentByte P O (k - i) port r value
  captured : ∀ port : Dmg07Port, ∀ r < (P k).size, r + 1 < i →
    (P k).transmissionBuffer.slot? ((1 - half) * 4 + port.index) r =
      some ((P k).capturedByte (O (k - i + r + 1)) port)
  counted : Counted (RestartMarker O) (k - i) k (if i = 0 then 0 else (P k).restartMarkerCount)
  requested : (P k).transmissionRestartRequested = true → ThreeInARow (RestartMarker O) (k - i) k

def PhaseByte (P : Nat → Dmg07Protocol) (O : Nat → Dmg07Answer) (k : Nat) :
    Dmg07ProtocolPhase → Prop
  | .ping i => PingByte P O k i
  | .transmissionIndicator i => IndicatorByte P k i
  | .transmission i => ∃ half, TransmissionByte P O k i half
  | .pingRestartIndicator i => IndicatorByte P k i

/-- The invariant of every byte of a session. -/
structure Dmg07Inv (P : Nat → Dmg07Protocol) (O : Nat → Dmg07Answer) (k : Nat) : Prop where
  size : 1 ≤ (P k).size ∧ (P k).size ≤ 4
  phase : PhaseByte P O k (P k).phase

theorem Dmg07Inv.of_phase {n : Dmg07ProtocolPhase} (hsize : 1 ≤ (P k).size ∧ (P k).size ≤ 4)
    (hphase : (P k).phase = n) (h : PhaseByte P O k n) : Dmg07Inv P O k :=
  ⟨hsize, hphase ▸ h⟩

theorem Dmg07Inv.at_phase {n : Dmg07ProtocolPhase} (h : Dmg07Inv P O k)
    (hphase : (P k).phase = n) : PhaseByte P O k n :=
  hphase ▸ h.phase

theorem PingByte.first (hphase : (P k).phase = .ping 0) (hcount : (P k).transitionMarkerCount = 0)
    (hrestart : (P k).transmissionRestartRequested = false) : PingByte P O k 0 where
  lt := by decide
  le := Nat.zero_le k
  packet m hm := by
    rw [Nat.le_zero.mp hm]
    exact hphase
  counted := by
    rw [hcount]
    exact .zero (Nat.le_refl k)
  noRestart := hrestart

theorem Dmg07Inv.zero (h : P 0 = .new) : Dmg07Inv P O 0 := by
  refine .of_phase (n := .ping 0) ?_ ?_ (.first ?_ ?_ ?_) <;> rw [h]
  · decide
  all_goals rfl

/-- Every byte of the protocol is completed: no index is out of range. -/
theorem Dmg07Inv.total (h : Dmg07Inv P O k) (o : Dmg07Answer) :
    ∃ q, (P k).completeByte o = some q := by
  rw [Dmg07Protocol.completeByte, Dmg07Protocol.completePhaseByte]
  cases hphase : (P k).phase with
  | transmission i =>
      obtain ⟨half, ht⟩ := h.at_phase hphase
      obtain ⟨q, c, r, hq, _⟩ := Dmg07Protocol.completeTransmissionByte_spec ht.ring o
      exact ⟨_, by simp only [hq]; rfl⟩
  | ping i => exact ⟨_, rfl⟩
  | transmissionIndicator i => exact ⟨_, rfl⟩
  | pingRestartIndicator i => exact ⟨_, rfl⟩

theorem Dmg07Protocol.completeByte_eq_some {p q : Dmg07Protocol} {o : Dmg07Answer}
    (h : p.completeByte o = some q) : ∃ r, p.completePhaseByte o = some r ∧
      q = { r with delayAfterCompletedByteTCycles := r.delayAfterCompletedPhaseTCycles p.phase } := by
  rw [completeByte, Option.map_eq_some_iff] at h
  obtain ⟨r, hr, rfl⟩ := h
  exact ⟨r, hr, rfl⟩

/-- What a ping byte leaves. -/
theorem PingByte.step (h : PingByte P O k i) (hphase : (P k).phase = .ping i)
    (hstep : (P k).completeByte (O k) = some (P (k + 1))) :
    ∃ c, Counted (StartMarker O) (k - i) (k + 1) c ∧
      (1 ≤ (P k).size ∧ (P k).size ≤ 4 → 1 ≤ (P (k + 1)).size ∧ (P (k + 1)).size ≤ 4) ∧
      (P (k + 1)).transmissionRestartRequested = false ∧
      (P (k + 1)).transitionMarkerCount = (if i + 1 = 4 then 0 else c) ∧
      (P (k + 1)).phase = if i + 1 = 4 then if 3 ≤ c then .transmissionIndicator 0 else .ping 0
        else .ping (i + 1) := by
  obtain ⟨r, hr, hnext⟩ := Dmg07Protocol.completeByte_eq_some hstep
  rw [Dmg07Protocol.completePhaseByte, hphase, Option.some_inj] at hr
  obtain ⟨c, hc, hsize, hreq, hcount, hnextPhase⟩ := (P k).completePingByte_spec i (O k)
  rw [hr] at hsize hreq hcount hnextPhase
  refine ⟨c, ?_, ?_, ?_, ?_, ?_⟩
  · rcases hc with ⟨hmark, rfl⟩ | rfl
    · exact h.counted.mark hmark
    · exact h.counted.skip
  all_goals rw [hnext]
  · exact hsize
  · exact hreq.trans h.noRestart
  · exact hcount
  · exact hnextPhase

theorem Dmg07Inv.succ_ping (h : Dmg07Inv P O k) (hphase : (P k).phase = .ping i)
    (hstep : (P k).completeByte (O k) = some (P (k + 1))) : Dmg07Inv P O (k + 1) := by
  have hping : PingByte P O k i := h.at_phase hphase
  obtain ⟨c, hcounted, hsize, hrestart', hcount', hphase'⟩ := hping.step hphase hstep
  obtain ⟨hlt, hle, hpacket, -, -⟩ := hping
  by_cases hlast : i + 1 = 4
  · rw [if_pos hlast] at hphase' hcount'
    by_cases hthree : 3 ≤ c
    · rw [if_pos hthree] at hphase'
      exact .of_phase (hsize h.size) hphase' ⟨by decide, hcount', hrestart'⟩
    · rw [if_neg hthree] at hphase'
      exact .of_phase (hsize h.size) hphase' (.first hphase' hcount' hrestart')
  · rw [if_neg hlast] at hphase' hcount'
    have hstart : k + 1 - (i + 1) = k - i := by omega
    refine .of_phase (hsize h.size) hphase' ⟨?_, by omega, fun m hm => ?_, ?_, hrestart'⟩
    · rw [dmg07PingPacketBytes] at hlt ⊢
      omega
    · rw [hstart]
      rcases Nat.lt_or_ge m (i + 1) with hm' | hm'
      · exact hpacket m (by omega)
      · rw [show k - i + m = k + 1 by omega, show m = i + 1 by omega]
        exact hphase'
    · rw [hstart, hcount']
      exact hcounted

theorem Dmg07Inv.succ_indicator (h : Dmg07Inv P O k)
    (hphase : (P k).phase = .transmissionIndicator i)
    (hstep : (P k).completeByte (O k) = some (P (k + 1))) : Dmg07Inv P O (k + 1) := by
  obtain ⟨hlt, hcount, hrestart⟩ := h.at_phase hphase
  obtain ⟨r, hr, hnext⟩ := Dmg07Protocol.completeByte_eq_some hstep
  rw [Dmg07Protocol.completePhaseByte, hphase, Option.some_inj] at hr
  subst hr
  by_cases hlast : i + 1 = dmg07IndicatorBytes
  · rw [Dmg07Protocol.completeTransmissionIndicatorByte, if_pos hlast] at hnext
    have hphase' : (P (k + 1)).phase = .transmission 0 := by rw [hnext]
    have hsize' : (P (k + 1)).size = (P k).size := by rw [hnext]
    have hbuffer : (P (k + 1)).transmissionBuffer = .new := by
      rw [hnext]
      rfl
    have hrestart' : (P (k + 1)).transmissionRestartRequested = false := by
      rw [hnext]
      exact hrestart
    have hbounds := h.size
    rw [← hsize'] at hbounds
    refine .of_phase hbounds hphase' ⟨0, Nat.zero_le _, fun m hm => ?_, ?_, ?_, ?_, ?_, ?_, ?_⟩
    · rw [Nat.le_zero.mp hm]
      exact ⟨hphase', .refl _⟩
    · rw [hnext]
      exact hcount
    · rw [hbuffer]
      exact ⟨hbounds.1, hbounds.2, by decide, by rw [packetLenForSize]; omega, by
        rw [Nat.zero_mul]
        rfl⟩
    · intro port n hn
      have hport := port.index_lt
      refine ⟨0, ?_, .inl ⟨by omega, ?_, rfl⟩⟩
      · rw [hbuffer, Dmg07TransmissionBuffer.slot?, dif_pos (by omega)]
        rfl
      · rw [dmg07IndicatorBytes] at hlast
        rw [Nat.sub_zero, Nat.add_sub_cancel, hphase, show i = 3 by omega]
    · intro port n hn hlt'
      omega
    · rw [if_pos rfl]
      exact .zero (Nat.le_refl _)
    · intro hreq
      rw [hrestart'] at hreq
      cases hreq
  · rw [Dmg07Protocol.completeTransmissionIndicatorByte, if_neg hlast] at hnext
    have hphase' : (P (k + 1)).phase = .transmissionIndicator (i + 1) := by rw [hnext]
    refine .of_phase ?_ hphase' ⟨by omega, ?_, ?_⟩ <;> rw [hnext]
    · exact h.size
    · exact hcount
    · exact hrestart

theorem Dmg07Inv.succ_restart (h : Dmg07Inv P O k)
    (hphase : (P k).phase = .pingRestartIndicator i)
    (hstep : (P k).completeByte (O k) = some (P (k + 1))) : Dmg07Inv P O (k + 1) := by
  obtain ⟨hlt, hcount, hrestart⟩ := h.at_phase hphase
  obtain ⟨r, hr, hnext⟩ := Dmg07Protocol.completeByte_eq_some hstep
  rw [Dmg07Protocol.completePhaseByte, hphase, Option.some_inj] at hr
  subst hr
  by_cases hlast : i + 1 = dmg07IndicatorBytes
  · rw [Dmg07Protocol.completePingRestartIndicatorByte, if_pos hlast] at hnext
    have hphase' : (P (k + 1)).phase = .ping 0 := by rw [hnext]
    refine .of_phase ?_ hphase' (.first hphase' ?_ ?_) <;> rw [hnext]
    · exact h.size
    · exact hcount
    · exact hrestart
  · rw [Dmg07Protocol.completePingRestartIndicatorByte, if_neg hlast] at hnext
    have hphase' : (P (k + 1)).phase = .pingRestartIndicator (i + 1) := by rw [hnext]
    refine .of_phase ?_ hphase' ⟨by omega, ?_, ?_⟩ <;> rw [hnext]
    · exact h.size
    · exact hcount
    · exact hrestart

theorem PacketBytes.succ {b : Nat} (h : PacketBytes P b i)
    (hphase : (P (b + i + 1)).phase = .transmission (i + 1))
    (hsettings : (P (b + i)).SameSettings (P (b + i + 1))) : PacketBytes P b (i + 1) := by
  intro m hm
  rcases Nat.lt_or_ge m (i + 1) with hlt | hge
  · exact h m (by omega)
  · obtain rfl : m = i + 1 := by omega
    have hlast := (h i (Nat.le_refl i)).2
    exact ⟨hphase, hsettings.symm.trans hlast⟩

/-- What `TransmissionStep` says of a byte, said of the session. -/
theorem TransmissionByte.step (h : TransmissionByte P O k i half)
    (hphase : (P k).phase = .transmission i)
    (hstep : (P k).completeByte (O k) = some (P (k + 1))) :
    ∃ c r, Dmg07Protocol.TransmissionStep (P k) (P (k + 1)) (O k) half i c r := by
  obtain ⟨q, hq, hnext⟩ := Dmg07Protocol.completeByte_eq_some hstep
  rw [Dmg07Protocol.completePhaseByte, hphase] at hq
  obtain ⟨q', c, r, hq', hspec⟩ := Dmg07Protocol.completeTransmissionByte_spec h.ring (O k)
  obtain rfl := Option.some_inj.mp (hq.symm.trans hq')
  refine ⟨c, r, ?_⟩
  rw [hnext]
  obtain ⟨h1, h2, h3, h4, h5, h6, h7, h8⟩ := hspec
  exact ⟨⟨h1.size, h1.rate, h1.connected⟩, h2, h3, h4, h5, h6, h7, h8⟩

theorem TransmissionByte.counted_succ {c : Nat} {r : Bool}
    (h : TransmissionByte P O k i half)
    (hstep : Dmg07Protocol.TransmissionStep (P k) (P (k + 1)) (O k) half i c r) :
    Counted (RestartMarker O) (k - i) (k + 1) c ∧
      (r = true → ThreeInARow (RestartMarker O) (k - i) (k + 1)) := by
  have hcounted : Counted (RestartMarker O) (k - i) (k + 1) c := by
    rcases hstep.count with ⟨hmark, rfl⟩ | rfl
    · exact h.counted.mark hmark
    · exact h.counted.skip
  refine ⟨hcounted, fun hr => ?_⟩
  rcases hstep.requested hr with hreq | hthree
  · exact (h.requested hreq).succ
  · exact hcounted.three hthree

/-- After byte `i` the other half holds what the ports answered up to it. -/
theorem TransmissionByte.captured_succ {c : Nat} {r : Bool}
    (h : TransmissionByte P O k i half)
    (hstep : Dmg07Protocol.TransmissionStep (P k) (P (k + 1)) (O k) half i c r)
    (port : Dmg07Port) {n : Nat} (hn : n < (P k).size) (hle : n + 1 ≤ i) :
    (P (k + 1)).transmissionBuffer.slot? ((1 - half) * 4 + port.index) n =
      some ((P (k + 1)).capturedByte (O (k - i + n + 1)) port) := by
  have hconnected : (P (k + 1)).capturedByte = (P k).capturedByte := by
    funext o port
    rw [Dmg07Protocol.capturedByte, Dmg07Protocol.capturedByte, hstep.settings.connected]
  rw [hconnected]
  rcases Nat.lt_or_ge (n + 1) i with hlt | hge
  · rw [hstep.kept _ _ (.inl (by omega))]
    exact h.captured port n hn hlt
  · have hle' := h.le
    obtain rfl : i = n + 1 := by omega
    rw [show k - (n + 1) + n + 1 = k by omega]
    exact hstep.captured (by omega) hn port

theorem Dmg07Inv.succ_transmission (h : Dmg07Inv P O k) (hphase : (P k).phase = .transmission i)
    (hstep : (P k).completeByte (O k) = some (P (k + 1))) : Dmg07Inv P O (k + 1) := by
  obtain ⟨half, ht⟩ := h.at_phase hphase
  obtain ⟨c, r, hspec⟩ := ht.step hphase hstep
  obtain ⟨hcounted, hthree⟩ := ht.counted_succ hspec
  have hcaptured := ht.captured_succ hspec
  have hle := ht.le
  have hsame := hspec.settings
  have hhalf := ht.ring.half_lt
  have hlt : i < (P k).packetLen := ht.ring.index_lt
  have hbounds : 1 ≤ (P (k + 1)).size ∧ (P (k + 1)).size ≤ 4 := hsame.size ▸ h.size
  have hmarker : (P (k + 1)).transitionMarkerCount = 0 :=
    hspec.transitionMarkerCount.trans ht.noMarker
  by_cases hlast : i + 1 = (P k).packetLen
  · obtain ⟨hphase', hrestart', hring⟩ := hspec.last hlast
    cases r with
    | true => exact .of_phase hbounds hphase' ⟨by decide, hmarker, hrestart'⟩
    | false =>
        have hlen : (P (k + 1)).packetLen = i + 1 := by
          rw [hlast, Dmg07Protocol.packetLen, Dmg07Protocol.packetLen, hsame.size]
        have hstart : k + 1 - (i + 1) = k - i := by omega
        have hfirst := (ht.packet i (Nat.le_refl i)).2
        rw [show k - i + i = k by omega] at hfirst
        refine .of_phase hbounds hphase' ⟨1 - half, Nat.zero_le _, fun m hm => ?_, hmarker, hring,
          fun port n hn => ?_, fun port n hn hlt' => absurd hlt' (by omega), ?_, fun hreq => ?_⟩
        · rw [Nat.le_zero.mp hm]
          exact ⟨hphase', .refl _⟩
        · rw [← hsame.size] at hn
          refine ⟨_, hcaptured port hn ?_, .inr ?_⟩
          · rw [Dmg07Protocol.packetLen, packetLenForSize] at hlast
            omega
          · rw [Nat.sub_zero, hlen, hstart, Nat.add_sub_cancel]
            exact ⟨by omega, ht.packet, hsame.symm.trans hfirst, rfl⟩
        · rw [if_pos rfl]
          exact .zero (by omega)
        · rw [hrestart'] at hreq
          cases hreq
  · obtain ⟨hphase', hcount', hrestart', hring⟩ := hspec.next (by omega)
    have hstart : k + 1 - (i + 1) = k - i := by omega
    have hk : k - i + i = k := by omega
    refine .of_phase hbounds hphase' ⟨half, by omega, ?_, hmarker, hring, fun port n hn => ?_,
      fun port n hn hlt' => ?_, ?_, fun hreq => ?_⟩ <;> rw [hstart]
    · refine ht.packet.succ ?_ ?_ <;> rw [hk]
      · exact hphase'
      · exact hsame
    · rw [← hsame.size] at hn
      obtain ⟨value, hslot, hsent⟩ := ht.sent port n hn
      refine ⟨value, ?_, hsent⟩
      have hport := port.index_lt
      rw [hspec.kept _ _ (.inr (by omega))]
      exact hslot
    · rw [← hsame.size] at hn
      exact hcaptured port hn (by omega)
    · rw [if_neg (Nat.succ_ne_zero i), hcount']
      exact hcounted
    · exact hthree (hrestart' ▸ hreq)

/-- Every byte keeps the invariant. -/
theorem Dmg07Inv.succ (h : Dmg07Inv P O k)
    (hstep : (P k).completeByte (O k) = some (P (k + 1))) : Dmg07Inv P O (k + 1) := by
  cases hphase : (P k).phase with
  | ping i => exact h.succ_ping hphase hstep
  | transmissionIndicator i => exact h.succ_indicator hphase hstep
  | transmission i => exact h.succ_transmission hphase hstep
  | pingRestartIndicator i => exact h.succ_restart hphase hstep

/-! ## What the invariant says of a byte -/

/-- Every port is handed the same byte, from the slot of the port whose place it is. -/
theorem TransmissionByte.incomingByteFor (h : TransmissionByte P O k i half)
    (hphase : (P k).phase = .transmission i) :
    ∃ value, (∀ port, (P k).incomingByteFor port = some value) ∧
      (∃ port : Dmg07Port, port.index = i / (P k).size) ∧
      ∀ port : Dmg07Port, port.index = i / (P k).size →
        SentByte P O (k - i) port (i % (P k).size) value := by
  have hpos := h.ring.size_pos
  have hlt := h.ring.index_lt
  obtain ⟨port, hport⟩ : ∃ port : Dmg07Port, port.index = i / (P k).size := by
    have hdiv : i / (P k).size < 4 := by
      rw [packetLenForSize] at hlt
      exact Nat.div_lt_of_lt_mul hlt
    generalize i / (P k).size = n at hdiv
    interval_cases n
    exacts [⟨.p1, rfl⟩, ⟨.p2, rfl⟩, ⟨.p3, rfl⟩, ⟨.p4, rfl⟩]
  obtain ⟨value, hslot, hsent⟩ := h.sent port (i % (P k).size) (Nat.mod_lt _ hpos)
  refine ⟨value, fun port' => ?_, ⟨port, hport⟩, fun port' hport' => ?_⟩
  · rw [Dmg07Protocol.incomingByteFor, hphase]
    show (P k).transmissionBuffer.currentByte (P k).size = some value
    rw [h.ring.currentByte, ← hport]
    exact hslot
  · rw [Dmg07Port.index_inj (hport'.trans hport.symm)]
    exact hsent

theorem Dmg07Inv.incomingByteFor (h : Dmg07Inv P O k) (port : Dmg07Port) :
    ((P k).incomingByteFor port).isSome = true := by
  cases hphase : (P k).phase with
  | transmission i =>
      obtain ⟨half, ht⟩ := h.at_phase hphase
      obtain ⟨value, hvalue, -⟩ := ht.incomingByteFor hphase
      rw [hvalue port]
      rfl
  | ping i =>
      rw [Dmg07Protocol.incomingByteFor, hphase]
      cases i <;> rfl
  | transmissionIndicator i =>
      rw [Dmg07Protocol.incomingByteFor, hphase]
      rfl
  | pingRestartIndicator i =>
      rw [Dmg07Protocol.incomingByteFor, hphase]
      rfl

/-- The position in the ring is the byte's place in its packet. -/
theorem TransmissionByte.position (h : TransmissionByte P O k i half) :
    i < (P k).packetLen ∧ (P k).transmissionBuffer.position % (P k).packetLen = i ∧
      (P k).transmissionBuffer.position < ringLenForSize (P k).size := by
  obtain ⟨hpos, hle, hhalf, hlt, hposition⟩ := h.ring
  refine ⟨hlt, ?_, ?_⟩
  · rw [hposition, Nat.mul_comm]
    exact (Nat.mul_add_mod _ _ _).trans (Nat.mod_eq_of_lt hlt)
  · rw [hposition, ringLenForSize]
    have := Nat.mul_le_mul_right (packetLenForSize (P k).size) (Nat.le_of_lt_succ hhalf)
    omega

/-- The ping phase ends with the last byte of a packet, after three start bytes of it in a
row. -/
theorem PingByte.leave (h : PingByte P O k i) (hphase : (P k).phase = .ping i)
    (hstep : (P k).completeByte (O k) = some (P (k + 1)))
    (hleave : ∀ j, (P (k + 1)).phase ≠ .ping j) :
    i = 3 ∧ (P (k + 1)).phase = .transmissionIndicator 0 ∧
      ThreeInARow (StartMarker O) (k - i) (k + 1) := by
  obtain ⟨c, hcounted, -, -, -, hphase'⟩ := h.step hphase hstep
  by_cases hlast : i + 1 = 4
  · rw [if_pos hlast] at hphase'
    by_cases hthree : 3 ≤ c
    · rw [if_pos hthree] at hphase'
      exact ⟨by omega, hphase', hcounted.three hthree⟩
    · rw [if_neg hthree] at hphase'
      exact absurd hphase' (hleave 0)
  · rw [if_neg hlast] at hphase'
    exact absurd hphase' (hleave _)

/-- The transmission phase ends with the last byte of a packet, after three restart bytes of
it in a row. -/
theorem TransmissionByte.leave (h : TransmissionByte P O k i half)
    (hphase : (P k).phase = .transmission i)
    (hstep : (P k).completeByte (O k) = some (P (k + 1)))
    (hleave : ∀ j, (P (k + 1)).phase ≠ .transmission j) :
    i + 1 = (P k).packetLen ∧ (P (k + 1)).phase = .pingRestartIndicator 0 ∧
      ThreeInARow (RestartMarker O) (k - i) (k + 1) := by
  obtain ⟨c, r, hspec⟩ := h.step hphase hstep
  have hlt : i < (P k).packetLen := h.ring.index_lt
  by_cases hlast : i + 1 = (P k).packetLen
  · obtain ⟨hphase', -, -⟩ := hspec.last hlast
    cases r with
    | true => exact ⟨hlast, hphase', (h.counted_succ hspec).2 rfl⟩
    | false => exact absurd hphase' (hleave 0)
  · exact absurd (hspec.next (by omega)).1 (hleave _)

/-- Where the bytes of an indicator and of a transmission packet come from. -/
theorem Dmg07Inv.phase_before (h : Dmg07Inv P O k)
    (hstep : (P k).completeByte (O k) = some (P (k + 1))) :
    (∀ i, (P (k + 1)).phase = .transmissionIndicator i →
      (P k).phase = .ping 3 ∧ i = 0 ∨ ∃ j, (P k).phase = .transmissionIndicator j ∧ i = j + 1) ∧
    (∀ i, (P (k + 1)).phase = .transmission i →
      (P k).phase = .transmissionIndicator 3 ∧ i = 0 ∨ ∃ j, (P k).phase = .transmission j) := by
  cases hphase : (P k).phase with
  | ping j =>
      have hping : PingByte P O k j := h.at_phase hphase
      have hleave := hping.leave hphase hstep
      refine ⟨fun i hi => ?_, fun i hi => ?_⟩
      · obtain ⟨rfl, hnext, -⟩ := hleave (by simp [hi])
        rw [hi] at hnext
        cases hnext
        exact .inl ⟨rfl, rfl⟩
      · obtain ⟨-, hnext, -⟩ := hleave (by simp [hi])
        rw [hi] at hnext
        cases hnext
  | transmissionIndicator j =>
      obtain ⟨r, hr, hnext⟩ := Dmg07Protocol.completeByte_eq_some hstep
      rw [Dmg07Protocol.completePhaseByte, hphase, Option.some_inj] at hr
      subst hr
      by_cases hlast : j + 1 = dmg07IndicatorBytes
      · rw [Dmg07Protocol.completeTransmissionIndicatorByte, if_pos hlast] at hnext
        have hphase' : (P (k + 1)).phase = .transmission 0 := by rw [hnext]
        rw [dmg07IndicatorBytes] at hlast
        obtain rfl : j = 3 := by omega
        refine ⟨fun i hi => ?_, fun i hi => .inl ⟨rfl, ?_⟩⟩ <;> rw [hphase'] at hi
        · cases hi
        · exact (Dmg07ProtocolPhase.transmission.inj hi).symm
      · rw [Dmg07Protocol.completeTransmissionIndicatorByte, if_neg hlast] at hnext
        have hphase' : (P (k + 1)).phase = .transmissionIndicator (j + 1) := by rw [hnext]
        refine ⟨fun i hi => .inr ⟨j, rfl, ?_⟩, fun i hi => ?_⟩ <;> rw [hphase'] at hi
        · exact (Dmg07ProtocolPhase.transmissionIndicator.inj hi).symm
        · cases hi
  | transmission j =>
      obtain ⟨half, ht⟩ := h.at_phase hphase
      refine ⟨fun i hi => ?_, fun i _ => .inr ⟨j, rfl⟩⟩
      obtain ⟨-, hnext, -⟩ := ht.leave hphase hstep (by simp [hi])
      rw [hi] at hnext
      cases hnext
  | pingRestartIndicator j =>
      obtain ⟨r, hr, hnext⟩ := Dmg07Protocol.completeByte_eq_some hstep
      rw [Dmg07Protocol.completePhaseByte, hphase, Option.some_inj] at hr
      subst hr
      rw [Dmg07Protocol.completePingRestartIndicatorByte] at hnext
      refine ⟨fun i hi => ?_, fun i hi => ?_⟩ <;> rw [hnext] at hi <;> split at hi <;> cases hi

end Session

end GbCycle
