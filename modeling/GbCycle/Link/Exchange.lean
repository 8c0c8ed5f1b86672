import GbCycle.Link.Transfer

/-!
# The byte exchange over the cable

One console has started a transfer with its own clock, the other one with the external
clock, and nothing is shifted yet.  From here the master's clock decides alone: each of its
edges queues a pulse for the other console and moves both units on by one bit, and the
eighth edge ends both transfers with the bytes exchanged.  The programs may do what they
like except write `SB` or `SC` or stop their machine.
-/

namespace GbCycle

namespace Endpoint

variable {π : Type} {e : Endpoint π} {c : EndpointCycle} {bits : Nat} {own other : U8}

/-! ## What the cable reads -/

theorem Transferring.master (h : e.Transferring .internal bits own other)
    (hstop : c.stopActive = false) :
    (e.dmg04EndpointState c).internalClockEdgePending =
        e.serial.internalClockEdgePendingThisTCycleForSpeed c.speed ∧
      (e.dmg04EndpointState c).waitingForExternalClock = false := by
  simp [dmg04EndpointState, h.linked.attached, h.serial.requested, h.serial.clockMode, hstop,
    SerialTransferState.isRequested]

/-- The clock falls with the slowest bit at the latest. -/
theorem Transferring.edge_of_slowest (h : e.Transferring .internal bits own other)
    (hstop : c.stopActive = false) (hslow : (e.serial.clockCounter.toNat + 1) % 512 = 0) :
    (e.dmg04EndpointState c).internalClockEdgePending = true := by
  have hperiod := (serialInternalClockPeriod_dvd c.speed e.serial.cgbHighSpeedClock).trans
    (Nat.dvd_of_mod_eq_zero hslow)
  rw [(h.master hstop).1, Serial.internalClockEdgePendingThisTCycleForSpeed, h.serial.clockMode,
    h.serial.requested, serialInternalClockEdge_eq,
    decide_eq_true (Nat.mod_eq_zero_of_dvd hperiod)]
  rfl

theorem Transferring.slave (h : e.Transferring .external bits own other)
    (hstop : c.stopActive = false) :
    (e.dmg04EndpointState c).internalClockEdgePending = false ∧
      (e.dmg04EndpointState c).waitingForExternalClock = true ∧
      e.serial.internalClockEdgePendingThisTCycleForSpeed c.speed = false := by
  simp [dmg04EndpointState, h.linked.attached, h.serial.requested, h.serial.clockMode, hstop,
    SerialTransferState.isRequested, Serial.internalClockEdgePendingThisTCycleForSpeed]

theorem Finished.inactive (h : e.Finished other) (c : EndpointCycle) :
    (e.dmg04EndpointState c).internalClockEdgePending = false ∧
      (e.dmg04EndpointState c).waitingForExternalClock = false := by
  simp [dmg04EndpointState, h.serial.idle, SerialTransferState.isRequested]

end Endpoint

namespace LinkedPair

variable {π : Type} [PrinterDevice π]

/-! ## Each side of a shared cycle -/

theorem get_advance (x : LinkedPair π) (c : PairCycle) (side : Side) :
    (x.advanceTCycle c).get side =
      (x.get side).advance (c.get side) (x.clocked c side) (x.incomingByte c side) := by
  rw [get_advanceTCycle, get_prepared, Endpoint.advance]

theorem interruptRequest_eq (x : LinkedPair π) (c : PairCycle) (side : Side) :
    x.interruptRequest c side =
      (((x.get side).received (c.get side) (x.clocked c side)
        (x.incomingByte c side)).tickSerial (c.get side)).2 := by
  rw [interruptRequest, get_prepared]

/-- Both consoles are on the cable and no clock pulse is queued anywhere. -/
def Linked (x : LinkedPair π) : Prop := ∀ side, (x.get side).Linked

omit [PrinterDevice π] in
theorem clockable_of_clocked {x : LinkedPair π} {c : PairCycle} {side : Side}
    (h : x.clocked c side = true) : (x.get side).Clockable (c.get side) := by
  simp only [clocked, waiting, Endpoint.dmg04EndpointState, Bool.and_eq_true] at h
  obtain ⟨-, ⟨⟨-, hreq⟩, hstop⟩, hmode⟩ := h
  exact ⟨by simpa using hstop,
    by rw [Serial.acceptsExternalClockPulse, hmode, hreq]; rfl⟩

/-- Every cycle, whatever the programs write, ends with no pulse queued. -/
theorem Linked.advance {x : LinkedPair π} (h : x.Linked) (c : PairCycle) :
    (x.advanceTCycle c).Linked := by
  intro side
  rw [get_advance]
  exact (h side).advance clockable_of_clocked

theorem Linked.run {x : LinkedPair π} (h : x.Linked) (cs : List PairCycle) :
    (x.run cs).Linked := by
  induction cs generalizing x with
  | nil => exact h
  | cons c cs ih => exact ih (h.advance c)

/-- Plugging the cable in links two consoles nobody has queued a pulse for. -/
theorem linked_attachDmg04Cable {x : LinkedPair π}
    (hevent : ∀ side, (x.get side).externalSerialClockPulsesPending = 0)
    (hpulse : ∀ side, (x.get side).serial.externalClockPulsesPending = 0) :
    x.attachDmg04Cable.Linked := by
  intro side
  cases side with
  | left => exact ⟨rfl, hevent .left, hpulse .left⟩
  | right => exact ⟨rfl, hevent .right, hpulse .right⟩

/-! ## The byte a program last wrote -/

def sbWrites (side : Side) (cs : List PairCycle) : List U8 :=
  cs.flatMap fun c => (c.get side).writes.filterMap SerialWrite.sb?

/-- The byte the program on that side last wrote to `SB`, in the run or before it. -/
def lastSb (x : LinkedPair π) (cs : List PairCycle) (side : Side) : U8 :=
  (sbWrites side cs).getLastD (x.get side).serial.stagedOutgoingByte

theorem staged_run {x : LinkedPair π} (h : x.Linked) (cs : List PairCycle) (side : Side) :
    ((x.run cs).get side).serial.stagedOutgoingByte = lastSb x cs side := by
  induction cs generalizing x with
  | nil => rfl
  | cons c cs ih =>
      rw [run, ih (h.advance c), lastSb, lastSb, get_advance,
        Endpoint.advance_staged (h side) clockable_of_clocked, sbWrites, sbWrites, List.flatMap_cons]
      generalize (c.get side).writes.filterMap SerialWrite.sb? = written
      generalize (x.get side).serial.stagedOutgoingByte = staged
      induction written generalizing staged with
      | nil => rfl
      | cons v written ih => rw [List.cons_append, List.getLastD_cons, List.getLastD_cons, ih]

/-! ## The transfer of both bytes -/

/-- After `bits` edges of the master's clock the master, which sends `a`, and the other
console, which sends `b`, have shifted that many bits; after eight they are done. -/
def Progress (master : Side) (a b : U8) (bits : Nat) (x : LinkedPair π) : Prop :=
  bits < 8 ∧ (x.get master).Transferring .internal bits a b ∧
    (x.get master.other).Transferring .external bits b a ∨
  bits = 8 ∧ (x.get master).Finished b ∧ (x.get master.other).Finished a

/-- Neither program writes `SB` or `SC` or stops its machine in the cycle. -/
def Quiet (c : PairCycle) : Prop := ∀ side, (c.get side).Quiet

/-- What a cycle's edge of the master's clock, or its absence, does to both consoles. -/
structure Step (master : Side) (a b : U8) (bits : Nat) (x : LinkedPair π) (c : PairCycle) :
    Prop where
  progress : Progress master a b (bits + (x.clockEdge c master).toNat) (x.advanceTCycle c)
  requests : ∀ side, x.interruptRequest c side =
    if x.clockEdge c master = true ∧ bits = 7 then some .serial else none

theorem forall_side {P : Side → Prop} (master : Side) (h : P master) (h' : P master.other) :
    ∀ side, P side := by
  intro side
  cases master <;> cases side <;> assumption

variable {master : Side} {a b : U8} {bits : Nat} {x : LinkedPair π} {c : PairCycle}

/-- The step of the pair, from what each end does with what the cable hands it. -/
theorem step_of_ends {pulse pulse' : Bool} {request : Option InterruptSource}
    (hclocked : x.clocked c master = pulse) (hclocked' : x.clocked c master.other = pulse')
    (hends : bits + (x.clockEdge c master).toNat < 8 ∧
        ((x.get master).advance (c.get master) pulse (x.incomingByte c master)).Transferring
          .internal (bits + (x.clockEdge c master).toNat) a b ∧
        ((x.get master.other).advance (c.get master.other) pulse'
          (x.incomingByte c master.other)).Transferring
          .external (bits + (x.clockEdge c master).toNat) b a ∨
      bits + (x.clockEdge c master).toNat = 8 ∧
        ((x.get master).advance (c.get master) pulse (x.incomingByte c master)).Finished b ∧
        ((x.get master.other).advance (c.get master.other) pulse'
          (x.incomingByte c master.other)).Finished a)
    (hreq : (((x.get master).received (c.get master) pulse
      (x.incomingByte c master)).tickSerial (c.get master)).2 = request)
    (hreq' : (((x.get master.other).received (c.get master.other) pulse'
      (x.incomingByte c master.other)).tickSerial (c.get master.other)).2 = request)
    (hrequest : request = if x.clockEdge c master = true ∧ bits = 7 then some .serial else none) :
    Step master a b bits x c := by
  subst hclocked hclocked'
  constructor
  · rw [Progress, get_advance, get_advance]
    exact hends
  · rw [← hrequest]
    refine forall_side master ?_ ?_
    · rw [interruptRequest_eq, hreq]
    · rw [interruptRequest_eq, hreq']

/-- Between two edges of the master's clock nothing moves. -/
theorem step_of_noEdge (hbits : bits < 8)
    (hm : (x.get master).Transferring .internal bits a b)
    (hs : (x.get master.other).Transferring .external bits b a) (hquiet : Quiet c)
    (hedge : x.clockEdge c master = false) : Step master a b bits x c := by
  obtain ⟨hfall, hwait⟩ := hm.master (hquiet master).1
  obtain ⟨-, -, hfall'⟩ := hs.slave (hquiet master.other).1
  obtain ⟨hnext, hreq⟩ := hm.hold (hquiet master) (hfall.symm.trans hedge)
  obtain ⟨hnext', hreq'⟩ := hs.hold (hquiet master.other) hfall'
  refine step_of_ends ?_ ?_ (.inl ?_) hreq hreq' ?_
  · rw [clocked, waiting, hwait, Bool.and_false]
  · rw [clocked, Side.other_other, hedge, Bool.false_and]
  · rw [hedge]
    exact ⟨hbits, hnext, hnext'⟩
  · rw [hedge, if_neg (by simp)]

/-- An edge of the master's clock moves both consoles on. -/
theorem step_of_edge (hbits : bits < 8)
    (hm : (x.get master).Transferring .internal bits a b)
    (hs : (x.get master.other).Transferring .external bits b a) (hquiet : Quiet c)
    (hedge : x.clockEdge c master = true) : Step master a b bits x c := by
  obtain ⟨hfall, hwait⟩ := hm.master (hquiet master).1
  obtain ⟨-, hwait', -⟩ := hs.slave (hquiet master.other).1
  have hclocked : x.clocked c master = false := by
    rw [clocked, waiting, hwait, Bool.and_false]
  have hclocked' : x.clocked c master.other = true := by
    rw [clocked, Side.other_other, hedge, waiting, hwait', Bool.true_and]
  -- Each console is handed the byte the other one is sending.
  have hbyte : x.incomingByte c master = some b := by
    rw [incomingByte, hclocked, hclocked', Bool.false_or, if_pos rfl, hs.serial.outgoing]
  have hbyte' : x.incomingByte c master.other = some a := by
    rw [incomingByte, Side.other_other, hclocked', Bool.true_or, if_pos rfl,
      hm.serial.outgoing]
  have hshift := hm.shift hbits (hquiet master) (fun _ => rfl)
    (.inl ⟨rfl, hfall.symm.trans hedge⟩)
  have hshift' := hs.shift hbits (hquiet master.other) (fun _ => rfl) (.inr ⟨rfl, rfl⟩)
  rw [← hbyte] at hshift
  rw [← hbyte'] at hshift'
  rcases hshift with ⟨hlt, hnext, hreq⟩ | ⟨hlast, hnext, hreq⟩ <;>
    rcases hshift' with ⟨hlt', hnext', hreq'⟩ | ⟨hlast', hnext', hreq'⟩
  · refine step_of_ends hclocked hclocked' (.inl ?_) hreq hreq' ?_
    · rw [hedge]
      exact ⟨hlt, hnext, hnext'⟩
    · rw [if_neg (by omega)]
  · omega
  · omega
  · refine step_of_ends hclocked hclocked' (.inr ?_) hreq hreq' ?_
    · rw [hedge]
      exact ⟨hlast, hnext, hnext'⟩
    · rw [if_pos ⟨hedge, by omega⟩]

theorem step_of_finished (hbits : bits = 8) (hm : (x.get master).Finished b)
    (hs : (x.get master.other).Finished a) (hquiet : Quiet c) : Step master a b bits x c := by
  obtain ⟨hedge, hwait⟩ := hm.inactive (c.get master)
  obtain ⟨-, hwait'⟩ := hs.inactive (c.get master.other)
  obtain ⟨hnext, hreq⟩ := hm.hold (hquiet master)
  obtain ⟨hnext', hreq'⟩ := hs.hold (hquiet master.other)
  have hfall : x.clockEdge c master = false := hedge
  refine step_of_ends ?_ ?_ (.inr ?_) hreq hreq' ?_
  · rw [clocked, waiting, hwait, Bool.and_false]
  · rw [clocked, waiting, hwait', Bool.and_false]
  · rw [hfall]
    exact ⟨hbits, hnext, hnext'⟩
  · rw [if_neg (by omega)]

theorem Progress.step (h : Progress master a b bits x) (hquiet : Quiet c) :
    Step master a b bits x c := by
  rcases h with ⟨hbits, hm, hs⟩ | ⟨hbits, hm, hs⟩
  · rcases Bool.eq_false_or_eq_true (x.clockEdge c master) with hedge | hedge
    · exact step_of_edge hbits hm hs hquiet hedge
    · exact step_of_noEdge hbits hm hs hquiet hedge
  · exact step_of_finished hbits hm hs hquiet

/-! ## Runs -/

/-- The edges of that side's clock in the run. -/
def clockEdges (side : Side) (x : LinkedPair π) : List PairCycle → Nat
  | [] => 0
  | c :: cs => (x.clockEdge c side).toNat + clockEdges side (x.advanceTCycle c) cs

/-- The cycles of the run in which that side's serial unit requests an interrupt. -/
def serialInterrupts (side : Side) (x : LinkedPair π) : List PairCycle → Nat
  | [] => 0
  | c :: cs => (if x.interruptRequest c side = some .serial then 1 else 0) +
      serialInterrupts side (x.advanceTCycle c) cs

omit [PrinterDevice π] in
theorem Progress.le_eight (h : Progress master a b bits x) : bits ≤ 8 := by
  rcases h with ⟨h, _⟩ | ⟨h, _⟩ <;> omega

theorem Progress.run (h : Progress master a b bits x) {ds : List PairCycle}
    (hquiet : ∀ d ∈ ds, Quiet d) :
    Progress master a b (bits + clockEdges master x ds) (x.run ds) := by
  induction ds generalizing bits x with
  | nil => exact h
  | cons d ds ih =>
      have hnext := ih (h.step (hquiet d (.head _))).progress fun d hd => hquiet d (.tail _ hd)
      rw [clockEdges, ← Nat.add_assoc]
      exact hnext

theorem Progress.serialInterrupts (h : Progress master a b bits x) {ds : List PairCycle}
    (hquiet : ∀ d ∈ ds, Quiet d) (side : Side) :
    serialInterrupts side x ds =
      if bits < 8 ∧ bits + clockEdges master x ds = 8 then 1 else 0 := by
  induction ds generalizing bits x with
  | nil =>
      rw [LinkedPair.serialInterrupts, clockEdges, if_neg (by omega)]
  | cons d ds ih =>
      have hstep := h.step (hquiet d (.head _))
      have hrest := fun d hd => hquiet d (.tail _ hd)
      have hlast := (hstep.progress.run hrest).le_eight
      rw [LinkedPair.serialInterrupts, clockEdges, hstep.requests side, ih hstep.progress hrest]
      have hle := hstep.progress.le_eight
      rcases Bool.eq_false_or_eq_true (x.clockEdge d master) with hedge | hedge <;>
        simp only [hedge, Bool.toNat_true, Bool.toNat_false, true_and, false_and,
          Bool.false_eq_true] at * <;>
        grind

/-- While a transfer is on, the master's clock falls at least as often as its slowest
setting does. -/
theorem Progress.clockEdges_bound (h : Progress master a b bits x) {ds : List PairCycle}
    (hquiet : ∀ d ∈ ds, Quiet d) (hrun : bits + clockEdges master x ds < 8) :
    (x.get master).serial.clockCounter.toNat % 512 + ds.length <
      512 * (clockEdges master x ds + 1) := by
  induction ds generalizing bits x with
  | nil => exact Nat.mod_lt _ (by decide)
  | cons d ds ih =>
      have hstep := h.step (hquiet d (.head _))
      rw [clockEdges] at hrun ⊢
      have hbound := ih hstep.progress (fun d hd => hquiet d (.tail _ hd)) (by omega)
      rcases h with ⟨hbits, hm, hs⟩ | ⟨hbits, _⟩
      · have hstop := (hquiet d (.head _) master).1
        have hcounter : ((x.advanceTCycle d).get master).serial.clockCounter.toNat =
            ((x.get master).serial.clockCounter.toNat + 1) % 65536 := by
          rw [get_advance, Endpoint.advance_clockCounter hm.linked clockable_of_clocked hstop]
          rfl
        rw [hcounter] at hbound
        rw [List.length_cons]
        rcases Bool.eq_false_or_eq_true (x.clockEdge d master) with hedge | hedge
        · rw [hedge, Bool.toNat_true]
          omega
        · have hnot := mt (hm.edge_of_slowest hstop) (Bool.eq_false_iff.mp hedge)
          rw [hedge, Bool.toNat_false]
          omega
      · omega

/-! ## The start of a transfer -/

/-- A transfer is requested on both sides, `master` with its own clock and the other one
with the external clock, and neither unit has shifted a bit. -/
structure Started (master : Side) (x : LinkedPair π) : Prop where
  requested : ∀ side, (x.get side).serial.transferState = .transferRequested 0
  internal : (x.get master).serial.clockMode = .internal
  external : (x.get master.other).serial.clockMode = .external

/-- The program's last write to `SC` in the cycle requests a transfer with that clock. -/
def StartsTransfer (c : EndpointCycle) (mode : SerialClockMode) : Prop :=
  ∃ value, (c.writes.filterMap SerialWrite.sc?).getLast? = some value ∧
    scTransferState value = .transferRequested 0 ∧ scClockMode value = mode

/-- In the run `cs` that side's last write to `SC` starts a transfer with that clock, and
after the cycle of the write `master`'s clock has no edge any more. -/
def StartsIn (master side : Side) (mode : SerialClockMode) (x : LinkedPair π)
    (cs : List PairCycle) : Prop :=
  ∃ before c after, cs = before ++ c :: after ∧ StartsTransfer (c.get side) mode ∧
    (∀ d ∈ after, (d.get side).writes.filterMap SerialWrite.sc? = []) ∧
    clockEdges master ((x.run before).advanceTCycle c) after = 0

omit [PrinterDevice π] in
theorem Started.progress (h : Started master x) (hx : x.Linked) :
    Progress master (x.get master).serial.stagedOutgoingByte
      (x.get master.other).serial.stagedOutgoingByte 0 x := by
  refine .inl ⟨by decide, ⟨hx master, ?_⟩, ⟨hx master.other, ?_⟩⟩
  · rw [← h.internal]
    exact Serial.Shifting.start (h.requested master) (hx master).noPulse _
  · rw [← h.external]
    exact Serial.Shifting.start (h.requested master.other) (hx master.other).noPulse _

/-- A side whose transfer is requested keeps it so while neither clock has an edge. -/
theorem requested_run {x : LinkedPair π} (hx : x.Linked) (side : Side) {mode : SerialClockMode}
    (hmode : side = master ∧ mode = .internal ∨ side = master.other ∧ mode = .external)
    {after : List PairCycle}
    (hsc : ∀ d ∈ after, (d.get side).writes.filterMap SerialWrite.sc? = [])
    (hedges : clockEdges master x after = 0)
    (hrequested : (x.get side).serial.transferState = .transferRequested 0 ∧
      (x.get side).serial.clockMode = mode) :
    ((x.run after).get side).serial.transferState = .transferRequested 0 ∧
      ((x.run after).get side).serial.clockMode = mode := by
  induction after generalizing x with
  | nil => exact hrequested
  | cons d after ih =>
      rw [clockEdges, Nat.add_eq_zero_iff, Bool.toNat_eq_zero] at hedges
      refine ih (hx.advance d) (fun d hd => hsc d (.tail _ hd)) hedges.2 ?_
      have hclocked : x.clocked d side = false := by
        rcases hmode with ⟨rfl, hmode⟩ | ⟨rfl, hmode⟩
        · rw [clocked, waiting, Endpoint.dmg04EndpointState, hrequested.2, hmode]
          simp
        · rw [clocked, Side.other_other, hedges.1, Bool.false_and]
      have hfall : (d.get side).stopActive = false →
          (x.get side).serial.internalClockEdgePendingThisTCycleForSpeed (d.get side).speed =
            false := by
        intro hstop
        rcases hmode with ⟨rfl, hmode⟩ | ⟨rfl, hmode⟩
        · have hno := hedges.1
          simpa [clockEdge, Endpoint.dmg04EndpointState, (hx side).attached, hrequested.1,
            hrequested.2, hmode, hstop, SerialTransferState.isRequested] using hno
        · rw [Serial.internalClockEdgePendingThisTCycleForSpeed, hrequested.2, hmode]
          rfl
      rw [get_advance, hclocked]
      obtain ⟨hstate, hclock⟩ :=
        Endpoint.advance_transfer_hold (hx side) (x.incomingByte d side) (hsc d (.head _)) hfall
      exact ⟨hstate.trans hrequested.1, hclock.trans hrequested.2⟩

theorem requested_of_startsIn {x : LinkedPair π} (hx : x.Linked) {side : Side}
    {mode : SerialClockMode}
    (hmode : side = master ∧ mode = .internal ∨ side = master.other ∧ mode = .external)
    {cs : List PairCycle} (h : StartsIn master side mode x cs) :
    ((x.run cs).get side).serial.transferState = .transferRequested 0 ∧
      ((x.run cs).get side).serial.clockMode = mode := by
  obtain ⟨before, c, after, rfl, ⟨value, hlast, hrequested, hclock⟩, hsc, hedges⟩ := h
  have hbefore := hx.run before
  rw [run_append]
  refine requested_run (hbefore.advance c) side hmode hsc hedges ?_
  rw [get_advance]
  obtain ⟨hstate, hclock'⟩ :=
    Endpoint.advance_transfer (hbefore side) clockable_of_clocked hlast
  exact ⟨hstate.trans hrequested, hclock'.trans hclock⟩

/-- The two starts may come in any order, and at any distance. -/
theorem started_of_startsIn {x : LinkedPair π} (hx : x.Linked) {cs : List PairCycle}
    (hm : StartsIn master master .internal x cs)
    (hs : StartsIn master master.other .external x cs) : Started master (x.run cs) := by
  have hm := requested_of_startsIn hx (.inl ⟨rfl, rfl⟩) hm
  have hs := requested_of_startsIn hx (.inr ⟨rfl, rfl⟩) hs
  exact ⟨forall_side master hm.1 hs.1, hm.2, hs.2⟩

/-! ## The exchange -/

/-- What the transfer has come to after the cycles `ds` that follow the programs `cs`. -/
structure Exchanged (master : Side) (x : LinkedPair π) (cs ds : List PairCycle) : Prop where
  /-- The master's clock gives eight edges, and they take at most eight of the periods of
  its slowest setting. -/
  edges_le : clockEdges master (x.run cs) ds ≤ 8
  edges_eq : 8 * 512 ≤ ds.length → clockEdges master (x.run cs) ds = 8
  /-- Before the eighth both units have shifted one bit for each edge. -/
  transferring : clockEdges master (x.run cs) ds < 8 → ∀ side,
    (((x.run cs).run ds).get side).serial.transferState =
      .transferRequested (clockEdges master (x.run cs) ds)
  /-- From the eighth on both transfers are over and the bytes are exchanged. -/
  finished : clockEdges master (x.run cs) ds = 8 → ∀ side,
    (((x.run cs).run ds).get side).serial.transferState = .idle ∧
    (((x.run cs).run ds).get side).serial.sb = lastSb x cs side.other
  /-- Each side requests one interrupt, and it does so in the cycle of the eighth edge. -/
  interrupts : ∀ side, serialInterrupts side (x.run cs) ds =
    if clockEdges master (x.run cs) ds = 8 then 1 else 0
  request : ∀ d, Quiet d → ∀ side, ((x.run cs).run ds).interruptRequest d side =
    if ((x.run cs).run ds).clockEdge d master = true ∧ clockEdges master (x.run cs) ds = 7 then
      some .serial
    else none
  /-- No clock pulse is queued. -/
  linked : ((x.run cs).run ds).Linked

theorem exchanged_of_started {x : LinkedPair π} (hx : x.Linked) {cs ds : List PairCycle}
    (hstart : Started master (x.run cs)) (hquiet : ∀ d ∈ ds, Quiet d) :
    Exchanged master x cs ds := by
  have hy : (x.run cs).Linked := hx.run cs
  have hbegin := hstart.progress hy
  have hend := hbegin.run hquiet
  have hbound := hbegin.clockEdges_bound hquiet
  have hcount := hbegin.serialInterrupts hquiet
  rw [Nat.zero_add] at hend hbound hcount
  rw [staged_run hx, staged_run hx] at hend
  have hle := hend.le_eight
  refine ⟨hle, fun hlen => ?_, fun hlt => ?_, fun hall => ?_, fun side => ?_, ?_, hy.run ds⟩
  · by_contra hne
    have hshort := hbound (by omega)
    omega
  · rcases hend with ⟨_, hm, hs⟩ | ⟨h8, _⟩
    · exact forall_side master hm.serial.requested hs.serial.requested
    · omega
  · rcases hend with ⟨hlt, _⟩ | ⟨_, hm, hs⟩
    · omega
    · refine forall_side master ⟨hm.serial.idle, hm.serial.sb⟩ ⟨hs.serial.idle, ?_⟩
      rw [Side.other_other]
      exact hs.serial.sb
  · rw [hcount]
    simp only [Nat.zero_lt_succ, true_and]
  · intro d hd side
    exact (hend.step hd).requests side

/-- Take any two consoles on the cable and any programs `cs` on both sides in which one side
starts a transfer with its own clock and the other one with the external clock, in any order
and at any distance, both before the master's first edge.  While from then on neither side
writes `SB` or `SC` or stops, both transfers end with the master's eighth edge, with the bytes
exchanged, one interrupt on each side and no pulse left. -/
theorem dmg04_exchange (master : Side) {x : LinkedPair π} (hx : x.Linked)
    (cs ds : List PairCycle) (hmaster : StartsIn master master .internal x cs)
    (hslave : StartsIn master master.other .external x cs) (hquiet : ∀ d ∈ ds, Quiet d) :
    Exchanged master x cs ds :=
  exchanged_of_started hx (started_of_startsIn hx hmaster hslave) hquiet

end LinkedPair

/-! ## A concrete exchange -/

/-- A link without a printer at either end. -/
instance : PrinterDevice Empty where
  stagedResponseByte := nofun
  tickTCycle := nofun
  receiveSerialByte := nofun

namespace LinkedPair

def freshEndpoint : Endpoint Empty :=
  { serial := Serial.newWithOperatingMode .gameBoy .dmg
    externalPort := { attachment := .none }
    externalSerialClockPulsesPending := 0 }

def idleCycle : PairCycle :=
  { left := { speed := .normal, stopActive := false, writes := [] }
    right := { speed := .normal, stopActive := false, writes := [] } }

/-- The left program writes `A5` and the right one `3C`; the right one starts first. -/
def startCycles : List PairCycle :=
  [{ left := { idleCycle.left with writes := [.sb 0xA5] }
     right := { idleCycle.right with writes := [.sb 0x3C, .sc 0x80] } },
   { idleCycle with left := { idleCycle.left with writes := [.sc 0x81] } }]

def freshPair : LinkedPair Empty :=
  attachDmg04Cable { left := freshEndpoint, right := freshEndpoint }

/-- What the two units hold 4096 cycles later. -/
theorem dmg04_exchange_bytes :
    let z := (freshPair.run startCycles).run (List.replicate 4096 idleCycle)
    (z.get .left).serial.sb = 0x3C ∧ (z.get .right).serial.sb = 0xA5 := by
  have hlinked : freshPair.Linked :=
    linked_attachDmg04Cable (forall_side .left rfl rfl) (forall_side .left rfl rfl)
  have hquiet : ∀ d ∈ List.replicate 4096 idleCycle, Quiet d := by
    intro d hd
    rw [List.eq_of_mem_replicate hd]
    exact forall_side .left ⟨rfl, nofun⟩ ⟨rfl, nofun⟩
  have hmaster : StartsIn .left .left .internal freshPair startCycles :=
    ⟨startCycles.take 1, _, [], rfl, ⟨0x81, by decide, by decide, by decide⟩, by decide, rfl⟩
  have hslave : StartsIn .left .right .external freshPair startCycles :=
    ⟨[], _, startCycles.drop 1, rfl, ⟨0x80, by decide, by decide, by decide⟩, by decide,
      by decide⟩
  have h := dmg04_exchange .left hlinked startCycles _ hmaster hslave hquiet
  have hdone := h.finished (h.edges_eq (by rw [List.length_replicate]))
  dsimp only
  rw [(hdone .left).2, (hdone .right).2]
  exact ⟨by decide, by decide⟩

end LinkedPair

end GbCycle
