import GbCycle.Cartridge.ClockAdvance
import GbCycle.Cartridge.Huc3

/-!
# Laws of the HuC-3 clock

Whatever a program stores in the nibbles, and whatever a saved state holds, the decoded clock
stays in range.  Its time is one count of seconds modulo 4096 days, and an advance adds to that
count.  The command that sets the time moves the event along: the minutes from the time to the
event, modulo 4096 days, are what they were.
-/

namespace GbCycle

namespace Huc3RtcPersistentState

/-! ## One count of seconds -/

def totalSeconds (rtc : Huc3RtcState) : Nat :=
  (rtc.currentDays.toNat * huc3MinutesPerDay + rtc.currentMinutesOfDay.toNat) * 60 +
    rtc.currentSubminuteSeconds.toNat

def cycleSeconds : Nat := huc3DayCounterModulus * huc3MinutesPerDay * 60

/-- The registers of the time, as numbers. -/
theorem InRange.bounds {rtc : Huc3RtcState} (h : rtc.InRange) :
    rtc.currentDays.toNat < 4096 ∧ rtc.currentMinutesOfDay.toNat < 1440 ∧
      rtc.currentSubminuteSeconds.toNat < 60 :=
  ⟨BitVec.lt_def.mp h.days, BitVec.lt_def.mp h.minutes, BitVec.lt_def.mp h.subminute⟩

/-- The count of seconds and the event are all there is to a clock in range. -/
theorem eq_of_totalSeconds {rtc rtc' : Huc3RtcState} (h : rtc.InRange) (h' : rtc'.InRange)
    (htotal : rtc.totalSeconds = rtc'.totalSeconds)
    (hminutes : rtc.eventMinutesOfDay = rtc'.eventMinutesOfDay)
    (hdays : rtc.eventDays = rtc'.eventDays) : rtc = rtc' := by
  obtain ⟨hd, hm, hs⟩ := h.bounds
  obtain ⟨hd', hm', hs'⟩ := h'.bounds
  unfold totalSeconds huc3MinutesPerDay at htotal
  have hsubminute : rtc.currentSubminuteSeconds = rtc'.currentSubminuteSeconds :=
    BitVec.eq_of_toNat_eq (by omega)
  have hminute : rtc.currentMinutesOfDay = rtc'.currentMinutesOfDay :=
    BitVec.eq_of_toNat_eq (by omega)
  have hday : rtc.currentDays = rtc'.currentDays := BitVec.eq_of_toNat_eq (by omega)
  cases rtc
  cases rtc'
  simp only [mk.injEq]
  exact ⟨hminute, hday, hsubminute, hminutes, hdays⟩

theorem applyElapsedSeconds_event (rtc : Huc3RtcState) (n : Nat) :
    (rtc.applyElapsedSeconds n).eventMinutesOfDay = rtc.eventMinutesOfDay ∧
      (rtc.applyElapsedSeconds n).eventDays = rtc.eventDays := by
  unfold applyElapsedSeconds
  split
  · exact ⟨rfl, rfl⟩
  · unfold addMinutes
    dsimp only
    split <;> exact ⟨rfl, rfl⟩

theorem totalSeconds_addMinutes {rtc : Huc3RtcState} (h : rtc.InRange) (minuteDelta : Nat) :
    (rtc.addMinutes minuteDelta).totalSeconds =
      (rtc.totalSeconds + minuteDelta * 60) % cycleSeconds := by
  obtain ⟨hd, hm, hs⟩ := h.bounds
  unfold addMinutes
  by_cases hzero : minuteDelta = 0
  · rw [if_pos hzero, hzero]
    unfold totalSeconds cycleSeconds huc3DayCounterModulus huc3MinutesPerDay
    omega
  · rw [if_neg hzero]
    unfold totalSeconds cycleSeconds huc3DayCounterModulus huc3MinutesPerDay
    simp only [BitVec.toNat_ofNat]
    omega

/-- An advance adds to the count, which wraps after 4096 days. -/
theorem totalSeconds_applyElapsedSeconds {rtc : Huc3RtcState} (h : rtc.InRange) {n : Nat}
    (hfits : rtc.currentSubminuteSeconds.toNat + n < 2 ^ 64) :
    (rtc.applyElapsedSeconds n).totalSeconds = (rtc.totalSeconds + n) % cycleSeconds := by
  obtain ⟨hd, hm, hs⟩ := h.bounds
  unfold applyElapsedSeconds
  by_cases hzero : n = 0
  · rw [if_pos hzero, hzero]
    unfold totalSeconds cycleSeconds huc3DayCounterModulus huc3MinutesPerDay
    omega
  · have hsum : (rtc.currentSubminuteSeconds.toNat % 60 + n) % 2 ^ 64 =
        rtc.currentSubminuteSeconds.toNat + n := by omega
    rw [if_neg hzero, hsum]
    dsimp only
    rw [totalSeconds_addMinutes]
    · unfold totalSeconds cycleSeconds huc3DayCounterModulus huc3MinutesPerDay
      simp only [BitVec.toNat_ofNat]
      omega
    · exact ⟨ofNat_lt (Nat.mod_lt _ (by decide)) (by decide),
        ofNat_lt (Nat.mod_lt _ (by decide)) (by decide),
        ofNat_lt (Nat.mod_lt _ (by decide)) (by decide), h.eventMinutes, h.eventDays⟩

/-- One advance after another is one advance by the sum. -/
theorem applyElapsedSeconds_add {rtc : Huc3RtcState} (h : rtc.InRange) {a b : Nat}
    (hfits : rtc.currentSubminuteSeconds.toNat + (a + b) < 2 ^ 64) :
    (rtc.applyElapsedSeconds a).applyElapsedSeconds b = rtc.applyElapsedSeconds (a + b) := by
  have ha := h.applyElapsedSeconds a
  have htotal := totalSeconds_applyElapsedSeconds h (n := a) (by omega)
  have hsecond : (rtc.applyElapsedSeconds a).currentSubminuteSeconds.toNat + b < 2 ^ 64 := by
    obtain ⟨-, -, hs⟩ := h.bounds
    obtain ⟨-, -, hs'⟩ := ha.bounds
    unfold totalSeconds cycleSeconds huc3DayCounterModulus huc3MinutesPerDay at htotal
    omega
  apply eq_of_totalSeconds (ha.applyElapsedSeconds b) (h.applyElapsedSeconds (a + b))
  · rw [totalSeconds_applyElapsedSeconds ha hsecond, htotal,
      totalSeconds_applyElapsedSeconds h hfits, Nat.mod_add_mod, Nat.add_assoc]
  · rw [(applyElapsedSeconds_event _ b).1, (applyElapsedSeconds_event _ a).1,
      (applyElapsedSeconds_event _ (a + b)).1]
  · rw [(applyElapsedSeconds_event _ b).2, (applyElapsedSeconds_event _ a).2,
      (applyElapsedSeconds_event _ (a + b)).2]

/-! ## The distance of the event -/

def minutesOfTime (rtc : Huc3RtcState) : Nat :=
  rtc.currentDays.toNat * huc3MinutesPerDay + rtc.currentMinutesOfDay.toNat

def minutesOfEvent (rtc : Huc3RtcState) : Nat :=
  rtc.eventDays.toNat * huc3MinutesPerDay + rtc.eventMinutesOfDay.toNat

def cycleMinutes : Nat := huc3DayCounterModulus * huc3MinutesPerDay

/-- The minutes from the time to the event, modulo 4096 days. -/
def eventDistance (rtc : Huc3RtcState) : Nat :=
  (rtc.minutesOfEvent + cycleMinutes - rtc.minutesOfTime) % cycleMinutes

/-- In range, the sums and the difference are those of numbers. -/
theorem InRange.minuteTotals {rtc : Huc3RtcState} (h : rtc.InRange) :
    rtc.currentTotalMinutes.toNat = rtc.minutesOfTime ∧
      rtc.eventTotalMinutes.toNat = rtc.minutesOfEvent ∧
      rtc.minutesOfTime < cycleMinutes ∧ rtc.minutesOfEvent < cycleMinutes ∧
      rtc.remainingEventDeltaMinutes.toNat = rtc.eventDistance := by
  obtain ⟨hd, hm, -⟩ := h.bounds
  have hed : rtc.eventDays.toNat < 4096 := BitVec.lt_def.mp h.eventDays
  have hem : rtc.eventMinutesOfDay.toNat < 1440 := BitVec.lt_def.mp h.eventMinutes
  have hcurrent : rtc.currentTotalMinutes.toNat = rtc.minutesOfTime := by
    unfold currentTotalMinutes minutesOfTime huc3MinutesPerDay
    rw [BitVec.toNat_add, BitVec.toNat_mul, BitVec.toNat_setWidth, BitVec.toNat_setWidth]
    show (rtc.currentDays.toNat % 2 ^ 32 * 1440 % 2 ^ 32 +
      rtc.currentMinutesOfDay.toNat % 2 ^ 32) % 2 ^ 32 = _
    omega
  have hevent : rtc.eventTotalMinutes.toNat = rtc.minutesOfEvent := by
    unfold eventTotalMinutes minutesOfEvent huc3MinutesPerDay
    rw [BitVec.toNat_add, BitVec.toNat_mul, BitVec.toNat_setWidth, BitVec.toNat_setWidth]
    show (rtc.eventDays.toNat % 2 ^ 32 * 1440 % 2 ^ 32 +
      rtc.eventMinutesOfDay.toNat % 2 ^ 32) % 2 ^ 32 = _
    omega
  have hlt : rtc.minutesOfTime < cycleMinutes := by
    unfold minutesOfTime cycleMinutes huc3DayCounterModulus huc3MinutesPerDay
    omega
  have heventLt : rtc.minutesOfEvent < cycleMinutes := by
    unfold minutesOfEvent cycleMinutes huc3DayCounterModulus huc3MinutesPerDay
    omega
  refine ⟨hcurrent, hevent, hlt, heventLt, ?_⟩
  have hcycle : rtcCycleMinutes.toNat = cycleMinutes := rfl
  have hsmall : cycleMinutes < 2 ^ 30 := by decide
  unfold remainingEventDeltaMinutes eventDistance
  have hdifference : (2 ^ 32 - rtc.minutesOfTime + (rtc.minutesOfEvent + cycleMinutes) % 2 ^ 32) %
      2 ^ 32 = rtc.minutesOfEvent + cycleMinutes - rtc.minutesOfTime := by omega
  rw [BitVec.toNat_umod, BitVec.toNat_sub, BitVec.toNat_add, hcurrent, hevent, hcycle, hdifference]

theorem minutesOfEvent_setEventTotalMinutes (rtc : Huc3RtcState) (totalMinutes : BitVec 32) :
    (rtc.setEventTotalMinutes totalMinutes).minutesOfEvent = totalMinutes.toNat % cycleMinutes ∧
      (rtc.setEventTotalMinutes totalMinutes).minutesOfTime = rtc.minutesOfTime := by
  refine ⟨?_, rfl⟩
  unfold setEventTotalMinutes minutesOfEvent
  have hcycle : rtcCycleMinutes.toNat = 4096 * 1440 := rfl
  have hday : (1440 : BitVec 32).toNat = 1440 := rfl
  have hdays : (0x1000 : U16).toNat = 4096 := rfl
  have hminutes : huc3MinutesPerDay = 1440 := rfl
  have hcycleMinutes : cycleMinutes = 4096 * 1440 := rfl
  dsimp only
  rw [BitVec.toNat_umod, BitVec.toNat_setWidth, BitVec.toNat_udiv, BitVec.toNat_umod,
    BitVec.toNat_setWidth, BitVec.toNat_umod, BitVec.toNat_umod, hcycle, hday, hdays, hminutes,
    hcycleMinutes]
  omega

end Huc3RtcPersistentState

namespace McuRam

/-- A triplet that is written makes two memories agree there. -/
theorem agree_writeTripletNybbles {m m' : McuRam} {differ : Nat → Prop}
    (h : ∀ index, differ index ∨ m.nibble index = m'.nibble index) {start : Nat}
    (hstart : start + 2 < huc3McuRamNibbleCount) (value : U16) (index : Nat) :
    (differ index ∧ (index < start ∨ start + 2 < index)) ∨
      (m.writeTripletNybbles start value).nibble index =
        (m'.writeTripletNybbles start value).nibble index := by
  by_cases houtside : index < start ∨ start + 2 < index
  · rw [nibble_writeTripletNybbles_of_outside m hstart houtside,
      nibble_writeTripletNybbles_of_outside m' hstart houtside]
    exact (h index).imp_left fun hdiffer => ⟨hdiffer, houtside⟩
  · refine .inr ?_
    rw [nibble_writeTripletNybbles m hstart, nibble_writeTripletNybbles m' hstart]
    have hinside : start + 2 = index ∨ start + 1 = index ∨ start = index := by omega
    split
    · rfl
    · split
      · rfl
      · rw [if_pos (by omega), if_pos (by omega)]

/-- The clock that is written last is the one in the memory. -/
theorem sync_sync (m : McuRam) (rtc rtc' : Huc3RtcState) :
    (m.syncTrackedRtcLocations rtc).syncTrackedRtcLocations rtc' =
      m.syncTrackedRtcLocations rtc' := by
  have hfirst (index : Nat) :
      ((0x10 ≤ index ∧ index ≤ 0x15) ∨ 0x58 ≤ index ∧ index ≤ 0x5D) ∨
        (m.syncTrackedRtcLocations rtc).nibble index = m.nibble index := by
    by_cases hinside : (0x10 ≤ index ∧ index ≤ 0x15) ∨ 0x58 ≤ index ∧ index ≤ 0x5D
    · exact .inl hinside
    · refine .inr ?_
      unfold syncTrackedRtcLocations
      rw [nibble_writeTripletNybbles_of_outside _ (by decide) (by omega),
        nibble_writeTripletNybbles_of_outside _ (by decide) (by omega),
        nibble_writeTripletNybbles_of_outside _ (by decide) (by omega),
        nibble_writeTripletNybbles_of_outside _ (by decide) (by omega)]
  apply ext_nibble
  intro index
  have hagree := agree_writeTripletNybbles (agree_writeTripletNybbles (agree_writeTripletNybbles
    (agree_writeTripletNybbles hfirst (by decide : 0x10 + 2 < huc3McuRamNibbleCount)
      rtc'.currentMinutesOfDay) (by decide : 0x13 + 2 < huc3McuRamNibbleCount)
      rtc'.currentDays) (by decide : 0x58 + 2 < huc3McuRamNibbleCount) rtc'.eventMinutesOfDay)
      (by decide : 0x5B + 2 < huc3McuRamNibbleCount) rtc'.eventDays index
  rcases hagree with hdiffer | hsame
  · omega
  · exact hsame

end McuRam

namespace Huc3Cartridge

/-! ## What happens to a cartridge -/

inductive Huc3Step where
  | writeRom (address : U16) (value : U8)
  | writeRam (address : U16) (value : U8)
  | restore (state : PersistentCartState)
  | advance (elapsedSeconds : BitVec 64)

def step (c : Huc3Cartridge) : Huc3Step → Huc3Cartridge
  | .writeRom address value => c.writeRom address value
  | .writeRam address value => c.writeRam address value
  | .restore state => (c.restorePersistentState state).2
  | .advance elapsedSeconds => c.advanceRtcSeconds elapsedSeconds.toNat

theorem masked_maskNibbles (m : McuRam) : m.maskNibbles.Masked := by
  intro index
  unfold McuRam.maskNibbles McuRam.nibble
  rw [Vector.getElem?_map]
  cases m[index]? with
  | none => exact (by decide : (0 : U8) < 16)
  | some value => exact McuRam.and_nibble_lt value

/-- A restored cartridge is coherent, whatever the state holds. -/
theorem coherent_restored (c : Huc3Cartridge) (persistedRam : List U8)
    (state : Huc3PersistentState) :
    (c.restored persistedRam state).initializeRuntimeState.Coherent where
  tracks := McuRam.tracks_sync (masked_maskNibbles _)
    (Huc3RtcPersistentState.inRange_reduced state.rtc)
  romBank := and_and_mask state.romBank 0x7F
  ramBank := and_and_mask state.ramBank 0x03
  selectMode := Huc3SelectMode.fromValue_rawValue_fromValue state.selectMode
  command := and_and_mask state.mailboxCommand 0x07
  argument := and_and_mask state.mailboxArgument 0x0F
  response := and_and_mask state.lastResponseNybble 0x0F
  unsupportedCommand := by
    show (state.lastUnsupportedCommand.map (· &&& 0x07)).map (· &&& 0x07) = _
    rw [Option.map_map]
    exact congrArg (Option.map · state.lastUnsupportedCommand)
      (funext fun value => and_and_mask value 0x07)
  unsupportedArgument := by
    show (state.lastUnsupportedArgument.map (· &&& 0x0F)).map (· &&& 0x0F) = _
    rw [Option.map_map]
    exact congrArg (Option.map · state.lastUnsupportedArgument)
      (funext fun value => and_and_mask value 0x0F)

theorem Coherent.restorePersistentState {c : Huc3Cartridge} (h : c.Coherent)
    (state : PersistentCartState) : (c.restorePersistentState state).2.Coherent := by
  unfold Huc3Cartridge.restorePersistentState
  split
  · exact h
  · split
    · split
      · exact h
      · split
        · exact h
        · exact coherent_restored c _ _
    · exact h

/-- One step keeps the clock in range and in the memory. -/
theorem Coherent.step {c : Huc3Cartridge} (h : c.Coherent) (s : Huc3Step) :
    (c.step s).Coherent := by
  cases s with
  | writeRom address value => exact h.writeRom address value
  | writeRam address value => exact h.writeRam address value
  | restore state => exact h.restorePersistentState state
  | advance elapsedSeconds => exact h.advanceRtcSeconds _

/-- So does a run. -/
theorem Coherent.run {c : Huc3Cartridge} (h : c.Coherent) (steps : List Huc3Step) :
    (steps.foldl Huc3Cartridge.step c).Coherent := by
  induction steps generalizing c with
  | nil => exact h
  | cons s steps ih => exact ih (h.step s)

theorem advanceRtcSeconds_add {c : Huc3Cartridge} (h : c.Coherent) {a b : Nat}
    (hfits : c.rtc.currentSubminuteSeconds.toNat + (a + b) < 2 ^ 64) :
    (c.advanceRtcSeconds a).advanceRtcSeconds b = c.advanceRtcSeconds (a + b) := by
  unfold advanceRtcSeconds
  dsimp only
  rw [Huc3RtcPersistentState.applyElapsedSeconds_add h.tracks.inRange hfits, McuRam.sync_sync]

theorem ioWindowTime_inRange {c : Huc3Cartridge} (h : c.Coherent) : c.ioWindowTime.InRange :=
  ⟨Huc3RtcPersistentState.mod_lt_minutes _, Huc3RtcPersistentState.mod_lt_days _,
    (by decide : (0 : U8) < 60), h.tracks.inRange.eventMinutes, h.tracks.inRange.eventDays⟩

/-- The command that sets the time, and what it does to the clock. -/
theorem executeExtendedCommand_setTime {c : Huc3Cartridge} (h : c.Coherent) :
    (c.executeExtendedCommand 0x01).rtc.currentMinutesOfDay =
        c.mcuRam.readTripletNybbles 0x00 % 1440 ∧
      (c.executeExtendedCommand 0x01).rtc.currentDays = c.mcuRam.readTripletNybbles 0x03 ∧
      (c.executeExtendedCommand 0x01).rtc.currentSubminuteSeconds = 0 ∧
      (c.executeExtendedCommand 0x01).rtc.eventDistance = c.rtc.eventDistance := by
  have hcommand : c.executeExtendedCommand 0x01 =
      c.applyIoWindowCurrentTimePreservingEventDelta := rfl
  have hdays : c.ioWindowTime.currentDays = c.mcuRam.readTripletNybbles 0x03 :=
    Huc3RtcPersistentState.mod_eq_of_lt (McuRam.readTripletNybbles_lt h.tracks.masked 0x03)
  rw [hcommand]
  refine ⟨rfl, hdays, rfl, ?_⟩
  obtain ⟨htime, -, htimeLt, -, -⟩ := (ioWindowTime_inRange h).minuteTotals
  obtain ⟨-, -, -, -, hdistance⟩ := h.tracks.inRange.minuteTotals
  have hcycle : Huc3RtcPersistentState.rtcCycleMinutes.toNat = 4096 * 1440 := rfl
  have hcycleMinutes : Huc3RtcPersistentState.cycleMinutes = 4096 * 1440 := rfl
  have hdistanceLt : c.rtc.eventDistance < Huc3RtcPersistentState.cycleMinutes :=
    Nat.mod_lt _ (by decide)
  obtain ⟨hevent, hsame⟩ := c.ioWindowTime.minutesOfEvent_setEventTotalMinutes
    ((c.ioWindowTime.currentTotalMinutes + c.rtc.remainingEventDeltaMinutes) %
      Huc3RtcPersistentState.rtcCycleMinutes)
  rw [BitVec.toNat_umod, BitVec.toNat_add, htime, hdistance, hcycle] at hevent
  rw [hcycleMinutes] at hevent htimeLt hdistanceLt
  show (Huc3RtcPersistentState.minutesOfEvent (Huc3RtcPersistentState.setEventTotalMinutes _ _) +
    Huc3RtcPersistentState.cycleMinutes -
      Huc3RtcPersistentState.minutesOfTime (Huc3RtcPersistentState.setEventTotalMinutes _ _)) %
        Huc3RtcPersistentState.cycleMinutes = _
  rw [hevent, hsame, hcycleMinutes]
  omega

/-- None of the sums of the command overflows, and its difference does not underflow. -/
theorem setTime_noOverflow {c : Huc3Cartridge} (h : c.Coherent) :
    c.rtc.eventTotalMinutes.toNat + Huc3RtcPersistentState.rtcCycleMinutes.toNat < 2 ^ 32 ∧
      c.rtc.currentTotalMinutes.toNat ≤
        c.rtc.eventTotalMinutes.toNat + Huc3RtcPersistentState.rtcCycleMinutes.toNat ∧
      c.ioWindowTime.currentTotalMinutes.toNat + c.rtc.remainingEventDeltaMinutes.toNat <
        2 ^ 32 := by
  obtain ⟨hnow, hevent, hnowLt, heventLt, hdistance⟩ := h.tracks.inRange.minuteTotals
  obtain ⟨htime, -, htimeLt, -, -⟩ := (ioWindowTime_inRange h).minuteTotals
  have hcycle : Huc3RtcPersistentState.rtcCycleMinutes.toNat = 4096 * 1440 := rfl
  have hcycleMinutes : Huc3RtcPersistentState.cycleMinutes = 4096 * 1440 := rfl
  have hdistanceLt : c.rtc.eventDistance < Huc3RtcPersistentState.cycleMinutes :=
    Nat.mod_lt _ (by decide)
  rw [hcycleMinutes] at hnowLt heventLt htimeLt hdistanceLt
  rw [hnow, hevent, htime, hdistance, hcycle]
  omega

/-- A mailbox with the command to set the time, and a semaphore that is cleared. -/
theorem requestMcuCommandExecution_setTime {c : Huc3Cartridge}
    (hcommand : c.mailbox.command &&& 0x07 = 0x06) (hargument : c.mailbox.argument &&& 0x0F = 0x01) :
    c.requestMcuCommandExecution.rtc = (c.executeExtendedCommand 0x01).rtc := by
  unfold requestMcuCommandExecution executeMailboxCommand executeCommand
  simp only [setSemaphore, hcommand]
  unfold executeExtendedCommand
  simp only [hargument]
  rfl

def loadedHeader : CartridgeHeader :=
  { nintendoLogo := [], titleBytes := [], title := [], cgbFlag := decodeCgbFlag 0x00
    cartridgeType := 0xFE, romSize := .decode 0x04, ramSize := .decode 0x03
    destinationCode := 0x00 }

def loadedCartridge : Huc3Cartridge :=
  (powerOn [] loadedHeader (.supported 0xFE "HuC3" .huc3) 32768).initializeRuntimeState

/-- A command is put in the mailbox and executed. -/
def mailboxCommand (value : U8) : List Huc3Step :=
  [.writeRom 0x0000 0x0B, .writeRam 0xA000 value, .writeRom 0x0000 0x0D, .writeRam 0xA000 0xFE]

/-- A time is written into the memory of the MCU, and the command that sets it in the mailbox. -/
def timeWrites : List Huc3Step :=
  [0x35, 0x3A, 0x32, 0x33, 0x32, 0x31].flatMap mailboxCommand ++
    [.writeRom 0x0000 0x0B, .writeRam 0xA000 0x61]

/-- In every state that a loaded cartridge reaches, the clock is in range, its time is a count of
seconds modulo 4096 days to which an advance adds, and the command that sets the time sets the one
that was written and keeps the distance of the event. -/
theorem huc3_clockLaws (rom : List U8) (header : CartridgeHeader)
    (classification : CartridgeClassification) (ramLen : Nat) (steps : List Huc3Step) :
    ∃ c, c = steps.foldl step
        (powerOn rom header classification ramLen).initializeRuntimeState ∧
      (c.rtc.currentMinutesOfDay < 1440 ∧ c.rtc.currentDays < 4096 ∧
        c.rtc.eventMinutesOfDay < 1440 ∧ c.rtc.eventDays < 4096) ∧
      (∀ a b, c.rtc.currentSubminuteSeconds.toNat + (a + b) < 2 ^ 64 →
        (c.advanceRtcSeconds a).advanceRtcSeconds b = c.advanceRtcSeconds (a + b)) ∧
      (∀ n, c.rtc.currentSubminuteSeconds.toNat + n < 2 ^ 64 →
        c.rtc.applyElapsedSecondsChecked n = some (c.advanceRtcSeconds n).rtc ∧
          (c.advanceRtcSeconds n).rtc.totalSeconds =
            (c.rtc.totalSeconds + n) % Huc3RtcPersistentState.cycleSeconds) ∧
      (c.executeExtendedCommand 0x01).rtc.currentMinutesOfDay =
          c.mcuRam.readTripletNybbles 0x00 % 1440 ∧
      (c.executeExtendedCommand 0x01).rtc.currentDays = c.mcuRam.readTripletNybbles 0x03 ∧
      (c.executeExtendedCommand 0x01).rtc.currentSubminuteSeconds = 0 ∧
      (c.executeExtendedCommand 0x01).rtc.eventDistance = c.rtc.eventDistance ∧
      c.rtc.eventTotalMinutes.toNat + Huc3RtcPersistentState.rtcCycleMinutes.toNat < 2 ^ 32 ∧
      c.rtc.currentTotalMinutes.toNat ≤
        c.rtc.eventTotalMinutes.toNat + Huc3RtcPersistentState.rtcCycleMinutes.toNat ∧
      c.ioWindowTime.currentTotalMinutes.toNat + c.rtc.remainingEventDeltaMinutes.toNat <
        2 ^ 32 ∧
      (c.mailbox.command &&& 0x07 = 0x06 → c.mailbox.argument &&& 0x0F = 0x01 →
        c.requestMcuCommandExecution.rtc = (c.executeExtendedCommand 0x01).rtc) := by
  have hloaded : (powerOn rom header classification ramLen).initializeRuntimeState.Coherent := by
    rw [initializeRuntimeState_powerOn]
    exact coherent_powerOn rom header classification ramLen
  have h := hloaded.run steps
  have hrange := h.tracks.inRange
  obtain ⟨hminutes, hdays, hsubminute, hdistance⟩ := executeExtendedCommand_setTime h
  obtain ⟨hsum, hdifference, htime⟩ := setTime_noOverflow h
  refine ⟨_, rfl, ⟨hrange.minutes, hrange.days, hrange.eventMinutes, hrange.eventDays⟩,
    fun a b hfits => advanceRtcSeconds_add h hfits, fun n hfits => ⟨?_, ?_⟩, hminutes, hdays,
    hsubminute, hdistance, hsum, hdifference, htime, requestMcuCommandExecution_setTime⟩
  · have hseconds := hrange.bounds.2.2
    rw [Huc3RtcPersistentState.applyElapsedSecondsChecked_eq, if_pos (.inr (by omega))]
    rfl
  · exact Huc3RtcPersistentState.totalSeconds_applyElapsedSeconds hrange hfits

theorem huc3_clockLaws_written :
    let c := timeWrites.foldl step loadedCartridge
    c.requestMcuCommandExecution.rtc.currentMinutesOfDay = 0x2A5 ∧
      c.requestMcuCommandExecution.rtc.currentDays = 0x123 ∧
      c.requestMcuCommandExecution.rtc.eventDistance = c.rtc.eventDistance ∧
      (c.advanceRtcSeconds 59).advanceRtcSeconds 86400 = c.advanceRtcSeconds 86459 ∧
      (c.advanceRtcSeconds 59).rtc.totalSeconds =
        (c.rtc.totalSeconds + 59) % Huc3RtcPersistentState.cycleSeconds := by
  intro c
  obtain ⟨c', hc, -, hadd, htotal, hminutes, hdays, -, hdistance, -, -, -, hcommand⟩ :=
    huc3_clockLaws [] loadedHeader (.supported 0xFE "HuC3" .huc3) 32768 timeWrites
  obtain rfl : c' = c := hc
  have hexecuted := hcommand (by decide) (by decide)
  rw [hexecuted]
  exact ⟨hminutes.trans (by decide +kernel), hdays.trans (by decide +kernel), hdistance,
    hadd 59 86400 (by decide), (htotal 59 (by decide)).2⟩

end Huc3Cartridge

end GbCycle
