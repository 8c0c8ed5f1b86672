import GbCycle.Cartridge.Rtc

/-!
# The HuC-3 clock and its memory

The microcontroller of HuC-3 keeps its clock in the nibbles a program can read and write: three
nibbles of minutes and three of days, for the time and for the event.  The emulated cartridge
keeps the decoded clock beside them.  A nibble written there decodes into the clock, and
a clock that moves is written back; `Tracks` is what holds between the two.
-/

namespace GbCycle

abbrev McuRam := Vector U8 huc3McuRamNibbleCount

namespace McuRam

/-! ## Nibbles and triplets -/

def nibble (m : McuRam) (index : Nat) : U8 := m[index]?.getD 0

def write (m : McuRam) (index : Nat) (value : U8) : McuRam := m.setIfInBounds index value

def readTripletNybbles (m : McuRam) (start : Nat) : U16 :=
  U16.ofByte (m.nibble start) ||| (U16.ofByte (m.nibble (start + 1)) <<< 4) |||
    (U16.ofByte (m.nibble (start + 2)) <<< 8)

def writeTripletNybbles (m : McuRam) (start : Nat) (value : U16) : McuRam :=
  ((m.write start ((value &&& 0x0F).setWidth 8)).write (start + 1)
    (((value >>> 4) &&& 0x0F).setWidth 8)).write (start + 2) (((value >>> 8) &&& 0x0F).setWidth 8)

def maskNibbles (m : McuRam) : McuRam := m.map (· &&& 0x0F)

def Masked (m : McuRam) : Prop := ∀ index, m.nibble index < 16

theorem nibble_write (m : McuRam) {index : Nat} (hindex : index < huc3McuRamNibbleCount)
    (value : U8) (other : Nat) :
    (m.write index value).nibble other = if index = other then value else m.nibble other := by
  unfold nibble write
  rw [Vector.getElem?_setIfInBounds]
  by_cases hsame : index = other
  · rw [if_pos hsame, if_pos hindex, if_pos hsame, Option.getD_some]
  · rw [if_neg hsame, if_neg hsame]

theorem ext_nibble {m m' : McuRam} (h : ∀ index, m.nibble index = m'.nibble index) : m = m' := by
  apply Vector.ext
  intro index hindex
  have hsame := h index
  rwa [nibble, nibble, Vector.getElem?_eq_getElem hindex, Vector.getElem?_eq_getElem hindex] at hsame

theorem and_nibble_lt (value : U8) : value &&& 0x0F < 16 :=
  Mbc3RtcPersistentState.and_mask_lt (k := 4) (by decide)

theorem and_nibble_of_lt {value : U8} (h : value < 16) : value &&& 0x0F = value :=
  Mbc3RtcPersistentState.and_mask_of_lt (k := 4) (by decide) (BitVec.lt_def.mp h)

theorem Masked.write {m : McuRam} (h : m.Masked) {index : Nat}
    (hindex : index < huc3McuRamNibbleCount) {value : U8} (hvalue : value < 16) :
    (m.write index value).Masked := by
  intro other
  rw [nibble_write m hindex]
  split
  · exact hvalue
  · exact h other

theorem maskNibbles_of_masked {m : McuRam} (h : m.Masked) : m.maskNibbles = m := by
  apply Vector.ext
  intro index hindex
  have hnibble := h index
  rw [nibble, Vector.getElem?_eq_getElem hindex, Option.getD_some] at hnibble
  rw [maskNibbles, Vector.getElem_map]
  exact and_nibble_of_lt hnibble

theorem nibble_setWidth_lt (value : U16) : (value &&& 0x0F).setWidth 8 < (16 : U8) := by
  have hmask : value &&& 0x0F < 16 :=
    Mbc3RtcPersistentState.and_mask_lt (k := 4) (by decide)
  bv_omega

theorem Masked.writeTripletNybbles {m : McuRam} (h : m.Masked) {start : Nat}
    (hstart : start + 2 < huc3McuRamNibbleCount) (value : U16) :
    (m.writeTripletNybbles start value).Masked :=
  ((h.write (by omega) (nibble_setWidth_lt _)).write (by omega) (nibble_setWidth_lt _)).write
    hstart (nibble_setWidth_lt _)

theorem nibble_writeTripletNybbles (m : McuRam) {start : Nat}
    (hstart : start + 2 < huc3McuRamNibbleCount) (value : U16) (other : Nat) :
    (m.writeTripletNybbles start value).nibble other =
      if start + 2 = other then ((value >>> 8) &&& 0x0F).setWidth 8
      else if start + 1 = other then ((value >>> 4) &&& 0x0F).setWidth 8
      else if start = other then (value &&& 0x0F).setWidth 8
      else m.nibble other := by
  rw [McuRam.writeTripletNybbles, nibble_write _ hstart,
    nibble_write _ (by omega : start + 1 < huc3McuRamNibbleCount),
    nibble_write _ (by omega : start < huc3McuRamNibbleCount)]

theorem nibble_write_of_ne (m : McuRam) {index other : Nat}
    (hindex : index < huc3McuRamNibbleCount) (hne : index ≠ other) (value : U8) :
    (m.write index value).nibble other = m.nibble other := by
  rw [nibble_write m hindex, if_neg hne]

theorem nibble_writeTripletNybbles_of_outside (m : McuRam) {start other : Nat}
    (hstart : start + 2 < huc3McuRamNibbleCount) (houtside : other < start ∨ start + 2 < other)
    (value : U16) : (m.writeTripletNybbles start value).nibble other = m.nibble other := by
  rw [nibble_writeTripletNybbles m hstart, if_neg (by omega), if_neg (by omega), if_neg (by omega)]

/-- A triplet elsewhere is not changed. -/
theorem readTripletNybbles_of_disjoint {m m' : McuRam} {start : Nat}
    (h : ∀ index, start ≤ index → index ≤ start + 2 → m'.nibble index = m.nibble index) :
    m'.readTripletNybbles start = m.readTripletNybbles start := by
  simp only [McuRam.readTripletNybbles, h start (by omega) (by omega),
    h (start + 1) (by omega) (by omega), h (start + 2) (by omega) (by omega)]

theorem readTripletNybbles_writeTripletNybbles_of_disjoint (m : McuRam) {start other : Nat}
    (hstart : start + 2 < huc3McuRamNibbleCount) (hdisjoint : other + 2 < start ∨ start + 2 < other)
    (value : U16) :
    (m.writeTripletNybbles start value).readTripletNybbles other = m.readTripletNybbles other := by
  apply readTripletNybbles_of_disjoint
  intro index hlow hhigh
  exact nibble_writeTripletNybbles_of_outside m hstart (by omega) value

/-- Three nibbles make a word of twelve bits. -/
theorem toNat_joinNibbles {a b c : U8} (ha : a < 16) (hb : b < 16) (hc : c < 16) :
    (U16.ofByte a ||| (U16.ofByte b <<< 4) ||| (U16.ofByte c <<< 8)).toNat =
      a.toNat + 16 * b.toNat + 256 * c.toNat := by
  have ha' : a.toNat < 16 := BitVec.lt_def.mp ha
  have hb' : b.toNat < 16 := BitVec.lt_def.mp hb
  have hc' : c.toNat < 16 := BitVec.lt_def.mp hc
  have hlow : a.toNat ||| b.toNat <<< 4 = b.toNat <<< 4 + a.toNat :=
    (Nat.or_comm _ _).trans (Nat.shiftLeft_add_eq_or_of_lt ha' _).symm
  have hall : (b.toNat <<< 4 + a.toNat) ||| c.toNat <<< 8 =
      c.toNat <<< 8 + (b.toNat <<< 4 + a.toNat) := by
    have hbyte : b.toNat <<< 4 + a.toNat < 2 ^ 8 := by
      rw [Nat.shiftLeft_eq]
      omega
    exact (Nat.or_comm _ _).trans (Nat.shiftLeft_add_eq_or_of_lt hbyte _).symm
  rw [BitVec.toNat_or, BitVec.toNat_or, BitVec.toNat_shiftLeft, BitVec.toNat_shiftLeft]
  simp only [U16.ofByte, BitVec.toNat_setWidth]
  rw [Nat.mod_eq_of_lt (by omega : a.toNat < 2 ^ 16), Nat.mod_eq_of_lt (by omega : b.toNat < 2 ^ 16),
    Nat.mod_eq_of_lt (by omega : c.toNat < 2 ^ 16),
    Nat.mod_eq_of_lt (by rw [Nat.shiftLeft_eq]; omega : b.toNat <<< 4 < 2 ^ 16),
    Nat.mod_eq_of_lt (by rw [Nat.shiftLeft_eq]; omega : c.toNat <<< 8 < 2 ^ 16), hlow, hall,
    Nat.shiftLeft_eq, Nat.shiftLeft_eq]
  omega

/-- The nibbles of a word. -/
theorem toNat_nibble (value : U16) (k : Nat) :
    ((value >>> k &&& 0x0F).setWidth 8 : U8).toNat = value.toNat / 2 ^ k % 16 := by
  have hmask : (value >>> k &&& 0x0F).toNat = value.toNat / 2 ^ k % 16 := by
    rw [BitVec.toNat_and, BitVec.toNat_ushiftRight, Nat.shiftRight_eq_div_pow]
    exact Nat.and_two_pow_sub_one_eq_mod _ 4
  rw [BitVec.toNat_setWidth, hmask]
  omega

theorem join_split {value : U16} (h : value < 4096) :
    U16.ofByte ((value &&& 0x0F).setWidth 8) |||
        (U16.ofByte (((value >>> 4) &&& 0x0F).setWidth 8) <<< 4) |||
        (U16.ofByte (((value >>> 8) &&& 0x0F).setWidth 8) <<< 8) = value := by
  have hvalue : value.toNat < 4096 := BitVec.lt_def.mp h
  have hfirst := toNat_nibble value 0
  have hsecond := toNat_nibble value 4
  have hthird := toNat_nibble value 8
  rw [BitVec.ushiftRight_zero] at hfirst
  have hlt : ∀ {nibble : U8} {n : Nat}, nibble.toNat = n % 16 → nibble < 16 := by
    intro nibble n hn
    rw [BitVec.lt_def, hn]
    exact Nat.mod_lt _ (by decide)
  apply BitVec.eq_of_toNat_eq
  rw [toNat_joinNibbles (hlt hfirst) (hlt hsecond) (hlt hthird), hfirst, hsecond, hthird]
  omega

theorem split_join {a b c : U8} (ha : a < 16) (hb : b < 16) (hc : c < 16) :
    let value := U16.ofByte a ||| (U16.ofByte b <<< 4) ||| (U16.ofByte c <<< 8)
    value < 4096 ∧ (value &&& 0x0F).setWidth 8 = a ∧ ((value >>> 4) &&& 0x0F).setWidth 8 = b ∧
      ((value >>> 8) &&& 0x0F).setWidth 8 = c := by
  intro value
  have ha' : a.toNat < 16 := BitVec.lt_def.mp ha
  have hb' : b.toNat < 16 := BitVec.lt_def.mp hb
  have hc' : c.toNat < 16 := BitVec.lt_def.mp hc
  have hjoin : value.toNat = a.toNat + 16 * b.toNat + 256 * c.toNat := toNat_joinNibbles ha hb hc
  have hfirst := toNat_nibble value 0
  rw [BitVec.ushiftRight_zero] at hfirst
  refine ⟨?_, BitVec.eq_of_toNat_eq ?_, BitVec.eq_of_toNat_eq ?_, BitVec.eq_of_toNat_eq ?_⟩
  · rw [BitVec.lt_def, hjoin]
    show _ < 4096
    omega
  · rw [hfirst, hjoin]
    omega
  · rw [toNat_nibble, hjoin]
    omega
  · rw [toNat_nibble, hjoin]
    omega

theorem readTripletNybbles_lt {m : McuRam} (h : m.Masked) (start : Nat) :
    m.readTripletNybbles start < 4096 :=
  (split_join (h start) (h (start + 1)) (h (start + 2))).1

theorem readTripletNybbles_writeTripletNybbles (m : McuRam) {start : Nat}
    (hstart : start + 2 < huc3McuRamNibbleCount) {value : U16} (hvalue : value < 4096) :
    (m.writeTripletNybbles start value).readTripletNybbles start = value := by
  rw [McuRam.readTripletNybbles, nibble_writeTripletNybbles m hstart,
    nibble_writeTripletNybbles m hstart, nibble_writeTripletNybbles m hstart]
  simp only [Nat.add_eq_left, Nat.succ_ne_zero, if_false, if_true, Nat.reduceEqDiff,
    Nat.add_left_cancel_iff]
  exact join_split hvalue

/-- Writing back what was read changes nothing. -/
theorem writeTripletNybbles_readTripletNybbles {m : McuRam} (h : m.Masked) {start : Nat}
    (hstart : start + 2 < huc3McuRamNibbleCount) :
    m.writeTripletNybbles start (m.readTripletNybbles start) = m := by
  obtain ⟨_, hfirst, hsecond, hthird⟩ := split_join (h start) (h (start + 1)) (h (start + 2))
  apply ext_nibble
  intro index
  rw [nibble_writeTripletNybbles m hstart]
  split
  · rename_i hindex
    rw [← hindex]
    exact hthird
  · split
    · rename_i hindex
      rw [← hindex]
      exact hsecond
    · split
      · rename_i hindex
        rw [← hindex]
        exact hfirst
      · rfl

end McuRam

/-- The live clock has the fields that are saved. -/
abbrev Huc3RtcState := Huc3RtcPersistentState

namespace Huc3RtcPersistentState

/-! ## The decoded clock -/

/-- The five reductions of `initialize_runtime_state`. -/
def reduced (rtc : Huc3RtcState) : Huc3RtcState :=
  { currentMinutesOfDay := rtc.currentMinutesOfDay % 1440
    currentDays := rtc.currentDays % 0x1000
    currentSubminuteSeconds := rtc.currentSubminuteSeconds % 60
    eventMinutesOfDay := rtc.eventMinutesOfDay % 1440
    eventDays := rtc.eventDays % 0x1000 }

/-- `HUC3_DAY_COUNTER_MODULUS as u32 * HUC3_MINUTES_PER_DAY as u32`. -/
def rtcCycleMinutes : BitVec 32 := 0x1000 * 1440

def currentTotalMinutes (rtc : Huc3RtcState) : BitVec 32 :=
  rtc.currentDays.setWidth 32 * 1440 + rtc.currentMinutesOfDay.setWidth 32

def eventTotalMinutes (rtc : Huc3RtcState) : BitVec 32 :=
  rtc.eventDays.setWidth 32 * 1440 + rtc.eventMinutesOfDay.setWidth 32

def remainingEventDeltaMinutes (rtc : Huc3RtcState) : BitVec 32 :=
  (rtc.eventTotalMinutes + rtcCycleMinutes - rtc.currentTotalMinutes) % rtcCycleMinutes

def setEventTotalMinutes (rtc : Huc3RtcState) (totalMinutes : BitVec 32) : Huc3RtcState :=
  let wrapped := totalMinutes % rtcCycleMinutes
  { rtc with
    eventDays := (wrapped / 1440).setWidth 16 % 0x1000
    eventMinutesOfDay := (wrapped % 1440).setWidth 16 }

/-- `Huc3RtcState::default()`. -/
def zero : Huc3RtcState :=
  { currentMinutesOfDay := 0, currentDays := 0, currentSubminuteSeconds := 0
    eventMinutesOfDay := 0, eventDays := 0 }

structure InRange (rtc : Huc3RtcState) : Prop where
  minutes : rtc.currentMinutesOfDay < 1440
  days : rtc.currentDays < 0x1000
  subminute : rtc.currentSubminuteSeconds < 60
  eventMinutes : rtc.eventMinutesOfDay < 1440
  eventDays : rtc.eventDays < 0x1000

theorem inRange_zero : zero.InRange :=
  ⟨by decide, by decide, by decide, by decide, by decide⟩

theorem mod_lt_minutes (value : U16) : value % 1440 < 1440 := BitVec.umod_lt _ (by decide)
theorem mod_lt_days (value : U16) : value % 0x1000 < 0x1000 := BitVec.umod_lt _ (by decide)

theorem mod_eq_of_lt {w : Nat} {value bound : BitVec w} (h : value < bound) :
    value % bound = value := by
  apply BitVec.eq_of_toNat_eq
  rw [BitVec.toNat_umod, Nat.mod_eq_of_lt (BitVec.lt_def.mp h)]

theorem inRange_reduced (rtc : Huc3RtcState) : rtc.reduced.InRange :=
  ⟨mod_lt_minutes _, mod_lt_days _, BitVec.umod_lt _ (by decide), mod_lt_minutes _, mod_lt_days _⟩

theorem reduced_of_inRange {rtc : Huc3RtcState} (h : rtc.InRange) : rtc.reduced = rtc := by
  rw [reduced, mod_eq_of_lt h.minutes, mod_eq_of_lt h.days, mod_eq_of_lt h.subminute,
    mod_eq_of_lt h.eventMinutes, mod_eq_of_lt h.eventDays]

theorem ofNat_lt {w value bound : Nat} (hvalue : value < bound) (hbound : bound < 2 ^ w) :
    BitVec.ofNat w value < BitVec.ofNat w bound := by
  rw [BitVec.lt_def, BitVec.toNat_ofNat, BitVec.toNat_ofNat, Nat.mod_eq_of_lt hbound,
    Nat.mod_eq_of_lt (Nat.lt_trans hvalue hbound)]
  exact hvalue

theorem InRange.addMinutes {rtc : Huc3RtcState} (h : rtc.InRange) (minuteDelta : Nat) :
    (rtc.addMinutes minuteDelta).InRange := by
  unfold Huc3RtcPersistentState.addMinutes
  split
  · exact h
  · refine ⟨ofNat_lt (Nat.mod_lt _ (by decide)) (by decide), ofNat_lt ?_ (by decide), h.subminute,
      h.eventMinutes, h.eventDays⟩
    exact Nat.div_lt_of_lt_mul (Nat.mod_lt _ (by decide))

theorem InRange.applyElapsedSeconds {rtc : Huc3RtcState} (h : rtc.InRange) (elapsedSeconds : Nat) :
    (rtc.applyElapsedSeconds elapsedSeconds).InRange := by
  unfold Huc3RtcPersistentState.applyElapsedSeconds
  split
  · exact h
  · apply InRange.addMinutes
    exact ⟨ofNat_lt (Nat.mod_lt _ (by decide)) (by decide),
      ofNat_lt (Nat.mod_lt _ (by decide)) (by decide),
      ofNat_lt (Nat.mod_lt _ (by decide)) (by decide), h.eventMinutes, h.eventDays⟩

theorem InRange.setEventTotalMinutes {rtc : Huc3RtcState} (h : rtc.InRange)
    (totalMinutes : BitVec 32) : (rtc.setEventTotalMinutes totalMinutes).InRange := by
  refine ⟨h.minutes, h.days, h.subminute, ?_, mod_lt_days _⟩
  have hlt : totalMinutes % rtcCycleMinutes % 1440 < 1440 := BitVec.umod_lt _ (by decide)
  show (totalMinutes % rtcCycleMinutes % 1440).setWidth 16 < 1440
  bv_omega

end Huc3RtcPersistentState

namespace McuRam

/-! ## Between the memory and the clock -/

@[irreducible] def blank : McuRam := Vector.replicate huc3McuRamNibbleCount 0

def syncTrackedRtcLocations (m : McuRam) (rtc : Huc3RtcState) : McuRam :=
  (((m.writeTripletNybbles 0x10 rtc.currentMinutesOfDay).writeTripletNybbles 0x13
    rtc.currentDays).writeTripletNybbles 0x58 rtc.eventMinutesOfDay).writeTripletNybbles 0x5B
    rtc.eventDays

def syncCurrentTimeFromMcuWindow (m : McuRam) (rtc : Huc3RtcState) : Huc3RtcState :=
  { rtc with
    currentMinutesOfDay := m.readTripletNybbles 0x10 % 1440
    currentDays := m.readTripletNybbles 0x13 % 0x1000
    currentSubminuteSeconds := 0 }

def syncEventTimeFromMcuWindow (m : McuRam) (rtc : Huc3RtcState) : Huc3RtcState :=
  { rtc with
    eventMinutesOfDay := m.readTripletNybbles 0x58 % 1440
    eventDays := m.readTripletNybbles 0x5B % 0x1000 }

/-- The memory holds nibbles, and decodes to the clock.  The minutes are reduced to a day, so
a program that writes more than a day leaves more in the memory than on the clock. -/
structure Tracks (m : McuRam) (rtc : Huc3RtcState) : Prop where
  masked : m.Masked
  inRange : rtc.InRange
  minutes : rtc.currentMinutesOfDay = m.readTripletNybbles 0x10 % 1440
  days : rtc.currentDays = m.readTripletNybbles 0x13
  eventMinutes : rtc.eventMinutesOfDay = m.readTripletNybbles 0x58 % 1440
  eventDays : rtc.eventDays = m.readTripletNybbles 0x5B

theorem readTripletNybbles_sync (m : McuRam) {rtc : Huc3RtcState} (h : rtc.InRange) :
    (m.syncTrackedRtcLocations rtc).readTripletNybbles 0x10 = rtc.currentMinutesOfDay ∧
    (m.syncTrackedRtcLocations rtc).readTripletNybbles 0x13 = rtc.currentDays ∧
    (m.syncTrackedRtcLocations rtc).readTripletNybbles 0x58 = rtc.eventMinutesOfDay ∧
    (m.syncTrackedRtcLocations rtc).readTripletNybbles 0x5B = rtc.eventDays := by
  have hminutes : rtc.currentMinutesOfDay < 4096 := BitVec.lt_trans h.minutes (by decide)
  have heventMinutes : rtc.eventMinutesOfDay < 4096 := BitVec.lt_trans h.eventMinutes (by decide)
  unfold syncTrackedRtcLocations
  refine ⟨?_, ?_, ?_, readTripletNybbles_writeTripletNybbles _ (by decide) h.eventDays⟩
  · rw [readTripletNybbles_writeTripletNybbles_of_disjoint _ (by decide) (by decide),
      readTripletNybbles_writeTripletNybbles_of_disjoint _ (by decide) (by decide),
      readTripletNybbles_writeTripletNybbles_of_disjoint _ (by decide) (by decide)]
    exact readTripletNybbles_writeTripletNybbles _ (by decide) hminutes
  · rw [readTripletNybbles_writeTripletNybbles_of_disjoint _ (by decide) (by decide),
      readTripletNybbles_writeTripletNybbles_of_disjoint _ (by decide) (by decide)]
    exact readTripletNybbles_writeTripletNybbles _ (by decide) h.days
  · rw [readTripletNybbles_writeTripletNybbles_of_disjoint _ (by decide) (by decide)]
    exact readTripletNybbles_writeTripletNybbles _ (by decide) heventMinutes

/-- A clock written back is tracked. -/
theorem tracks_sync {m : McuRam} (hm : m.Masked) {rtc : Huc3RtcState} (h : rtc.InRange) :
    (m.syncTrackedRtcLocations rtc).Tracks rtc := by
  obtain ⟨hminutes, hdays, heventMinutes, heventDays⟩ := readTripletNybbles_sync m h
  refine ⟨?_, h, ?_, hdays.symm, ?_, heventDays.symm⟩
  · exact (((hm.writeTripletNybbles (by decide) _).writeTripletNybbles (by decide)
      _).writeTripletNybbles (by decide) _).writeTripletNybbles (by decide) _
  · rw [hminutes, Huc3RtcPersistentState.mod_eq_of_lt h.minutes]
  · rw [heventMinutes, Huc3RtcPersistentState.mod_eq_of_lt h.eventMinutes]

theorem nibble_blank (index : Nat) : blank.nibble index = 0 := by
  unfold blank nibble
  rw [Vector.getElem?_replicate]
  split
  · rfl
  · rfl

theorem masked_blank : blank.Masked := by
  intro index
  rw [nibble_blank]
  decide

theorem maskNibbles_blank : blank.maskNibbles = blank := maskNibbles_of_masked masked_blank

/-- Midnight of day zero is what blank memory shows. -/
theorem sync_blank : blank.syncTrackedRtcLocations .zero = blank := by
  have hwrite : ∀ start, start + 2 < huc3McuRamNibbleCount →
      blank.writeTripletNybbles start 0 = blank := by
    intro start hstart
    have hzero : blank.readTripletNybbles start = 0 := by
      rw [readTripletNybbles, nibble_blank, nibble_blank, nibble_blank]
      rfl
    have hback := writeTripletNybbles_readTripletNybbles masked_blank hstart
    rwa [hzero] at hback
  show ((((blank.writeTripletNybbles 0x10 0).writeTripletNybbles 0x13 0).writeTripletNybbles
    0x58 0).writeTripletNybbles 0x5B 0) = blank
  rw [hwrite 0x10 (by decide), hwrite 0x13 (by decide), hwrite 0x58 (by decide),
    hwrite 0x5B (by decide)]

/-- Blank memory tracks the zero clock. -/
theorem tracks_blank : blank.Tracks .zero := by
  have h := tracks_sync masked_blank Huc3RtcPersistentState.inRange_zero
  rwa [sync_blank] at h

/-- Memory that agrees on the clock's nibbles tracks the same clock. -/
theorem Tracks.of_agree {m m' : McuRam} {rtc : Huc3RtcState} (h : m.Tracks rtc) (hm : m'.Masked)
    (hagree : ∀ index, (0x10 ≤ index ∧ index ≤ 0x15) ∨ (0x58 ≤ index ∧ index ≤ 0x5D) →
      m'.nibble index = m.nibble index) : m'.Tracks rtc := by
  refine ⟨hm, h.inRange, ?_, ?_, ?_, ?_⟩
  · rw [readTripletNybbles_of_disjoint fun index hlow hhigh => hagree index (by omega)]
    exact h.minutes
  · rw [readTripletNybbles_of_disjoint fun index hlow hhigh => hagree index (by omega)]
    exact h.days
  · rw [readTripletNybbles_of_disjoint fun index hlow hhigh => hagree index (by omega)]
    exact h.eventMinutes
  · rw [readTripletNybbles_of_disjoint fun index hlow hhigh => hagree index (by omega)]
    exact h.eventDays

/-- A nibble written in the window of the time is decoded. -/
theorem Tracks.syncCurrent {m m' : McuRam} {rtc : Huc3RtcState} (h : m.Tracks rtc) (hm : m'.Masked)
    (hagree : ∀ index, 0x58 ≤ index ∧ index ≤ 0x5D → m'.nibble index = m.nibble index) :
    m'.Tracks (m'.syncCurrentTimeFromMcuWindow rtc) := by
  have hdays := Huc3RtcPersistentState.mod_eq_of_lt (readTripletNybbles_lt hm 0x13)
  refine ⟨hm, ⟨Huc3RtcPersistentState.mod_lt_minutes _, Huc3RtcPersistentState.mod_lt_days _,
    (by decide : (0 : U8) < 60), h.inRange.eventMinutes, h.inRange.eventDays⟩, rfl, hdays, ?_, ?_⟩
  · rw [readTripletNybbles_of_disjoint fun index hlow hhigh => hagree index (by omega)]
    exact h.eventMinutes
  · rw [readTripletNybbles_of_disjoint fun index hlow hhigh => hagree index (by omega)]
    exact h.eventDays

/-- A nibble written in the window of the event is decoded. -/
theorem Tracks.syncEvent {m m' : McuRam} {rtc : Huc3RtcState} (h : m.Tracks rtc) (hm : m'.Masked)
    (hagree : ∀ index, 0x10 ≤ index ∧ index ≤ 0x15 → m'.nibble index = m.nibble index) :
    m'.Tracks (m'.syncEventTimeFromMcuWindow rtc) := by
  have hdays := Huc3RtcPersistentState.mod_eq_of_lt (readTripletNybbles_lt hm 0x5B)
  refine ⟨hm, ⟨h.inRange.minutes, h.inRange.days, h.inRange.subminute,
    Huc3RtcPersistentState.mod_lt_minutes _, Huc3RtcPersistentState.mod_lt_days _⟩, ?_, ?_, rfl,
    hdays⟩
  · rw [readTripletNybbles_of_disjoint fun index hlow hhigh => hagree index (by omega)]
    exact h.minutes
  · rw [readTripletNybbles_of_disjoint fun index hlow hhigh => hagree index (by omega)]
    exact h.days

/-- The raw minutes are those of one day, for the time and for the event. -/
def RawTimesInDay (m : McuRam) : Prop :=
  m.readTripletNybbles 0x10 < 1440 ∧ m.readTripletNybbles 0x58 < 1440

/-- Writing the tracked clock back restores the memory exactly when its raw minutes are those of
one day. -/
theorem Tracks.sync_eq_iff {m : McuRam} {rtc : Huc3RtcState} (h : m.Tracks rtc) :
    m.syncTrackedRtcLocations rtc = m ↔ m.RawTimesInDay := by
  constructor
  · intro hsame
    obtain ⟨hminutes, _, heventMinutes, _⟩ := readTripletNybbles_sync m h.inRange
    rw [hsame] at hminutes heventMinutes
    exact ⟨hminutes ▸ h.inRange.minutes, heventMinutes ▸ h.inRange.eventMinutes⟩
  · rintro ⟨hminutes, heventMinutes⟩
    rw [syncTrackedRtcLocations, h.minutes, h.days, h.eventMinutes, h.eventDays,
      Huc3RtcPersistentState.mod_eq_of_lt hminutes,
      Huc3RtcPersistentState.mod_eq_of_lt heventMinutes,
      writeTripletNybbles_readTripletNybbles h.masked (by decide),
      writeTripletNybbles_readTripletNybbles h.masked (by decide),
      writeTripletNybbles_readTripletNybbles h.masked (by decide),
      writeTripletNybbles_readTripletNybbles h.masked (by decide)]

end McuRam

end GbCycle
