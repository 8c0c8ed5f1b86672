import GbCycle.Persistence.ExternalSave

/-!
# An external save keeps the time

The export moves the clock from the time of the save to the time of the export, and the import
moves it on to its own time.  Together they move it as one advance would, because advances add
up.  The rest of the backing store comes back as it was.

A HuC-3 cartridge has no external form, nor has an MBC6 cartridge whose hidden flash or sector
protection was used; the export refuses these.
-/

namespace GbCycle

open Wire (leBytes ofLeBytes ofLeBytes_leBytes)

/-! ## The parts -/

theorem decodeExternalLinearRam_length (ram : List U8) (context : String) :
    decodeExternalLinearRam ram ram.length context = .ok ram := by
  rw [decodeExternalLinearRam, if_neg (by simp)]

theorem encodeExternalLinearRam_length (ram : List U8) :
    encodeExternalLinearRam ram ram.length = .ok ram := by
  rw [encodeExternalLinearRam, if_neg (by simp)]

theorem unpack_packed_byte {first second : U8} (hfirst : first < 16) (hsecond : second < 16) :
    ((first &&& 0x0F) ||| ((second &&& 0x0F) <<< 4)) &&& 0x0F = first ∧
    (((first &&& 0x0F) ||| ((second &&& 0x0F) <<< 4)) >>> 4) &&& 0x0F = second := by
  have hfirst : first.toNat < 2 ^ 4 := BitVec.lt_def.mp hfirst
  have hsecond : second.toNat < 2 ^ 4 := BitVec.lt_def.mp hsecond
  have hmask (v : U8) : (v &&& 0x0F#8).toNat = v.toNat % 16 := U8.toNat_and_nibble v
  have hnibble (v : U8) (h : v.toNat < 2 ^ 4) : v &&& 0x0F#8 = v := by
    apply BitVec.eq_of_toNat_eq
    rw [hmask]
    exact Nat.mod_eq_of_lt h
  have hpacked : (first ||| second <<< 4).toNat = second.toNat * 16 + first.toNat := by
    rw [BitVec.toNat_or, BitVec.toNat_shiftLeft, Nat.shiftLeft_eq, Nat.mod_eq_of_lt (by omega),
      Nat.or_comm, ← Nat.shiftLeft_eq, ← Nat.shiftLeft_add_eq_or_of_lt hfirst, Nat.shiftLeft_eq]
  show ((first &&& 0x0F#8) ||| ((second &&& 0x0F#8) <<< 4)) &&& 0x0F#8 = first ∧
    (((first &&& 0x0F#8) ||| ((second &&& 0x0F#8) <<< 4)) >>> 4) &&& 0x0F#8 = second
  rw [hnibble first hfirst, hnibble second hsecond]
  constructor
  · apply BitVec.eq_of_toNat_eq
    rw [hmask, hpacked]
    omega
  · apply BitVec.eq_of_toNat_eq
    rw [hmask, BitVec.toNat_ushiftRight, hpacked, Nat.shiftRight_eq_div_pow]
    omega

theorem unpackNibbles_packNibbles {nibbles : List U8} (heven : nibbles.length % 2 = 0)
    (hnibbles : ∀ nibble ∈ nibbles, nibble < 16) :
    unpackNibbles (packNibbles nibbles) = nibbles := by
  induction nibbles using packNibbles.induct with
  | case1 first second rest ih =>
      obtain ⟨hfirst, hsecond⟩ := unpack_packed_byte (hnibbles first (by simp))
        (hnibbles second (by simp))
      have hrest : ∀ nibble ∈ rest, nibble < 16 := fun nibble hmem =>
        hnibbles nibble (List.mem_cons_of_mem _ (List.mem_cons_of_mem _ hmem))
      rw [packNibbles, unpackNibbles, hfirst, hsecond, ih (by simp at heven; omega) hrest]
  | case2 nibbles hshort =>
      rcases nibbles with _ | ⟨first, _ | ⟨second, rest⟩⟩
      · rfl
      · cases heven
      · exact (hshort first second rest rfl).elim

theorem length_packNibbles (nibbles : List U8) :
    (packNibbles nibbles).length = nibbles.length / 2 := by
  induction nibbles using packNibbles.induct with
  | case1 first second rest ih =>
      rw [packNibbles, List.length_cons, ih, List.length_cons, List.length_cons]
      omega
  | case2 nibbles hshort =>
      match nibbles with
      | [] => rfl
      | [_] => simp [packNibbles]
      | first :: second :: rest => exact (hshort first second rest rfl).elim

theorem decodeExternalMbc2Ram_packNibbles {cells : Vector U8 mbc2RamCellCount}
    (hcells : ∀ cell ∈ cells.toList, cell < 16) :
    decodeExternalMbc2Ram (packNibbles cells.toList) mbc2RamCellCount = .ok cells := by
  have hlength : (packNibbles cells.toList).length = mbc2MgbaPackedByteCount := by
    rw [length_packNibbles, Vector.length_toList, mbc2MgbaPackedByteCount]
  have hcopy : unpackNibbles (packNibbles cells.toList) = cells.toList :=
    unpackNibbles_packNibbles (by rw [Vector.length_toList]; rfl) hcells
  rw [decodeExternalMbc2Ram, if_neg (by simp), dif_pos hlength]
  congr 1
  apply Vector.toList_inj.mp
  exact hcopy

/-! ## The footer -/

theorem dayCounter_of_dayLow_dayHigh {rtc : Mbc3RtcPersistentState} (h : rtc.Fits) :
    U16.ofByte rtc.dayLow ||| (U16.ofByte (rtc.dayHigh &&& 0x01) <<< 8) = rtc.dayCounter ∧
    (rtc.dayHigh &&& 0x40 != 0) = rtc.halt ∧ (rtc.dayHigh &&& 0x80 != 0) = rtc.carry := by
  have hday : rtc.dayCounter.toNat < 512 := BitVec.lt_def.mp h.dayCounter
  have hlow : rtc.dayLow = rtc.dayCounter.low := by
    apply BitVec.eq_of_toNat_eq
    have hmask : (rtc.dayCounter &&& 0x00FF).toNat = rtc.dayCounter.toNat % 2 ^ 8 := by
      rw [BitVec.toNat_and]
      exact Nat.and_two_pow_sub_one_eq_mod _ 8
    rw [Mbc3RtcPersistentState.dayLow, U16.low, BitVec.toNat_setWidth, BitVec.toNat_setWidth, hmask,
      Nat.mod_mod]
  have hbit : rtc.dayCounter.high = 0 ∨ rtc.dayCounter.high = 1 := by
    have hlt : rtc.dayCounter.high.toNat < 2 := by
      rw [U16.high, BitVec.toNat_setWidth, BitVec.toNat_ushiftRight, Nat.shiftRight_eq_div_pow]
      omega
    rcases (by omega : rtc.dayCounter.high.toNat = 0 ∨ rtc.dayCounter.high.toNat = 1) with h | h
    · exact .inl (BitVec.eq_of_toNat_eq h)
    · exact .inr (BitVec.eq_of_toNat_eq h)
  have hhigh : rtc.dayHigh = (rtc.dayCounter.high &&& 0x01) |||
      ((if rtc.halt then 1 else 0) <<< 6) ||| ((if rtc.carry then 1 else 0) <<< 7) := rfl
  have hday : rtc.dayHigh &&& 0x01 = rtc.dayCounter.high := by
    rw [hhigh]
    rcases hbit with h | h <;> rw [h] <;> cases rtc.halt <;> cases rtc.carry <;> rfl
  refine ⟨?_, ?_, ?_⟩
  · rw [hlow, hday, BitVec.or_comm, BitVec.or_comm]
    exact U16.ofBytes_high_low rtc.dayCounter
  · rw [hhigh]
    rcases hbit with h | h <;> rw [h] <;> cases rtc.halt <;> cases rtc.carry <;> rfl
  · rw [hhigh]
    rcases hbit with h | h <;> rw [h] <;> cases rtc.halt <;> cases rtc.carry <;> rfl

theorem externalMbc3Registers_encode {rtc : Mbc3RtcPersistentState} (h : rtc.Fits)
    (now : BitVec 64) : externalMbc3Registers (encodeExternalMbc3RtcSuffix rtc now) = rtc := by
  have hread (field : U8) : BitVec.ofNat 8 (ofLeBytes (leBytes 4 field.toNat)) = field := by
    rw [ofLeBytes_leBytes (Nat.lt_trans field.isLt (by decide)), BitVec.ofNat_toNat,
      BitVec.setWidth_eq]
  have hseconds : readExternalU32LowU8 (encodeExternalMbc3RtcSuffix rtc now) 0 = rtc.seconds :=
    hread rtc.seconds
  have hminutes : readExternalU32LowU8 (encodeExternalMbc3RtcSuffix rtc now) 4 = rtc.minutes :=
    hread rtc.minutes
  have hhours : readExternalU32LowU8 (encodeExternalMbc3RtcSuffix rtc now) 8 = rtc.hours :=
    hread rtc.hours
  have hlow : readExternalU32LowU8 (encodeExternalMbc3RtcSuffix rtc now) 12 = rtc.dayLow :=
    hread rtc.dayLow
  have hhigh : readExternalU32LowU8 (encodeExternalMbc3RtcSuffix rtc now) 16 = rtc.dayHigh :=
    hread rtc.dayHigh
  obtain ⟨hday, hhalt, hcarry⟩ := dayCounter_of_dayLow_dayHigh h
  have hmasked := Mbc3RtcPersistentState.masked_eq_of_fits h
  have hsecondsMask : rtc.seconds &&& 0x3F = rtc.seconds := congrArg (·.seconds) hmasked
  have hminutesMask : rtc.minutes &&& 0x3F = rtc.minutes := congrArg (·.minutes) hmasked
  have hhoursMask : rtc.hours &&& 0x1F = rtc.hours := congrArg (·.hours) hmasked
  simp only [externalMbc3Registers, hseconds, hminutes, hhours, hlow, hhigh, hsecondsMask,
    hminutesMask, hhoursMask, hday, hhalt, hcarry]

theorem decodeExternalMbc3RtcSuffix_encode {rtc : Mbc3RtcPersistentState} (h : rtc.Fits)
    (exported now : BitVec 64) :
    decodeExternalMbc3RtcSuffix (encodeExternalMbc3RtcSuffix rtc exported) now =
      .ok (rtc.applyElapsedSeconds (now.toNat - exported.toNat)) := by
  have hlength : (encodeExternalMbc3RtcSuffix rtc exported).length = mbc3ExternalRtcSuffixLen := rfl
  have hsaved : externalMbc3SavedUnixSeconds (encodeExternalMbc3RtcSuffix rtc exported) =
      exported.toNat := by
    have hstamp : ((encodeExternalMbc3RtcSuffix rtc exported).drop 40).take 8 =
        leBytes 8 exported.toNat := rfl
    rw [externalMbc3SavedUnixSeconds, hlength, if_neg (by decide), hstamp]
    exact ofLeBytes_leBytes (Nat.lt_of_lt_of_eq exported.isLt (by decide))
  rw [decodeExternalMbc3RtcSuffix, hlength, if_neg (by decide), externalMbc3Registers_encode h,
    hsaved]

/-! ## The states a cartridge can have -/

/-- The states that go with a battery-backed profile.  Memory has the profile's size, MBC2
cells are nibbles, and the clock's registers lie within their masks. -/
inductive IsBackingStore : CartridgePersistenceProfile → PersistentCartState → Prop
  | noMbcRam {ram : List U8} {n : Nat} (h : ram.length = n) :
      IsBackingStore (.persistentRam (.linear n)) (.noMbcRam ram)
  | mmm01Ram {ram : List U8} {n : Nat} (h : ram.length = n) :
      IsBackingStore (.persistentRam (.linear n)) (.mmm01Ram ram)
  | huc1Ram {ram : List U8} {n : Nat} (h : ram.length = n) :
      IsBackingStore (.persistentRam (.linear n)) (.huc1Ram ram)
  | mbc1Ram {ram : List U8} {n : Nat} (h : ram.length = n) :
      IsBackingStore (.persistentRam (.linear n)) (.mbc1Ram ram)
  | mbc3Ram {ram : List U8} {n : Nat} (h : ram.length = n) :
      IsBackingStore (.persistentRam (.linear n)) (.mbc3Ram ram)
  | mbc5Ram {ram : List U8} {n : Nat} (h : ram.length = n) :
      IsBackingStore (.persistentRam (.linear n)) (.mbc5Ram ram)
  | pocketCameraRam {ram : List U8} {n : Nat} (h : ram.length = n) :
      IsBackingStore (.persistentRam (.linear n)) (.pocketCameraRam ram)
  | mbc2Ram {cells : Vector U8 mbc2RamCellCount} (h : ∀ cell ∈ cells.toList, cell < 16) :
      IsBackingStore (.persistentRam (.mbc2Nibbles mbc2RamCellCount)) (.mbc2Ram cells)
  | mbc3Rtc {rtc : Mbc3RtcPersistentState} (h : rtc.Fits) :
      IsBackingStore .persistentRtc (.mbc3Rtc rtc)
  | mbc3RamRtc {ram : List U8} {rtc : Mbc3RtcPersistentState} {n : Nat} (h : ram.length = n)
      (hrtc : rtc.Fits) : IsBackingStore (.persistentRamAndRtc (.linear n)) (.mbc3RamRtc ram rtc)
  | huc3 {ram : List U8} {huc3 : Huc3PersistentState} {n : Nat} (h : ram.length = n) :
      IsBackingStore (.persistentRamAndRtc (.linear n)) (.huc3 ram huc3)
  | mbc6 {ram flash hidden : List U8} {sector0Protected : Bool} {n flashLen hiddenLen : Nat}
      (h : ram.length = n) (hflash : flash.length = flashLen) (hhidden : hidden.length = hiddenLen) :
      IsBackingStore (.persistentRamAndFlash (.linear n) flashLen hiddenLen)
        (.mbc6 ram flash hidden sector0Protected)
  | mbc7Eeprom {eeprom : List U8} {n : Nat} (h : eeprom.length = n) :
      IsBackingStore (.persistentEeprom n) (.mbc7Eeprom eeprom)

/-- HuC-3 has no external form, and the MBC6 form omits the hidden flash and the protection. -/
def HasExternalForm : PersistentCartState → Prop
  | .huc3 .. => False
  | .mbc6 _ _ hiddenRegion sector0Protected =>
      sector0Protected = false ∧ hiddenRegion.any (· != 0xFF) = false
  | _ => True

/-- The clock, if there is one that runs, can count the seconds in a `u64`. -/
def ClockCounts (elapsedSeconds : Nat) : PersistentCartState → Prop
  | .mbc3Rtc rtc | .mbc3RamRtc _ rtc =>
      rtc.halt = true ∨ Mbc3RtcPersistentState.maxTotalSeconds + elapsedSeconds < 2 ^ 64
  | _ => True

/-- The profiles with a clock. -/
def CartridgePersistenceProfile.HasClock : CartridgePersistenceProfile → Prop
  | .persistentRtc | .persistentRamAndRtc _ => True
  | _ => False

variable {metadata : CartridgePersistenceMetadata} {state target : PersistentCartState}

theorem applyElapsed_of_noClock (hstate : IsBackingStore metadata.profile state)
    (hclock : ¬ metadata.profile.HasClock) (n : Nat) :
    applyElapsedOffSessionSeconds n state = state := by
  cases hprofile : metadata.profile <;> rw [hprofile] at hstate hclock
  all_goals cases hstate
  all_goals first | rfl | exact absurd trivial hclock

theorem isBackingStore_applyElapsed (hstate : IsBackingStore metadata.profile state) {n : Nat}
    (hcounts : ClockCounts n state) :
    IsBackingStore metadata.profile (applyElapsedOffSessionSeconds n state) := by
  generalize metadata.profile = profile at hstate
  cases hstate with
  | mbc3Rtc h => exact .mbc3Rtc (h.applyElapsedSeconds hcounts)
  | mbc3RamRtc h hrtc => exact .mbc3RamRtc h (hrtc.applyElapsedSeconds hcounts)
  | huc3 h => exact .huc3 h
  | mbc2Ram h => exact .mbc2Ram h
  | mbc6 h hflash hhidden => exact .mbc6 h hflash hhidden
  | noMbcRam h => exact .noMbcRam h
  | mmm01Ram h => exact .mmm01Ram h
  | huc1Ram h => exact .huc1Ram h
  | mbc1Ram h => exact .mbc1Ram h
  | mbc3Ram h => exact .mbc3Ram h
  | mbc5Ram h => exact .mbc5Ram h
  | pocketCameraRam h => exact .pocketCameraRam h
  | mbc7Eeprom h => exact .mbc7Eeprom h

/-- The import only asks the target which form to expect. -/
theorem importExternalCartridgeSave_target (hstate : IsBackingStore metadata.profile state)
    (htarget : IsBackingStore metadata.profile target) (hkind : target.kindName = state.kindName)
    (hstateForm : HasExternalForm state) (htargetForm : HasExternalForm target)
    (bytes : List U8) (now : BitVec 64) :
    importExternalCartridgeSave metadata target bytes now =
      importExternalCartridgeSave metadata state bytes now := by
  obtain ⟨hasBattery, hasRtc, profile⟩ := metadata
  cases hstate
  all_goals cases htarget
  case mbc6.mbc6 hhidden _ _ _ _ _ _ hhidden' =>
    obtain ⟨rfl, hblank⟩ := hstateForm
    obtain ⟨rfl, hblank'⟩ := htargetForm
    simp only [importExternalCartridgeSave, decodeExternalMbc6Save, hhidden, hhidden', hblank,
      hblank']
  all_goals first
    | rfl
    | exact absurd hkind (by simp [PersistentCartState.kindName])

/-- What is written at one time and read at another has moved on by the time between. -/
theorem import_encode (hbattery : usesBatteryBackedHardwarePersistence metadata = true)
    (hstate : IsBackingStore metadata.profile state) (hform : HasExternalForm state)
    (exported now : BitVec 64) :
    ∃ bytes, encodeExternalCartridgeSave metadata state exported .mgba = .ok bytes ∧
      importExternalCartridgeSave metadata state bytes now =
        .ok (applyElapsedOffSessionSeconds (now.toNat - exported.toNat) state) := by
  obtain ⟨hasBattery, hasRtc, profile⟩ := metadata
  unfold encodeExternalCartridgeSave importExternalCartridgeSave
  simp only [hbattery, Bool.true_eq_false, if_false]
  cases hstate with
  | @noMbcRam ram n h =>
      subst h
      exact ⟨ram, encodeExternalLinearRam_length ram,
        congrArg (PersistentCartState.noMbcRam <$> ·) (decodeExternalLinearRam_length ram _)⟩
  | @mmm01Ram ram n h =>
      subst h
      exact ⟨ram, encodeExternalLinearRam_length ram,
        congrArg (PersistentCartState.mmm01Ram <$> ·) (decodeExternalLinearRam_length ram _)⟩
  | @huc1Ram ram n h =>
      subst h
      exact ⟨ram, encodeExternalLinearRam_length ram,
        congrArg (PersistentCartState.huc1Ram <$> ·) (decodeExternalLinearRam_length ram _)⟩
  | @mbc1Ram ram n h =>
      subst h
      exact ⟨ram, encodeExternalLinearRam_length ram,
        congrArg (PersistentCartState.mbc1Ram <$> ·) (decodeExternalLinearRam_length ram _)⟩
  | @mbc3Ram ram n h =>
      subst h
      exact ⟨ram, encodeExternalLinearRam_length ram,
        congrArg (PersistentCartState.mbc3Ram <$> ·) (decodeExternalLinearRam_length ram _)⟩
  | @mbc5Ram ram n h =>
      subst h
      exact ⟨ram, encodeExternalLinearRam_length ram,
        congrArg (PersistentCartState.mbc5Ram <$> ·) (decodeExternalLinearRam_length ram _)⟩
  | @pocketCameraRam ram n h =>
      subst h
      exact ⟨ram, encodeExternalLinearRam_length ram,
        congrArg (PersistentCartState.pocketCameraRam <$> ·) (decodeExternalLinearRam_length ram _)⟩
  | @mbc7Eeprom eeprom n h =>
      subst h
      exact ⟨eeprom, encodeExternalLinearRam_length eeprom,
        congrArg (PersistentCartState.mbc7Eeprom <$> ·) (decodeExternalLinearRam_length eeprom _)⟩
  | @mbc2Ram cells h =>
      refine ⟨packNibbles cells.toList, rfl, ?_⟩
      exact congrArg (PersistentCartState.mbc2Ram <$> ·) (decodeExternalMbc2Ram_packNibbles h)
  | @mbc3Rtc rtc h =>
      refine ⟨_, rfl, ?_⟩
      exact congrArg (PersistentCartState.mbc3Rtc <$> ·)
        (decodeExternalMbc3RtcSuffix_encode h exported now)
  | @mbc3RamRtc ram rtc n h hrtc =>
      subst h
      have hlength : (encodeExternalMbc3RtcSuffix rtc exported).length = mbc3ExternalRtcSuffixLen :=
        rfl
      refine ⟨ram ++ encodeExternalMbc3RtcSuffix rtc exported,
        congrArg (· >>= _) (encodeExternalLinearRam_length ram), ?_⟩
      simp only [List.length_append, hlength, ne_eq, not_true_eq_false, and_false, if_false,
        List.take_left, List.drop_left]
      exact congrArg (PersistentCartState.mbc3RamRtc ram <$> ·)
        (decodeExternalMbc3RtcSuffix_encode hrtc exported now)
  | @mbc6 ram flash hidden sector0Protected n flashLen hiddenLen h hflash hhidden =>
      subst h hflash hhidden
      obtain ⟨rfl, hblank⟩ := hform
      have hcopy : List.replicate hidden.length 0xFF = hidden := by
        refine (List.eq_replicate_iff.mpr ⟨rfl, fun byte hmem => ?_⟩).symm
        simpa using List.any_eq_false.mp hblank byte hmem
      refine ⟨ram ++ flash, ?_, ?_⟩
      · show encodeExternalMbc6Save .. = _
        rw [encodeExternalMbc6Save, if_neg (by simp), if_neg (by simp), if_neg (by simp), hblank]
        rfl
      · show decodeExternalMbc6Save .. = _
        rw [decodeExternalMbc6Save, if_neg (by simp), hblank, if_neg (by simp),
          if_neg (by simp), List.take_left, List.drop_left, hcopy]
        rfl
  | huc3 h => exact hform.elim

/-! ## The whole way -/

theorem ClockCounts.mono {n m : Nat} (h : ClockCounts n state) (hle : m ≤ n) :
    ClockCounts m state := by
  cases state with
  | mbc3Rtc rtc => exact h.imp_right fun hlt => by omega
  | mbc3RamRtc ram rtc => exact h.imp_right fun hlt => by omega
  | _ => trivial

theorem clockCounts_of_noExternalForm (hform : ¬ HasExternalForm state) (n : Nat) :
    ClockCounts n state := by
  cases state with
  | huc3 ram huc3 => trivial
  | mbc6 ram flash hidden sector0Protected => trivial
  | _ => exact absurd trivial hform

theorem hasExternalForm_applyElapsed (n : Nat) :
    HasExternalForm (applyElapsedOffSessionSeconds n state) ↔ HasExternalForm state := by
  cases state <;> exact Iff.rfl

theorem kindName_applyElapsed (n : Nat) :
    (applyElapsedOffSessionSeconds n state).kindName = state.kindName := by
  cases state <;> rfl

theorem applyElapsed_add (hstate : IsBackingStore metadata.profile state)
    (hform : HasExternalForm state) {a b : Nat} (hcounts : ClockCounts (a + b) state) :
    applyElapsedOffSessionSeconds b (applyElapsedOffSessionSeconds a state) =
      applyElapsedOffSessionSeconds (a + b) state := by
  generalize metadata.profile = profile at hstate
  cases hstate with
  | mbc3Rtc h =>
      exact congrArg PersistentCartState.mbc3Rtc
        (Mbc3RtcPersistentState.applyElapsedSeconds_add h hcounts)
  | @mbc3RamRtc ram rtc n h hrtc =>
      exact congrArg (PersistentCartState.mbc3RamRtc ram)
        (Mbc3RtcPersistentState.applyElapsedSeconds_add hrtc hcounts)
  | huc3 h => exact hform.elim
  | _ => rfl

/-- A state without an external form is refused in favour of the internal format. -/
theorem encode_refuses (hbattery : usesBatteryBackedHardwarePersistence metadata = true)
    (hstate : IsBackingStore metadata.profile state) (hform : ¬ HasExternalForm state)
    (now : BitVec 64) :
    ∃ error, encodeExternalCartridgeSave metadata state now .mgba = .error error ∧
      error.allowsInternalFallback = true := by
  obtain ⟨hasBattery, hasRtc, profile⟩ := metadata
  unfold encodeExternalCartridgeSave
  simp only [hbattery, Bool.true_eq_false, if_false]
  cases hstate with
  | huc3 h => exact ⟨.unsupportedPersistentState _, rfl, rfl⟩
  | @mbc6 ram flash hidden sector0Protected n flashLen hiddenLen h hflash hhidden =>
      subst h hflash hhidden
      have hused : (sector0Protected || hidden.any (· != 0xFF)) = true := by
        rw [Bool.or_eq_true]
        by_contra hneither
        simp only [not_or, Bool.not_eq_true] at hneither
        exact hform hneither
      obtain ⟨reason, hrefused⟩ : ∃ reason, encodeExternalMbc6Save ram flash hidden
          sector0Protected ram.length flash.length hidden.length =
            .error (.unsupportedStateShape "Mbc6" reason) := by
        rw [encodeExternalMbc6Save, if_neg (by simp), if_neg (by simp), if_neg (by simp), hused]
        exact ⟨_, rfl⟩
      exact ⟨_, hrefused, rfl⟩
  | _ => exact absurd trivial hform

/-- The external save of a cartridge keeps the time.  What is exported at one time and imported
at a later one, into a cartridge of the same kind, is the state with all the seconds since the
save on its clock, and just the state when there is no clock.  The clock has to count these
seconds in a `u64`.  A state with no external form is refused, and saved internally. -/
theorem externalSave_keepsTime (formatVersion : U16) (savedAt exported imported : BitVec 64)
    (hbattery : usesBatteryBackedHardwarePersistence metadata = true)
    (hstate : IsBackingStore metadata.profile state)
    (htarget : IsBackingStore metadata.profile target)
    (hkind : target.kindName = state.kindName)
    (hexported : savedAt ≤ exported) (himported : exported ≤ imported) :
    (HasExternalForm state → HasExternalForm target →
      ClockCounts (imported.toNat - savedAt.toNat) state →
      ∃ bytes,
        exportExternalCartridgeSave ⟨⟨formatVersion, savedAt⟩, metadata, state⟩ exported =
          .ok bytes ∧
        importExternalCartridgeSave metadata target bytes imported =
          .ok (applyElapsedOffSessionSeconds (imported.toNat - savedAt.toNat) state) ∧
        (¬ metadata.profile.HasClock →
          importExternalCartridgeSave metadata target bytes imported = .ok state)) ∧
    (¬ HasExternalForm state →
      ∃ error,
        exportExternalCartridgeSave ⟨⟨formatVersion, savedAt⟩, metadata, state⟩ exported =
          .error error ∧
        error.allowsInternalFallback = true) := by
  have hexported : savedAt.toNat ≤ exported.toNat := BitVec.le_def.mp hexported
  have himported : exported.toNat ≤ imported.toNat := BitVec.le_def.mp himported
  have hsum : (exported.toNat - savedAt.toNat) + (imported.toNat - exported.toNat) =
      imported.toNat - savedAt.toNat := by omega
  refine ⟨fun hform htargetForm hcounts => ?_, fun hform => ?_⟩
  · have hstate' := isBackingStore_applyElapsed hstate
      (hcounts.mono (m := exported.toNat - savedAt.toNat) (by omega))
    have hform' := (hasExternalForm_applyElapsed (exported.toNat - savedAt.toNat)).mpr hform
    obtain ⟨bytes, hbytes, himport⟩ := import_encode hbattery hstate' hform' exported imported
    have hresult : importExternalCartridgeSave metadata target bytes imported =
        .ok (applyElapsedOffSessionSeconds (imported.toNat - savedAt.toNat) state) := by
      rw [importExternalCartridgeSave_target hstate' htarget
        (hkind.trans (kindName_applyElapsed _).symm) hform' htargetForm, himport,
        applyElapsed_add hstate hform (by rw [hsum]; exact hcounts), hsum]
    refine ⟨bytes, hbytes, hresult, fun hclock => ?_⟩
    rw [hresult, applyElapsed_of_noClock hstate hclock]
  · have hstate' := isBackingStore_applyElapsed hstate
      (clockCounts_of_noExternalForm hform (exported.toNat - savedAt.toNat))
    exact encode_refuses hbattery hstate' (mt (hasExternalForm_applyElapsed _).mp hform) exported

/-! Where the law stops: a HuC-3 state has no external form, nor has an MBC6 state with a
protected sector, and a count of seconds that overflows loses its carry. -/

def blankHuc3 : PersistentCartState :=
  .huc3 (List.replicate 32768 0)
    { mcuRam := Vector.replicate huc3McuRamNibbleCount 0
      rtc := { currentMinutesOfDay := 0, currentDays := 0, currentSubminuteSeconds := 0,
               eventMinutesOfDay := 0, eventDays := 0 }
      romBank := 1, ramBank := 0, selectMode := 0, accessAddress := 0, mailboxCommand := 0,
      mailboxArgument := 0, lastResponseNybble := 0, semaphoreReady := true,
      irEmitterOn := false, irLightDetected := false, lastControlWrite := none,
      lastUnsupportedCommand := none, lastUnsupportedArgument := none }

def huc3Metadata : CartridgePersistenceMetadata :=
  { hasBattery := true, hasRtc := true, profile := .persistentRamAndRtc (.linear 32768) }

def protectedMbc6 : PersistentCartState :=
  .mbc6 (List.replicate 0x8000 0) (List.replicate 0x100000 0xFF) (List.replicate 0x100 0xFF) true

def mbc6Metadata : CartridgePersistenceMetadata :=
  { hasBattery := true, hasRtc := false
    profile := .persistentRamAndFlash (.linear 0x8000) 0x100000 0x100 }

def oneSecond : PersistentCartState :=
  .mbc3Rtc { seconds := 1, minutes := 0, hours := 0, dayCounter := 0, halt := false, carry := false }

def clockMetadata : CartridgePersistenceMetadata :=
  { hasBattery := true, hasRtc := true, profile := .persistentRtc }

theorem externalSave_refuses_or_overflows :
    (IsBackingStore huc3Metadata.profile blankHuc3 ∧
      exportExternalCartridgeSave ⟨⟨1, 0⟩, huc3Metadata, blankHuc3⟩ 0 =
        .error (.unsupportedPersistentState "Huc3")) ∧
    (IsBackingStore mbc6Metadata.profile protectedMbc6 ∧
      ∃ error, exportExternalCartridgeSave ⟨⟨1, 0⟩, mbc6Metadata, protectedMbc6⟩ 0 = .error error ∧
        error.allowsInternalFallback = true) ∧
    (IsBackingStore clockMetadata.profile oneSecond ∧
      ∃ bytes, exportExternalCartridgeSave ⟨⟨1, 0⟩, clockMetadata, oneSecond⟩ 0x8000000000000000 =
        .ok bytes ∧
        importExternalCartridgeSave clockMetadata oneSecond bytes 0xFFFFFFFFFFFFFFFF ≠
          .ok (applyElapsedOffSessionSeconds (2 ^ 64 - 1) oneSecond)) := by
  have hstore : IsBackingStore mbc6Metadata.profile protectedMbc6 :=
    .mbc6 List.length_replicate List.length_replicate List.length_replicate
  refine ⟨⟨.huc3 List.length_replicate, rfl⟩, ⟨hstore, ?_⟩,
    .mbc3Rtc ⟨by decide, by decide, by decide, by decide⟩, _, rfl, ?_⟩
  · exact encode_refuses (by decide) hstore (fun hform => absurd hform.1 (by decide)) 0
  · decide +kernel

/-- A clock that runs for two hours, one before the export and one after it. -/
theorem externalSave_keepsTime_clock :
    ∃ bytes, exportExternalCartridgeSave ⟨⟨1, 100⟩, clockMetadata, oneSecond⟩ 3700 = .ok bytes ∧
      importExternalCartridgeSave clockMetadata oneSecond bytes 7300 =
        .ok (applyElapsedOffSessionSeconds 7200 oneSecond) := by
  have hstore : IsBackingStore clockMetadata.profile oneSecond :=
    .mbc3Rtc ⟨by decide, by decide, by decide, by decide⟩
  obtain ⟨bytes, hexport, himport, _⟩ :=
    (externalSave_keepsTime 1 100 3700 7300 (show _ = true by decide) hstore hstore
      rfl (by decide) (by decide)).1 trivial trivial (.inr (by decide))
  exact ⟨bytes, hexport, himport⟩

end GbCycle
