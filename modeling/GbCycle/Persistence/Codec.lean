import GbCycle.Persistence.Envelope

/-!
# The save envelope round trip

An encoder and a reader are exact for each other when the reader takes just the words the
encoder writes: then what is written is read back, and what is read is written back.  Every
part of the envelope is exact but one.  The reader skips the byte after an absent optional
byte, which the encoder writes as zero; there the words agree up to that byte.
-/

namespace GbCycle

open Wire (Decoder leBytes)
open Wire.Decoder

/-! ## The wire -/

theorem bind_eq_ok {ε α γ : Type} {x : Except ε α} {f : α → Except ε γ} {b : γ} :
    (x >>= f) = .ok b ↔ ∃ a, x = .ok a ∧ f a = .ok b := by
  cases x with
  | error e => exact ⟨nofun, nofun⟩
  | ok a => exact ⟨fun h => ⟨a, rfl, h⟩, fun ⟨_, ha, h⟩ => Except.ok.inj ha ▸ h⟩

theorem map_eq_ok {ε α γ : Type} {x : Except ε α} {f : α → γ} {b : γ} :
    (x >>= fun a => pure (f a)) = .ok b ↔ ∃ a, x = .ok a ∧ f a = b := by
  rw [bind_eq_ok]
  exact exists_congr fun a => and_congr_right fun _ => ⟨Except.ok.inj, congrArg Except.ok⟩

theorem pure_eq_ok {ε α : Type} {a b : α} : (pure a : Except ε α) = .ok b ↔ a = b :=
  ⟨Except.ok.inj, congrArg Except.ok⟩

variable {w : List U8}

theorem decodes_map {α γ : Type} {d : Reader α} {f : α → γ} {b : γ} :
    (d >>= fun a => pure (f a)).Decodes w b ↔ ∃ a, d.Decodes w a ∧ f a = b := by
  simp only [decodes_bind, decodes_pure]
  constructor
  · rintro ⟨w₁, w₂, a, rfl, h, rfl, rfl⟩
    exact ⟨a, by rw [List.append_nil]; exact h, rfl⟩
  · rintro ⟨a, h, rfl⟩
    exact ⟨w, [], a, (List.append_nil w).symm, h, rfl, rfl⟩

@[simp] theorem decodes_readVec {len : Nat} {v : List U8} :
    (readVec len).Decodes w v ↔ w = v ∧ w.length = len := decodes_take

@[simp] theorem decodes_readU8 {v : U8} : readU8.Decodes w v ↔ w = [v] := by
  rw [readU8, decodes_map]
  constructor
  · rintro ⟨bytes, h, rfl⟩
    obtain ⟨rfl, hlen⟩ := decodes_readVec.mp h
    obtain ⟨b, rfl⟩ := List.length_eq_one_iff.mp hlen
    rfl
  · rintro rfl
    exact ⟨[v], decodes_readVec.mpr ⟨rfl, rfl⟩, rfl⟩

@[simp] theorem decodes_readU16 {v : U16} : readU16.Decodes w v ↔ w = writeU16 v := by
  simp only [readU16, decodes_map, decodes_leNat]
  constructor
  · rintro ⟨n, ⟨rfl, hn⟩, rfl⟩
    rw [writeU16, BitVec.toNat_ofNat, Nat.mod_eq_of_lt (by omega)]
  · rintro rfl
    have hlt := v.isLt
    exact ⟨v.toNat, ⟨rfl, by omega⟩, BitVec.ofNat_toNat 16 v⟩

@[simp] theorem decodes_readU64 {v : BitVec 64} : readU64.Decodes w v ↔ w = writeU64 v := by
  simp only [readU64, decodes_map, decodes_leNat]
  constructor
  · rintro ⟨n, ⟨rfl, hn⟩, rfl⟩
    rw [writeU64, BitVec.toNat_ofNat, Nat.mod_eq_of_lt (by omega)]
  · rintro rfl
    have hlt := v.isLt
    exact ⟨v.toNat, ⟨rfl, by omega⟩, BitVec.ofNat_toNat 64 v⟩

theorem writeU32Checked_eq_ok {v : Nat} {field : String} :
    writeU32Checked v field = .ok w ↔ w = leBytes 4 v ∧ v < 2 ^ 32 := by
  rw [writeU32Checked]
  split
  · next h => exact ⟨fun heq => ⟨(Except.ok.inj heq).symm, h⟩, fun ⟨heq, _⟩ => congrArg _ heq.symm⟩
  · next h => exact ⟨nofun, fun ⟨_, hlt⟩ => absurd hlt h⟩

theorem decodes_readU32 {v : Nat} (field : String) :
    readU32.Decodes w v ↔ writeU32Checked v field = .ok w := by
  rw [readU32, decodes_leNat, writeU32Checked_eq_ok]
  rfl

@[simp] theorem decodes_readBool {field : String} {v : Bool} :
    (readBool field).Decodes w v ↔ w = writeBool v := by
  simp only [readBool, decodes_bind, decodes_readU8, decodes_ite, decodes_pure, decodes_fail]
  cases v with
  | false =>
      constructor
      · rintro ⟨w₁, w₂, a, rfl, rfl, h⟩
        grind [writeBool]
      · rintro rfl
        exact ⟨[0], [], 0, rfl, rfl, .inl ⟨rfl, rfl, rfl⟩⟩
  | true =>
      constructor
      · rintro ⟨w₁, w₂, a, rfl, rfl, h⟩
        grind [writeBool]
      · rintro rfl
        exact ⟨[1], [], 1, rfl, rfl, .inr ⟨by decide, .inl ⟨rfl, rfl, rfl⟩⟩⟩

/-- A reader that begins with a tag. -/
theorem decodes_tagged {α : Type} {f : U8 → Reader α} {a : α} :
    (readU8 >>= f).Decodes w a ↔ ∃ tag w', w = tag :: w' ∧ (f tag).Decodes w' a := by
  simp only [decodes_bind, decodes_readU8]
  constructor
  · rintro ⟨w₁, w₂, tag, rfl, rfl, h⟩
    exact ⟨tag, w₂, rfl, h⟩
  · rintro ⟨tag, w', rfl, h⟩
    exact ⟨[tag], w', tag, rfl, rfl, h⟩

theorem tag_eq {tag : U8} {n : Nat} (h : tag.toNat = n) : tag = BitVec.ofNat 8 n := by
  rw [← h, BitVec.ofNat_toNat, BitVec.setWidth_eq]

/-! ## Exact encoders -/

/-- The reader takes just the words the encoder writes. -/
def Exact {α : Type} (encode : α → Encoded) (reader : Reader α) : Prop :=
  ∀ a w, encode a = .ok w ↔ reader.Decodes w a

variable {α γ : Type} {encode : α → Encoded} {reader : Reader α}

/-- A tag in front of an exact part. -/
theorem Exact.tagged (h : Exact encode reader) {tag : U8} {a : α} {v : α → γ}
    (hv : Function.Injective v) :
    (encode a >>= fun bytes => pure (tag :: bytes)) = .ok w ↔
      ∃ w', w = tag :: w' ∧ (reader >>= fun a => pure (v a)).Decodes w' (v a) := by
  rw [map_eq_ok]
  refine exists_congr fun w' => ?_
  rw [decodes_map, h]
  constructor
  · rintro ⟨hw, rfl⟩
    exact ⟨rfl, a, hw, rfl⟩
  · rintro ⟨rfl, a', hw, ha⟩
    exact ⟨hv ha ▸ hw, rfl⟩

theorem exact_u32 (field : String) : Exact (writeU32Checked · field) readU32 :=
  fun _ _ => (decodes_readU32 field).symm

theorem exact_ramPayloadKind : Exact encodeRamPayloadKind decodeRamPayloadKind := by
  intro kind w
  rw [decodeRamPayloadKind, decodes_tagged]
  constructor
  · intro h
    cases kind with
    | linear len =>
        obtain ⟨w', rfl, hw⟩ := ((exact_u32 _).tagged (v := CartridgeRamPayloadKind.linear)
          fun _ _ => CartridgeRamPayloadKind.linear.inj).mp h
        exact ⟨0, w', rfl, hw⟩
    | mbc2Nibbles len =>
        obtain ⟨w', rfl, hw⟩ := ((exact_u32 _).tagged (v := CartridgeRamPayloadKind.mbc2Nibbles)
          fun _ _ => CartridgeRamPayloadKind.mbc2Nibbles.inj).mp h
        exact ⟨1, w', rfl, hw⟩
  · rintro ⟨tag, w', rfl, h⟩
    simp only [decodes_bind, decodes_ite, decodes_pure, decodes_fail] at h
    obtain ⟨w₁, w₂, len, rfl, hlen, h⟩ := h
    rcases h with ⟨rfl, rfl, rfl⟩ | ⟨_, ⟨rfl, rfl, rfl⟩ | ⟨_, h⟩⟩
    · rw [List.append_nil]
      exact map_eq_ok.mpr ⟨w₁, (decodes_readU32 _).mp hlen, rfl⟩
    · rw [List.append_nil]
      exact map_eq_ok.mpr ⟨w₁, (decodes_readU32 _).mp hlen, rfl⟩
    · cases h

theorem exact_persistenceProfile :
    Exact encodePersistenceProfile decodePersistenceProfile := by
  intro profile w
  rw [decodePersistenceProfile, decodes_tagged]
  constructor
  · intro h
    cases profile with
    | none =>
        obtain rfl := Except.ok.inj h
        exact ⟨0, [], rfl, decodes_pure.mpr ⟨rfl, rfl⟩⟩
    | nonPersistentRam ram =>
        obtain ⟨w', rfl, hw⟩ := (exact_ramPayloadKind.tagged
          (v := CartridgePersistenceProfile.nonPersistentRam)
          fun _ _ => CartridgePersistenceProfile.nonPersistentRam.inj).mp h
        exact ⟨1, w', rfl, hw⟩
    | persistentRam ram =>
        obtain ⟨w', rfl, hw⟩ := (exact_ramPayloadKind.tagged
          (v := CartridgePersistenceProfile.persistentRam)
          fun _ _ => CartridgePersistenceProfile.persistentRam.inj).mp h
        exact ⟨2, w', rfl, hw⟩
    | persistentRtc =>
        obtain rfl := Except.ok.inj h
        exact ⟨3, [], rfl, decodes_pure.mpr ⟨rfl, rfl⟩⟩
    | persistentRamAndRtc ram =>
        obtain ⟨w', rfl, hw⟩ := (exact_ramPayloadKind.tagged
          (v := CartridgePersistenceProfile.persistentRamAndRtc)
          fun _ _ => CartridgePersistenceProfile.persistentRamAndRtc.inj).mp h
        exact ⟨4, w', rfl, hw⟩
    | persistentRamAndFlash ram flash hidden =>
        obtain ⟨w₁, h₁, h⟩ := bind_eq_ok.mp h
        obtain ⟨w₂, h₂, h⟩ := bind_eq_ok.mp h
        obtain ⟨w₃, h₃, rfl⟩ := map_eq_ok.mp h
        refine ⟨5, w₁ ++ (w₂ ++ w₃), by simp, ?_⟩
        refine .bind ((exact_ramPayloadKind _ _).mp h₁) (.bind ((exact_u32 _ _ _).mp h₂) ?_)
        exact decodes_map.mpr ⟨_, (exact_u32 _ _ _).mp h₃, rfl⟩
    | persistentEeprom len =>
        obtain ⟨w', rfl, hw⟩ := ((exact_u32 _).tagged
          (v := CartridgePersistenceProfile.persistentEeprom)
          fun _ _ => CartridgePersistenceProfile.persistentEeprom.inj).mp h
        exact ⟨6, w', rfl, hw⟩
  · rintro ⟨tag, w', rfl, h⟩
    split at h
    all_goals try obtain rfl := tag_eq ‹tag.toNat = _›
    · obtain ⟨rfl, rfl⟩ := decodes_pure.mp h
      rfl
    · obtain ⟨ram, hw, rfl⟩ := decodes_map.mp h
      exact map_eq_ok.mpr ⟨w', (exact_ramPayloadKind _ _).mpr hw, rfl⟩
    · obtain ⟨ram, hw, rfl⟩ := decodes_map.mp h
      exact map_eq_ok.mpr ⟨w', (exact_ramPayloadKind _ _).mpr hw, rfl⟩
    · obtain ⟨rfl, rfl⟩ := decodes_pure.mp h
      rfl
    · obtain ⟨ram, hw, rfl⟩ := decodes_map.mp h
      exact map_eq_ok.mpr ⟨w', (exact_ramPayloadKind _ _).mpr hw, rfl⟩
    · obtain ⟨w₁, w₂, ram, rfl, h₁, h⟩ := decodes_bind.mp h
      obtain ⟨w₂, w₃, flash, rfl, h₂, h⟩ := decodes_bind.mp h
      obtain ⟨hidden, h₃, rfl⟩ := decodes_map.mp h
      refine bind_eq_ok.mpr ⟨w₁, (exact_ramPayloadKind _ _).mpr h₁, ?_⟩
      refine bind_eq_ok.mpr ⟨w₂, (exact_u32 _ _ _).mpr h₂, ?_⟩
      exact map_eq_ok.mpr ⟨w₃, (exact_u32 _ _ _).mpr h₃, by simp⟩
    · obtain ⟨len, hw, rfl⟩ := decodes_map.mp h
      exact map_eq_ok.mpr ⟨w', (exact_u32 _ _ _).mpr hw, rfl⟩
    · exact absurd h decodes_fail

/-! ## The parts of the backing store -/

/-- A part that is read as it is written, followed by more. -/
theorem decodes_bind_eq {δ : Type} {d : Reader α} {write : α → List U8} {f : α → Reader δ} {b : δ}
    (hd : ∀ {w a}, d.Decodes w a ↔ w = write a) :
    (d >>= f).Decodes w b ↔ ∃ a w', w = write a ++ w' ∧ (f a).Decodes w' b := by
  rw [decodes_bind]
  constructor
  · rintro ⟨w₁, w₂, a, rfl, h₁, h₂⟩
    exact ⟨a, w₂, by rw [hd.mp h₁], h₂⟩
  · rintro ⟨a, w', rfl, h⟩
    exact ⟨write a, w', a, rfl, hd.mpr rfl, h⟩

theorem exact_linearRam (field : String) : Exact (encodeLinearRam · field) decodeLinearRam := by
  intro ram w
  rw [decodeLinearRam, decodes_bind]
  constructor
  · intro h
    obtain ⟨w₁, h₁, rfl⟩ := map_eq_ok.mp h
    exact ⟨w₁, ram, ram.length, rfl, (exact_u32 _ _ _).mp h₁, decodes_readVec.mpr ⟨rfl, rfl⟩⟩
  · rintro ⟨w₁, w₂, len, rfl, h₁, h₂⟩
    obtain ⟨rfl, rfl⟩ := decodes_readVec.mp h₂
    exact map_eq_ok.mpr ⟨w₁, (exact_u32 _ _ _).mpr h₁, rfl⟩

theorem decodes_decodeRtc {rtc : Mbc3RtcPersistentState} :
    decodeRtc.Decodes w rtc ↔ w = encodeRtc rtc := by
  simp only [decodeRtc, decodes_bind_eq decodes_readU8, decodes_bind_eq decodes_readU16,
    decodes_bind_eq decodes_readBool, decodes_pure]
  constructor
  · rintro ⟨_, _, rfl, _, _, rfl, _, _, rfl, _, _, rfl, _, _, rfl, _, _, rfl, rfl, rfl⟩
    simp only [encodeRtc, List.append_assoc, List.cons_append, List.nil_append, List.append_nil]
  · rintro rfl
    exact ⟨_, _, by simp only [encodeRtc, List.append_assoc, List.cons_append, List.nil_append],
      _, _, rfl, _, _, rfl, _, _, rfl, _, _, rfl, _, _, (List.append_nil _).symm, rfl, rfl⟩

theorem decodes_decodeHuc3Rtc {rtc : Huc3RtcPersistentState} :
    decodeHuc3Rtc.Decodes w rtc ↔ w = encodeHuc3Rtc rtc := by
  simp only [decodeHuc3Rtc, decodes_bind_eq decodes_readU8, decodes_bind_eq decodes_readU16,
    decodes_pure]
  constructor
  · rintro ⟨_, _, rfl, _, _, rfl, _, _, rfl, _, _, rfl, _, _, rfl, rfl, rfl⟩
    simp only [encodeHuc3Rtc, List.append_assoc, List.append_nil]
  · rintro rfl
    exact ⟨_, _, by simp only [encodeHuc3Rtc, List.append_assoc],
      _, _, rfl, _, _, rfl, _, _, rfl, _, _, (List.append_nil _).symm, rfl, rfl⟩

theorem checkNibbles_eq_ok {invalid : Nat → U8 → CartridgeSaveBackendError} {index : Nat}
    {values cells : List U8} :
    checkNibbles invalid index values = .ok cells ↔
      cells = values ∧ ∀ value ∈ values, value ≤ 0x0F := by
  induction values generalizing index cells with
  | nil =>
      simp only [checkNibbles, Except.ok.injEq, List.not_mem_nil, false_implies, implies_true,
        and_true]
      exact eq_comm
  | cons value values ih =>
      rw [checkNibbles, List.forall_mem_cons]
      split
      · next h => exact ⟨nofun, fun ⟨_, hle, _⟩ => absurd h (BitVec.not_lt.mpr hle)⟩
      · next h =>
          simp only [map_eq_ok, ih]
          constructor
          · rintro ⟨_, ⟨rfl, hall⟩, rfl⟩
            exact ⟨rfl, BitVec.not_lt.mp h, hall⟩
          · rintro ⟨rfl, -, hall⟩
            exact ⟨values, ⟨rfl, hall⟩, rfl⟩

/-- The reader of a nibble array after its length. -/
theorem decodes_nibbleArray {n : Nat} {invalid : Nat → U8 → CartridgeSaveBackendError}
    {field : String} {bytes : List U8} {cells : Vector U8 n} :
    (nibbleArray n invalid field bytes).Decodes w cells ↔
      w = [] ∧ bytes = cells.toList ∧ ∀ value ∈ bytes, value ≤ 0x0F := by
  rw [nibbleArray]
  split
  · next hlen =>
      cases hcheck : checkNibbles invalid 0 bytes with
      | error e =>
          simp only [decodes_fail, false_iff]
          rintro ⟨-, -, hall⟩
          rw [checkNibbles_eq_ok.mpr ⟨rfl, hall⟩] at hcheck
          cases hcheck
      | ok values =>
          obtain ⟨rfl, hall⟩ := checkNibbles_eq_ok.mp hcheck
          simp only [decodes_pure]
          constructor
          · rintro ⟨rfl, rfl⟩
            exact ⟨rfl, by simp [Vector.toList], hall⟩
          · rintro ⟨rfl, hcells, -⟩
            refine ⟨rfl, Vector.toList_inj.mp ?_⟩
            rw [← hcells]
            simp [Vector.toList]
  · next hlen =>
      simp only [decodes_fail, false_iff]
      rintro ⟨-, rfl, -⟩
      exact hlen cells.length_toList

theorem exact_mbc2Nibbles :
    Exact (encodeNibbles .invalidMbc2NibbleValue "MBC2 RAM nibble count") decodeMbc2Ram := by
  intro cells w
  constructor
  · intro h
    obtain ⟨w₁, h₁, h⟩ := bind_eq_ok.mp h
    obtain ⟨w₂, h₂, rfl⟩ := map_eq_ok.mp h
    obtain ⟨rfl, hall⟩ := checkNibbles_eq_ok.mp h₂
    refine .bind ((exact_u32 _ _ _).mp h₁) ?_
    refine decodes_bind.mpr ⟨cells.toList, [], cells.toList, (List.append_nil _).symm, ?_, ?_⟩
    · exact decodes_readVec.mpr ⟨rfl, cells.length_toList⟩
    · exact decodes_nibbleArray.mpr ⟨rfl, rfl, hall⟩
  · intro h
    obtain ⟨w₁, w', count, rfl, h₁, h'⟩ := decodes_bind.mp h
    obtain ⟨w₂, w₃, bytes, rfl, h₂, h₃⟩ := decodes_bind.mp h'
    obtain ⟨rfl, rfl⟩ := decodes_readVec.mp h₂
    obtain ⟨rfl, rfl, hall⟩ := decodes_nibbleArray.mp h₃
    rw [cells.length_toList] at h₁
    refine bind_eq_ok.mpr ⟨w₁, (exact_u32 _ _ _).mpr h₁, ?_⟩
    refine map_eq_ok.mpr ⟨cells.toList, checkNibbles_eq_ok.mpr ⟨rfl, hall⟩, ?_⟩
    rw [List.append_nil]

/-! ## HuC-3 -/

/-- An optional byte as it may stand in a file: `padding` is the byte of an absent one. -/
def paddedOptionalU8 (value : Option U8) (padding : U8) : List U8 :=
  writeBool value.isSome ++ [value.getD padding]

theorem decodes_decodeOptionalU8 {field : String} {value : Option U8} :
    (decodeOptionalU8 field).Decodes w value ↔ ∃ padding, w = paddedOptionalU8 value padding := by
  simp only [decodeOptionalU8, decodes_bind_eq decodes_readU8, decodes_bind_eq decodes_readBool,
    decodes_pure]
  constructor
  · rintro ⟨present, _, rfl, byte, _, rfl, rfl, rfl⟩
    exact ⟨byte, by cases present <;> rfl⟩
  · rintro ⟨padding, rfl⟩
    refine ⟨value.isSome, _, rfl, value.getD padding, _, rfl, rfl, ?_⟩
    cases value <;> rfl

/-- The last six bytes of the state. -/
def huc3Tail (s : Huc3PersistentState) (padding₁ padding₂ padding₃ : U8) : List U8 :=
  paddedOptionalU8 s.lastControlWrite padding₁ ++
    (paddedOptionalU8 s.lastUnsupportedCommand padding₂ ++
      paddedOptionalU8 s.lastUnsupportedArgument padding₃)

/-- The bytes before the last six. -/
def encodeHuc3Head (s : Huc3PersistentState) : Encoded := do
  let mcuRam ← encodeNibbles .invalidHuc3NibbleValue "HuC-3 MCU RAM nibble count" s.mcuRam
  return mcuRam ++ encodeHuc3Rtc s.rtc ++
    [s.romBank, s.ramBank, s.selectMode, s.accessAddress, s.mailboxCommand, s.mailboxArgument,
      s.lastResponseNybble] ++
    writeBool s.semaphoreReady ++ writeBool s.irEmitterOn ++ writeBool s.irLightDetected

theorem encodeHuc3_eq_ok {s : Huc3PersistentState} :
    encodeHuc3 s = .ok w ↔ ∃ head, encodeHuc3Head s = .ok head ∧ w = head ++ huc3Tail s 0 0 0 := by
  simp only [encodeHuc3, encodeHuc3Head, map_eq_ok, huc3Tail]
  constructor
  · rintro ⟨mcuRam, h, rfl⟩
    refine ⟨_, ⟨mcuRam, h, rfl⟩, ?_⟩
    simp only [List.append_assoc]
    rfl
  · rintro ⟨_, ⟨mcuRam, h, rfl⟩, rfl⟩
    refine ⟨mcuRam, h, ?_⟩
    simp only [List.append_assoc]
    rfl

theorem exact_huc3Nibbles :
    Exact (encodeNibbles .invalidHuc3NibbleValue "HuC-3 MCU RAM nibble count")
      decodeHuc3McuRam := by
  intro cells w
  constructor
  · intro h
    obtain ⟨w₁, h₁, h⟩ := bind_eq_ok.mp h
    obtain ⟨w₂, h₂, rfl⟩ := map_eq_ok.mp h
    obtain ⟨rfl, hall⟩ := checkNibbles_eq_ok.mp h₂
    refine .bind ((exact_u32 _ _ _).mp h₁) ?_
    rw [if_pos rfl]
    refine decodes_bind.mpr ⟨cells.toList, [], cells.toList, (List.append_nil _).symm, ?_, ?_⟩
    · exact decodes_readVec.mpr ⟨rfl, cells.length_toList⟩
    · exact decodes_nibbleArray.mpr ⟨rfl, rfl, hall⟩
  · intro h
    obtain ⟨w₁, w', count, rfl, h₁, h'⟩ := decodes_bind.mp h
    rcases decodes_ite.mp h' with ⟨rfl, h'⟩ | ⟨-, h'⟩
    · obtain ⟨w₂, w₃, bytes, rfl, h₂, h₃⟩ := decodes_bind.mp h'
      obtain ⟨rfl, -⟩ := decodes_readVec.mp h₂
      obtain ⟨rfl, rfl, hall⟩ := decodes_nibbleArray.mp h₃
      refine bind_eq_ok.mpr ⟨w₁, (exact_u32 _ _ _).mpr h₁, ?_⟩
      refine map_eq_ok.mpr ⟨cells.toList, checkNibbles_eq_ok.mpr ⟨rfl, hall⟩, ?_⟩
      rw [List.append_nil]
    · exact absurd h' decodes_fail

/-- A HuC-3 state is read from its head and a tail with any padding. -/
theorem decodes_decodeHuc3 {s : Huc3PersistentState} :
    decodeHuc3.Decodes w s ↔ ∃ head padding₁ padding₂ padding₃, encodeHuc3Head s = .ok head ∧
      w = head ++ huc3Tail s padding₁ padding₂ padding₃ := by
  rw [decodeHuc3, decodes_bind]
  simp only [← exact_huc3Nibbles _ _, decodes_bind_eq decodes_readU8,
    decodes_bind_eq decodes_decodeHuc3Rtc, decodes_bind_eq decodes_readBool]
  constructor
  · rintro ⟨w₁, _, mcuRam, rfl, hram, _, _, rfl, _, _, rfl, _, _, rfl, _, _, rfl, _, _, rfl,
      _, _, rfl, _, _, rfl, _, _, rfl, _, _, rfl, _, _, rfl, _, _, rfl, h⟩
    obtain ⟨_, w', _, rfl, h₁, h⟩ := decodes_bind.mp h
    obtain ⟨_, w'', _, rfl, h₂, h⟩ := decodes_bind.mp h
    obtain ⟨_, h₃, rfl⟩ := decodes_map.mp h
    obtain ⟨padding₁, rfl⟩ := decodes_decodeOptionalU8.mp h₁
    obtain ⟨padding₂, rfl⟩ := decodes_decodeOptionalU8.mp h₂
    obtain ⟨padding₃, rfl⟩ := decodes_decodeOptionalU8.mp h₃
    refine ⟨_, padding₁, padding₂, padding₃, map_eq_ok.mpr ⟨w₁, hram, rfl⟩, ?_⟩
    simp only [huc3Tail, List.append_assoc, List.cons_append, List.nil_append]
  · rintro ⟨head, padding₁, padding₂, padding₃, h, rfl⟩
    obtain ⟨w₁, hram, rfl⟩ := map_eq_ok.mp h
    have hw (tail : List U8) : w₁ ++ encodeHuc3Rtc s.rtc ++
          [s.romBank, s.ramBank, s.selectMode, s.accessAddress, s.mailboxCommand,
            s.mailboxArgument, s.lastResponseNybble] ++
          writeBool s.semaphoreReady ++ writeBool s.irEmitterOn ++
          writeBool s.irLightDetected ++ tail =
        w₁ ++ (encodeHuc3Rtc s.rtc ++ ([s.romBank] ++ ([s.ramBank] ++ ([s.selectMode] ++
          ([s.accessAddress] ++ ([s.mailboxCommand] ++ ([s.mailboxArgument] ++
          ([s.lastResponseNybble] ++ (writeBool s.semaphoreReady ++ (writeBool s.irEmitterOn ++
          (writeBool s.irLightDetected ++ tail))))))))))) := by
      simp only [List.append_assoc, List.cons_append, List.nil_append]
    refine ⟨w₁, _, s.mcuRam, hw _, hram, _, _, rfl, _, _, rfl,
      _, _, rfl, _, _, rfl, _, _, rfl, _, _, rfl, _, _, rfl, _, _, rfl, _, _, rfl, _, _, rfl,
      _, _, rfl, ?_⟩
    refine .bind (decodes_decodeOptionalU8.mpr ⟨padding₁, rfl⟩) ?_
    refine .bind (decodes_decodeOptionalU8.mpr ⟨padding₂, rfl⟩) ?_
    exact decodes_map.mpr ⟨_, decodes_decodeOptionalU8.mpr ⟨padding₃, rfl⟩, rfl⟩

/-! ## The backing store and the envelope -/

namespace PersistentCartState

/-- The optional bytes a state ends with. -/
def optionalTail (state : PersistentCartState) (padding₁ padding₂ padding₃ : U8) : List U8 :=
  match state with
  | .huc3 _ s => huc3Tail s padding₁ padding₂ padding₃
  | _ => []

/-- The bytes before them. -/
def encodeHead : PersistentCartState → Encoded
  | .huc3 ram s => do
      let ram ← encodeLinearRam ram "HuC-3 RAM"
      let huc3 ← encodeHuc3Head s
      return 10 :: ram ++ huc3
  | state => encodePersistentState state

end PersistentCartState

theorem encodePersistentState_eq_ok {state : PersistentCartState} :
    encodePersistentState state = .ok w ↔
      ∃ head, state.encodeHead = .ok head ∧ w = head ++ state.optionalTail 0 0 0 := by
  cases state with
  | huc3 ram s =>
      simp only [encodePersistentState, PersistentCartState.encodeHead, bind_eq_ok, pure_eq_ok,
        encodeHuc3_eq_ok, PersistentCartState.optionalTail]
      constructor
      · rintro ⟨w₁, h₁, _, ⟨head, h₂, rfl⟩, rfl⟩
        exact ⟨_, ⟨w₁, h₁, head, h₂, rfl⟩, by simp⟩
      · rintro ⟨_, ⟨w₁, h₁, head, h₂, rfl⟩, rfl⟩
        exact ⟨w₁, h₁, _, ⟨head, h₂, rfl⟩, by simp⟩
  | _ =>
      simp only [PersistentCartState.optionalTail, PersistentCartState.encodeHead,
        List.append_nil, exists_eq_right']

/-- A state is read from its head and its optional bytes with any padding. -/
theorem decodes_decodePersistentState {state : PersistentCartState} :
    decodePersistentState.Decodes w state ↔
      ∃ head padding₁ padding₂ padding₃, state.encodeHead = .ok head ∧
        w = head ++ state.optionalTail padding₁ padding₂ padding₃ := by
  rw [decodePersistentState, decodes_tagged]
  constructor
  · rintro ⟨tag, w', rfl, h⟩
    have linear : ∀ {tag : U8} {v : List U8 → PersistentCartState} {field : String},
        (decodeLinearRam >>= fun ram => pure (v ram)).Decodes w' state →
        (∀ ram, (v ram).encodeHead = do return tag :: (← encodeLinearRam ram field)) →
        (∀ ram, (v ram).optionalTail 0 0 0 = []) →
        ∃ head padding₁ padding₂ padding₃, state.encodeHead = .ok head ∧
          tag :: w' = head ++ state.optionalTail padding₁ padding₂ padding₃ := by
      intro tag v field h hencode htail
      obtain ⟨ram, hw, rfl⟩ := decodes_map.mp h
      refine ⟨tag :: w', 0, 0, 0, ?_, by rw [htail, List.append_nil]⟩
      rw [hencode]
      exact map_eq_ok.mpr ⟨w', (exact_linearRam _ _ _).mpr hw, rfl⟩
    split at h
    all_goals try obtain rfl := tag_eq ‹tag.toNat = _›
    · obtain ⟨rfl, rfl⟩ := decodes_pure.mp h
      exact ⟨_, 0, 0, 0, rfl, rfl⟩
    · exact linear h (fun _ => rfl) (fun _ => rfl)
    · exact linear h (fun _ => rfl) (fun _ => rfl)
    · obtain ⟨cells, hw, rfl⟩ := decodes_map.mp h
      exact ⟨_, 0, 0, 0, map_eq_ok.mpr ⟨w', (exact_mbc2Nibbles _ _).mpr hw, rfl⟩,
        (List.append_nil _).symm⟩
    · obtain ⟨rtc, hw, rfl⟩ := decodes_map.mp h
      obtain rfl := decodes_decodeRtc.mp hw
      exact ⟨_, 0, 0, 0, rfl, (List.append_nil _).symm⟩
    · exact linear h (fun _ => rfl) (fun _ => rfl)
    · obtain ⟨w₁, w₂, ram, rfl, h₁, h⟩ := decodes_bind.mp h
      obtain ⟨rtc, hw, rfl⟩ := decodes_map.mp h
      obtain rfl := decodes_decodeRtc.mp hw
      exact ⟨_, 0, 0, 0, map_eq_ok.mpr ⟨w₁, (exact_linearRam _ _ _).mpr h₁, rfl⟩,
        (List.append_nil _).symm⟩
    · exact linear h (fun _ => rfl) (fun _ => rfl)
    · exact linear h (fun _ => rfl) (fun _ => rfl)
    · exact linear h (fun _ => rfl) (fun _ => rfl)
    · obtain ⟨w₁, w₂, ram, rfl, h₁, h⟩ := decodes_bind.mp h
      obtain ⟨s, hw, rfl⟩ := decodes_map.mp h
      obtain ⟨head, padding₁, padding₂, padding₃, h₂, rfl⟩ := decodes_decodeHuc3.mp hw
      refine ⟨_, padding₁, padding₂, padding₃, bind_eq_ok.mpr
        ⟨w₁, (exact_linearRam _ _ _).mpr h₁, map_eq_ok.mpr ⟨head, h₂, rfl⟩⟩, ?_⟩
      simp [PersistentCartState.optionalTail]
    · exact linear h (fun _ => rfl) (fun _ => rfl)
    · obtain ⟨w₁, w', ram, rfl, h₁, h⟩ := decodes_bind.mp h
      obtain ⟨w₂, w', flash, rfl, h₂, h⟩ := decodes_bind.mp h
      obtain ⟨w₃, w', hidden, rfl, h₃, h⟩ := decodes_bind.mp h
      obtain ⟨protection, h₄, rfl⟩ := decodes_map.mp h
      obtain rfl := decodes_readBool.mp h₄
      refine ⟨_, 0, 0, 0, bind_eq_ok.mpr ⟨w₁, (exact_linearRam _ _ _).mpr h₁, bind_eq_ok.mpr
        ⟨w₂, (exact_linearRam _ _ _).mpr h₂, map_eq_ok.mpr
          ⟨w₃, (exact_linearRam _ _ _).mpr h₃, rfl⟩⟩⟩, ?_⟩
      simp [PersistentCartState.optionalTail]
    · exact linear h (fun _ => rfl) (fun _ => rfl)
    · exact absurd h decodes_fail
  · rintro ⟨head, padding₁, padding₂, padding₃, h, rfl⟩
    have linear : ∀ {tag : U8} {ram : List U8} {field : String}
        {v : List U8 → PersistentCartState},
        (do return tag :: (← encodeLinearRam ram field) : Encoded) = .ok head →
        ∃ w', head ++ [] = tag :: w' ∧
          (decodeLinearRam >>= fun ram => pure (v ram)).Decodes w' (v ram) := by
      intro tag ram field v h
      obtain ⟨w', hw, rfl⟩ := map_eq_ok.mp h
      exact ⟨w', List.append_nil _, decodes_map.mpr ⟨ram, (exact_linearRam _ _ _).mp hw, rfl⟩⟩
    cases state with
    | none =>
        obtain rfl := Except.ok.inj h
        exact ⟨0, [], rfl, decodes_pure.mpr ⟨rfl, rfl⟩⟩
    | noMbcRam ram => exact ⟨1, linear h⟩
    | mbc1Ram ram => exact ⟨2, linear h⟩
    | mbc2Ram cells =>
        obtain ⟨w', hw, rfl⟩ := map_eq_ok.mp h
        exact ⟨3, w', List.append_nil _,
          decodes_map.mpr ⟨cells, (exact_mbc2Nibbles _ _).mp hw, rfl⟩⟩
    | mbc3Rtc rtc =>
        obtain rfl := Except.ok.inj h
        exact ⟨4, _, List.append_nil _, decodes_map.mpr ⟨rtc, decodes_decodeRtc.mpr rfl, rfl⟩⟩
    | mbc3Ram ram => exact ⟨5, linear h⟩
    | mbc3RamRtc ram rtc =>
        obtain ⟨w₁, h₁, rfl⟩ := map_eq_ok.mp h
        refine ⟨6, _, List.append_nil _, .bind ((exact_linearRam _ _ _).mp h₁) ?_⟩
        exact decodes_map.mpr ⟨rtc, decodes_decodeRtc.mpr rfl, rfl⟩
    | mbc5Ram ram => exact ⟨7, linear h⟩
    | mmm01Ram ram => exact ⟨8, linear h⟩
    | huc1Ram ram => exact ⟨9, linear h⟩
    | huc3 ram s =>
        obtain ⟨w₁, h₁, h⟩ := bind_eq_ok.mp h
        obtain ⟨w₂, h₂, rfl⟩ := map_eq_ok.mp h
        refine ⟨10, w₁ ++ (w₂ ++ huc3Tail s padding₁ padding₂ padding₃),
          by simp [PersistentCartState.optionalTail], .bind ((exact_linearRam _ _ _).mp h₁) ?_⟩
        exact decodes_map.mpr ⟨s, decodes_decodeHuc3.mpr
          ⟨w₂, padding₁, padding₂, padding₃, h₂, rfl⟩, rfl⟩
    | pocketCameraRam ram => exact ⟨11, linear h⟩
    | mbc6 ram flash hidden protection =>
        obtain ⟨w₁, h₁, h⟩ := bind_eq_ok.mp h
        obtain ⟨w₂, h₂, h⟩ := bind_eq_ok.mp h
        obtain ⟨w₃, h₃, rfl⟩ := map_eq_ok.mp h
        refine ⟨12, w₁ ++ (w₂ ++ (w₃ ++ writeBool protection)),
          by simp [PersistentCartState.optionalTail], .bind ((exact_linearRam _ _ _).mp h₁) ?_⟩
        refine .bind ((exact_linearRam _ _ _).mp h₂) (.bind ((exact_linearRam _ _ _).mp h₃) ?_)
        exact decodes_map.mpr ⟨protection, decodes_readBool.mpr rfl, rfl⟩
    | mbc7Eeprom eeprom => exact ⟨13, linear h⟩

namespace CartridgeSaveEnvelope

/-- The bytes of the envelope before the optional ones it may end with. -/
def encodeHead (e : CartridgeSaveEnvelope) : Encoded := do
  let profile ← encodePersistenceProfile e.cartridgeMetadata.profile
  let state ← e.persistentState.encodeHead
  return saveMagic ++ writeU16 e.backendMetadata.formatVersion ++
    writeU64 e.backendMetadata.savedAtUnixSeconds ++
    writeBool e.cartridgeMetadata.hasBattery ++ writeBool e.cartridgeMetadata.hasRtc ++
    profile ++ state

end CartridgeSaveEnvelope

variable {e : CartridgeSaveEnvelope}

theorem encodeCartridgeSaveEnvelope_eq_ok :
    encodeCartridgeSaveEnvelope e = .ok w ↔
      ∃ head, e.encodeHead = .ok head ∧ w = head ++ e.persistentState.optionalTail 0 0 0 := by
  simp only [encodeCartridgeSaveEnvelope, CartridgeSaveEnvelope.encodeHead, bind_eq_ok,
    pure_eq_ok, encodePersistentState_eq_ok]
  constructor
  · rintro ⟨w₁, h₁, _, ⟨head, h₂, rfl⟩, rfl⟩
    exact ⟨_, ⟨w₁, h₁, head, h₂, rfl⟩, by simp only [List.append_assoc]⟩
  · rintro ⟨_, ⟨w₁, h₁, head, h₂, rfl⟩, rfl⟩
    exact ⟨w₁, h₁, _, ⟨head, h₂, rfl⟩, by simp only [List.append_assoc]⟩

/-- An envelope of the current version is read from its head and its optional bytes. -/
theorem decodes_readCartridgeSaveEnvelope :
    readCartridgeSaveEnvelope.Decodes w e ↔
      e.backendMetadata.formatVersion = currentSaveFormatVersion ∧
      ∃ head padding₁ padding₂ padding₃, e.encodeHead = .ok head ∧
        w = head ++ e.persistentState.optionalTail padding₁ padding₂ padding₃ := by
  have hmagic : ∀ {w v : List U8}, (readExact saveMagic.length).Decodes w v ↔
      w = v ∧ w.length = saveMagic.length := decodes_take
  rw [readCartridgeSaveEnvelope, decodes_bind]
  simp only [hmagic, decodes_ite, decodes_fail, and_false, false_or, not_not,
    decodes_bind_eq decodes_readU16, decodes_bind_eq decodes_readU64,
    decodes_bind_eq decodes_readBool]
  constructor
  · rintro ⟨_, _, _, rfl, ⟨rfl, -⟩, rfl, version, _, rfl, rfl, _, _, rfl, _, _, rfl, _, _, rfl, h⟩
    obtain ⟨w₁, w₂, profile, rfl, h₁, h⟩ := decodes_bind.mp h
    obtain ⟨state, hstate, rfl⟩ := decodes_map.mp h
    obtain ⟨head, padding₁, padding₂, padding₃, hhead, rfl⟩ :=
      decodes_decodePersistentState.mp hstate
    refine ⟨rfl, _, padding₁, padding₂, padding₃, bind_eq_ok.mpr
      ⟨w₁, (exact_persistenceProfile _ _).mpr h₁, map_eq_ok.mpr ⟨head, hhead, rfl⟩⟩, ?_⟩
    simp only [List.append_assoc]
  · rintro ⟨hversion, _, padding₁, padding₂, padding₃, h, rfl⟩
    obtain ⟨w₁, h₁, h⟩ := bind_eq_ok.mp h
    obtain ⟨w₂, h₂, rfl⟩ := map_eq_ok.mp h
    refine ⟨saveMagic, _, saveMagic, by simp only [List.append_assoc]; rfl, ⟨rfl, rfl⟩, rfl,
      _, _, rfl, hversion, _, _, rfl, _, _, rfl, _, _, rfl, ?_⟩
    refine .bind ((exact_persistenceProfile _ _).mp h₁) ?_
    exact decodes_map.mpr ⟨e.persistentState, decodes_decodePersistentState.mpr
      ⟨w₂, padding₁, padding₂, padding₃, h₂, rfl⟩, rfl⟩

/-- A byte string is accepted when the whole of it is the word of an envelope. -/
theorem decodeCartridgeSaveEnvelope_eq_ok {bytes : List U8} :
    decodeCartridgeSaveEnvelope bytes = .ok e ↔ readCartridgeSaveEnvelope.Decodes bytes e := by
  rw [decodeCartridgeSaveEnvelope]
  constructor
  · intro h
    cases hrun : readCartridgeSaveEnvelope.run ⟨0, bytes⟩ with
    | error err => rw [hrun] at h; cases h
    | ok result =>
        obtain ⟨e', cursor⟩ := result
        rw [hrun] at h
        dsimp only at h
        split at h
        · cases h
        · next hrest =>
            obtain rfl := Except.ok.inj h
            obtain ⟨w, hw, -, hdec⟩ := run_eq_ok.mp hrun
            rw [List.length_eq_zero_iff.mp (not_not.mp hrest), List.append_nil] at hw
            dsimp only at hw
            rw [hw]
            exact hdec
  · intro h
    have hrun := h 0 []
    rw [List.append_nil] at hrun
    rw [hrun]
    rfl

/-! ## What can be encoded -/

def CartridgeRamPayloadKind.len : CartridgeRamPayloadKind → Nat
  | .linear byteLen => byteLen
  | .mbc2Nibbles cellCount => cellCount

/-- The lengths a profile states. -/
def CartridgePersistenceProfile.lengths : CartridgePersistenceProfile → List Nat
  | .none | .persistentRtc => []
  | .nonPersistentRam ram | .persistentRam ram | .persistentRamAndRtc ram => [ram.len]
  | .persistentRamAndFlash ram flashByteLen hiddenByteLen =>
      [ram.len, flashByteLen, hiddenByteLen]
  | .persistentEeprom byteLen => [byteLen]

/-- The lengths of the memories of a state. -/
def PersistentCartState.lengths : PersistentCartState → List Nat
  | .none | .mbc2Ram _ | .mbc3Rtc _ => []
  | .noMbcRam ram | .mmm01Ram ram | .huc1Ram ram | .huc3 ram _ | .mbc1Ram ram | .mbc3Ram ram
  | .mbc3RamRtc ram _ | .mbc5Ram ram | .mbc7Eeprom ram | .pocketCameraRam ram => [ram.length]
  | .mbc6 ram flash hiddenRegion _ => [ram.length, flash.length, hiddenRegion.length]

/-- The cells of a state that are four bits wide. -/
def PersistentCartState.nibbles : PersistentCartState → List U8
  | .mbc2Ram ramNibbles => ramNibbles.toList
  | .huc3 _ s => s.mcuRam.toList
  | _ => []

theorem encodeLinearRam_ok {ram : List U8} (h : ram.length < 2 ^ 32) (field : String) :
    encodeLinearRam ram field = .ok (leBytes 4 ram.length ++ ram) :=
  map_eq_ok.mpr ⟨_, writeU32Checked_eq_ok.mpr ⟨rfl, h⟩, rfl⟩

theorem encodeNibbles_ok {n : Nat} (hn : n < 2 ^ 32)
    (invalid : Nat → U8 → CartridgeSaveBackendError) (field : String) {cells : Vector U8 n}
    (h : ∀ cell ∈ cells.toList, cell ≤ 0x0F) :
    encodeNibbles invalid field cells = .ok (leBytes 4 n ++ cells.toList) :=
  bind_eq_ok.mpr ⟨_, writeU32Checked_eq_ok.mpr ⟨rfl, hn⟩,
    map_eq_ok.mpr ⟨_, checkNibbles_eq_ok.mpr ⟨rfl, h⟩, rfl⟩⟩

theorem encodeRamPayloadKind_ok {kind : CartridgeRamPayloadKind} (h : kind.len < 2 ^ 32) :
    ∃ bytes, encodeRamPayloadKind kind = .ok bytes := by
  cases kind with
  | linear len => exact ⟨_, map_eq_ok.mpr ⟨_, writeU32Checked_eq_ok.mpr ⟨rfl, h⟩, rfl⟩⟩
  | mbc2Nibbles len => exact ⟨_, map_eq_ok.mpr ⟨_, writeU32Checked_eq_ok.mpr ⟨rfl, h⟩, rfl⟩⟩

theorem encodePersistenceProfile_ok {profile : CartridgePersistenceProfile}
    (h : ∀ len ∈ profile.lengths, len < 2 ^ 32) :
    ∃ bytes, encodePersistenceProfile profile = .ok bytes := by
  cases profile with
  | none => exact ⟨_, rfl⟩
  | persistentRtc => exact ⟨_, rfl⟩
  | nonPersistentRam ram =>
      obtain ⟨bytes, hram⟩ := encodeRamPayloadKind_ok (h ram.len (.head _))
      exact ⟨_, map_eq_ok.mpr ⟨bytes, hram, rfl⟩⟩
  | persistentRam ram =>
      obtain ⟨bytes, hram⟩ := encodeRamPayloadKind_ok (h ram.len (.head _))
      exact ⟨_, map_eq_ok.mpr ⟨bytes, hram, rfl⟩⟩
  | persistentRamAndRtc ram =>
      obtain ⟨bytes, hram⟩ := encodeRamPayloadKind_ok (h ram.len (.head _))
      exact ⟨_, map_eq_ok.mpr ⟨bytes, hram, rfl⟩⟩
  | persistentRamAndFlash ram flash hidden =>
      obtain ⟨bytes, hram⟩ := encodeRamPayloadKind_ok (h ram.len (.head _))
      have hflash : writeU32Checked flash "MBC6 flash byte_len" = .ok _ :=
        writeU32Checked_eq_ok.mpr ⟨rfl, h flash (.tail _ (.head _))⟩
      have hhidden : writeU32Checked hidden "MBC6 hidden flash byte_len" = .ok _ :=
        writeU32Checked_eq_ok.mpr ⟨rfl, h hidden (.tail _ (.tail _ (.head _)))⟩
      exact ⟨_, bind_eq_ok.mpr ⟨bytes, hram, bind_eq_ok.mpr ⟨_, hflash,
        map_eq_ok.mpr ⟨_, hhidden, rfl⟩⟩⟩⟩
  | persistentEeprom len =>
      exact ⟨_, map_eq_ok.mpr ⟨_, writeU32Checked_eq_ok.mpr ⟨rfl, h len (.head _)⟩, rfl⟩⟩

theorem encodePersistentState_ok {state : PersistentCartState}
    (hlengths : ∀ len ∈ state.lengths, len < 2 ^ 32)
    (hnibbles : ∀ cell ∈ state.nibbles, cell ≤ 0x0F) :
    ∃ bytes, encodePersistentState state = .ok bytes := by
  cases state with
  | none => exact ⟨_, rfl⟩
  | mbc3Rtc rtc => exact ⟨_, rfl⟩
  | mbc2Ram cells =>
      exact ⟨_, map_eq_ok.mpr ⟨_, encodeNibbles_ok (by decide) _ _ hnibbles, rfl⟩⟩
  | huc3 ram s =>
      have hhuc3 := encodeNibbles_ok (by decide) .invalidHuc3NibbleValue
        "HuC-3 MCU RAM nibble count" hnibbles
      exact ⟨_, bind_eq_ok.mpr ⟨_, encodeLinearRam_ok (hlengths _ (.head _)) _,
        map_eq_ok.mpr ⟨_, map_eq_ok.mpr ⟨_, hhuc3, rfl⟩, rfl⟩⟩⟩
  | mbc6 ram flash hidden protection =>
      exact ⟨_, bind_eq_ok.mpr ⟨_, encodeLinearRam_ok (hlengths _ (.head _)) _,
        bind_eq_ok.mpr ⟨_, encodeLinearRam_ok (hlengths _ (.tail _ (.head _))) _,
          map_eq_ok.mpr ⟨_, encodeLinearRam_ok (hlengths _ (.tail _ (.tail _ (.head _)))) _,
            rfl⟩⟩⟩⟩
  | _ => exact ⟨_, map_eq_ok.mpr ⟨_, encodeLinearRam_ok (hlengths _ (.head _)) _, rfl⟩⟩

/-- The lengths of an envelope fit their fields and its nibbles are nibbles. -/
structure CartridgeSaveEnvelope.Encodable (e : CartridgeSaveEnvelope) : Prop where
  version : e.backendMetadata.formatVersion = currentSaveFormatVersion
  profile : ∀ len ∈ e.cartridgeMetadata.profile.lengths, len < 2 ^ 32
  state : ∀ len ∈ e.persistentState.lengths, len < 2 ^ 32
  nibbles : ∀ cell ∈ e.persistentState.nibbles, cell ≤ 0x0F

/-! ## The codec -/

/-- What can be encoded is read back.  What is read is written back, with zeros after the
optional bytes that are absent.  No accepted byte string is a proper prefix of another. -/
theorem cartridgeSaveEnvelope_codec :
    (∀ e : CartridgeSaveEnvelope, e.Encodable → ∃ bytes,
      encodeCartridgeSaveEnvelope e = .ok bytes ∧
      decodeCartridgeSaveEnvelope bytes = .ok e) ∧
    (∀ bytes e, decodeCartridgeSaveEnvelope bytes = .ok e →
      ∃ head padding₁ padding₂ padding₃,
        bytes = head ++ e.persistentState.optionalTail padding₁ padding₂ padding₃ ∧
        encodeCartridgeSaveEnvelope e = .ok (head ++ e.persistentState.optionalTail 0 0 0)) ∧
    (∀ bytes bytes' e e', decodeCartridgeSaveEnvelope bytes = .ok e →
      decodeCartridgeSaveEnvelope bytes' = .ok e' → bytes <+: bytes' → bytes = bytes') := by
  refine ⟨fun e he => ?_, fun bytes e h => ?_, fun bytes bytes' e e' h h' hle => ?_⟩
  · obtain ⟨profile, hprofile⟩ := encodePersistenceProfile_ok he.profile
    obtain ⟨state, hstate⟩ := encodePersistentState_ok he.state he.nibbles
    have hencode : ∃ bytes, encodeCartridgeSaveEnvelope e = .ok bytes :=
      ⟨_, bind_eq_ok.mpr ⟨profile, hprofile, map_eq_ok.mpr ⟨state, hstate, rfl⟩⟩⟩
    obtain ⟨bytes, hencode⟩ := hencode
    obtain ⟨head, hhead, hbytes⟩ := encodeCartridgeSaveEnvelope_eq_ok.mp hencode
    refine ⟨bytes, hencode, decodeCartridgeSaveEnvelope_eq_ok.mpr ?_⟩
    exact decodes_readCartridgeSaveEnvelope.mpr ⟨he.version, head, 0, 0, 0, hhead, hbytes⟩
  · obtain ⟨-, head, padding₁, padding₂, padding₃, hhead, hbytes⟩ :=
      decodes_readCartridgeSaveEnvelope.mp (decodeCartridgeSaveEnvelope_eq_ok.mp h)
    exact ⟨head, padding₁, padding₂, padding₃, hbytes,
      encodeCartridgeSaveEnvelope_eq_ok.mpr ⟨head, hhead, rfl⟩⟩
  · exact Decodes.prefix_free (decodeCartridgeSaveEnvelope_eq_ok.mp h)
      (decodeCartridgeSaveEnvelope_eq_ok.mp h') hle

/-- MBC2 cells with the bits set that no cell of the chip has. -/
def wideMbc2Envelope : CartridgeSaveEnvelope where
  backendMetadata := { formatVersion := currentSaveFormatVersion, savedAtUnixSeconds := 0 }
  cartridgeMetadata :=
    { hasBattery := true, hasRtc := false,
      profile := .persistentRam (.mbc2Nibbles mbc2RamCellCount) }
  persistentState := .mbc2Ram (.replicate mbc2RamCellCount 0x10)

/-- They are bytes of the array's type, and the encoder refuses them. -/
theorem wideMbc2Envelope_notEncoded :
    wideMbc2Envelope.backendMetadata.formatVersion = currentSaveFormatVersion ∧
    ¬ ∃ bytes, encodeCartridgeSaveEnvelope wideMbc2Envelope = .ok bytes ∧
      decodeCartridgeSaveEnvelope bytes = .ok wideMbc2Envelope := by
  refine ⟨rfl, fun ⟨bytes, h, _⟩ => ?_⟩
  obtain ⟨_, _, h⟩ := bind_eq_ok.mp h
  obtain ⟨_, h, _⟩ := map_eq_ok.mp h
  obtain ⟨_, h, _⟩ := map_eq_ok.mp h
  obtain ⟨_, _, h⟩ := bind_eq_ok.mp h
  obtain ⟨_, h, _⟩ := map_eq_ok.mp h
  have hcell : (0x10 : U8) ∈ (Vector.replicate mbc2RamCellCount 0x10).toList := by
    rw [Vector.toList_replicate, List.mem_replicate]
    exact ⟨by decide, rfl⟩
  exact absurd ((checkNibbles_eq_ok.mp h).2 0x10 hcell) (by decide)

end GbCycle
