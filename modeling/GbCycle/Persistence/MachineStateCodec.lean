import GbCycle.Persistence.Codec
import GbCycle.Persistence.MachineState

/-!
# The machine's state file round trip

Every part of the metadata but the console models is read just as it is written.  A console
model has a second tag, zero for the original machine, which the reader still knows and the
writer does not use; so a file is written back as it was up to these tags.
-/

namespace GbCycle

open Wire (Decoder leBytes)
open Wire.Decoder

variable {α : Type} {w : List U8}

/-! ## Tags -/

/-- The tags that are read as a value are those of `tags`. -/
def ReadsTags (decode : U8 → String → Reader α) (tags : α → U8 → Prop) : Prop :=
  ∀ tag field w v, (decode tag field).Decodes w v ↔ w = [] ∧ tags v tag

theorem readsTags_decodeTag {ofTag : Nat → Option α} {tags : α → U8 → Prop}
    (h : ∀ tag v, ofTag (BitVec.toNat tag) = some v ↔ tags v tag) :
    ReadsTags (decodeTag ofTag) tags := by
  intro tag field w v
  rw [← h, decodeTag]
  cases ofTag tag.toNat with
  | none => simp only [decodes_fail, reduceCtorEq, and_false]
  | some v' => simp only [decodes_pure, Option.some.injEq]

/-- The tag a value is written with. -/
def IsTag (encode : α → U8) (v : α) (tag : U8) : Prop := tag = encode v

/-- A value is read under the tag it is written with, and only then. -/
theorem readsTags_of_inverse {ofTag : Nat → Option α} {encode : α → U8}
    (hencode : ∀ v, ofTag (encode v).toNat = some v)
    (hdecode : ∀ n v, ofTag n = some v → (encode v).toNat = n) :
    ReadsTags (decodeTag ofTag) (IsTag encode) := by
  refine readsTags_decodeTag fun tag v => ⟨fun h => ?_, fun h => ?_⟩
  · exact (BitVec.eq_of_toNat_eq (hdecode _ v h)).symm
  · rw [h]
    exact hencode v

theorem readsTags_operatingMode : ReadsTags decodeOperatingMode (IsTag encodeOperatingMode) := by
  refine readsTags_of_inverse (fun v => by cases v <;> rfl) fun n v h => ?_
  split at h <;> cases h <;> rfl

theorem readsTags_revision : ReadsTags decodeRevision (IsTag encodeRevision) := by
  refine readsTags_of_inverse (fun v => by cases v <;> rfl) fun n v h => ?_
  split at h <;> cases h <;> rfl

theorem readsTags_hostPlatform : ReadsTags decodeHostPlatform (IsTag encodeHostPlatform) := by
  refine readsTags_of_inverse (fun v => by cases v <;> rfl) fun n v h => ?_
  split at h <;> cases h <;> rfl

theorem readsTags_sgbHostProfile :
    ReadsTags decodeSgbHostProfile (IsTag encodeSgbHostProfile) := by
  refine readsTags_of_inverse (fun v => by cases v <;> rfl) fun n v h => ?_
  split at h <;> cases h <;> rfl

theorem readsTags_startupMode : ReadsTags decodeStartupMode (IsTag encodeStartupMode) := by
  refine readsTags_of_inverse (fun v => by cases v <;> rfl) fun n v h => ?_
  split at h <;> cases h <;> rfl

theorem readsTags_executionMode : ReadsTags decodeExecutionMode (IsTag encodeExecutionMode) := by
  refine readsTags_of_inverse (fun v => by cases v <;> rfl) fun n v h => ?_
  split at h <;> cases h <;> rfl

theorem readsTags_validationPolicy :
    ReadsTags decodeValidationPolicy (IsTag encodeValidationPolicy) := by
  refine readsTags_of_inverse (fun v => by cases v <;> rfl) fun n v h => ?_
  split at h <;> cases h <;> rfl

theorem readsTags_heuristicPolicy :
    ReadsTags decodeHeuristicPolicy (IsTag encodeHeuristicPolicy) := by
  refine readsTags_of_inverse (fun v => by cases v <;> rfl) fun n v h => ?_
  split at h <;> cases h <;> rfl

theorem readsTags_diagnosticPolicy :
    ReadsTags decodeDiagnosticPolicy (IsTag encodeDiagnosticPolicy) := by
  refine readsTags_of_inverse (fun v => by cases v <;> rfl) fun n v h => ?_
  split at h <;> cases h <;> rfl

theorem readsTags_cartridgeSlotState :
    ReadsTags decodeCartridgeSlotState (IsTag encodeCartridgeSlotState) := by
  refine readsTags_of_inverse (fun v => by cases v <;> rfl) fun n v h => ?_
  split at h <;> cases h <;> rfl

/-- The original machine has two tags. -/
def ConsoleModelTag (v : ConsoleModel) (tag : U8) : Prop :=
  tag = encodeConsoleModel v ∨ v = .gameBoy ∧ tag = 0

theorem readsTags_consoleModel : ReadsTags decodeConsoleModel ConsoleModelTag := by
  refine readsTags_decodeTag fun tag v => ⟨fun h => ?_, fun h => ?_⟩
  · split at h <;> cases h
    · next heq => exact .inr ⟨rfl, BitVec.eq_of_toNat_eq heq⟩
    all_goals next heq => exact .inl (BitVec.eq_of_toNat_eq heq)
  · rcases h with rfl | ⟨rfl, rfl⟩
    · cases v <;> rfl
    · rfl

/-! ## Readers of tags -/

theorem decodes_readTags {δ : Type} {decode : U8 → String → Reader α} {tags : α → U8 → Prop}
    (h : ReadsTags decode tags) {field : String} {f : α → Reader δ} {b : δ} :
    (readU8 >>= fun tag => decode tag field >>= f).Decodes w b ↔
      ∃ v tag w', w = tag :: w' ∧ tags v tag ∧ (f v).Decodes w' b := by
  rw [decodes_tagged]
  constructor
  · rintro ⟨tag, w', rfl, hdec⟩
    obtain ⟨w₁, w₂, v, rfl, hv, hf⟩ := decodes_bind.mp hdec
    obtain ⟨rfl, htag⟩ := (h _ _ _ _).mp hv
    exact ⟨v, tag, w₂, rfl, htag, hf⟩
  · rintro ⟨v, tag, w', rfl, htag, hf⟩
    exact ⟨tag, w', rfl, decodes_bind.mpr ⟨[], w', v, rfl, (h _ _ _ _).mpr ⟨rfl, htag⟩, hf⟩⟩

theorem decodes_readTag {δ : Type} {decode : U8 → String → Reader α} {encode : α → U8}
    (h : ReadsTags decode (IsTag encode)) {field : String} {f : α → Reader δ} {b : δ} :
    (readU8 >>= fun tag => decode tag field >>= f).Decodes w b ↔
      ∃ v w', w = encode v :: w' ∧ (f v).Decodes w' b := by
  rw [decodes_readTags h]
  constructor
  · rintro ⟨v, tag, w', rfl, rfl, hf⟩
    exact ⟨v, w', rfl, hf⟩
  · rintro ⟨v, w', rfl, hf⟩
    exact ⟨v, _, w', rfl, rfl, hf⟩

theorem decodes_decodeOptionalTag {field : String} {tag : Option U8} :
    (decodeOptionalTag field).Decodes w tag ↔ w = encodeOptionalTag tag := by
  rw [decodeOptionalTag, decodes_bind_eq decodes_readBool]
  constructor
  · rintro ⟨present, w', rfl, h⟩
    cases present with
    | false =>
        obtain ⟨rfl, rfl⟩ := decodes_pure.mp h
        rfl
    | true =>
        obtain ⟨v, hv, rfl⟩ := decodes_map.mp h
        rw [decodes_readU8.mp hv]
        rfl
  · rintro rfl
    cases tag with
    | none => exact ⟨false, [], rfl, decodes_pure.mpr ⟨rfl, rfl⟩⟩
    | some v => exact ⟨true, [v], rfl, decodes_map.mpr ⟨v, decodes_readU8.mpr rfl, rfl⟩⟩

theorem decodes_decodeOptional {decode : U8 → String → Reader α} {tags : α → U8 → Prop}
    (h : ReadsTags decode tags) {field : String} {v : Option α} :
    (decodeOptional decode field).Decodes w v ↔
      ∃ tag, Option.Rel tags v tag ∧ w = encodeOptionalTag tag := by
  rw [decodeOptional, decodes_bind_eq decodes_decodeOptionalTag]
  constructor
  · rintro ⟨tag, w', rfl, hdec⟩
    cases tag with
    | none =>
        obtain ⟨rfl, rfl⟩ := decodes_pure.mp hdec
        exact ⟨none, .none, (List.append_nil _)⟩
    | some tag =>
        obtain ⟨v, hv, rfl⟩ := decodes_map.mp hdec
        obtain ⟨rfl, htag⟩ := (h _ _ _ _).mp hv
        exact ⟨some tag, .some htag, (List.append_nil _)⟩
  · rintro ⟨tag, hrel, rfl⟩
    cases hrel with
    | none => exact ⟨none, [], (List.append_nil _).symm, decodes_pure.mpr ⟨rfl, rfl⟩⟩
    | some htag =>
        exact ⟨some _, [], (List.append_nil _).symm,
          decodes_map.mpr ⟨_, (h _ _ _ _).mpr ⟨rfl, htag⟩, rfl⟩⟩

theorem decodes_decodeOptional_eq {decode : U8 → String → Reader α} {encode : α → U8}
    (h : ReadsTags decode (IsTag encode)) {field : String} {w : List U8} {v : Option α} :
    (decodeOptional decode field).Decodes w v ↔ w = encodeOptionalTag (v.map encode) := by
  rw [decodes_decodeOptional h]
  constructor
  · rintro ⟨tag, hrel, rfl⟩
    cases hrel with
    | none => rfl
    | some htag => rw [show _ = _ from htag]; rfl
  · rintro rfl
    cases v with
    | none => exact ⟨none, .none, rfl⟩
    | some v => exact ⟨some (encode v), .some rfl, rfl⟩

theorem decodes_decodeFingerprint {field : String} {w : List U8}
    {v : Option SaveStateByteFingerprint} :
    (decodeFingerprint field).Decodes w v ↔ w = encodeFingerprint v := by
  rw [decodeFingerprint, decodes_bind_eq decodes_readBool]
  constructor
  · rintro ⟨present, w', rfl, h⟩
    cases present with
    | false =>
        obtain ⟨rfl, rfl⟩ := decodes_pure.mp h
        rfl
    | true =>
        rw [if_pos rfl] at h
        obtain ⟨len, w₁, rfl, hlen⟩ := (decodes_bind_eq decodes_readU64).mp h
        obtain ⟨fnv, hfnv, rfl⟩ := decodes_map.mp hlen
        rw [decodes_readU64.mp hfnv]
        rfl
  · rintro rfl
    cases v with
    | none => exact ⟨false, [], rfl, decodes_pure.mpr ⟨rfl, rfl⟩⟩
    | some v =>
        exact ⟨true, _, rfl, (decodes_bind_eq decodes_readU64).mpr ⟨v.len, _, rfl,
          decodes_map.mpr ⟨v.fnv1a64, decodes_readU64.mpr rfl, rfl⟩⟩⟩

/-! ## The metadata, up to the tags of the console models -/

/-- The words of a policy, with the tag of the forced console model open. -/
def overrideWord (forced : Option U8) (policy : OverridePolicy) : List U8 :=
  encodeOptionalTag forced ++
    encodeOptionalTag (policy.forcedOperatingMode.map encodeOperatingMode) ++
    encodeOptionalTag (policy.forcedHostPlatform.map encodeHostPlatform) ++
    encodeOptionalTag (policy.forcedStartupMode.map encodeStartupMode)

def compatibilityWord (forced : Option U8) (policy : CompatibilityPolicy) : List U8 :=
  [encodeExecutionMode policy.executionMode, encodeValidationPolicy policy.validationPolicy,
    encodeHeuristicPolicy policy.heuristicPolicy] ++
    overrideWord forced policy.overridePolicy ++ [encodeDiagnosticPolicy policy.diagnosticPolicy]

/-- The words of the metadata, with the tags of both console models open. -/
def metadataWord (tag : U8) (forced : Option U8) (metadata : MachineSaveStateMetadata) : List U8 :=
  [tag, encodeOperatingMode metadata.operatingMode, encodeRevision metadata.revision,
    encodeHostPlatform metadata.hostPlatform] ++
    encodeOptionalTag (metadata.sgbProfile.map encodeSgbHostProfile) ++
    [encodeStartupMode metadata.startupMode] ++
    compatibilityWord forced metadata.compatibility ++ writeU64 metadata.nextTCycle ++
    [encodeCartridgeSlotState metadata.cartridge.state] ++
    encodeFingerprint metadata.cartridge.romFingerprint ++
    [encodeStartupMode metadata.boot.startupMode] ++ writeBool metadata.boot.bootRomMapped ++
    encodeFingerprint metadata.boot.bootRomFingerprint

/-- The forced console model of the metadata. -/
def MachineSaveStateMetadata.forcedConsoleModel (metadata : MachineSaveStateMetadata) :
    Option ConsoleModel :=
  metadata.compatibility.overridePolicy.forcedConsoleModel

theorem encodeMachineSaveStateMetadata_eq (metadata : MachineSaveStateMetadata) :
    encodeMachineSaveStateMetadata metadata =
      metadataWord (encodeConsoleModel metadata.consoleModel)
        (metadata.forcedConsoleModel.map encodeConsoleModel) metadata := rfl

theorem decodes_decodeOverridePolicy {policy : OverridePolicy} :
    decodeOverridePolicy.Decodes w policy ↔
      ∃ forced, Option.Rel ConsoleModelTag policy.forcedConsoleModel forced ∧
        w = overrideWord forced policy := by
  rw [decodeOverridePolicy, decodes_bind]
  simp only [decodes_decodeOptional readsTags_consoleModel,
    decodes_bind_eq (decodes_decodeOptional_eq readsTags_operatingMode),
    decodes_bind_eq (decodes_decodeOptional_eq readsTags_hostPlatform),
    decodes_bind_eq (decodes_decodeOptional_eq readsTags_startupMode), decodes_pure]
  constructor
  · rintro ⟨_, _, model, rfl, ⟨forced, hforced, rfl⟩, _, _, rfl, _, _, rfl, _, _, rfl, rfl, rfl⟩
    exact ⟨forced, hforced, by simp only [overrideWord, List.append_assoc, List.append_nil]⟩
  · rintro ⟨forced, hforced, rfl⟩
    exact ⟨_, _, _, by simp only [overrideWord, List.append_assoc], ⟨forced, hforced, rfl⟩,
      _, _, rfl, _, _, rfl, _, _, (List.append_nil _).symm, rfl, rfl⟩

/-- A part that is read under any of its words, followed by more. -/
theorem decodes_bind_words {δ τ : Type} {d : Reader α} {word : τ → α → List U8}
    {tags : α → τ → Prop} (hd : ∀ {w a}, d.Decodes w a ↔ ∃ t, tags a t ∧ w = word t a)
    {f : α → Reader δ} {b : δ} :
    (d >>= f).Decodes w b ↔
      ∃ a t w', w = word t a ++ w' ∧ tags a t ∧ (f a).Decodes w' b := by
  rw [decodes_bind]
  constructor
  · rintro ⟨w₁, w₂, a, rfl, h₁, h₂⟩
    obtain ⟨t, ht, rfl⟩ := hd.mp h₁
    exact ⟨a, t, w₂, rfl, ht, h₂⟩
  · rintro ⟨a, t, w', rfl, ht, h⟩
    exact ⟨_, w', a, rfl, hd.mpr ⟨t, ht, rfl⟩, h⟩

theorem decodes_decodeCompatibilityPolicy {policy : CompatibilityPolicy} :
    decodeCompatibilityPolicy.Decodes w policy ↔
      ∃ forced, Option.Rel ConsoleModelTag policy.overridePolicy.forcedConsoleModel forced ∧
        w = compatibilityWord forced policy := by
  rw [decodeCompatibilityPolicy]
  simp only [decodes_readTag readsTags_executionMode, decodes_readTag readsTags_validationPolicy,
    decodes_readTag readsTags_heuristicPolicy, decodes_readTag readsTags_diagnosticPolicy,
    decodes_bind_words decodes_decodeOverridePolicy, decodes_pure]
  constructor
  · rintro ⟨_, _, rfl, _, _, rfl, _, _, rfl, _, forced, _, rfl, hforced, _, _, rfl, rfl, rfl⟩
    exact ⟨forced, hforced, rfl⟩
  · rintro ⟨forced, hforced, rfl⟩
    exact ⟨_, _, rfl, _, _, rfl, _, _, rfl, _, forced, _, rfl, hforced, _, _, rfl, rfl, rfl⟩

/-- The metadata are read as they are written, but for the second tag of the original machine. -/
theorem decodes_decodeMachineSaveStateMetadata {metadata : MachineSaveStateMetadata} :
    decodeMachineSaveStateMetadata.Decodes w metadata ↔
      ∃ tag forced, ConsoleModelTag metadata.consoleModel tag ∧
        Option.Rel ConsoleModelTag metadata.forcedConsoleModel forced ∧
        w = metadataWord tag forced metadata := by
  rw [decodeMachineSaveStateMetadata]
  simp only [decodes_readTags readsTags_consoleModel, decodes_readTag readsTags_operatingMode,
    decodes_readTag readsTags_revision, decodes_readTag readsTags_hostPlatform,
    decodes_bind_eq (decodes_decodeOptional_eq readsTags_sgbHostProfile),
    decodes_readTag readsTags_startupMode, decodes_bind_words decodes_decodeCompatibilityPolicy,
    decodes_bind_eq decodes_readU64, decodes_readTag readsTags_cartridgeSlotState,
    decodes_bind_eq decodes_decodeFingerprint, decodes_bind_eq decodes_readBool, decodes_pure]
  constructor
  · rintro ⟨_, tag, _, rfl, htag, _, _, rfl, _, _, rfl, _, _, rfl, _, _, rfl, _, _, rfl, _, forced,
      _, rfl, hforced, _, _, rfl, _, _, rfl, _, _, rfl, _, _, rfl, _, _, rfl, _, _, rfl, rfl, rfl⟩
    refine ⟨tag, forced, htag, hforced, ?_⟩
    simp only [metadataWord, List.append_assoc, List.cons_append, List.nil_append, List.append_nil]
  · rintro ⟨tag, forced, htag, hforced, rfl⟩
    refine ⟨_, tag, _, ?_, htag, _, _, rfl, _, _, rfl, _, _, rfl, _, _, rfl, _, _, rfl, _, forced,
      _, rfl, hforced, _, _, rfl, _, _, rfl, _, _, rfl, _, _, rfl, _, _, rfl, _, _,
      (List.append_nil _).symm, rfl, rfl⟩
    simp only [metadataWord, List.append_assoc, List.cons_append, List.nil_append]

/-- What is written is read back. -/
theorem decodes_encodeMachineSaveStateMetadata (metadata : MachineSaveStateMetadata) :
    decodeMachineSaveStateMetadata.Decodes (encodeMachineSaveStateMetadata metadata) metadata := by
  refine decodes_decodeMachineSaveStateMetadata.mpr ⟨_, _, .inl rfl, ?_,
    encodeMachineSaveStateMetadata_eq metadata⟩
  cases metadata.forcedConsoleModel with
  | none => exact .none
  | some model => exact .some (.inl rfl)

/-- What is read under other tags than zero is written back. -/
theorem encode_of_decodes {metadata : MachineSaveStateMetadata} {tag : U8} {forced : Option U8}
    (htag : ConsoleModelTag metadata.consoleModel tag)
    (hforced : Option.Rel ConsoleModelTag metadata.forcedConsoleModel forced)
    (hzero : tag ≠ 0) (hzero' : forced ≠ some 0) :
    metadataWord tag forced metadata = encodeMachineSaveStateMetadata metadata := by
  have htag' : tag = encodeConsoleModel metadata.consoleModel :=
    htag.resolve_right fun h => hzero h.2
  have hforced' : forced = metadata.forcedConsoleModel.map encodeConsoleModel := by
    generalize metadata.forcedConsoleModel = model at hforced
    cases hforced with
    | none => rfl
    | some h => rw [h.resolve_right fun h => hzero' (congrArg some h.2)]; rfl
  rw [encodeMachineSaveStateMetadata_eq, htag', hforced']

/-! ## The envelope -/

/-- The word of a file whose payload is `payload`. -/
def machineSaveStateWord (version : U16) (metadata payload : List U8) : List U8 :=
  machineSaveStateMagic ++ writeU16 version ++ metadata ++ leBytes 4 payload.length ++ payload

theorem decodes_readMachineSaveState {metadata : MachineSaveStateMetadata} {payload : List U8} :
    readMachineSaveState.Decodes w (metadata, payload) ↔
      ∃ word, decodeMachineSaveStateMetadata.Decodes word metadata ∧ payload.length < 2 ^ 32 ∧
        w = machineSaveStateWord currentMachineSaveStateFormatVersion word payload := by
  have hmagic : ∀ {w v : List U8}, (readExact machineSaveStateMagic.length).Decodes w v ↔
      w = v ∧ w.length = machineSaveStateMagic.length := decodes_take
  rw [readMachineSaveState, decodes_bind]
  simp only [hmagic, decodes_ite, decodes_fail, and_false, false_or, not_not,
    decodes_bind_eq decodes_readU16]
  constructor
  · rintro ⟨_, _, _, rfl, ⟨rfl, -⟩, rfl, version, _, rfl, rfl, h⟩
    obtain ⟨word, w₁, metadata', rfl, hmetadata, h⟩ := decodes_bind.mp h
    obtain ⟨w₂, w₃, len, rfl, hlen, h⟩ := decodes_bind.mp h
    obtain ⟨payload', hpayload, heq⟩ := decodes_map.mp h
    obtain ⟨rfl, rfl⟩ := Prod.mk.inj heq
    obtain ⟨rfl, rfl⟩ := decodes_take.mp hpayload
    obtain ⟨rfl, hlt⟩ := decodes_leNat.mp hlen
    refine ⟨word, hmetadata, hlt, ?_⟩
    simp only [machineSaveStateWord, List.append_assoc]
  · rintro ⟨word, hmetadata, hlt, rfl⟩
    refine ⟨machineSaveStateMagic, _, machineSaveStateMagic,
      by simp only [machineSaveStateWord, List.append_assoc]; rfl, ⟨rfl, rfl⟩, rfl, _, _, rfl, rfl,
      hmetadata.bind (.bind (decodes_leNat.mpr ⟨rfl, hlt⟩) ?_)⟩
    exact decodes_map.mpr ⟨payload, decodes_take.mpr ⟨rfl, rfl⟩, rfl⟩

section Envelope

variable {γ : Type} {serializer : StateSerializer γ}

/-- What is serialized is read back. -/
def StateSerializer.RoundTrips (serializer : StateSerializer γ) : Prop :=
  ∀ state bytes, serializer.intoWriter state = .ok bytes → serializer.fromReader bytes = .ok state

theorem codecError_eq_ok {operation : String} {x : Except String α} {v : α} :
    codecError operation x = .ok v ↔ x = .ok v := by
  cases x with
  | ok value => exact ⟨fun h => congrArg _ (Except.ok.inj h), fun h => congrArg _ (Except.ok.inj h)⟩
  | error message => exact ⟨nofun, nofun⟩

theorem encodeMachineSaveStateEnvelope_eq_ok {e : MachineSaveStateEnvelope γ} :
    encodeMachineSaveStateEnvelope serializer e = .ok w ↔
      ∃ payload, serializer.intoWriter e.state = .ok payload ∧ payload.length < 2 ^ 32 ∧
        w = machineSaveStateWord e.backendMetadata.formatVersion
          (encodeMachineSaveStateMetadata e.stateMetadata) payload := by
  simp only [encodeMachineSaveStateEnvelope, bind_eq_ok, pure_eq_ok, codecError_eq_ok,
    writeU32Checked_eq_ok]
  constructor
  · rintro ⟨payload, hpayload, _, ⟨rfl, hlt⟩, rfl⟩
    exact ⟨payload, hpayload, hlt, rfl⟩
  · rintro ⟨payload, hpayload, hlt, rfl⟩
    exact ⟨payload, hpayload, _, ⟨rfl, hlt⟩, rfl⟩

/-- A byte string is accepted when the whole of it is the word of a file, and the state in it is
of the machine that the metadata say. -/
theorem decodeMachineSaveStateEnvelope_eq_ok {e : MachineSaveStateEnvelope γ} {bytes : List U8} :
    decodeMachineSaveStateEnvelope serializer bytes = .ok e ↔
      ∃ payload, readMachineSaveState.Decodes bytes (e.stateMetadata, payload) ∧
        serializer.fromReader payload = .ok e.state ∧ e = .new e.state := by
  rw [decodeMachineSaveStateEnvelope]
  constructor
  · intro h
    cases hrun : readMachineSaveState.run ⟨0, bytes⟩ with
    | error err => rw [hrun] at h; cases h
    | ok result =>
        obtain ⟨⟨metadata, payload⟩, cursor⟩ := result
        rw [hrun] at h
        obtain ⟨state, hstate, h⟩ := bind_eq_ok.mp h
        split at h
        · cases h
        · next hmetadata =>
            rw [not_not] at hmetadata
            split at h
            · cases h
            · next hrest =>
                obtain rfl := pure_eq_ok.mp h
                obtain ⟨w, hw, -, hdec⟩ := run_eq_ok.mp hrun
                rw [List.length_eq_zero_iff.mp (not_not.mp hrest), List.append_nil] at hw
                dsimp only at hw
                rw [hw]
                refine ⟨payload, hdec, codecError_eq_ok.mp hstate, ?_⟩
                rw [MachineSaveStateEnvelope.new, hmetadata]
  · rintro ⟨payload, hdec, hstate, he⟩
    have hrun := hdec 0 []
    rw [List.append_nil] at hrun
    have hmetadata : e.stateMetadata = e.state.metadata :=
      congrArg MachineSaveStateEnvelope.stateMetadata he
    rw [hrun]
    dsimp only
    rw [codecError_eq_ok.mpr hstate]
    show (if e.state.metadata ≠ e.stateMetadata then _ else _) = _
    rw [if_neg (not_not.mpr hmetadata.symm), he]
    rfl

/-- The envelopes that come back: of the current version, with the metadata of their state. -/
theorem decode_encode_iff (hserializer : serializer.RoundTrips) {e : MachineSaveStateEnvelope γ}
    {bytes : List U8} (h : encodeMachineSaveStateEnvelope serializer e = .ok bytes) :
    decodeMachineSaveStateEnvelope serializer bytes = .ok e ↔ e = .new e.state := by
  obtain ⟨payload, hpayload, hlt, rfl⟩ := encodeMachineSaveStateEnvelope_eq_ok.mp h
  rw [decodeMachineSaveStateEnvelope_eq_ok]
  constructor
  · rintro ⟨_, -, -, he⟩
    exact he
  · intro he
    have hversion : e.backendMetadata.formatVersion = currentMachineSaveStateFormatVersion := by
      rw [he]
      rfl
    refine ⟨payload, decodes_readMachineSaveState.mpr ⟨_, ?_, hlt, by rw [hversion]⟩,
      hserializer _ _ hpayload, he⟩
    exact decodes_encodeMachineSaveStateMetadata e.stateMetadata

/-- A prefix that reaches past the version has the same version. -/
theorem version_of_prefix {v v' : U16} {word word' payload payload' : List U8}
    (h : machineSaveStateWord v word payload <+: machineSaveStateWord v' word' payload') :
    v = v' := by
  simp only [machineSaveStateWord, List.append_assoc] at h
  obtain ⟨rest, hrest⟩ := (List.prefix_append_right_inj machineSaveStateMagic).mp h
  rw [List.append_assoc] at hrest
  have hword : writeU16 v = writeU16 v' := List.append_inj_left hrest
    (by rw [writeU16, writeU16, Wire.length_leBytes, Wire.length_leBytes])
  exact (decodes_readU16.mpr rfl : readU16.Decodes (writeU16 v) v).unique (decodes_readU16.mpr hword)

/-- No strict prefix of a file is a file. -/
theorem prefix_rejected {e : MachineSaveStateEnvelope γ} {bytes : List U8}
    (h : encodeMachineSaveStateEnvelope serializer e = .ok bytes) {p : List U8} (hp : p <+: bytes)
    (hne : p ≠ bytes) : ∃ error, decodeMachineSaveStateEnvelope serializer p = .error error := by
  cases hdec : decodeMachineSaveStateEnvelope serializer p with
  | error err => exact ⟨err, rfl⟩
  | ok e' =>
      exfalso
      obtain ⟨payload, -, hlt, rfl⟩ := encodeMachineSaveStateEnvelope_eq_ok.mp h
      obtain ⟨payload', hread, -, -⟩ := decodeMachineSaveStateEnvelope_eq_ok.mp hdec
      obtain ⟨word, -, -, hword⟩ := decodes_readMachineSaveState.mp hread
      have hversion : currentMachineSaveStateFormatVersion = e.backendMetadata.formatVersion :=
        version_of_prefix (hword ▸ hp)
      rw [← hversion] at hp hne
      have hwhole : readMachineSaveState.Decodes _ (e.stateMetadata, payload) :=
        decodes_readMachineSaveState.mpr
          ⟨_, decodes_encodeMachineSaveStateMetadata e.stateMetadata, hlt, rfl⟩
      exact hne (hread.prefix_free hwhole hp)

/-! ## The codec -/

/-- The metadata come back, with all of their bytes consumed and nothing else; what is accepted
is written back as it was, but for tag zero of the original machine.  If the serializer's
payloads come back, an envelope comes back exactly when it is of the current version and carries
the metadata of its own state, as every new one does; and no strict prefix of one is accepted. -/
theorem machineSaveState_codec (hserializer : serializer.RoundTrips) :
    (∀ metadata offset rest,
      decodeMachineSaveStateMetadata.run ⟨offset, encodeMachineSaveStateMetadata metadata ++ rest⟩ =
        .ok (metadata, ⟨offset + (encodeMachineSaveStateMetadata metadata).length, rest⟩)) ∧
    (∀ bytes metadata offset, decodeMachineSaveStateMetadata.run ⟨0, bytes⟩ =
        .ok (metadata, ⟨offset, []⟩) →
      ∃ tag forced, ConsoleModelTag metadata.consoleModel tag ∧
        Option.Rel ConsoleModelTag metadata.forcedConsoleModel forced ∧
        bytes = metadataWord tag forced metadata ∧
        (tag ≠ 0 → forced ≠ some 0 → bytes = encodeMachineSaveStateMetadata metadata)) ∧
    (∀ e bytes, encodeMachineSaveStateEnvelope serializer e = .ok bytes →
      (decodeMachineSaveStateEnvelope serializer bytes = .ok e ↔ e = .new e.state) ∧
      ∀ p, p <+: bytes → p ≠ bytes →
        ∃ error, decodeMachineSaveStateEnvelope serializer p = .error error) := by
  refine ⟨fun metadata => decodes_encodeMachineSaveStateMetadata metadata,
    fun bytes metadata offset h => ?_, fun e bytes h => ⟨decode_encode_iff hserializer h,
      fun p hp hne => prefix_rejected h hp hne⟩⟩
  obtain ⟨w, hw, -, hdec⟩ := run_eq_ok.mp h
  dsimp only at hw
  rw [List.append_nil] at hw
  obtain ⟨tag, forced, htag, hforced, rfl⟩ := decodes_decodeMachineSaveStateMetadata.mp hdec
  exact ⟨tag, forced, htag, hforced, hw, fun hzero hzero' =>
    hw.trans (encode_of_decodes htag hforced hzero hzero')⟩

/-- The metadata of a DMG that has just been switched on, without a cartridge. -/
def emptySlotMetadata : MachineSaveStateMetadata where
  consoleModel := .gameBoy
  operatingMode := .dmg
  revision := .dmgCpuC
  hostPlatform := .handheld
  sgbProfile := none
  startupMode := .skipBoot
  compatibility :=
    { executionMode := .strict, validationPolicy := .strict, heuristicPolicy := .disabled
      overridePolicy :=
        { forcedConsoleModel := none, forcedOperatingMode := none, forcedHostPlatform := none
          forcedStartupMode := none }
      diagnosticPolicy := .standard }
  nextTCycle := 0
  cartridge := { state := .empty, romFingerprint := none }
  boot := { startupMode := .skipBoot, bootRomMapped := false, bootRomFingerprint := none }

/-- Tag zero is read as the original machine and written back as tag one; the tag of the
operating mode is the same in both. -/
theorem machineSaveState_codec_legacyModel :
    let bytes := metadataWord 0 none emptySlotMetadata
    decodeMachineSaveStateMetadata.run ⟨0, bytes⟩ =
      .ok (emptySlotMetadata, ⟨bytes.length, []⟩) ∧
    encodeMachineSaveStateMetadata emptySlotMetadata ≠ bytes ∧
    (encodeMachineSaveStateMetadata emptySlotMetadata)[0]? = some 1 ∧ bytes[0]? = some 0 ∧
    (encodeMachineSaveStateMetadata emptySlotMetadata).tail = bytes.tail := by
  refine ⟨?_, by decide, rfl, rfl, rfl⟩
  have hdec : decodeMachineSaveStateMetadata.Decodes (metadataWord 0 none emptySlotMetadata)
      emptySlotMetadata :=
    decodes_decodeMachineSaveStateMetadata.mpr ⟨0, none, .inr ⟨rfl, rfl⟩, .none, rfl⟩
  have hrun := hdec 0 []
  rw [List.append_nil, Nat.zero_add] at hrun
  exact hrun

/-- A serializer that writes what a state says of itself, and has nothing else to write. -/
def metadataSerializer : StateSerializer Unit where
  intoWriter state := .ok (encodeMachineSaveStateMetadata state.metadata)
  fromReader bytes :=
    match decodeMachineSaveStateMetadata.run ⟨0, bytes⟩ with
    | .ok (metadata, _) => .ok { metadata, core := () }
    | .error _ => .error "metadata"

theorem metadataSerializer_roundTrips : metadataSerializer.RoundTrips := by
  rintro ⟨metadata, ⟨⟩⟩ bytes h
  obtain rfl := Except.ok.inj h
  have hrun := decodes_encodeMachineSaveStateMetadata metadata 0 []
  rw [List.append_nil] at hrun
  simp only [metadataSerializer, hrun]

/-- The file of that DMG comes back, and the empty one is not a file. -/
theorem machineSaveState_codec_emptySlot :
    ∃ bytes, encodeMachineSaveStateEnvelope metadataSerializer (.new ⟨emptySlotMetadata, ()⟩) =
        .ok bytes ∧
      decodeMachineSaveStateEnvelope metadataSerializer bytes =
        .ok (.new ⟨emptySlotMetadata, ()⟩) ∧
      ∃ error, decodeMachineSaveStateEnvelope metadataSerializer [] = .error error := by
  have hencode : encodeMachineSaveStateEnvelope metadataSerializer (.new ⟨emptySlotMetadata, ()⟩) =
      .ok (machineSaveStateWord currentMachineSaveStateFormatVersion
        (encodeMachineSaveStateMetadata emptySlotMetadata)
        (encodeMachineSaveStateMetadata emptySlotMetadata)) :=
    encodeMachineSaveStateEnvelope_eq_ok.mpr ⟨_, rfl, by decide, rfl⟩
  obtain ⟨-, -, henvelope⟩ := machineSaveState_codec metadataSerializer_roundTrips
  obtain ⟨hback, hprefix⟩ := henvelope _ _ hencode
  exact ⟨_, hencode, hback.mpr rfl, hprefix [] List.nil_prefix (by decide)⟩

end Envelope

end GbCycle
