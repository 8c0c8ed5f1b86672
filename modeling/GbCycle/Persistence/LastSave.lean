import GbCycle.Persistence.Codec
import GbCycle.Persistence.FilesystemStore

/-!
# The last save is the one that is loaded

Replacing a file changes that file and removes its temporary file and its backup; no save
file of any key is one of those.  So a save touches the files of its key alone, and what it
leaves there is `Stored`: the image or the envelope of its state, in the file that the policy
will read.  Every later save under another key keeps this, and a load returns the state.
-/

namespace GbCycle

/-! ## Replacing a file -/

namespace FileMap

variable (files : FileMap) (path p : SavePath) (bytes : List U8)

@[simp] theorem create_read :
    (files.create path bytes).read p = if p = path then some bytes else files.read p :=
  Function.update_apply ..

@[simp] theorem remove_read :
    (files.remove path).read p = if p = path then none else files.read p :=
  Function.update_apply ..

@[simp] theorem rename_read (target : SavePath) : (files.rename path target).read p =
    if p = path then none else if p = target then files.read path else files.read p := by
  show Function.update (Function.update files.read target (files.read path)) path none p = _
  rw [Function.update_apply, Function.update_apply]

end FileMap

theorem appendExtensionSuffix_append (root : SavePath) (name suffix : String) :
    appendExtensionSuffix (root ++ [name]) suffix = root ++ [name ++ suffix] := by
  simp [appendExtensionSuffix]

theorem appendExtensionSuffix_ne (path : SavePath) {suffix : String} (h : suffix ≠ "") :
    path ≠ appendExtensionSuffix path suffix := by
  rcases List.eq_nil_or_concat path with rfl | ⟨root, name, rfl⟩
  · simp [appendExtensionSuffix]
  · intro heq
    rw [List.concat_eq_append, appendExtensionSuffix_append] at heq
    have hname : name = name ++ suffix := by simpa using heq
    have hlength := congrArg String.length hname
    rw [String.length_append] at hlength
    exact h (String.length_eq_zero_iff.mp (by omega))

theorem appendExtensionSuffix_inj {path : SavePath} {suffix suffix' : String}
    (h : appendExtensionSuffix path suffix = appendExtensionSuffix path suffix') :
    suffix = suffix' := by
  simpa [appendExtensionSuffix] using h

/-- The new bytes are in place, the temporary file and the backup are gone, and every other
file is as it was. -/
theorem FileMap.writeSaveFileWithSafeReplace_read (files : FileMap) (path p : SavePath)
    (bytes : List U8) : (files.writeSaveFileWithSafeReplace path bytes).read p =
      if p = path then some bytes
      else if p = appendExtensionSuffix path ".tmp" ∨ p = appendExtensionSuffix path ".bak" then none
      else files.read p := by
  have htemp := appendExtensionSuffix_ne path (show ".tmp" ≠ "" by decide)
  have hbackup := appendExtensionSuffix_ne path (show ".bak" ≠ "" by decide)
  have hboth : appendExtensionSuffix path ".tmp" ≠ appendExtensionSuffix path ".bak" :=
    fun h => absurd (appendExtensionSuffix_inj h) (by decide)
  unfold writeSaveFileWithSafeReplace
  dsimp only
  generalize appendExtensionSuffix path ".tmp" = temp at htemp hboth ⊢
  generalize appendExtensionSuffix path ".bak" = backup at hbackup hboth ⊢
  have hcleared : ∀ q, (if files.contains backup then files.remove backup else files).read q =
      if q = backup then none else files.read q := by
    intro q
    by_cases hstale : files.contains backup = true
    · rw [if_pos hstale, remove_read]
    · rw [if_neg hstale]
      split
      · next hq => exact hq ▸ Option.not_isSome_iff_eq_none.mp hstale
      · rfl
  generalize (if files.contains backup then files.remove backup else files) = cleared at hcleared
  by_cases hexists : (cleared.create temp bytes).contains path = true
  · have hmoved : (((cleared.create temp bytes).rename path backup).rename temp path).contains
        backup = true := by
      simpa [contains, hboth.symm, hbackup.symm, htemp] using hexists
    simp only [hexists, if_true, hmoved, Bool.and_self, remove_read, rename_read, create_read,
      hcleared]
    split_ifs <;> simp_all
  · simp only [hexists, Bool.false_eq_true, if_false, Bool.false_and, rename_read, create_read,
      hcleared]
    split_ifs <;> simp_all

/-! ## The save files of the keys -/

namespace FilesystemCartridgeSaveStore

section Paths

variable {γ : Type} (s : FilesystemCartridgeSaveStore γ)

/-- The two files a save of the key can be in. -/
def IsSaveFile (key : CartridgeSaveKey) (p : SavePath) : Prop :=
  p = s.externalPathForKey key ∨ p = s.internalPathForKey key

theorem externalPathForKey_ne_internalPathForKey (key key' : CartridgeSaveKey) :
    s.externalPathForKey key ≠ s.internalPathForKey key' := by
  intro h
  have hpath : s.root ++ [_] = s.root ++ [_] := h
  have hname := congrArg String.toList (List.cons.inj (List.append_cancel_left hpath)).1
  have hlast := congrArg List.reverse hname
  cases hext : s.fileExtension <;>
    simp [hext, CartridgeSaveFileExtension.externalAsStr, CartridgeSaveFileExtension.asStr] at hlast

variable {s} {key key' : CartridgeSaveKey} {p path : SavePath}

theorem IsSaveFile.key_eq (h : s.IsSaveFile key p) (h' : s.IsSaveFile key' p) : key = key' := by
  have hkey : key.key = key'.key := by
    rcases h with rfl | rfl <;> rcases h' with h' | h'
    · simpa [externalPathForKey] using h'
    · exact absurd h' (externalPathForKey_ne_internalPathForKey s key key')
    · exact absurd h'.symm (externalPathForKey_ne_internalPathForKey s key' key)
    · simpa [internalPathForKey] using h'
  cases key
  cases key'
  cases hkey
  rfl

/-- A save file is neither the temporary file nor the backup of a save file. -/
theorem IsSaveFile.not_leftover (h : s.IsSaveFile key p) (hpath : s.IsSaveFile key' path) :
    ¬ (p = appendExtensionSuffix path ".tmp" ∨ p = appendExtensionSuffix path ".bak") := by
  have hlast : ∀ (name name' suffix : String) (ext : CartridgeSaveFileExtension),
      suffix = ".tmp" ∨ suffix = ".bak" →
      name ++ "." ++ ext.externalAsStr ≠ name' ++ suffix ∧
        name ++ "." ++ ext.asStr ≠ name' ++ suffix := by
    rintro name name' suffix ext (rfl | rfl) <;> constructor <;> intro heq <;>
      have hlast := congrArg List.reverse (congrArg String.toList heq) <;>
      cases ext <;>
      simp [CartridgeSaveFileExtension.externalAsStr, CartridgeSaveFileExtension.asStr] at hlast
  have hname : ∃ name', path = s.root ++ [name'] := by
    rcases hpath with rfl | rfl <;> exact ⟨_, rfl⟩
  obtain ⟨name', rfl⟩ := hname
  rw [appendExtensionSuffix_append, appendExtensionSuffix_append]
  rintro (hp | hp)
  · rcases h with rfl | rfl
    · exact (hlast _ name' ".tmp" s.fileExtension (.inl rfl)).1
        (List.cons.inj (List.append_cancel_left hp)).1
    · exact (hlast _ name' ".tmp" s.fileExtension (.inl rfl)).2
        (List.cons.inj (List.append_cancel_left hp)).1
  · rcases h with rfl | rfl
    · exact (hlast _ name' ".bak" s.fileExtension (.inr rfl)).1
        (List.cons.inj (List.append_cancel_left hp)).1
    · exact (hlast _ name' ".bak" s.fileExtension (.inr rfl)).2
        (List.cons.inj (List.append_cancel_left hp)).1

theorem IsSaveFile.read_write (h : s.IsSaveFile key p) (hpath : s.IsSaveFile key' path)
    (bytes : List U8) :
    (s.files.writeSaveFileWithSafeReplace path bytes).read p =
      if p = path then some bytes else s.files.read p := by
  rw [FileMap.writeSaveFileWithSafeReplace_read, if_neg (h.not_leftover hpath)]

end Paths

/-! ## One save -/

variable {γ : Type} [CartridgeSaveTimeSource γ] {s s' : FilesystemCartridgeSaveStore γ}
  {key key' : CartridgeSaveKey} {metadata metadata' : CartridgePersistenceMetadata}
  {state state' target : PersistentCartState}

/-- The save of the state is in the file that the policy reads. -/
inductive Stored (s : FilesystemCartridgeSaveStore γ) (key : CartridgeSaveKey)
    (metadata : CartridgePersistenceMetadata) (state : PersistentCartState) : Prop
  | external {bytes : List U8}
      (hpolicy : filesystemCartridgeSaveStoragePolicy metadata state = .externalPrimary ∨
        filesystemCartridgeSaveStoragePolicy metadata state = .dynamicMbc6 ∧
          s.files.read (s.internalPathForKey key) = none)
      (hencode : encodeExternalCartridgeSave metadata state s.currentUnixSeconds .mgba = .ok bytes)
      (hread : s.files.read (s.externalPathForKey key) = some bytes)
  | internal {bytes : List U8}
      (hpolicy : filesystemCartridgeSaveStoragePolicy metadata state ≠ .externalPrimary)
      (hencode : encodeCartridgeSaveEnvelope (saveEnvelope s.currentUnixSeconds metadata state) =
        .ok bytes)
      (hread : s.files.read (s.internalPathForKey key) = some bytes)

/-- A save replaces one of the two files of its key, or fails and replaces none. -/
theorem save_files (s : FilesystemCartridgeSaveStore γ) (key : CartridgeSaveKey)
    (metadata : CartridgePersistenceMetadata) (state : PersistentCartState) :
    (s.save key metadata state).2 = s ∨
      ∃ path bytes, s.IsSaveFile key path ∧
        (s.save key metadata state).2 =
          { s with files := s.files.writeSaveFileWithSafeReplace path bytes } := by
  have hinternal : ∀ now, (s.saveInternalAt key metadata state now).2 = s ∨
      ∃ path bytes, s.IsSaveFile key path ∧ (s.saveInternalAt key metadata state now).2 =
        { s with files := s.files.writeSaveFileWithSafeReplace path bytes } := by
    intro now
    rw [saveInternalAt]
    cases encodeCartridgeSaveEnvelope (saveEnvelope now metadata state) with
    | error error => exact .inl rfl
    | ok bytes => exact .inr ⟨_, bytes, .inr rfl, rfl⟩
  have hexternal : (s.saveExternalOrInternalFallback key metadata state).2 = s ∨
      ∃ path bytes, s.IsSaveFile key path ∧
        (s.saveExternalOrInternalFallback key metadata state).2 =
          { s with files := s.files.writeSaveFileWithSafeReplace path bytes } := by
    rw [saveExternalOrInternalFallback]
    cases encodeExternalCartridgeSave metadata state s.currentUnixSeconds .mgba with
    | ok bytes => exact .inr ⟨_, bytes, .inl rfl, rfl⟩
    | error error =>
        by_cases hfallback : error.allowsInternalFallback = true
        · simpa only [hfallback, if_true] using hinternal s.currentUnixSeconds
        · simp only [hfallback, Bool.false_eq_true, if_false]
          exact .inl trivial
  rw [save]
  cases filesystemCartridgeSaveStoragePolicy metadata state with
  | internalOnly => exact hinternal s.currentUnixSeconds
  | externalPrimary => exact hexternal
  | dynamicMbc6 =>
      by_cases hcontains : s.files.contains (s.internalPathForKey key) = true
      · simp only [hcontains, if_true]
        exact hinternal s.currentUnixSeconds
      · simp only [hcontains, Bool.false_eq_true, if_false]
        exact hexternal

/-- A state that the policy keeps external has an external form. -/
theorem hasExternalForm_of_externalPrimary (hstate : IsBackingStore metadata.profile state)
    (hpolicy : filesystemCartridgeSaveStoragePolicy metadata state = .externalPrimary) :
    HasExternalForm state := by
  obtain ⟨hasBattery, hasRtc, profile⟩ := metadata
  cases hstate <;> first | exact trivial | cases hpolicy

theorem policy_target (hstate : IsBackingStore metadata.profile state)
    (htarget : IsBackingStore metadata.profile target) (hkind : target.kindName = state.kindName) :
    filesystemCartridgeSaveStoragePolicy metadata target =
      filesystemCartridgeSaveStoragePolicy metadata state := by
  obtain ⟨hasBattery, hasRtc, profile⟩ := metadata
  cases hstate <;> cases htarget <;>
    first | rfl | exact absurd hkind (by simp [PersistentCartState.kindName])

theorem saveInternalAt_stored {w : FilesystemCartridgeSaveWrite}
    (hpolicy : filesystemCartridgeSaveStoragePolicy metadata state ≠ .externalPrimary)
    (h : s.saveInternalAt key metadata state s.currentUnixSeconds = (.ok w, s')) :
    s'.Stored key metadata state := by
  rw [saveInternalAt] at h
  cases hencode : encodeCartridgeSaveEnvelope
      (saveEnvelope s.currentUnixSeconds metadata state) with
  | error error =>
      rw [hencode] at h
      cases h
  | ok bytes =>
      rw [hencode] at h
      cases h
      refine .internal hpolicy hencode ?_
      exact (IsSaveFile.read_write (.inr rfl) (.inr rfl) bytes).trans (if_pos rfl)

theorem saveExternalOrInternalFallback_stored {w : FilesystemCartridgeSaveWrite}
    (hbattery : usesBatteryBackedHardwarePersistence metadata = true)
    (hstate : IsBackingStore metadata.profile state)
    (hpolicy : filesystemCartridgeSaveStoragePolicy metadata state = .externalPrimary ∨
      filesystemCartridgeSaveStoragePolicy metadata state = .dynamicMbc6 ∧
        s.files.read (s.internalPathForKey key) = none)
    (h : s.saveExternalOrInternalFallback key metadata state = (.ok w, s')) :
    s'.Stored key metadata state := by
  rw [saveExternalOrInternalFallback] at h
  cases hencode : encodeExternalCartridgeSave metadata state s.currentUnixSeconds .mgba with
  | ok bytes =>
      rw [hencode] at h
      cases h
      refine .external (hpolicy.imp_right fun hdynamic => ⟨hdynamic.1, ?_⟩) hencode
        ((IsSaveFile.read_write (.inl rfl) (.inl rfl) bytes).trans (if_pos rfl))
      refine (IsSaveFile.read_write (.inr rfl) (.inl rfl) bytes).trans ?_
      rw [if_neg (externalPathForKey_ne_internalPathForKey s key key).symm]
      exact hdynamic.2
  | error error =>
      rw [hencode] at h
      by_cases hfallback : error.allowsInternalFallback = true
      · simp only [hfallback, if_true] at h
        refine saveInternalAt_stored (fun hprimary => ?_) h
        obtain ⟨bytes, hbytes, -⟩ := import_encode hbattery hstate
          (hasExternalForm_of_externalPrimary hstate hprimary) s.currentUnixSeconds 0
        rw [hencode] at hbytes
        cases hbytes
      · simp only [hfallback, Bool.false_eq_true, if_false] at h
        cases h

/-- What a successful save leaves behind. -/
theorem save_stored {w : FilesystemCartridgeSaveWrite}
    (hbattery : usesBatteryBackedHardwarePersistence metadata = true)
    (hstate : IsBackingStore metadata.profile state)
    (h : s.save key metadata state = (.ok w, s')) : s'.Stored key metadata state := by
  rw [save] at h
  cases hpolicy : filesystemCartridgeSaveStoragePolicy metadata state with
  | internalOnly =>
      rw [hpolicy] at h
      exact saveInternalAt_stored (by rw [hpolicy]; decide) h
  | externalPrimary =>
      rw [hpolicy] at h
      exact saveExternalOrInternalFallback_stored hbattery hstate (.inl hpolicy) h
  | dynamicMbc6 =>
      rw [hpolicy] at h
      by_cases hcontains : s.files.contains (s.internalPathForKey key) = true
      · simp only [hcontains, if_true] at h
        exact saveInternalAt_stored (by rw [hpolicy]; decide) h
      · simp only [hcontains, Bool.false_eq_true, if_false] at h
        exact saveExternalOrInternalFallback_stored hbattery hstate
          (.inr ⟨hpolicy, Option.not_isSome_iff_eq_none.mp hcontains⟩) h

/-- A save under another key, successful or not, leaves it there. -/
theorem Stored.save_other (h : s.Stored key metadata state) (hkey : key' ≠ key) :
    ((s.save key' metadata' state').2).Stored key metadata state := by
  rcases save_files s key' metadata' state' with hsame | ⟨path, bytes, hpath, hsave⟩
  · rw [hsame]
    exact h
  · rw [hsave]
    have hread : ∀ p, s.IsSaveFile key p →
        (s.files.writeSaveFileWithSafeReplace path bytes).read p = s.files.read p := by
      intro p hp
      rw [hp.read_write hpath, if_neg]
      rintro rfl
      exact hkey (hpath.key_eq hp)
    cases h with
    | external hpolicy hencode hfile =>
        refine .external (hpolicy.imp_right fun hdynamic => ⟨hdynamic.1, ?_⟩) hencode
          ((hread _ (.inl rfl)).trans hfile)
        exact (hread _ (.inr rfl)).trans hdynamic.2
    | internal hpolicy hencode hfile =>
        exact .internal hpolicy hencode ((hread _ (.inr rfl)).trans hfile)

/-! ## Loading it -/

theorem decode_saveEnvelope {now : BitVec 64} {bytes : List U8}
    (h : encodeCartridgeSaveEnvelope (saveEnvelope now metadata state) = .ok bytes) :
    decodeCartridgeSaveEnvelope bytes = .ok (saveEnvelope now metadata state) := by
  obtain ⟨head, hhead, hbytes⟩ := encodeCartridgeSaveEnvelope_eq_ok.mp h
  exact decodeCartridgeSaveEnvelope_eq_ok.mpr
    (decodes_readCartridgeSaveEnvelope.mpr ⟨rfl, head, 0, 0, 0, hhead, hbytes⟩)

theorem applyElapsed_zero (state : PersistentCartState)
    (hstate : IsBackingStore metadata.profile state) (hform : HasExternalForm state) :
    applyElapsedOffSessionSeconds 0 state = state := by
  generalize metadata.profile = profile at hstate
  cases hstate with
  | huc3 h => exact hform.elim
  | mbc3Rtc h => simp [applyElapsedOffSessionSeconds, Mbc3RtcPersistentState.applyElapsedSeconds]
  | mbc3RamRtc h hrtc =>
      simp [applyElapsedOffSessionSeconds, Mbc3RtcPersistentState.applyElapsedSeconds]
  | _ => rfl

/-- An image is not merged into a cartridge whose state has no external form. -/
theorem import_refuses (htarget : IsBackingStore metadata.profile target)
    (hform : ¬ HasExternalForm target) (bytes : List U8) (now : BitVec 64) :
    ∃ error, importExternalCartridgeSave metadata target bytes now = .error error := by
  obtain ⟨hasBattery, hasRtc, profile⟩ := metadata
  unfold importExternalCartridgeSave
  split
  · exact ⟨_, rfl⟩
  · cases htarget with
    | huc3 h => exact ⟨_, rfl⟩
    | @mbc6 ram flash hidden sector0Protected n flashLen hiddenLen h hflash hhidden =>
        have hused : (sector0Protected || hidden.any (· != 0xFF)) = true := by
          rw [Bool.or_eq_true]
          by_contra hneither
          simp only [not_or, Bool.not_eq_true] at hneither
          exact hform hneither
        dsimp only
        rw [decodeExternalMbc6Save, if_neg (not_not.mpr hhidden), hused, if_pos rfl]
        exact ⟨_, rfl⟩
    | _ => exact absurd trivial hform

/-- The load of a state for a cartridge of its kind.  An image cannot be merged into an MBC6
cartridge whose hidden flash is in use, and is refused there. -/
theorem load_of_stored (hbattery : usesBatteryBackedHardwarePersistence metadata = true)
    (hstate : IsBackingStore metadata.profile state)
    (htarget : IsBackingStore metadata.profile target) (hkind : target.kindName = state.kindName)
    (h : s.Stored key metadata state) :
    ((HasExternalForm state → HasExternalForm target) →
      ∃ format, s.load key metadata target = .ok (some
        ⟨saveEnvelope s.currentUnixSeconds metadata state,
          s.preferredPathForState key metadata state, format⟩)) ∧
    (∀ loaded, s.load key metadata target = .ok loaded →
      loaded.map (·.envelope) = some (saveEnvelope s.currentUnixSeconds metadata state)) := by
  have hpolicy := policy_target hstate htarget hkind
  cases h with
  | @external bytes hexternal hencode hread =>
      have hform : HasExternalForm state := by
        by_contra hnone
        obtain ⟨error, herror, -⟩ := encode_refuses hbattery hstate hnone s.currentUnixSeconds
        rw [hencode] at herror
        cases herror
      have hload : s.load key metadata target = s.loadExternal key metadata target ∧
          s.preferredPathForState key metadata state = s.externalPathForKey key := by
        rw [load, preferredPathForState, hpolicy]
        rcases hexternal with hprimary | ⟨hdynamic, hnone⟩
        · rw [hprimary]
          exact ⟨rfl, rfl⟩
        · rw [hdynamic]
          simp only [FileMap.contains, hnone, Option.isSome_none, Bool.false_eq_true, if_false,
            and_self]
      have himport : HasExternalForm target →
          importExternalCartridgeSave metadata target bytes s.currentUnixSeconds = .ok state := by
        intro htargetForm
        obtain ⟨bytes', hbytes', himport⟩ := import_encode hbattery hstate hform
          s.currentUnixSeconds s.currentUnixSeconds
        rw [hencode] at hbytes'
        cases hbytes'
        rw [importExternalCartridgeSave_target hstate htarget hkind hform htargetForm, himport,
          Nat.sub_self, applyElapsed_zero state hstate hform]
      rw [hload.1, hload.2, loadExternal, hread]
      dsimp only
      refine ⟨fun htargetForm => ⟨.external, ?_⟩, fun loaded hloaded => ?_⟩
      · rw [himport (htargetForm hform)]
      · by_cases htargetForm : HasExternalForm target
        · rw [himport htargetForm] at hloaded
          cases hloaded
          rfl
        · obtain ⟨error, herror⟩ := import_refuses htarget htargetForm bytes s.currentUnixSeconds
          rw [herror] at hloaded
          cases hloaded
  | internal hinternal hencode hread =>
      have hload : s.load key metadata target = s.loadInternal key ∧
          s.preferredPathForState key metadata state = s.internalPathForKey key := by
        rw [load, preferredPathForState, hpolicy]
        cases hcase : filesystemCartridgeSaveStoragePolicy metadata state with
        | externalPrimary => exact absurd hcase hinternal
        | internalOnly => exact ⟨rfl, rfl⟩
        | dynamicMbc6 =>
            simp only [FileMap.contains, hread, Option.isSome_some, if_true, and_self]
      rw [hload.1, hload.2, loadInternal, hread]
      dsimp only
      rw [decode_saveEnvelope hencode]
      refine ⟨fun _ => ⟨.internalEnvelope, rfl⟩, fun loaded hloaded => ?_⟩
      cases hloaded
      rfl

/-! ## Every run -/

/-- One call of `save`. -/
structure CartridgeSave where
  key : CartridgeSaveKey
  metadata : CartridgePersistenceMetadata
  state : PersistentCartState

/-- The store after saves that all succeed. -/
def saveAll (s : FilesystemCartridgeSaveStore γ) :
    List CartridgeSave → Except FilesystemCartridgeSaveError (FilesystemCartridgeSaveStore γ)
  | [] => .ok s
  | save :: saves =>
      match s.save save.key save.metadata save.state with
      | (.error error, _) => .error error
      | (.ok _, s) => s.saveAll saves

theorem saveAll_cons {save : CartridgeSave} {saves : List CartridgeSave}
    (h : s.saveAll (save :: saves) = .ok s') :
    ∃ w s₁, s.save save.key save.metadata save.state = (.ok w, s₁) ∧ s₁.saveAll saves = .ok s' := by
  rw [saveAll] at h
  cases hsave : s.save save.key save.metadata save.state with
  | mk result s₁ =>
      rw [hsave] at h
      cases result with
      | error error => cases h
      | ok w => exact ⟨w, s₁, rfl, h⟩

theorem currentUnixSeconds_save (s : FilesystemCartridgeSaveStore γ) (key : CartridgeSaveKey)
    (metadata : CartridgePersistenceMetadata) (state : PersistentCartState) :
    (s.save key metadata state).2.currentUnixSeconds = s.currentUnixSeconds := by
  rcases save_files s key metadata state with hsame | ⟨path, bytes, -, hsave⟩
  · rw [hsame]
  · rw [hsave]
    rfl

theorem saveAll_append {saves saves' : List CartridgeSave} (h : s.saveAll (saves ++ saves') = .ok s') :
    ∃ s₁, s.saveAll saves = .ok s₁ ∧ s₁.saveAll saves' = .ok s' ∧
      s₁.currentUnixSeconds = s.currentUnixSeconds := by
  induction saves generalizing s with
  | nil => exact ⟨s, rfl, h, rfl⟩
  | cons save saves ih =>
      obtain ⟨w, s₁, hsave, hrest⟩ := saveAll_cons h
      obtain ⟨s₂, hrun, hrest, hclock⟩ := ih hrest
      refine ⟨s₂, ?_, hrest, ?_⟩
      · rw [saveAll, hsave]
        exact hrun
      · rw [hclock, ← currentUnixSeconds_save s save.key save.metadata save.state, hsave]

theorem Stored.saveAll_other {saves : List CartridgeSave} (h : s.Stored key metadata state)
    (hother : ∀ save ∈ saves, save.key ≠ key) (hrun : s.saveAll saves = .ok s') :
    s'.Stored key metadata state ∧ s'.currentUnixSeconds = s.currentUnixSeconds := by
  induction saves generalizing s with
  | nil =>
      cases hrun
      exact ⟨h, rfl⟩
  | cons save saves ih =>
      obtain ⟨w, s₁, hsave, hrest⟩ := saveAll_cons hrun
      have hstored : s₁.Stored key metadata state := by
        have hkept : (s.save save.key save.metadata save.state).2.Stored key metadata state :=
          h.save_other (hother save List.mem_cons_self)
        rwa [hsave] at hkept
      obtain ⟨hfinal, hclock⟩ := ih hstored
        (fun other hmem => hother other (List.mem_cons_of_mem _ hmem)) hrest
      refine ⟨hfinal, ?_⟩
      rw [hclock, ← currentUnixSeconds_save s save.key save.metadata save.state, hsave]

/-- A load returns the last save under its key, whatever files there were at the start, in
which of the two forms it and the ones before it were written, and what was saved under other
keys since.  A cartridge with no room for an image refuses it; no load returns another state. -/
theorem load_returnsLastSave {before after : List CartridgeSave} {last : CartridgeSave}
    (hrun : s.saveAll (before ++ last :: after) = .ok s')
    (hafter : ∀ save ∈ after, save.key ≠ last.key)
    (hbattery : usesBatteryBackedHardwarePersistence last.metadata = true)
    (hstate : IsBackingStore last.metadata.profile last.state)
    (htarget : IsBackingStore last.metadata.profile target)
    (hkind : target.kindName = last.state.kindName) :
    ((HasExternalForm last.state → HasExternalForm target) →
      ∃ format, s'.load last.key last.metadata target = .ok (some
        ⟨saveEnvelope s.currentUnixSeconds last.metadata last.state,
          s'.preferredPathForState last.key last.metadata last.state, format⟩)) ∧
    (∀ loaded, s'.load last.key last.metadata target = .ok loaded →
      loaded.map (·.envelope) =
        some (saveEnvelope s.currentUnixSeconds last.metadata last.state)) := by
  obtain ⟨s₁, -, hrun, hclock₁⟩ := saveAll_append hrun
  obtain ⟨w, s₂, hsave, hrun⟩ := saveAll_cons hrun
  have hclock₂ : s₂.currentUnixSeconds = s₁.currentUnixSeconds := by
    rw [← currentUnixSeconds_save s₁ last.key last.metadata last.state, hsave]
  obtain ⟨hstored, hclock₃⟩ := (save_stored hbattery hstate hsave).saveAll_other hafter hrun
  rw [← hclock₁, ← hclock₂, ← hclock₃]
  exact load_of_stored hbattery hstate htarget hkind hstored

/-- A small MBC6 cartridge, with its hidden flash blank or in use. -/
def smallMbc6 (hidden : U8) : CartridgeSave where
  key := { key := "mbc6", nonempty := by decide, portable := List.all_eq_true.mp rfl }
  metadata :=
    { hasBattery := true, hasRtc := false
      profile := .persistentRamAndFlash (.linear 2) 4 2 }
  state := .mbc6 [0x10, 0x20] [0xFF, 0x7F, 0x3F, 0x1F] [hidden, 0xFF] false

/-- The saves change from the image to the envelope, and the last one stays there. -/
theorem load_returnsLastSave_mbc6 :
    let s : FilesystemCartridgeSaveStore FixedCartridgeSaveTimeSource :=
      { files := ⟨fun _ => none⟩, root := ["saves"], clock := ⟨40⟩, fileExtension := .p1 }
    ∃ s', s.saveAll ([smallMbc6 0xFF, smallMbc6 0xFE] ++ smallMbc6 0xFF :: []) = .ok s' ∧
      ∃ load, s'.load (smallMbc6 0xFF).key (smallMbc6 0xFF).metadata (smallMbc6 0xFF).state =
        .ok (some load) ∧ load.envelope.persistentState = (smallMbc6 0xFF).state := by
  intro s
  have hok : ∀ {ε α : Type} (result : Except ε α), result.isOk = true → ∃ a, result = .ok a := by
    rintro ε α (error | a) h
    · cases h
    · exact ⟨a, rfl⟩
  obtain ⟨s', hrun⟩ := hok
    (s.saveAll ([smallMbc6 0xFF, smallMbc6 0xFE] ++ smallMbc6 0xFF :: [])) (by decide +kernel)
  have hstore : IsBackingStore (smallMbc6 0xFF).metadata.profile (smallMbc6 0xFF).state :=
    .mbc6 rfl rfl rfl
  have hafter : ∀ save ∈ ([] : List CartridgeSave), save.key ≠ (smallMbc6 0xFF).key :=
    fun save hmem => absurd hmem List.not_mem_nil
  obtain ⟨format, hload⟩ := (load_returnsLastSave hrun hafter rfl hstore hstore rfl).1 id
  exact ⟨s', hrun, _, hload, rfl⟩

end FilesystemCartridgeSaveStore

end GbCycle
