import GbCycle.Bus.Access

/-!
# Laws of the accesses

The shortcut of a timed access gives what the resolution gives.  Every access returns: what the
source declares unreachable is never reached, and no index is out of range.  Only the CPU is held
back, except from writing the unusable area, and an access that is held back changes nothing.
-/

namespace GbCycle

/-! ## Regions -/

namespace BusRegion

/-- The addresses of a region, both ends included.  The overlay has none of its own. -/
def range : BusRegion → Nat × Nat
  | .bootRom => (1, 0)
  | .cartridgeRomBank0 => (0x0000, 0x3FFF)
  | .cartridgeRomBankN => (0x4000, 0x7FFF)
  | .vram => (0x8000, 0x9FFF)
  | .cartridgeExternal => (0xA000, 0xBFFF)
  | .wramBank0 => (0xC000, 0xCFFF)
  | .wramBankN => (0xD000, 0xDFFF)
  | .echoRam => (0xE000, 0xFDFF)
  | .oam => (0xFE00, 0xFE9F)
  | .unusable => (0xFEA0, 0xFEFF)
  | .mmio => (0xFF00, 0xFF7F)
  | .hram => (0xFF80, 0xFFFE)
  | .interruptEnable => (0xFFFF, 0xFFFF)

theorem range_disjoint {r r' : BusRegion} {n : Nat} (h : r.range.1 ≤ n ∧ n ≤ r.range.2)
    (h' : r'.range.1 ≤ n ∧ n ≤ r'.range.2) : r = r' := by
  cases r <;> cases r' <;> first | rfl | (simp only [range] at h h'; omega)

end BusRegion

/-- An address lies in its region, at its offset. -/
theorem decodeAddress_mem (a : U16) :
    (decodeAddress a).region.range.1 ≤ a.toNat ∧ a.toNat ≤ (decodeAddress a).region.range.2 ∧
      (decodeAddress a).regionOffset.toNat = a.toNat - (decodeAddress a).region.range.1 := by
  have ha := a.isLt
  unfold decodeAddress
  repeat' split
  all_goals
    simp only [BusRegion.range]
    refine ⟨?_, ?_, ?_⟩
    all_goals bv_omega

/-- The regions are the only ones to hold their addresses. -/
theorem decodeAddress_region_iff {a : U16} {r : BusRegion} :
    (decodeAddress a).region = r ↔ r.range.1 ≤ a.toNat ∧ a.toNat ≤ r.range.2 := by
  obtain ⟨hfirst, hlast, -⟩ := decodeAddress_mem a
  constructor
  · rintro rfl
    exact ⟨hfirst, hlast⟩
  · intro h
    exact BusRegion.range_disjoint ⟨hfirst, hlast⟩ h

/-! ## Dispositions -/

/-- The disposition that holds an access back. -/
def BusAccessDisposition.HoldsBack (kind : BusAccessKind) (d : BusAccessDisposition) : Prop :=
  ∃ reason, d = blockAccess kind reason

section Policies

variable {requester : BusRequester} {kind : BusAccessKind} {target : BusAddressInfo}
  {state : BusArbitrationState} {d : BusAccessDisposition}

theorem evaluateGlobalDmaPolicy_some
    (h : evaluateGlobalDmaPolicy requester kind target state = some d) :
    requester = .cpu ∧ d.HoldsBack kind := by
  unfold evaluateGlobalDmaPolicy at h
  split at h
  · cases h
  · rename_i hrequester
    refine ⟨not_not.mp hrequester, ?_⟩
    split at h
    · cases h
    all_goals
      split at h <;> first
        | exact ⟨_, (Option.some.inj h).symm⟩
        | cases h

theorem OamDomain.evaluateAccess_some
    (h : OamDomain.evaluateAccess requester kind state.ppu state.dma = some d) :
    requester = .cpu ∧ d.HoldsBack kind := by
  unfold OamDomain.evaluateAccess at h
  split at h
  · cases h
  · rename_i hrequester
    refine ⟨not_not.mp hrequester, ?_⟩
    repeat' split at h
    all_goals first
      | exact ⟨_, (Option.some.inj h).symm⟩
      | cases h

theorem VramDomain.evaluateAccess_some
    (h : VramDomain.evaluateAccess requester kind state.ppu state.dma = some d) :
    requester = .cpu ∧ d.HoldsBack kind := by
  unfold VramDomain.evaluateAccess at h
  split at h
  · cases h
  · rename_i hrequester
    refine ⟨not_not.mp hrequester, ?_⟩
    repeat' split at h
    all_goals first
      | exact ⟨_, (Option.some.inj h).symm⟩
      | cases h

theorem evaluateDomainPolicy_some
    (h : evaluateDomainPolicy requester kind target state = some d) :
    requester = .cpu ∧ d.HoldsBack kind := by
  unfold evaluateDomainPolicy at h
  split at h
  · exact VramDomain.evaluateAccess_some h
  · exact OamDomain.evaluateAccess_some h
  · cases h

theorem unusable_writesIgnored (consoleModel : ConsoleModel) (revision : HardwareRevision)
    (a : U16) :
    ((describeUnusableArea consoleModel revision a).map
      (·.runtimeFallbackWritesIgnored)).getD true = true := by
  unfold describeUnusableArea
  split
  · rfl
  · cases consoleModel <;> rfl

theorem evaluateUnusablePolicy_some {consoleModel : ConsoleModel} {revision : HardwareRevision}
    (h : evaluateUnusablePolicy (describeUnusableArea consoleModel revision target.address)
      requester kind target state = some d) :
    target.region = .unusable ∧ (requester = .cpu ∨ kind = .write) ∧ d.HoldsBack kind := by
  unfold evaluateUnusablePolicy at h
  split at h
  · cases h
  · rename_i hregion
    refine ⟨not_not.mp hregion, ?_⟩
    rw [unusable_writesIgnored, Bool.and_true] at h
    cases kind with
    | write =>
        rw [if_pos (by decide)] at h
        exact ⟨.inr rfl, _, (Option.some.inj h).symm⟩
    | read =>
        rw [if_neg (by decide)] at h
        by_cases hrequester : requester = .cpu
        · refine ⟨.inl hrequester, ?_⟩
          repeat' split at h
          all_goals first
            | exact ⟨_, (Option.some.inj h).symm⟩
            | cases h
        · simp only [hrequester, decide_false, Bool.false_and, Bool.false_eq_true,
            if_false] at h
          cases h

/-- An access is allowed or held back, and only the CPU is held back outside the unusable
area. -/
theorem evaluateAccessPolicy_cases (consoleModel : ConsoleModel) (revision : HardwareRevision)
    (requester : BusRequester) (kind : BusAccessKind) (target : BusAddressInfo)
    (state : BusArbitrationState) :
    let d := evaluateAccessPolicy (describeUnusableArea consoleModel revision target.address)
      requester kind target state
    d = .allowed ∨
      d.HoldsBack kind ∧ (requester = .cpu ∨ kind = .write ∧ target.region = .unusable) := by
  intro d
  show evaluateAccessPolicy _ _ _ _ _ = _ ∨ (evaluateAccessPolicy _ _ _ _ _).HoldsBack _ ∧ _
  unfold evaluateAccessPolicy
  split
  · rename_i hglobal
    obtain ⟨hrequester, hback⟩ := evaluateGlobalDmaPolicy_some hglobal
    exact .inr ⟨hback, .inl hrequester⟩
  · split
    · rename_i hdomain
      obtain ⟨hrequester, hback⟩ := evaluateDomainPolicy_some hdomain
      exact .inr ⟨hback, .inl hrequester⟩
    · split
      · rename_i hunusable
        obtain ⟨hregion, hwho, hback⟩ := evaluateUnusablePolicy_some hunusable
        exact .inr ⟨hback, hwho.imp_right fun hkind => ⟨hkind, hregion⟩⟩
      · exact .inl rfl

end Policies

/-! ## What is performed -/

namespace Bus

/-- Where an access that is performed goes, and nothing for one that is held back. -/
def performedTarget (b : Bus) (requester : BusRequester) (kind : BusAccessKind) (address : U16)
    (state : BusArbitrationState) : Option BusAddressInfo :=
  let nominalTarget := resolveNominalTarget kind address state
  match cpuDmaConflictSourceAddress requester address nominalTarget state with
  | some conflictSourceAddress => some (resolveNominalTarget kind conflictSourceAddress state)
  | none =>
      if evaluateAccessPolicy (b.unusableAreaAt nominalTarget) requester kind nominalTarget state =
          .allowed then some nominalTarget
      else none

variable {κ : Type} [CartridgePort κ] {π : Type} [PpuRegisters π]
variable (b : Bus) (requester : BusRequester) (kind : BusAccessKind) (address : U16)
  (state : BusArbitrationState) (cartridge : Option κ)

/-- The resolution allows the performed accesses, at their target, and holds back the others. -/
theorem resolveRequesterAccess_cases :
    let r := b.resolveRequesterAccess requester kind address state cartridge
    (r.disposition = .allowed ∧ b.performedTarget requester kind address state = some r.target) ∨
      (r.disposition.HoldsBack kind ∧ b.performedTarget requester kind address state = none) := by
  intro r
  have hr : r = b.resolveRequesterAccess requester kind address state cartridge := rfl
  unfold resolveRequesterAccess at hr
  unfold performedTarget
  dsimp only at hr ⊢
  cases hconflict : cpuDmaConflictSourceAddress requester address
      (resolveNominalTarget kind address state) state with
  | some source =>
      rw [hconflict] at hr
      rw [hr]
      exact .inl ⟨rfl, rfl⟩
  | none =>
      rw [hconflict] at hr
      rw [hr]
      rcases evaluateAccessPolicy_cases b.consoleModel b.revision requester kind
        (resolveNominalTarget kind address state) state with hallowed | ⟨hback, -⟩
      · exact .inl ⟨hallowed, if_pos hallowed⟩
      · refine .inr ⟨hback, if_neg ?_⟩
        intro hallowed
        obtain ⟨reason, hreason⟩ := hback
        rw [unusableAreaAt] at hallowed
        rw [hallowed] at hreason
        cases kind <;> cases hreason

variable {b requester kind address state}

theorem overlaysRead_le {bootRom : BootRomBusState} {a : U16}
    (h : bootRom.overlaysRead a = true) : a ≤ 0x08FF := by
  unfold BootRomBusState.overlaysRead at h
  simp only [Bool.or_eq_true, Bool.and_eq_true, decide_eq_true_eq] at h
  rcases h with ⟨-, hlow⟩ | ⟨-, hupper⟩
  · bv_omega
  · exact hupper

/-- The target is the address itself in the static map, or in the overlay for a read. -/
theorem performedTarget_valid {target : BusAddressInfo}
    (h : b.performedTarget requester kind address state = some target) :
    target = decodeAddress target.address ∨
      (kind = .read ∧ target.region = .bootRom ∧ target.address ≤ 0x08FF) := by
  have hnominal (a : U16) : resolveNominalTarget kind a state =
      decodeAddress (resolveNominalTarget kind a state).address ∨
      (kind = .read ∧ (resolveNominalTarget kind a state).region = .bootRom ∧
        (resolveNominalTarget kind a state).address ≤ 0x08FF) := by
    unfold resolveNominalTarget
    split
    · rename_i hoverlay
      rw [Bool.and_eq_true, decide_eq_true_eq] at hoverlay
      exact .inr ⟨hoverlay.1, rfl, overlaysRead_le hoverlay.2⟩
    · rw [decodeAddress_address]
      exact .inl rfl
  unfold performedTarget at h
  dsimp only at h
  split at h
  · rw [← Option.some.inj h]
    exact hnominal _
  · split at h
    · rw [← Option.some.inj h]
      exact hnominal _
    · cases h

/-- Nobody but the CPU is held back, except from writing the unusable area. -/
theorem performedTarget_of_ne_cpu (hrequester : requester ≠ .cpu)
    (hunusable : kind = .write → (decodeAddress address).region ≠ .unusable) :
    b.performedTarget requester kind address state =
      some (resolveNominalTarget kind address state) := by
  unfold performedTarget cpuDmaConflictSourceAddress
  dsimp only
  rw [if_pos hrequester]
  dsimp only
  rcases evaluateAccessPolicy_cases b.consoleModel b.revision requester kind
    (resolveNominalTarget kind address state) state with hallowed | ⟨-, hcpu | ⟨hwrite, hregion⟩⟩
  · exact if_pos hallowed
  · exact absurd hcpu hrequester
  · subst hwrite
    exact absurd hregion (hunusable rfl)

/-! ## One equation for each access -/

variable (b requester address state)

/-- A read dispatches on the disposition: performed at the target, or answered with `FF`. -/
theorem dispatch_read {α : Type} (perform : BusAddressInfo → Option α) (answer : U8 → Option α) :
    (let resolution := b.resolveRequesterAccess requester .read address state cartridge
     match resolution.disposition with
     | .allowed => perform resolution.target
     | .blockedRead value _ => answer value
     | .ignoredWrite _ => none) =
      match b.performedTarget requester .read address state with
      | some target => perform target
      | none => answer blockedReadValue := by
  dsimp only
  rcases b.resolveRequesterAccess_cases requester .read address state cartridge with
    ⟨hallowed, hperformed⟩ | ⟨⟨reason, hback⟩, hperformed⟩
  · rw [hallowed, hperformed]
  · rw [hback, hperformed]
    rfl

/-- A write dispatches on the disposition: performed at the target, or dropped. -/
theorem dispatch_write {α : Type} (perform : BusAddressInfo → Option α) (unchanged : α) :
    (let resolution := b.resolveRequesterAccess requester .write address state cartridge
     match resolution.disposition with
     | .allowed => perform resolution.target
     | .ignoredWrite _ => some unchanged
     | .blockedRead _ _ => none) =
      match b.performedTarget requester .write address state with
      | some target => perform target
      | none => some unchanged := by
  dsimp only
  rcases b.resolveRequesterAccess_cases requester .write address state cartridge with
    ⟨hallowed, hperformed⟩ | ⟨⟨reason, hback⟩, hperformed⟩
  · rw [hallowed, hperformed]
  · rw [hback, hperformed]
    rfl

theorem readWithContext_eq (io : BusIoView π) :
    b.readWithContext address requester state cartridge io =
      match b.performedTarget requester .read address state with
      | some target => b.performAllowedRead target cartridge io
      | none => some blockedReadValue :=
  b.dispatch_read requester address state cartridge (b.performAllowedRead · cartridge io) some

theorem writeWithContext_eq (value : U8) (io : BusIoView π) :
    b.writeWithContext address value requester state cartridge io =
      match b.performedTarget requester .write address state with
      | some target => b.performAllowedWrite target value cartridge io
      | none => some (b, cartridge, io) :=
  b.dispatch_write requester address state cartridge (b.performAllowedWrite · value cartridge io) _

theorem resolvedReadTimed_eq (tCycle : Nat) (io : BusIoView π) :
    b.resolvedReadTimed address requester state tCycle cartridge io =
      match b.performedTarget requester .read address state with
      | some target => b.performAllowedReadTimed target tCycle cartridge io
      | none => some (blockedReadValue, cartridge) :=
  b.dispatch_read requester address state cartridge
    (b.performAllowedReadTimed · tCycle cartridge io) fun value => some (value, cartridge)

theorem resolvedWriteTimed_eq (value : U8) (tCycle : Nat) (io : BusIoView π) :
    b.resolvedWriteTimed address value requester state tCycle cartridge io =
      match b.performedTarget requester .write address state with
      | some target => b.performAllowedWriteTimed target value tCycle cartridge io
      | none => some (b, cartridge, io) :=
  b.dispatch_write requester address state cartridge
    (b.performAllowedWriteTimed · value tCycle cartridge io) _

/-! ## The shortcut -/

section Shortcut

variable {b requester address state}

/-- Without a transfer on the bus the CPU reaches everything but the video memories and the
unusable area. -/
theorem performedTarget_of_unrestricted {target : BusAddressInfo}
    (hpolicy : state.dma.cpuAccessPolicy = .unrestricted)
    (htarget : resolveNominalTarget kind address state = target)
    (hregion : target.region ∉ [.vram, .oam, .unusable]) :
    b.performedTarget requester kind address state = some target := by
  obtain ⟨hvram, hoam, hunusable⟩ :
      target.region ≠ .vram ∧ target.region ≠ .oam ∧ target.region ≠ .unusable := by
    simpa using hregion
  have hconflict : cpuDmaConflictSourceAddress requester address target state = none := by
    unfold cpuDmaConflictSourceAddress
    rw [hpolicy]
    exact ite_self _
  have hglobal : evaluateGlobalDmaPolicy requester kind target state = none := by
    unfold evaluateGlobalDmaPolicy
    rw [hpolicy]
    exact ite_self _
  have hdomain : evaluateDomainPolicy requester kind target state = none := by
    unfold evaluateDomainPolicy
    split
    · contradiction
    · contradiction
    · rfl
  unfold performedTarget
  dsimp only
  rw [htarget, hconflict]
  dsimp only
  refine if_pos ?_
  unfold evaluateAccessPolicy
  rw [hglobal, hdomain, evaluateUnusablePolicy, if_pos hunusable]

/-- The nominal target of a CPU address that the overlay does not cover. -/
theorem resolveNominalTarget_of_not_overlaid
    (h : kind = .read → state.bootRom.overlaysRead address = false) :
    resolveNominalTarget kind address state = decodeAddress address := by
  unfold resolveNominalTarget
  refine if_neg ?_
  rw [Bool.and_eq_true, decide_eq_true_eq]
  rintro ⟨hread, hoverlay⟩
  rw [h hread] at hoverlay
  cases hoverlay

/-- The regions of the shortcut are those of the cartridge and of work RAM. -/
theorem region_of_hotAddress
    (h : address ≤ 0x7FFF ∨ (0xA000 ≤ address ∧ address ≤ 0xBFFF) ∨
      (0xC000 ≤ address ∧ address ≤ 0xFDFF)) :
    (decodeAddress address).region ∉ [.vram, .oam, .unusable] := by
  have hrange (r : BusRegion) (hr : r ∈ [.vram, .oam, .unusable])
      (heq : (decodeAddress address).region = r) : False := by
    obtain ⟨hfirst, hlast⟩ := decodeAddress_region_iff.mp heq
    rcases List.mem_cons.mp hr with rfl | hr
    · simp only [BusRegion.range] at hfirst hlast
      bv_omega
    · rcases List.mem_cons.mp hr with rfl | hr
      · simp only [BusRegion.range] at hfirst hlast
        bv_omega
      · rcases List.mem_cons.mp hr with rfl | hr
        · simp only [BusRegion.range] at hfirst hlast
          bv_omega
        · cases hr
  intro hmem
  exact hrange _ hmem rfl

theorem region_of_rom (h : address ≤ 0x7FFF) :
    (decodeAddress address).region = .cartridgeRomBank0 ∨
      (decodeAddress address).region = .cartridgeRomBankN := by
  by_cases hlow : address ≤ 0x3FFF
  · left
    rw [decodeAddress_region_iff]
    simp only [BusRegion.range]
    constructor <;> bv_omega
  · right
    rw [decodeAddress_region_iff]
    simp only [BusRegion.range]
    constructor <;> bv_omega

theorem region_of_external (hlow : 0xA000 ≤ address) (hhigh : address ≤ 0xBFFF) :
    (decodeAddress address).region = .cartridgeExternal := by
  rw [decodeAddress_region_iff]
  simp only [BusRegion.range]
  constructor <;> bv_omega

theorem region_of_wram (hlow : 0xC000 ≤ address) (hhigh : address ≤ 0xFDFF) :
    (decodeAddress address).region = .wramBank0 ∨ (decodeAddress address).region = .wramBankN ∨
      (decodeAddress address).region = .echoRam := by
  simp only [decodeAddress_region_iff, BusRegion.range]
  by_cases h0 : address ≤ 0xCFFF
  · left
    constructor <;> bv_omega
  · by_cases hN : address ≤ 0xDFFF
    · right; left
      constructor <;> bv_omega
    · right; right
      constructor <;> bv_omega

end Shortcut

/-- The shortcut of a timed read gives the value, and leaves the cartridge, as the resolution
does. -/
theorem readWithTCycleContext_eq (tCycle : Nat) (io : BusIoView π) :
    b.readWithTCycleContext address requester state tCycle cartridge io =
      b.resolvedReadTimed address requester state tCycle cartridge io := by
  unfold readWithTCycleContext
  cases hfast : b.tryReadTimedFastPath address requester state tCycle cartridge with
  | none => rfl
  | some result =>
      show result = _
      unfold tryReadTimedFastPath at hfast
      split at hfast
      · cases hfast
      · rename_i hplain
        obtain ⟨hrequester, hpolicy, hoverlay⟩ :
            requester = .cpu ∧ state.dma.cpuAccessPolicy = .unrestricted ∧
              state.bootRom.overlaysRead address = false := by
          simpa using hplain
        have hperformed (hhot : address ≤ 0x7FFF ∨ (0xA000 ≤ address ∧ address ≤ 0xBFFF) ∨
            (0xC000 ≤ address ∧ address ≤ 0xFDFF)) :=
          @performedTarget_of_unrestricted b requester .read address state _ hpolicy
            (resolveNominalTarget_of_not_overlaid fun _ => hoverlay) (region_of_hotAddress hhot)
        rw [resolvedReadTimed_eq]
        split at hfast
        · rename_i hrom
          rw [hperformed (.inl hrom), ← Option.some.inj hfast]
          dsimp only
          unfold performAllowedReadTimed readCartridgeTargetTimed
          rcases region_of_rom hrom with hregion | hregion
          all_goals
            rw [hregion, decodeAddress_address]
            cases cartridge <;> rfl
        · split at hfast
          · rename_i hexternal
            rw [hperformed (.inr (.inl hexternal)), ← Option.some.inj hfast]
            dsimp only
            unfold performAllowedReadTimed readCartridgeTargetTimed
            rw [region_of_external hexternal.1 hexternal.2, decodeAddress_address]
            cases cartridge <;> rfl
          · split at hfast
            · rename_i hwram
              rw [hperformed (.inr (.inr hwram)), ← Option.some.inj hfast]
              dsimp only
              unfold performAllowedReadTimed
              rcases region_of_wram hwram.1 hwram.2 with hregion | hregion | hregion
              all_goals rw [hregion, decodeAddress_address]
            · cases hfast

/-- The shortcut of a timed write does what the resolution does. -/
theorem writeWithTCycleContext_eq (value : U8) (tCycle : Nat) (io : BusIoView π) :
    b.writeWithTCycleContext address value requester state tCycle cartridge io =
      b.resolvedWriteTimed address value requester state tCycle cartridge io := by
  unfold writeWithTCycleContext
  cases hfast : b.tryWriteTimedFastPath address value requester state tCycle cartridge io with
  | none => rfl
  | some result =>
      show result = _
      unfold tryWriteTimedFastPath at hfast
      split at hfast
      · cases hfast
      · rename_i hplain
        obtain ⟨hrequester, hpolicy⟩ :
            requester = .cpu ∧ state.dma.cpuAccessPolicy = .unrestricted := by
          simpa using hplain
        have hperformed (hhot : address ≤ 0x7FFF ∨ (0xA000 ≤ address ∧ address ≤ 0xBFFF) ∨
            (0xC000 ≤ address ∧ address ≤ 0xFDFF)) :=
          @performedTarget_of_unrestricted b requester .write address state _ hpolicy
            (resolveNominalTarget_of_not_overlaid fun h => by cases h) (region_of_hotAddress hhot)
        rw [resolvedWriteTimed_eq]
        split at hfast
        · rename_i hcartridge
          have hhot : address ≤ 0x7FFF ∨ (0xA000 ≤ address ∧ address ≤ 0xBFFF) := by
            rcases hcartridge with hlow | ⟨-, hhigh⟩ | hexternal
            · exact .inl (by bv_omega)
            · exact .inl hhigh
            · exact .inr hexternal
          rw [hperformed (hhot.imp_right .inl), ← Option.some.inj hfast]
          dsimp only
          unfold performAllowedWriteTimed
          rcases hhot with hrom | hexternal
          · rcases region_of_rom hrom with hregion | hregion
            all_goals rw [hregion]
          · rw [region_of_external hexternal.1 hexternal.2]
        · split at hfast
          · rename_i hwram
            rw [hperformed (.inr (.inr hwram)), ← Option.some.inj hfast]
            dsimp only
            unfold performAllowedWriteTimed
            rcases region_of_wram hwram.1 hwram.2 with hregion | hregion | hregion
            all_goals rw [hregion, decodeAddress_address]
          · cases hfast

/-! ## Dispositions that are performed -/

/-- A read is never resolved as an ignored write, nor a write as a blocked read. -/
theorem resolveRequesterAccess_disposition (kind : BusAccessKind) :
    let disposition := (b.resolveRequesterAccess requester kind address state cartridge).disposition
    disposition = .allowed ∨
      match kind with
      | .read => ∃ value reason, disposition = .blockedRead value reason
      | .write => ∃ reason, disposition = .ignoredWrite reason := by
  intro disposition
  rcases b.resolveRequesterAccess_cases requester kind address state cartridge with
    ⟨hallowed, -⟩ | ⟨⟨reason, hback⟩, -⟩
  · exact .inl hallowed
  · right
    cases kind with
    | read => exact ⟨_, reason, hback⟩
    | write => exact ⟨reason, hback⟩

end Bus

end GbCycle
