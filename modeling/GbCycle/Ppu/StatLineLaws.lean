import GbCycle.Ppu.StatLine

/-!
# The stored STAT line

Whatever is written at whatever dot, the stored level of the STAT line is the computed one after
every tick but one.  The tick left out is the fourth after a CPU write has switched the LCD on:
with two T-cycles to go the line may rise early, and it is not computed again at the next tick.
-/

namespace GbCycle

namespace Ppu

variable (p : Ppu)

/-! ## What the computed line depends on -/

/-- The PPU with another stored line, other flags of its edges and another request. -/
def withLine (request : PendingRequest) (irqLine dot0 line153 : Bool) : Ppu :=
  { p with
    lcdStatRequest := request
    statState := { p.statState with
      irqLine
      dot0LycStatIrqEdgePending := dot0
      line153Lyc0StatIrqPretriggerPending := line153 } }

/-- The stored line is the computed one. -/
def Fresh : Prop := p.statState.irqLine = p.computeStatIrqLine false

@[simp] theorem computeStatIrqLine_withLine (request : PendingRequest)
    (irqLine dot0 line153 quirk : Bool) :
    (p.withLine request irqLine dot0 line153).computeStatIrqLine quirk =
      p.computeStatIrqLine quirk := rfl

@[simp] theorem ordinaryStatIrqLine_withLine (request : PendingRequest)
    (irqLine dot0 line153 : Bool) :
    (p.withLine request irqLine dot0 line153).ordinaryStatIrqLine = p.ordinaryStatIrqLine := rfl

/-- With the LCD off only the retained comparison counts, and the coming one for a moment. -/
theorem computeStatIrqLine_of_disabled (hlcd : p.lcdEnabled = false)
    (hblocks : p.statState.dmgStatWriteQuirkBlocksLine153Lyc0 = false)
    (hdelay : p.lcdEnablePendingDelayTCycles ≠ 2) :
    p.computeStatIrqLine false =
      (p.statInterruptEnable &&& statLycInterruptEnableBit != 0 &&
        p.statState.lcdDisabledLycCoincidence) := by
  have hrise : p.lcdEnablePendingLycRiseSource = false := by
    rw [lcdEnablePendingLycRiseSource, beq_eq_false_iff_ne.mpr hdelay]
    rfl
  have hblocked : p.dmgStatWriteQuirkBlocksLine153Lyc0StatSource = false := by
    rw [dmgStatWriteQuirkBlocksLine153Lyc0StatSource, dmgStatWriteQuirkBlocksLine153Lyc0, hblocks,
      Bool.and_false]
    rfl
  rw [computeStatIrqLine, ordinaryStatIrqLine, Bool.or_false]
  by_cases henable : p.statInterruptEnable = 0
  · rw [henable]
    rfl
  · rw [if_neg (by rw [beq_iff_eq]; exact henable), hlcd, coincidenceSource, hrise, hblocked,
      lycCoincidenceForIrqLine, hlcd]
    simp only [Bool.not_false, if_true, Bool.and_true, Bool.or_false]

/-! ## Refreshing the line -/

/-- The line rises when it is refreshed. -/
def rises : Bool := !p.statState.irqLine && p.computeStatIrqLine false

theorem refreshStatIrqLine_withLine :
    ∃ request irqLine dot0 line153, p.refreshStatIrqLine =
      p.withLine request irqLine dot0 line153 := by
  unfold refreshStatIrqLine
  split
  · exact ⟨_, _, _, _, rfl⟩
  · dsimp only
    split
    · exact ⟨_, _, _, _, rfl⟩
    · exact ⟨_, _, _, _, rfl⟩

theorem computeStatIrqLine_of_no_enables (h : p.statInterruptEnable = 0) :
    p.computeStatIrqLine false = false := by
  rw [computeStatIrqLine, ordinaryStatIrqLine, if_pos (by rw [h]; rfl)]
  rfl

/-- What a refresh makes of the line, of the request and of the flags of its edge. -/
theorem refreshStatIrqLine_spec :
    p.refreshStatIrqLine.statState.irqLine = p.computeStatIrqLine false ∧
    p.refreshStatIrqLine.lcdStatRequest.pending = (p.lcdStatRequest.pending || p.rises) ∧
    (p.refreshStatIrqLine.statState.dot0LycStatIrqEdgePending = true →
      p.rises = true ∨ p.statState.dot0LycStatIrqEdgePending = true) ∧
    (p.refreshStatIrqLine.statState.line153Lyc0StatIrqPretriggerPending = true →
      p.rises = true ∧ p.line153Lyc0StatIrqPretriggerSource = true ∨
        p.statState.line153Lyc0StatIrqPretriggerPending = true) := by
  unfold refreshStatIrqLine
  by_cases hidle : (p.statInterruptEnable == 0 && !p.statState.irqLine) = true
  · rw [if_pos hidle]
    rw [Bool.and_eq_true, beq_iff_eq, Bool.not_eq_true'] at hidle
    have hcompute := p.computeStatIrqLine_of_no_enables hidle.1
    refine ⟨hidle.2.trans hcompute.symm, ?_, .inr, .inr⟩
    rw [rises, hcompute, Bool.and_false, Bool.or_false]
  · rw [if_neg hidle]
    refine ⟨rfl, ?_, ?_, ?_⟩
    · show (if p.rises = true then p.queueLcdStatRequest else p).lcdStatRequest.pending = _
      cases p.rises with
      | true => exact (Bool.or_true _).symm
      | false => exact (Bool.or_false _).symm
    · show (p.rises && _ || _) = true → _
      rw [Bool.or_eq_true, Bool.and_eq_true, Bool.and_eq_true]
      exact Or.imp And.left And.right
    · show (p.rises && _ || _) = true → _
      rw [Bool.or_eq_true, Bool.and_eq_true]
      exact id

theorem fresh_refreshStatIrqLine : p.refreshStatIrqLine.Fresh := by
  obtain ⟨request, irqLine, dot0, line153, heq⟩ := p.refreshStatIrqLine_withLine
  rw [Fresh, p.refreshStatIrqLine_spec.1, heq, computeStatIrqLine_withLine]

theorem fresh_setIrqLine : (p.setIrqLine (p.computeStatIrqLine false)).Fresh := rfl

/-! ## The stored line is fresh -/

/-- What holds while the LCD is off, between any two events. -/
structure OffState : Prop where
  unblocked : p.lcdEnabled = false → p.statState.dmgStatWriteQuirkBlocksLine153Lyc0 = false
  enabling : p.lcdEnabled = false → p.lcdEnablePendingDelayTCycles ≠ 0 →
    lcdSwitchedOn p.lcdc = true
  fresh : p.lcdEnabled = false → p.lcdEnablePendingDelayTCycles ≠ 1 →
    p.lcdEnablePendingDelayTCycles ≠ 2 → p.Fresh

variable {p}

theorem OffState.of_enabled (h : p.lcdEnabled = true) : p.OffState := by
  have hon : p.lcdEnabled ≠ false := by simp [h]
  exact ⟨fun hoff => absurd hoff hon, fun hoff => absurd hoff hon, fun hoff => absurd hoff hon⟩

/-- An event that changes none of what the line depends on with the LCD off. -/
theorem OffState.of_same {q : Ppu} (h : p.OffState) (hlcd : q.lcdEnabled = p.lcdEnabled)
    (hlcdc : q.lcdc = p.lcdc)
    (hdelay : q.lcdEnablePendingDelayTCycles = p.lcdEnablePendingDelayTCycles)
    (henable : q.statInterruptEnable = p.statInterruptEnable)
    (hblocks : q.statState.dmgStatWriteQuirkBlocksLine153Lyc0 =
      p.statState.dmgStatWriteQuirkBlocksLine153Lyc0)
    (hretained : q.statState.lcdDisabledLycCoincidence = p.statState.lcdDisabledLycCoincidence)
    (hline : q.statState.irqLine = p.statState.irqLine) : q.OffState := by
  refine ⟨?_, ?_, ?_⟩
  · rw [hlcd, hblocks]
    exact h.unblocked
  · rw [hlcd, hdelay, hlcdc]
    exact h.enabling
  · intro hoff hone htwo
    have hoff' : p.lcdEnabled = false := hlcd ▸ hoff
    have hfresh := h.fresh hoff' (hdelay ▸ hone) (hdelay ▸ htwo)
    have hblocked := h.unblocked hoff'
    rw [Fresh, computeStatIrqLine_of_disabled p hoff' hblocked (hdelay ▸ htwo)] at hfresh
    rw [Fresh, computeStatIrqLine_of_disabled q hoff (hblocks.trans hblocked) htwo,
      hline, hfresh, henable, hretained]

theorem OffState.of_refresh
    (hunblocked : p.lcdEnabled = false → p.statState.dmgStatWriteQuirkBlocksLine153Lyc0 = false)
    (henabling : p.lcdEnabled = false → p.lcdEnablePendingDelayTCycles ≠ 0 →
      lcdSwitchedOn p.lcdc = true) : p.refreshStatIrqLine.OffState := by
  obtain ⟨request, irqLine, dot0, line153, heq⟩ := p.refreshStatIrqLine_withLine
  have hfresh := p.fresh_refreshStatIrqLine
  rw [heq] at hfresh ⊢
  exact ⟨hunblocked, henabling, fun _ _ _ => hfresh⟩

/-! ### Writes -/

theorem statStored_withLine (p : Ppu) (value : U8) :
    ∃ request irqLine dot0 line153, p.statStored value =
      { p with statInterruptEnable := value &&& statWritableEnableMask }.withLine
        request irqLine dot0 line153 := by
  unfold statStored cancelObsoleteLine153Lyc0StatIrqPretrigger
  dsimp only
  by_cases hkeep : (!p.statState.line153Lyc0StatIrqPretriggerPending ||
      { p with statInterruptEnable := value &&& statWritableEnableMask
        }.line153Lyc0StatIrqPretriggerSource) = true
  · rw [if_pos hkeep]
    exact ⟨_, _, _, _, rfl⟩
  · rw [if_neg hkeep]
    exact ⟨_, _, _, _, rfl⟩

theorem writeStat_withLine (p : Ppu) (value : U8) :
    ∃ request dot0 line153, p.writeStat value =
      (p.statWritten value).withLine request
        ((p.statWritten value).ordinaryStatIrqLine ||
          (p.statStored value).statWriteQuirkActiveForWrite) dot0 line153 := by
  unfold writeStat
  dsimp only
  split
  · exact ⟨_, _, _, rfl⟩
  · exact ⟨_, _, _, rfl⟩

theorem statWritten_fields (p : Ppu) (value : U8) :
    (p.statWritten value).lcdEnabled = p.lcdEnabled ∧ (p.statWritten value).lcdc = p.lcdc ∧
    (p.statWritten value).lcdEnablePendingDelayTCycles = p.lcdEnablePendingDelayTCycles := by
  obtain ⟨request, irqLine, dot0, line153, heq⟩ := statStored_withLine p value
  unfold statWritten
  rw [heq]
  exact ⟨rfl, rfl, rfl⟩

theorem statWriteQuirkActiveForWrite_of_disabled (h : p.lcdEnabled = false) :
    p.statWriteQuirkActiveForWrite = false := by
  rw [statWriteQuirkActiveForWrite, h, if_pos (by rw [Bool.not_false, Bool.or_true])]

theorem OffState.writeStat (h : p.OffState) (value : U8) : (p.writeStat value).OffState := by
  obtain ⟨hlcd, hlcdc, hdelay⟩ := statWritten_fields p value
  obtain ⟨request, dot0, line153, heq⟩ := writeStat_withLine p value
  have hquirk : p.lcdEnabled = false →
      (p.statStored value).statWriteQuirkActiveForWrite = false := by
    intro hoff
    obtain ⟨request, irqLine, dot0, line153, heq⟩ := statStored_withLine p value
    apply statWriteQuirkActiveForWrite_of_disabled
    rw [heq]
    exact hoff
  rw [heq]
  refine ⟨?_, ?_, ?_⟩
  · intro hoff
    show ((p.statStored value).statWriteQuirkActiveForWrite && _ && _) = false
    rw [hquirk (hlcd ▸ hoff)]
    rfl
  · show (p.statWritten value).lcdEnabled = false →
      (p.statWritten value).lcdEnablePendingDelayTCycles ≠ 0 → _
    rw [hlcd, hdelay]
    exact fun hoff hne => (congrArg lcdSwitchedOn hlcdc).trans (h.enabling hoff hne)
  · intro hoff _ _
    rw [Fresh, computeStatIrqLine_withLine, computeStatIrqLine, hquirk (hlcd ▸ hoff)]
    rfl

theorem updateLycCompareLatch_eq (p : Ppu) :
    ∃ latch, p.updateLycCompareLatch =
      { p with statState := { p.statState with lycCompareLatch := latch } } := by
  unfold updateLycCompareLatch
  cases p.liveLyForLycCompare with
  | none => exact ⟨_, rfl⟩
  | some compareLy => exact ⟨_, rfl⟩

theorem cancelObsoleteDot0LycStatIrqEdge_withLine (p : Ppu) :
    ∃ request dot0, p.cancelObsoleteDot0LycStatIrqEdge.1 =
      p.withLine request p.statState.irqLine dot0
        p.statState.line153Lyc0StatIrqPretriggerPending := by
  unfold cancelObsoleteDot0LycStatIrqEdge
  split
  · exact ⟨_, _, rfl⟩
  · exact ⟨_, _, rfl⟩

theorem cancelObsoleteLine153Lyc0StatIrqPretrigger_withLine (p : Ppu) :
    ∃ request line153, p.cancelObsoleteLine153Lyc0StatIrqPretrigger.1 =
      p.withLine request p.statState.irqLine p.statState.dot0LycStatIrqEdgePending line153 := by
  unfold cancelObsoleteLine153Lyc0StatIrqPretrigger
  split
  · exact ⟨_, _, rfl⟩
  · exact ⟨_, _, rfl⟩

/-- What an `LYC` write with the LCD on finds before it refreshes the line. -/
def lycCompared (p : Ppu) (value : U8) : Ppu :=
  let (cancelled, obsolete) :=
    { p with lyc := value }.updateLycCompareLatch.cancelObsoleteDot0LycStatIrqEdge
  if obsolete then cancelled.setIrqLine false else cancelled

theorem writeLyc_of_enabled (h : p.lcdEnabled = true) (value : U8) :
    p.writeLyc value =
      (p.lycCompared value).refreshStatIrqLine.cancelObsoleteLine153Lyc0StatIrqPretrigger.1 :=
  if_pos h

theorem lycCompared_withLine (p : Ppu) (value : U8) :
    ∃ latch request irqLine dot0, p.lycCompared value =
      { p with
        lyc := value
        statState := { p.statState with lycCompareLatch := latch } }.withLine
          request irqLine dot0 p.statState.line153Lyc0StatIrqPretriggerPending := by
  obtain ⟨latch, hlatch⟩ := updateLycCompareLatch_eq { p with lyc := value }
  unfold lycCompared
  rw [hlatch]
  obtain ⟨request, dot0, hcancel⟩ := cancelObsoleteDot0LycStatIrqEdge_withLine
    { p with lyc := value, statState := { p.statState with lycCompareLatch := latch } }
  dsimp only at hcancel ⊢
  rw [hcancel]
  split
  · exact ⟨_, _, _, _, rfl⟩
  · exact ⟨_, _, _, _, rfl⟩

/-- After an `LYC` write with the LCD on the line is the one that the compared state has. -/
theorem writeLyc_withLine (hon : p.lcdEnabled = true) (value : U8) :
    ∃ request dot0 line153, p.writeLyc value = (p.lycCompared value).withLine request
      ((p.lycCompared value).computeStatIrqLine false) dot0 line153 := by
  obtain ⟨r, l, d, e, hrefresh⟩ := (p.lycCompared value).refreshStatIrqLine_withLine
  obtain ⟨request, line153, hcancel⟩ := cancelObsoleteLine153Lyc0StatIrqPretrigger_withLine
    (p.lycCompared value).refreshStatIrqLine
  have hline := (p.lycCompared value).refreshStatIrqLine_spec.1
  rw [writeLyc_of_enabled hon, hcancel, hline, hrefresh]
  exact ⟨request, _, line153, rfl⟩

theorem OffState.writeLyc (h : p.OffState) (value : U8) : (p.writeLyc value).OffState := by
  by_cases hlcd : p.lcdEnabled = true
  · apply OffState.of_enabled
    obtain ⟨request, dot0, line153, heq⟩ := writeLyc_withLine hlcd value
    obtain ⟨latch, r, l, d, hcompared⟩ := lycCompared_withLine p value
    rw [heq, hcompared]
    exact hlcd
  · unfold Ppu.writeLyc
    dsimp only
    rw [if_neg hlcd]
    exact h.of_same rfl rfl rfl rfl rfl rfl rfl

theorem OffState.writeLcdc (h : p.OffState) (value : U8) (source : PpuRegisterWriteSource)
    (mode0StartDot : Nat) : (p.writeLcdc value source mode0StartDot).OffState := by
  unfold Ppu.writeLcdc lcdcWritten
  dsimp only
  cases hon : p.lcdEnabled || p.lcdEnablePendingDelayTCycles != 0 with
  | true =>
      cases hvalue : lcdSwitchedOn value with
      | true =>
          apply OffState.of_refresh
          · intro hoff
            cases hoff
          · intro hoff
            cases hoff
      | false => exact .of_refresh (fun _ => rfl) (fun _ hne => absurd rfl hne)
  | false =>
      rw [Bool.or_eq_false_iff] at hon
      obtain ⟨hoff, hdelay⟩ := hon
      cases hvalue : lcdSwitchedOn value with
      | true =>
          cases source with
          | cpuMmioCommit => exact .of_refresh (fun _ => h.unblocked hoff) (fun _ _ => hvalue)
          | immediate =>
              apply OffState.of_refresh
              · intro hoff
                cases hoff
              · intro hoff
                cases hoff
      | false =>
          refine .of_refresh (fun _ => h.unblocked hoff) (fun _ hne => absurd ?_ hne)
          simpa using hdelay

/-! ### Ticks and runs -/

/-- The raster moves and leaves the line, its flags and its request alone. -/
theorem tickRaster_fields (p : Ppu) (latched mode0 : Nat) :
    (p.tickRaster latched mode0).lcdEnabled = p.lcdEnabled ∧
    (p.tickRaster latched mode0).lcdStatRequest = p.lcdStatRequest ∧
    (p.tickRaster latched mode0).statInterruptEnable = p.statInterruptEnable ∧
    (p.tickRaster latched mode0).lyc = p.lyc ∧
    (p.tickRaster latched mode0).statState.irqLine = p.statState.irqLine ∧
    (p.tickRaster latched mode0).statState.dot0LycStatIrqEdgePending =
      p.statState.dot0LycStatIrqEdgePending ∧
    (p.tickRaster latched mode0).statState.line153Lyc0StatIrqPretriggerPending =
      p.statState.line153Lyc0StatIrqPretriggerPending := by
  unfold tickRaster
  dsimp only
  obtain ⟨latch, hlatch⟩ := updateLycCompareLatch_eq
    { { p with pipelineMode0StartDot := latched }.advanceRaster mode0 with
      vBlankRequest :=
        if { p with pipelineMode0StartDot := latched }.currentAccessMode != .vBlank &&
            ({ p with pipelineMode0StartDot := latched }.advanceRaster mode0).currentAccessMode ==
              .vBlank then .queue false
        else ({ p with pipelineMode0StartDot := latched }.advanceRaster mode0).vBlankRequest }
  rw [hlatch]
  dsimp only
  unfold advanceRaster publishRaster
  dsimp only
  split
  · exact ⟨rfl, rfl, rfl, rfl, rfl, rfl, rfl⟩
  · exact ⟨rfl, rfl, rfl, rfl, rfl, rfl, rfl⟩

/-- A tick with the LCD on ends with a refresh. -/
theorem tickEnabled_fresh (p : Ppu) (latched mode0 : Nat) : (p.tickEnabled latched mode0).Fresh :=
  (p.tickRaster latched mode0).fresh_refreshStatIrqLine

theorem tickEnabled_lcdEnabled (p : Ppu) (latched mode0 : Nat) :
    (p.tickEnabled latched mode0).lcdEnabled = p.lcdEnabled := by
  obtain ⟨request, irqLine, dot0, line153, hrefresh⟩ :=
    (p.tickRaster latched mode0).refreshStatIrqLine_withLine
  rw [tickEnabled, hrefresh]
  exact (tickRaster_fields p latched mode0).1

/-- What a tick does with the LCD off. -/
theorem tick_of_disabled (h : p.OffState) (hoff : p.lcdEnabled = false) (latched mode0 : Nat) :
    (p.tick latched mode0 = p ∧ p.lcdEnablePendingDelayTCycles = 0) ∨
    (∃ q : Ppu, p.tick latched mode0 = q.refreshStatIrqLine ∧
      q.lcdEnabled = false ∧ q.lcdc = p.lcdc ∧ p.lcdEnablePendingDelayTCycles ≠ 0 ∧
      q.statState = p.statState) ∨
    (p.tick latched mode0 = { p with
      lcdEnablePendingDelayTCycles := p.lcdEnablePendingDelayTCycles - 1 } ∧
      p.lcdEnablePendingDelayTCycles ≠ 0 ∧ p.lcdEnablePendingDelayTCycles ≠ 1 ∧
      p.lcdEnablePendingDelayTCycles ≠ 3) ∨
    (p.tick latched mode0).lcdEnabled = true ∧ (p.tick latched mode0).Fresh := by
  rw [Ppu.tick, if_neg (by rw [hoff]; exact Bool.false_ne_true)]
  by_cases hzero : p.lcdEnablePendingDelayTCycles = 0
  · rw [if_pos hzero]
    exact .inl ⟨rfl, hzero⟩
  · rw [if_neg hzero]
    dsimp only
    by_cases htwo : p.lcdEnablePendingDelayTCycles - 1 = 2
    · rw [if_pos htwo]
      exact .inr (.inl ⟨_, rfl, hoff, rfl, hzero, rfl⟩)
    · rw [if_neg htwo]
      by_cases hone : p.lcdEnablePendingDelayTCycles - 1 = 0
      · rw [if_pos ⟨hone, h.enabling hoff hzero⟩]
        refine .inr (.inr (.inr ⟨?_, tickEnabled_fresh _ _ _⟩))
        rw [tickEnabled_lcdEnabled]
        obtain ⟨request, irqLine, dot0, line153, heq⟩ := refreshStatIrqLine_withLine
          { { p with
                lcdEnablePendingDelayTCycles := p.lcdEnablePendingDelayTCycles - 1
              }.enterLcdEnabledRestartState with pipelineMode0StartDot := latched }
        rw [heq]
        rfl
      · rw [if_neg (fun hboth => hone hboth.1)]
        exact .inr (.inr (.inl ⟨rfl, hzero, by omega, by omega⟩))

theorem OffState.tick (h : p.OffState) (latched mode0 : Nat) : (p.tick latched mode0).OffState := by
  cases hlcd : p.lcdEnabled with
  | true =>
      apply OffState.of_enabled
      rw [Ppu.tick, if_pos hlcd, tickEnabled_lcdEnabled, hlcd]
  | false =>
      rcases tick_of_disabled h hlcd latched mode0 with ⟨heq, -⟩ |
        ⟨q, heq, -, hlcdc, hdelay, hstat⟩ | ⟨heq, hzero, hone, hthree⟩ | ⟨hon, -⟩
      · rw [heq]
        exact h
      · rw [heq]
        apply OffState.of_refresh
        · intro _
          rw [hstat]
          exact h.unblocked hlcd
        · intro _ _
          rw [hlcdc]
          exact h.enabling hlcd hdelay
      · rw [heq]
        refine ⟨fun _ => h.unblocked hlcd, fun _ _ => h.enabling hlcd hzero, ?_⟩
        intro _ hone' htwo'
        have htwo : p.lcdEnablePendingDelayTCycles ≠ 2 := by
          intro htwo
          rw [htwo] at hone'
          exact hone' rfl
        have hfresh := h.fresh hlcd hone htwo
        rw [Fresh, computeStatIrqLine_of_disabled p hlcd (h.unblocked hlcd) htwo] at hfresh
        have hlater := computeStatIrqLine_of_disabled
          { p with lcdEnablePendingDelayTCycles := p.lcdEnablePendingDelayTCycles - 1 }
          hlcd (h.unblocked hlcd) htwo'
        rw [Fresh, hlater]
        exact hfresh
      · exact .of_enabled hon

theorem OffState.applyBootPhase (h : p.OffState) (phase : BootPhase) :
    (p.applyBootPhase phase).OffState := by
  cases phase with
  | dmgRealBootPowerOnLcdEnable =>
      unfold Ppu.applyBootPhase
      dsimp only
      split
      · exact h.of_same rfl rfl rfl rfl rfl rfl rfl
      · exact h
  | dmgRealBootHandoffStatIrq =>
      unfold Ppu.applyBootPhase
      dsimp only
      split
      · exact h.of_same rfl rfl rfl rfl rfl rfl rfl
      · exact h
  | dmgSkipBootStatIrqStartup =>
      unfold Ppu.applyBootPhase
      dsimp only
      split
      · next hcase =>
          rw [Bool.and_eq_true, Bool.and_eq_true] at hcase
          exact .of_enabled hcase.1.2
      · exact h
  | dmg0DirectBootHandoffStat =>
      unfold Ppu.applyBootPhase
      dsimp only
      split
      · next hcase =>
          rw [Bool.and_eq_true] at hcase
          exact .of_enabled hcase.2
      · exact h
  | cgbCustomBootEntry =>
      unfold Ppu.applyBootPhase
      dsimp only
      split
      · next hcase =>
          rw [Bool.and_eq_true] at hcase
          exact .of_enabled hcase.2
      · exact h
  | cgbBootHandoffRasterCorrection tCycles =>
      unfold Ppu.applyBootPhase
      dsimp only
      split
      · exact h
      · next hcase =>
          apply OffState.of_enabled
          show p.lcdEnabled = true
          by_contra hoff
          rw [Bool.not_eq_true] at hoff
          rw [hoff, Bool.not_false, Bool.or_true] at hcase
          exact hcase rfl

theorem OffState.step (h : p.OffState) (event : Event) : (p.step event).OffState := by
  cases event with
  | tick latched mode0 => exact h.tick latched mode0
  | writeLcdc value source mode0 => exact h.writeLcdc value source mode0
  | writeStat value => exact h.writeStat value
  | writeLyc value => exact h.writeLyc value
  | writeScx value mode0 => exact h.of_same rfl rfl rfl rfl rfl rfl rfl
  | other mode0 => exact h.of_same rfl rfl rfl rfl rfl rfl rfl
  | operatingMode mode => exact h.of_same rfl rfl rfl rfl rfl rfl rfl
  | bootPhase phase => exact h.applyBootPhase phase
  | takeRequests => exact h.of_same rfl rfl rfl rfl rfl rfl rfl

theorem OffState.run (h : p.OffState) (events : List Event) : (Ppu.run events p).OffState := by
  induction events generalizing p with
  | nil => exact h
  | cons event events ih => exact ih (h.step event)

theorem Started.offState (h : Started p) : p.OffState := by
  cases h with
  | new consoleModel => exact ⟨fun _ => rfl, fun _ hne => absurd rfl hne, fun _ _ _ => rfl⟩
  | startup consoleModel state mode0StartDot =>
      exact ⟨fun _ => rfl, fun _ hne => absurd rfl hne, fun _ _ _ => fresh_setIrqLine _⟩

/-- Only the tick that leaves one T-cycle of the delay of an LCD enable does not compute the line. -/
theorem OffState.fresh_tick (h : p.OffState) {latched mode0 : Nat}
    (hdelay : (p.tick latched mode0).lcdEnabled = true ∨
      (p.tick latched mode0).lcdEnablePendingDelayTCycles ≠ 1) :
    (p.tick latched mode0).Fresh := by
  cases hlcd : p.lcdEnabled with
  | true =>
      rw [Ppu.tick, if_pos hlcd]
      exact tickEnabled_fresh _ _ _
  | false =>
      rcases tick_of_disabled h hlcd latched mode0 with ⟨heq, hzero⟩ |
        ⟨q, heq, -⟩ | ⟨heq, hzero, hone, hthree⟩ | ⟨-, hfresh⟩
      · rw [heq]
        apply h.fresh hlcd <;> rw [hzero] <;> decide
      · rw [heq]
        exact q.fresh_refreshStatIrqLine
      · have hnext := (h.tick latched mode0).fresh
        rw [heq] at hnext hdelay ⊢
        rcases hdelay with hon | hdelay
        · exact absurd (hlcd.symm.trans hon) Bool.false_ne_true
        · refine hnext hlcd hdelay ?_
          intro htwo
          have htwo : p.lcdEnablePendingDelayTCycles - 1 = 2 := htwo
          omega
      · exact hfresh

/-- After every tick the stored line is the one computed afresh from the registers, the raster
and the phases, whatever has been written before: only the tick that leaves one T-cycle of the
delay of an LCD enable does not compute it. -/
theorem statLine_fresh (h : Started p) (events : List Event) (latched mode0 : Nat)
    (hdelay : ((run events p).tick latched mode0).lcdEnabled = true ∨
      ((run events p).tick latched mode0).lcdEnablePendingDelayTCycles ≠ 1) :
    ((run events p).tick latched mode0).statState.irqLine =
      ((run events p).tick latched mode0).computeStatIrqLine false :=
  (h.offState.run events).fresh_tick hdelay

theorem statLine_fresh_first_tick :
    ((run [.writeStat 0x40, .writeLcdc 0x80 .immediate 252] (new .gameBoy)).tick 252
        252).statState.irqLine =
      ((run [.writeStat 0x40, .writeLcdc 0x80 .immediate 252] (new .gameBoy)).tick 252
        252).computeStatIrqLine false :=
  statLine_fresh (.new .gameBoy) _ 252 252 (.inl (by decide))

end Ppu

end GbCycle
