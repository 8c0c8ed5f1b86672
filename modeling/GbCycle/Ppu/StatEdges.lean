import GbCycle.Ppu.RasterLaws
import GbCycle.Ppu.StatRequests

/-!
# The edges of the STAT line over runs

From any startup state, the requests are taken where they may be.  A request that waits while more
than one write is made, or while the raster moves on, may be withdrawn with the line high: the early
comparison of line 153 leaves a flag that outlives it.  The first write after the tick of the edge
withdraws the request only with the line, since no other source can be up then.
-/

namespace GbCycle

namespace Ppu

variable {p : Ppu}

/-! ## The last line -/

/-- On the last line, with no mode latched by a startup. -/
structure LastLine (p : Ppu) : Prop where
  on : p.lcdEnabled = true
  ly : p.ly = totalScanlines - 1
  latch : p.startupModeLatch = none

namespace LastLine

theorem isRestartFirstLineActive (h : p.LastLine) : p.isRestartFirstLineActive = false := by
  rw [Ppu.isRestartFirstLineActive, PpuLcdRestartPhase.isFirstLineAfterEnableActive, h.ly]
  exact Bool.and_false _

theorem currentAccessMode (h : p.LastLine) : p.currentAccessMode = .vBlank := by
  have hraster : p.lcdRestartPhase.rasterMode p.ly p.lineDot = none := by
    unfold PpuLcdRestartPhase.rasterMode
    rw [show p.lcdRestartPhase.isFirstLineAfterEnableActive p.ly = false from
      h.isRestartFirstLineActive]
    rfl
  rw [Ppu.currentAccessMode, h.on, hraster, h.latch, h.ly]
  rfl

theorem modeSource (h : p.LastLine) :
    p.modeSource = (p.statInterruptEnable &&& statMode1InterruptEnableBit != 0) := by
  have hmode : p.currentStatIrqAccessMode = .vBlank := by
    rw [currentStatIrqAccessMode, h.isRestartFirstLineActive, h.currentAccessMode]
    simp
  rw [Ppu.modeSource, hmode]

theorem pretriggerSources (h : p.LastLine) :
    p.mode0PretriggerSource = false ∧ p.ordinaryMode2StatPretriggerSource = false ∧
    p.mode2VblankEntryStatSource = false := by
  refine ⟨?_, ?_, ?_⟩
  · rw [mode0PretriggerSource, h.ly]
    simp [totalScanlines, visibleScanlines]
  · rw [ordinaryMode2StatPretriggerSource, h.ly]
    simp [totalScanlines, visibleScanlines]
  · rw [mode2VblankEntryStatSource, h.ly]
    cases p.mode2VblankEntryStatPretriggerDots with
    | none => rfl
    | some pretriggerDots => simp [totalScanlines, visibleScanlines]

/-- Only the comparison and the mode of VBlank raise the line here. -/
theorem computeStatIrqLine (h : p.LastLine) :
    p.computeStatIrqLine false =
      (p.coincidenceSource || p.line153Lyc0StatIrqPretriggerSource ||
        p.statInterruptEnable &&& statMode1InterruptEnableBit != 0) := by
  obtain ⟨hmode0, hmode2, hentry⟩ := h.pretriggerSources
  rw [Ppu.computeStatIrqLine, ordinaryStatIrqLine, h.modeSource, hmode0, hmode2, hentry, h.on,
    Bool.or_false]
  by_cases hnone : p.statInterruptEnable = 0
  · rw [if_pos (by rw [hnone]; rfl), coincidenceSource, line153Lyc0StatIrqPretriggerSource, hnone]
    rfl
  · rw [if_neg (by rw [beq_iff_eq]; exact hnone), if_neg (by decide)]
    split
    · next hmodes =>
        have hmode1 : p.statInterruptEnable &&& statMode1InterruptEnableBit = 0 := by
          have hmask : (statMode0InterruptEnableBit ||| statMode1InterruptEnableBit |||
              statMode2InterruptEnableBit) &&& statMode1InterruptEnableBit =
              statMode1InterruptEnableBit := rfl
          rw [← hmask, ← BitVec.and_assoc, beq_iff_eq.mp hmodes]
          exact BitVec.zero_and
        rw [hmode1]
        exact (Bool.or_false _).symm
    · simp only [Bool.or_false]

end LastLine

/-! ## What holds between any two events -/

/-- The stored line may be high without a source, for the quirk of a `STAT` write, but on the last
line it is not low with one. -/
structure Settled (p : Ppu) : Prop where
  latch : p.startupModeLatch = none ∨ p.lineDot = 0
  low : p.LastLine → p.statState.irqLine = false → p.computeStatIrqLine false = false

theorem Settled.of_fresh (hlatch : p.startupModeLatch = none ∨ p.lineDot = 0) (h : p.Fresh) :
    p.Settled :=
  ⟨hlatch, fun _ hlow => h.symm.trans hlow⟩

theorem Settled.of_disabled (hlatch : p.startupModeLatch = none ∨ p.lineDot = 0)
    (h : p.lcdEnabled = false) : p.Settled :=
  ⟨hlatch, fun hlast => absurd (h.symm.trans hlast.on) Bool.false_ne_true⟩

theorem settled_tickEnabled (p : Ppu) (latched mode0 : Nat) :
    (p.tickEnabled latched mode0).Settled := by
  obtain ⟨-, -, -, hnone, -⟩ := tickEnabled_raster p latched mode0
  exact .of_fresh (.inl hnone) (tickEnabled_fresh p latched mode0)

theorem Settled.tick (h : p.Settled) (latched mode0 : Nat) : (p.tick latched mode0).Settled := by
  unfold Ppu.tick
  split
  · exact settled_tickEnabled p latched mode0
  · next hoff =>
      rw [Bool.not_eq_true] at hoff
      split
      · exact h
      · dsimp only
        split
        · obtain ⟨request, irqLine, dot0, line153, heq⟩ := refreshStatIrqLine_withLine
            { p with lcdEnablePendingDelayTCycles := p.lcdEnablePendingDelayTCycles - 1 }
          rw [heq]
          exact .of_disabled h.latch hoff
        · split
          · exact settled_tickEnabled _ latched mode0
          · exact .of_disabled h.latch hoff

theorem startupModeLatch_lcdcWritten (p : Ppu) (value : U8) (source : PpuRegisterWriteSource) :
    (p.lcdcWritten value source).startupModeLatch = none := by
  unfold lcdcWritten
  dsimp only
  cases p.lcdEnabled || p.lcdEnablePendingDelayTCycles != 0 with
  | true => cases lcdSwitchedOn value <;> rfl
  | false =>
      cases lcdSwitchedOn value with
      | true => cases source <;> rfl
      | false => rfl

theorem settled_writeLcdc (p : Ppu) (value : U8) (source : PpuRegisterWriteSource) (mode0 : Nat) :
    (p.writeLcdc value source mode0).Settled := by
  refine .of_fresh (.inl ?_) (fresh_refreshStatIrqLine _)
  obtain ⟨request, irqLine, dot0, line153, heq⟩ := refreshStatIrqLine_withLine
    { p.lcdcWritten value source with pipelineMode0StartDot := mode0 }
  rw [writeLcdc, heq]
  exact startupModeLatch_lcdcWritten p value source

theorem Settled.writeStat (h : p.Settled) (value : U8) : (p.writeStat value).Settled := by
  obtain ⟨request, dot0, line153, heq⟩ := writeStat_withLine p value
  obtain ⟨-, hdot, -, -, hlatch⟩ := writeStat_raster p value
  refine ⟨?_, ?_⟩
  · rw [hlatch, hdot]
    exact h.latch
  · rw [heq, computeStatIrqLine_withLine, computeStatIrqLine, Bool.or_false]
    intro _ hlow
    exact (Bool.or_eq_false_iff.mp hlow).1

theorem Settled.writeLyc (h : p.Settled) (value : U8) : (p.writeLyc value).Settled := by
  by_cases hon : p.lcdEnabled = true
  · obtain ⟨request, dot0, line153, heq⟩ := writeLyc_withLine hon value
    obtain ⟨-, hdot, -, -, hlatch⟩ := writeLyc_raster p value
    refine .of_fresh ?_ ?_
    · rw [hlatch, hdot]
      exact h.latch
    · rw [heq, Fresh, computeStatIrqLine_withLine]
      rfl
  · unfold Ppu.writeLyc
    dsimp only
    rw [if_neg hon]
    exact .of_disabled h.latch (Bool.not_eq_true _ ▸ hon)

/-- An event that changes nothing that the line depends on here. -/
theorem Settled.of_same {q : Ppu} (h : p.Settled) (hlatch : q.startupModeLatch = p.startupModeLatch)
    (hdot : q.lineDot = p.lineDot) (hlcd : q.lcdEnabled = p.lcdEnabled) (hly : q.ly = p.ly)
    (hline : q.statState.irqLine = p.statState.irqLine)
    (henable : q.statInterruptEnable = p.statInterruptEnable)
    (hcoincidence : q.coincidenceSource = p.coincidenceSource)
    (hearly : q.line153Lyc0StatIrqPretriggerSource = p.line153Lyc0StatIrqPretriggerSource) :
    q.Settled := by
  refine ⟨?_, ?_⟩
  · rw [hlatch, hdot]
    exact h.latch
  · intro hlast hlow
    have hwas : p.LastLine := ⟨hlcd ▸ hlast.on, hly ▸ hlast.ly, hlatch ▸ hlast.latch⟩
    rw [hlast.computeStatIrqLine, hcoincidence, hearly, henable, ← hwas.computeStatIrqLine]
    exact h.low hwas (hline ▸ hlow)

theorem Settled.applyBootPhase (h : p.Settled) (phase : BootPhase)
    (hno : (Event.bootPhase phase).isCorrection = false) : (p.applyBootPhase phase).Settled := by
  cases phase with
  | dmgRealBootPowerOnLcdEnable | dmgRealBootHandoffStatIrq =>
      unfold Ppu.applyBootPhase
      dsimp only
      split
      · exact h.of_same rfl rfl rfl rfl rfl rfl rfl rfl
      · exact h
  | dmgSkipBootStatIrqStartup | dmg0DirectBootHandoffStat =>
      unfold Ppu.applyBootPhase
      dsimp only
      split
      · exact .of_fresh h.latch (fresh_setIrqLine _)
      · exact h
  | cgbCustomBootEntry =>
      unfold Ppu.applyBootPhase
      dsimp only
      split
      · exact .of_fresh (.inl rfl) (fresh_setIrqLine _)
      · exact h
  | cgbBootHandoffRasterCorrection tCycles => cases hno

theorem Settled.step (h : p.Settled) (event : Event) (hno : event.isCorrection = false) :
    (p.step event).Settled := by
  cases event with
  | tick latched mode0 => exact h.tick latched mode0
  | writeLcdc value source mode0 => exact settled_writeLcdc p value source mode0
  | writeStat value => exact h.writeStat value
  | writeLyc value => exact h.writeLyc value
  | writeScx value mode0 => exact h.of_same rfl rfl rfl rfl rfl rfl rfl rfl
  | other mode0 => exact h.of_same rfl rfl rfl rfl rfl rfl rfl rfl
  | operatingMode mode => exact h.of_same rfl rfl rfl rfl rfl rfl rfl rfl
  | bootPhase phase => exact h.applyBootPhase phase hno
  | takeRequests => exact h.of_same rfl rfl rfl rfl rfl rfl rfl rfl

theorem Settled.run (h : p.Settled) {events : List Event}
    (hno : ∀ event ∈ events, event.isCorrection = false) : (Ppu.run events p).Settled := by
  induction events generalizing p with
  | nil => exact h
  | cons event events ih =>
      exact ih (h.step event (hno event List.mem_cons_self))
        fun other hmem => hno other (List.mem_cons_of_mem _ hmem)

theorem Started.settled (h : Started p) : p.Settled := by
  cases h with
  | new consoleModel => exact .of_disabled (.inl rfl) rfl
  | startup consoleModel state mode0StartDot => exact .of_fresh (.inr rfl) (fresh_setIrqLine _)

/-! ## The early comparison of line 153 -/

/-- The dot of line 153 from which `LYC` is compared with 0. -/
def line153CompareDot (p : Ppu) : Nat :=
  if p.consoleModel.isCgbFamily then cgbLine153Lyc0CompareStartDot else line153Lyc0CompareStartDot

theorem line153Lyc0StatIrqPretriggerSource_iff :
    p.line153Lyc0StatIrqPretriggerSource = true ↔
      p.statInterruptEnable &&& statLycInterruptEnableBit ≠ 0 ∧ p.lcdEnabled = true ∧
      p.ly = totalScanlines - 1 ∧ p.lyc = 0 ∧ p.dmgStatWriteQuirkBlocksLine153Lyc0 = false ∧
      line153Lyc0StatIrqPretriggerDot ≤ p.lineDot ∧ p.lineDot < p.line153CompareDot := by
  have hdot : cgbLine153Lyc0StatIrqPretriggerDot = line153Lyc0StatIrqPretriggerDot := rfl
  unfold line153Lyc0StatIrqPretriggerSource line153CompareDot
  cases hcgb : p.consoleModel.isCgbFamily with
  | true =>
      have hunblocked : p.dmgStatWriteQuirkBlocksLine153Lyc0 = false := by
        rw [dmgStatWriteQuirkBlocksLine153Lyc0, ConsoleModel.isDmgFamily, beq_iff_eq.mp hcgb]
        rfl
      simp [hdot, hunblocked, and_assoc]
  | false => simp [and_assoc]

/-- Between its two comparisons line 153 has none. -/
theorem liveLyForLycCompare_between (hly : p.ly = totalScanlines - 1)
    (hlow : line153Lyc153CompareEndDot ≤ p.lineDot) (hhigh : p.lineDot < p.line153CompareDot) :
    p.liveLyForLycCompare = none := by
  have hend : cgbLine153Lyc153CompareEndDot = line153Lyc153CompareEndDot := rfl
  unfold line153CompareDot at hhigh
  unfold liveLyForLycCompare
  rw [hly]
  cases hcgb : p.consoleModel.isCgbFamily with
  | true =>
      rw [hcgb, if_pos rfl] at hhigh
      rw [beq_self_eq_true, Bool.and_true, if_pos rfl, if_neg (by omega), if_neg (by omega)]
  | false =>
      rw [hcgb, if_neg Bool.false_ne_true] at hhigh
      rw [beq_self_eq_true, Bool.false_and, if_neg Bool.false_ne_true, if_pos rfl,
        if_neg (by omega), if_neg (by omega)]

namespace LastLine

theorem lycCoincidenceForIrqLine (h : p.LastLine) (hlive : p.liveLyForLycCompare = none) :
    p.lycCoincidenceForIrqLine = p.statState.lycCompareLatch := by
  have hwindow : p.regularLineDot0CompareWindow = false := by
    rw [regularLineDot0CompareWindow, h.ly]
    exact Bool.and_false _
  rw [Ppu.lycCoincidenceForIrqLine, h.on, hlive, hwindow]
  rfl

theorem coincidenceSource (h : p.LastLine) (hlive : p.liveLyForLycCompare = none)
    (hlatch : p.statState.lycCompareLatch = false) : p.coincidenceSource = false := by
  rw [Ppu.coincidenceSource, h.lycCoincidenceForIrqLine hlive, hlatch, Bool.and_false]
  rfl

end LastLine

/-- The line has just risen for the early comparison of line 153.  It has no other source. -/
structure EarlyEdge (p : Ppu) : Prop where
  last : p.LastLine
  source : p.line153Lyc0StatIrqPretriggerSource = true
  live : p.liveLyForLycCompare = none
  latch : p.statState.lycCompareLatch = false
  mode1 : p.statInterruptEnable &&& statMode1InterruptEnableBit = 0

/-- A tick that finds the early comparison moves one dot on and compares nothing. -/
theorem tickRaster_of_early {latched mode0 : Nat}
    (h : (p.tickRaster latched mode0).line153Lyc0StatIrqPretriggerSource = true) :
    ∃ phase vBlankRequest, p.tickRaster latched mode0 = { p with
      startupModeLatch := none
      lineDot := p.lineDot + 1
      lcdRestartPhase := phase
      pipelineMode0StartDot := mode0
      vBlankRequest } := by
  obtain ⟨-, -, hly, -, -, hlow, hhigh⟩ := line153Lyc0StatIrqPretriggerSource_iff.mp h
  have hlive := liveLyForLycCompare_between hly (Nat.le_trans (by decide) hlow) hhigh
  rw [tickRaster_eq] at hlow hlive ⊢
  generalize (if { p with pipelineMode0StartDot := latched }.currentAccessMode != .vBlank &&
    (p.advanceRaster mode0).currentAccessMode == .vBlank then PendingRequest.queue false
    else (p.advanceRaster mode0).vBlankRequest) = vblank at hlow hlive ⊢
  have hcompared : { p.advanceRaster mode0 with vBlankRequest := vblank }.updateLycCompareLatch =
      { p.advanceRaster mode0 with vBlankRequest := vblank } := by
    obtain ⟨latch, hlatch⟩ := updateLycCompareLatch_eq
      { p.advanceRaster mode0 with vBlankRequest := vblank }
    rw [hlatch] at hlive
    have hnone : { p.advanceRaster mode0 with vBlankRequest := vblank }.liveLyForLycCompare =
        none := hlive
    rw [updateLycCompareLatch, hnone]
  rw [hcompared] at hlow ⊢
  unfold advanceRaster publishRaster at hlow ⊢
  dsimp only at hlow ⊢
  split at hlow
  · have hstart : ¬ line153Lyc0StatIrqPretriggerDot ≤ 0 := by decide
    exact absurd hlow hstart
  · next hsame =>
      rw [if_neg hsame]
      exact ⟨_, _, rfl⟩

theorem earlyEdge_tickEnabled (h : p.Settled)
    (hflag : p.statState.line153Lyc0StatIrqPretriggerPending = false) {latched mode0 : Nat}
    (hedge : (p.tickEnabled latched mode0).statState.line153Lyc0StatIrqPretriggerPending = true) :
    (p.tickEnabled latched mode0).EarlyEdge := by
  obtain ⟨-, -, -, -, -, -, hraster⟩ := tickRaster_fields p latched mode0
  obtain ⟨hrises, hsource⟩ :=
    ((p.tickRaster latched mode0).refreshStatIrqLine_spec.2.2.2 hedge).resolve_right
      (by rw [hraster, hflag]; exact Bool.false_ne_true)
  obtain ⟨phase, vBlankRequest, heq⟩ := tickRaster_of_early hsource
  obtain ⟨request, irqLine, dot0, line153, hrefresh⟩ :=
    (p.tickRaster latched mode0).refreshStatIrqLine_withLine
  obtain ⟨henable, hon, hly, -, hunblocked, hdot, hbefore⟩ :=
    line153Lyc0StatIrqPretriggerSource_iff.mp hsource
  rw [tickEnabled, hrefresh]
  rw [heq] at hrises hsource henable hon hly hunblocked hdot hbefore ⊢
  have hdot : line153Lyc0StatIrqPretriggerDot ≤ p.lineDot + 1 := hdot
  have hbefore : p.lineDot + 1 < p.line153CompareDot := hbefore
  have hpretrigger : line153Lyc153CompareEndDot + 2 ≤ line153Lyc0StatIrqPretriggerDot := by decide
  -- the line was low one dot earlier, where the other sources were the same
  have hwas : p.LastLine := ⟨hon, hly, h.latch.resolve_right (by omega)⟩
  have hlive : p.liveLyForLycCompare = none :=
    liveLyForLycCompare_between hly (by omega) (Nat.lt_of_succ_lt hbefore)
  have hbelow := rises_low hrises
  have hlow := h.low hwas hbelow
  rw [hwas.computeStatIrqLine, Bool.or_eq_false_iff, Bool.or_eq_false_iff] at hlow
  obtain ⟨⟨hcoincidence, -⟩, hmode1⟩ := hlow
  have hlatch : p.statState.lycCompareLatch = false := by
    have hblocked : p.dmgStatWriteQuirkBlocksLine153Lyc0StatSource = false := by
      rw [dmgStatWriteQuirkBlocksLine153Lyc0StatSource]
      rw [show p.dmgStatWriteQuirkBlocksLine153Lyc0 = false from hunblocked]
      rfl
    rw [coincidenceSource, hblocked, hwas.lycCoincidenceForIrqLine hlive,
      bne_iff_ne.mpr henable] at hcoincidence
    simpa using hcoincidence
  refine ⟨⟨hon, hly, rfl⟩, hsource, ?_, hlatch, ?_⟩
  · exact liveLyForLycCompare_between hly (Nat.le_trans (by decide) hdot) hbefore
  · exact (bne_eq_false_iff_eq ..).mp hmode1

theorem not_early_of_firstLine (h : p.FirstLine) :
    ¬ p.line153Lyc0StatIrqPretriggerSource = true := by
  rw [h.pretriggerSources.1]
  exact Bool.false_ne_true

theorem earlyEdge_tick (h : p.Settled)
    (hflag : p.statState.line153Lyc0StatIrqPretriggerPending = false) {latched mode0 : Nat}
    (hedge : (p.tick latched mode0).statState.line153Lyc0StatIrqPretriggerPending = true) :
    (p.tick latched mode0).EarlyEdge := by
  have hno : ¬ p.statState.line153Lyc0StatIrqPretriggerPending = true := by simp [hflag]
  unfold Ppu.tick at hedge ⊢
  split at hedge
  · next hon =>
      rw [if_pos hon]
      exact earlyEdge_tickEnabled h hflag hedge
  · next hoff =>
      split at hedge
      · exact absurd hedge hno
      · dsimp only at hedge
        split at hedge
        · rcases refreshStatIrqLine_spec _ |>.2.2.2 hedge with ⟨-, hsource⟩ | hheld
          · exact absurd (line153Lyc0StatIrqPretriggerSource_iff.mp hsource).2.1 hoff
          · exact absurd hheld hno
        · split at hedge
          · -- the restarted raster is on its first line, where the source cannot be up
            obtain ⟨hfirst, hdot⟩ := firstLine_enterLcdEnabledRestartState
              { p with lcdEnablePendingDelayTCycles := p.lcdEnablePendingDelayTCycles - 1 } latched
            generalize hrestarted : ({ { p with
                lcdEnablePendingDelayTCycles := p.lcdEnablePendingDelayTCycles - 1
                }.enterLcdEnabledRestartState with pipelineMode0StartDot := latched } : Ppu)
              = restarted at hedge hfirst hdot
            obtain ⟨request, irqLine, dot0, line153, heq⟩ := restarted.refreshStatIrqLine_withLine
            have hline : restarted.refreshStatIrqLine.FirstLine := by
              rw [heq]
              exact hfirst.of_withLine
            have hdot' : restarted.refreshStatIrqLine.lineDot + 1 <
                lcdReenableLine0Mode0RestoreDot := by
              rw [heq]
              exact hdot
            obtain ⟨-, -, -, -, -, -, hraster⟩ :=
              tickRaster_fields restarted.refreshStatIrqLine latched mode0
            rcases refreshStatIrqLine_spec _ |>.2.2.2 hedge with ⟨-, hsource⟩ | hheld
            · exact absurd hsource (not_early_of_firstLine (hline.tickRaster hdot' latched mode0))
            · rw [hraster] at hheld
              rcases restarted.refreshStatIrqLine_spec.2.2.2 hheld with ⟨-, hsource⟩ | hheld
              · exact absurd hsource (not_early_of_firstLine hfirst)
              · rw [← hrestarted] at hheld
                cases hheld
          · exact absurd hedge hno

/-! ## The first write after an edge -/

/-- Nothing is compared here, so an `LYC` write keeps the latch. -/
theorem lycCompared_of_none (hlive : p.liveLyForLycCompare = none) (value : U8) :
    ∃ request irqLine dot0, p.lycCompared value =
      { p with lyc := value }.withLine request irqLine dot0
        p.statState.line153Lyc0StatIrqPretriggerPending := by
  have hnone : { p with lyc := value }.liveLyForLycCompare = none := hlive
  have hcompared : { p with lyc := value }.updateLycCompareLatch = { p with lyc := value } := by
    rw [updateLycCompareLatch, hnone]
  obtain ⟨request, dot0, hcancel⟩ :=
    cancelObsoleteDot0LycStatIrqEdge_withLine { p with lyc := value }
  unfold lycCompared
  rw [hcompared]
  dsimp only
  rw [hcancel]
  split
  · exact ⟨_, _, _, rfl⟩
  · exact ⟨_, _, _, rfl⟩

namespace EarlyEdge

theorem line_writeLyc (h : p.EarlyEdge) {value : U8}
    (hwithdraws : p.lycWriteWithdraws value = true) : (p.writeLyc value).statState.irqLine = false := by
  obtain ⟨request, dot0, line153, heq⟩ := writeLyc_withLine h.last.on value
  rw [heq]
  show (p.lycCompared value).computeStatIrqLine false = false
  rw [lycWriteWithdraws, Bool.and_eq_true, Bool.or_eq_true, Bool.and_eq_true,
    Bool.not_eq_true'] at hwithdraws
  rcases hwithdraws.2 with ⟨-, hlow⟩ | hobsolete
  · exact hlow
  · obtain ⟨r₁, l₁, d₁, hcompared⟩ := lycCompared_of_none h.live value
    obtain ⟨r₂, l₂, d₂, e₂, hrefresh⟩ := (p.lycCompared value).refreshStatIrqLine_withLine
    have hgone : { p with lyc := value }.line153Lyc0StatIrqPretriggerSource = false := by
      have hsource := (line153_of_obsolete hobsolete).2
      rw [hrefresh, hcompared] at hsource
      exact hsource
    have hlast : { p with lyc := value }.LastLine := ⟨h.last.on, h.last.ly, h.last.latch⟩
    rw [hcompared, computeStatIrqLine_withLine, hlast.computeStatIrqLine,
      hlast.coincidenceSource h.live h.latch, hgone, h.mode1]
    rfl

theorem line_writeStat (h : p.EarlyEdge) {value : U8}
    (hwithdraws : p.statWriteWithdraws value = true) :
    (p.writeStat value).statState.irqLine = false := by
  obtain ⟨request, dot0, line153, heq⟩ := writeStat_withLine p value
  obtain ⟨r, l, d, e, hstored⟩ := statStored_withLine p value
  rw [statWriteWithdraws, Bool.and_eq_true, Bool.not_eq_true', Bool.or_eq_false_iff] at hwithdraws
  obtain ⟨hobsolete, hquirk, hno⟩ := hwithdraws
  rw [heq]
  show ((p.statWritten value).ordinaryStatIrqLine ||
    (p.statStored value).statWriteQuirkActiveForWrite) = false
  rw [hquirk, Bool.or_false]
  by_contra hhigh
  rw [Bool.not_eq_false] at hhigh
  rw [writeRequestsOrdinaryEdge, hhigh, Bool.true_and] at hno
  have hlast : (p.statWritten value).LastLine := by
    unfold statWritten
    rw [hstored]
    exact ⟨h.last.on, h.last.ly, h.last.latch⟩
  have hfields : (p.statWritten value).liveLyForLycCompare = none ∧
      (p.statWritten value).statState.lycCompareLatch = false ∧
      (p.statWritten value).statInterruptEnable = value &&& statWritableEnableMask := by
    unfold statWritten
    rw [hstored]
    exact ⟨h.live, h.latch, rfl⟩
  obtain ⟨hlive, hlatch, henables⟩ := hfields
  -- the comparison is not enabled any more
  have hgone : (p.statWritten value).line153Lyc0StatIrqPretriggerSource = false := by
    by_contra hsource
    rw [Bool.not_eq_false] at hsource
    have henable := (line153Lyc0StatIrqPretriggerSource_iff.mp hsource).1
    rw [henables] at henable
    have hstill : { p with statInterruptEnable := value &&& statWritableEnableMask
        }.line153Lyc0StatIrqPretriggerSource = true :=
      line153Lyc0StatIrqPretriggerSource_iff.mpr
        ⟨henable, (line153Lyc0StatIrqPretriggerSource_iff.mp h.source).2⟩
    exact absurd ((line153_of_obsolete hobsolete).2.symm.trans hstill) Bool.false_ne_true
  have hcompute := hlast.computeStatIrqLine
  rw [computeStatIrqLine, hhigh, hlast.coincidenceSource hlive hlatch, hgone] at hcompute
  have hmode1 : (p.statWritten value).mode1StatWriteIrqSource = true := by
    rw [mode1StatWriteIrqSource, hlast.on, hlast.currentAccessMode]
    simpa using hcompute.symm
  rw [hmode1] at hno
  simp at hno

theorem line_of_withdraws (h : p.EarlyEdge) {event : Event}
    (hwithdraws : p.withdraws event = true) : (p.step event).statState.irqLine = false := by
  cases event with
  | tick | writeLcdc | writeScx | other | operatingMode | bootPhase | takeRequests =>
      cases hwithdraws
  | writeStat value => exact h.line_writeStat hwithdraws
  | writeLyc value => exact h.line_writeLyc hwithdraws

end EarlyEdge

/-- Only with the line does the first write after a tick withdraw the request of the tick. -/
theorem line_of_withdraws_ticked (h : p.Settled) (hquiet : ¬ p.Armed) {latched mode0 : Nat}
    {event : Event} (hwithdraws : (p.tick latched mode0).withdraws event = true) :
    ((p.tick latched mode0).step event).statState.irqLine = false := by
  have hflag : p.statState.line153Lyc0StatIrqPretriggerPending = false := by
    by_contra hflag
    exact hquiet (.inr (.inr (Bool.not_eq_false _ ▸ hflag)))
  rcases line_of_withdraws hwithdraws with hedge | ⟨-, hlow⟩
  · exact (earlyEdge_tick h hflag hedge).line_of_withdraws hwithdraws
  · exact hlow

/-! ## Runs -/

/-- Line 153 in the state that a skipped boot leaves, with `LYC` 0 enabled, up to dot 7. -/
def lastLineBefore : Ppu :=
  run (List.replicate 7 (.tick 252 252)) ((new .gameBoyColor).applyStartupState
    { lcdc := 0x91, stat := 0xC1, scx := 0, ly := 153, lyc := 0 } 252)

/-- The LCD is switched on by a CPU write, with `LYC` enabled, four ticks ago. -/
def lcdEnabling : Ppu :=
  run [.writeStat 0x40, .writeLcdc 0x80 .cpuMmioCommit 252, .tick 252 252, .tick 252 252,
    .tick 252 252, .tick 252 252] (new .gameBoy)

/-- The STAT line and its requests over any run from a startup state, with the requests taken
anywhere.

The stored line is the computed one after every tick but the one that leaves one T-cycle of the
delay of an LCD enable.  Between requests that have been taken and the next one the line is low
somewhere.  A tick that raises the line requests an interrupt, and the request stays until it is
taken or a write withdraws it.  Only a request with an edge of line 153 is ever withdrawn with the
line high; and where nothing was left from before the tick, the first event after it does not do
that to this request either, be it an `LYC` write at any dot. -/
theorem statEdges_law (h : Started p) (events : List Event) :
    (∀ latched mode0,
      ((run events p).tick latched mode0).lcdEnabled = true ∨
        ((run events p).tick latched mode0).lcdEnablePendingDelayTCycles ≠ 1 →
      ((run events p).tick latched mode0).statState.irqLine =
        ((run events p).tick latched mode0).computeStatIrqLine false) ∧
    (∀ more, (run more (run events p).takePendingInterruptRequests).lcdStatRequest.pending = true →
      ∃ before event after, more = before ++ event :: after ∧
        (run before (run events p).takePendingInterruptRequests).statState.irqLine = false) ∧
    (∀ latched mode0 more, (run events p).statState.irqLine = false →
      ((run events p).tick latched mode0).statState.irqLine = true →
      Untouched ((run events p).tick latched mode0) more →
      (run more ((run events p).tick latched mode0)).lcdStatRequest.pending = true) ∧
    (∀ event, (run events p).withdraws event = true →
      (run events p).statState.line153Lyc0StatIrqPretriggerPending = true ∨
        ((run events p).step event).statState.irqLine = false) ∧
    ((∀ event ∈ events, event.isCorrection = false) → ¬ (run events p).Armed →
      ∀ latched mode0 event, (run events p).statState.irqLine = false →
        ((run events p).tick latched mode0).statState.irqLine = true → event ≠ .takeRequests →
        (((run events p).tick latched mode0).step event).lcdStatRequest.pending = true ∨
          (((run events p).tick latched mode0).step event).statState.irqLine = false) := by
  refine ⟨fun latched mode0 hdelay => (h.offState.run events).fresh_tick hdelay, ?_, ?_, ?_, ?_⟩
  · intro more hpending
    obtain ⟨before, event, after, hevents, -, hraises⟩ :=
      raises_run (not_armed_takePendingInterruptRequests _) more (.inl hpending)
    exact ⟨before, event, after, hevents, hraises.low⟩
  · intro latched mode0 more hlow hhigh huntouched
    exact pending_run (pending_of_rising_tick hlow hhigh) huntouched
  · intro event hwithdraws
    exact (line_of_withdraws hwithdraws).imp_right And.right
  · intro hno hquiet latched mode0 event hlow hhigh htake
    have hpending := pending_of_rising_tick hlow hhigh
    cases hwithdraws : ((run events p).tick latched mode0).withdraws event with
    | false => exact .inl (pending_step hpending htake hwithdraws)
    | true => exact .inr (line_of_withdraws_ticked (h.settled.run hno) hquiet hwithdraws)

/-- The tick of the early comparison, and an `LYC` write after it. -/
theorem statEdges_law_line153 :
    lastLineBefore.statState.irqLine = false ∧
    (lastLineBefore.tick 252 252).statState.irqLine = true ∧
    (((lastLineBefore.tick 252 252).step (.writeLyc 5)).lcdStatRequest.pending = true ∨
      ((lastLineBefore.tick 252 252).step (.writeLyc 5)).statState.irqLine = false) := by
  have hlow : lastLineBefore.statState.irqLine = false := by decide
  have hhigh : (lastLineBefore.tick 252 252).statState.irqLine = true := by decide
  have hquiet : ¬ lastLineBefore.Armed := by
    unfold Armed
    decide
  have hno : ∀ event ∈ List.replicate 7 (Event.tick 252 252), event.isCorrection = false := by
    decide
  exact ⟨hlow, hhigh, (statEdges_law (.startup ..) _).2.2.2.2 hno hquiet 252 252 (.writeLyc 5)
    hlow hhigh (by decide)⟩

/-- The fourth tick of an LCD enable leaves the line stale; and a request that is not taken is
withdrawn by an `LYC` write, here the one that finds the comparison itself at dot 9 or the second of
two at dot 8, with the line high all the while. -/
theorem untakenRequest_withdrawn :
    lcdEnabling.statState.irqLine ≠ lcdEnabling.computeStatIrqLine false ∧
    lastLineBefore.statState.irqLine = false ∧
    (lastLineBefore.tick 252 252).lcdStatRequest.pending = true ∧
    ∀ more ∈ [[Event.tick 252 252, .writeLyc 0], [.writeStat 0x50, .writeLyc 5]],
      (∀ before ∈ more.inits,
        (run before (lastLineBefore.tick 252 252)).statState.irqLine = true) ∧
      (run more (lastLineBefore.tick 252 252)).lcdStatRequest.pending = false := by
  decide

end Ppu

end GbCycle
