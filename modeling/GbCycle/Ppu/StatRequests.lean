import GbCycle.Ppu.StatLineLaws

/-!
# The requests of the STAT line

The STAT line requests an interrupt when it rises.  The event that raises a request finds the line
low, and the request stays until it is taken or a write withdraws it: two kinds of edge leave a
flag, with which a later write can find the comparison of the edge obsolete.
-/

namespace GbCycle

namespace Ppu

variable {p : Ppu}

/-! ## Requests -/

/-- A request is pending, or the flag of its edge is left. -/
def Armed (p : Ppu) : Prop :=
  p.lcdStatRequest.pending = true ∨ p.statState.dot0LycStatIrqEdgePending = true ∨
    p.statState.line153Lyc0StatIrqPretriggerPending = true

theorem pending_refreshStatIrqLine (h : p.lcdStatRequest.pending = true) :
    p.refreshStatIrqLine.lcdStatRequest.pending = true := by
  rw [p.refreshStatIrqLine_spec.2.1, h, Bool.true_or]

theorem pending_tickEnabled {latched mode0 : Nat} (h : p.lcdStatRequest.pending = true) :
    (p.tickEnabled latched mode0).lcdStatRequest.pending = true := by
  apply pending_refreshStatIrqLine
  rw [(tickRaster_fields p latched mode0).2.1]
  exact h

theorem rises_low (h : p.rises = true) : p.statState.irqLine = false := by
  rw [rises, Bool.and_eq_true, Bool.not_eq_true'] at h
  exact h.1

/-- Only a line that is low is armed by a refresh. -/
theorem armed_refreshStatIrqLine (h : p.refreshStatIrqLine.Armed) :
    p.Armed ∨ p.rises = true := by
  obtain ⟨-, hpending, hdot0, hline153⟩ := p.refreshStatIrqLine_spec
  rcases h with h | h | h
  · rw [hpending, Bool.or_eq_true] at h
    exact h.imp_left .inl
  · exact (hdot0 h).symm.imp_left fun hflag => .inr (.inl hflag)
  · exact (hline153 h).symm.imp (fun hflag => .inr (.inr hflag)) And.left

theorem armed_tickRaster (p : Ppu) (latched mode0 : Nat) :
    (p.tickRaster latched mode0).Armed ↔ p.Armed := by
  obtain ⟨-, hrequest, -, -, -, hdot0, hline153⟩ := tickRaster_fields p latched mode0
  rw [Armed, Armed, hrequest, hdot0, hline153]

/-- A line that was low has requested an interrupt by the time of `q`. -/
structure Raises (p q : Ppu) : Prop where
  low : p.statState.irqLine = false
  pending : q.lcdStatRequest.pending = true

theorem raises_refreshStatIrqLine (h : p.refreshStatIrqLine.Armed) :
    p.Armed ∨ p.Raises p.refreshStatIrqLine := by
  rcases armed_refreshStatIrqLine h with harmed | hrises
  · exact .inl harmed
  · have hpending : p.refreshStatIrqLine.lcdStatRequest.pending = true := by
      rw [p.refreshStatIrqLine_spec.2.1, hrises, Bool.or_true]
    exact .inr ⟨rises_low hrises, hpending⟩

theorem raises_tickEnabled {latched mode0 : Nat} (h : (p.tickEnabled latched mode0).Armed) :
    p.Armed ∨ p.Raises (p.tickEnabled latched mode0) := by
  rcases raises_refreshStatIrqLine h with harmed | hraises
  · exact .inl ((armed_tickRaster p latched mode0).mp harmed)
  · obtain ⟨-, -, -, -, hline, -, -⟩ := tickRaster_fields p latched mode0
    exact .inr ⟨hline ▸ hraises.low, hraises.pending⟩

/-! ### The first line after the LCD has been switched on -/

/-- The first line, before the dot at which mode 0 comes back. -/
structure FirstLine (p : Ppu) : Prop where
  on : p.lcdEnabled = true
  phase : p.lcdRestartPhase = .firstLineAfterEnable
  ly : p.ly = 0
  dot : p.lineDot < lcdReenableLine0Mode0RestoreDot
  suppressed : p.statState.suppressMode0PretriggerUntilVblank = true

namespace FirstLine

theorem isRestartFirstLineActive (h : p.FirstLine) : p.isRestartFirstLineActive = true := by
  rw [Ppu.isRestartFirstLineActive, h.phase, h.ly]
  rfl

theorem currentScanlineLength (h : p.FirstLine) :
    p.currentScanlineLength = lcdReenableLine0TotalDots := by
  rw [Ppu.currentScanlineLength, if_pos h.isRestartFirstLineActive]

theorem liveLyForLycCompare (h : p.FirstLine) : p.liveLyForLycCompare = some 0 := by
  have hblank : p.lycCompareBlankedAtLineEnd = false := by
    have hdot := h.dot
    rw [lycCompareBlankedAtLineEnd, h.currentScanlineLength, Bool.and_eq_false_iff]
    right
    rw [decide_eq_false_iff_not]
    simp only [lcdReenableLine0TotalDots, cgbLineEndLycCompareBlankDots, dotsPerScanline,
      lcdReenableLine0Mode0RestoreDot, lcdReenableLine0Mode3StartDot, mode2Dots,
      mode3BaselineDots] at hdot ⊢
    omega
  rw [Ppu.liveLyForLycCompare, h.ly, hblank]
  simp [totalScanlines]

theorem modeSource (h : p.FirstLine) : p.modeSource = false := by
  have hdrawing : p.currentStatIrqAccessMode = .drawing := by
    have hdot := h.dot
    have hearly : p.lineDot < p.lcdReenableLine0Mode0IrqDot := by
      rw [lcdReenableLine0Mode0IrqDot]
      omega
    rw [currentStatIrqAccessMode, if_pos]
    rw [h.isRestartFirstLineActive, decide_eq_true hearly, Bool.or_true]
    rfl
  rw [Ppu.modeSource, hdrawing]

theorem pretriggerSources (h : p.FirstLine) :
    p.line153Lyc0StatIrqPretriggerSource = false ∧ p.mode0PretriggerSource = false ∧
    p.ordinaryMode2StatPretriggerSource = false ∧ p.mode2VblankEntryStatSource = false := by
  have hdot := h.dot
  refine ⟨?_, ?_, ?_, ?_⟩
  · rw [line153Lyc0StatIrqPretriggerSource, h.ly, if_pos]
    simp [totalScanlines]
  · rw [mode0PretriggerSource, ordinaryPretriggerAllowed, h.suppressed]
    simp
  · rw [ordinaryMode2StatPretriggerSource, h.currentScanlineLength, Bool.and_eq_false_iff]
    right
    rw [decide_eq_false_iff_not]
    simp only [lcdReenableLine0TotalDots, dotsPerScanline, lcdReenableLine0Mode0RestoreDot,
      lcdReenableLine0Mode3StartDot, mode2Dots, mode3BaselineDots] at hdot ⊢
    omega
  · rw [mode2VblankEntryStatSource, h.ly]
    cases p.mode2VblankEntryStatPretriggerDots with
    | none => rfl
    | some pretriggerDots => simp [visibleScanlines]

/-- Only `LYC` raises the line here. -/
theorem computeStatIrqLine (h : p.FirstLine) :
    p.computeStatIrqLine false =
      (p.statInterruptEnable &&& statLycInterruptEnableBit != 0 && (0 == p.lyc.toNat)) := by
  obtain ⟨hline153, hmode0, hmode2, hentry⟩ := h.pretriggerSources
  have hcoincidence : p.coincidenceSource =
      (p.statInterruptEnable &&& statLycInterruptEnableBit != 0 && (0 == p.lyc.toNat)) := by
    have hblocked : p.dmgStatWriteQuirkBlocksLine153Lyc0StatSource = false := by
      rw [dmgStatWriteQuirkBlocksLine153Lyc0StatSource, h.ly]
      simp [totalScanlines]
    rw [coincidenceSource, lycCoincidenceForIrqLine, h.on, h.liveLyForLycCompare, hblocked]
    simp only [Bool.not_true, Bool.not_false, Bool.and_true, Bool.false_eq_true, if_false]
  rw [Ppu.computeStatIrqLine, ordinaryStatIrqLine, hline153, h.modeSource, hmode0, hmode2, hentry,
    hcoincidence, h.on]
  by_cases henable : p.statInterruptEnable = 0
  · rw [henable]
    rfl
  · rw [if_neg (by rw [beq_iff_eq]; exact henable), if_neg (by decide)]
    simp only [Bool.or_false, ite_self]

/-- A tick on the first line moves a dot on. -/
theorem tickRaster (h : p.FirstLine)
    (hdot : p.lineDot + 1 < lcdReenableLine0Mode0RestoreDot) (latched mode0 : Nat) :
    (p.tickRaster latched mode0).FirstLine := by
  have hlong : lcdReenableLine0Mode0RestoreDot < lcdReenableLine0TotalDots := by decide
  have hadvance : p.lcdRestartPhase.advance p.ly = .firstLineAfterEnable := by
    rw [h.phase, h.ly]
    rfl
  have hpublish : { p with
        startupModeLatch := none
        lineDot := p.lineDot + 1
        lcdRestartPhase := p.lcdRestartPhase.advance p.ly
        pipelineMode0StartDot := mode0 }.publishRaster =
      { p with
        startupModeLatch := none
        lineDot := p.lineDot + 1
        lcdRestartPhase := p.lcdRestartPhase.advance p.ly
        pipelineMode0StartDot := mode0 } := by
    rw [publishRaster, if_neg]
    rw [Ppu.currentScanlineLength, if_pos]
    · show p.lineDot + 1 ≠ lcdReenableLine0TotalDots
      omega
    · rw [Ppu.isRestartFirstLineActive]
      show (p.lcdRestartPhase.advance p.ly).isFirstLineAfterEnableActive p.ly = true
      rw [hadvance, h.ly]
      rfl
  unfold Ppu.tickRaster advanceRaster
  dsimp only
  rw [hpublish]
  obtain ⟨latch, hlatch⟩ := updateLycCompareLatch_eq
    { p with
      pipelineMode0StartDot := mode0
      startupModeLatch := none
      lineDot := p.lineDot + 1
      lcdRestartPhase := p.lcdRestartPhase.advance p.ly
      vBlankRequest :=
        if { p with pipelineMode0StartDot := latched }.currentAccessMode != .vBlank &&
            { p with
              pipelineMode0StartDot := mode0
              startupModeLatch := none
              lineDot := p.lineDot + 1
              lcdRestartPhase := p.lcdRestartPhase.advance p.ly }.currentAccessMode ==
              .vBlank then .queue false
        else p.vBlankRequest }
  dsimp only at hlatch ⊢
  rw [hlatch]
  exact ⟨h.on, hadvance, h.ly, hdot, h.suppressed⟩

end FirstLine

/-- Switched on, the LCD is at the start of its first line. -/
theorem firstLine_enterLcdEnabledRestartState (p : Ppu) (mode0 : Nat) :
    { p.enterLcdEnabledRestartState with pipelineMode0StartDot := mode0 }.FirstLine ∧
    { p.enterLcdEnabledRestartState with pipelineMode0StartDot := mode0 }.lineDot + 1 <
      lcdReenableLine0Mode0RestoreDot := by
  have hstart : p.enterLcdEnabledRestartState.lineDot + 1 < lcdReenableLine0Mode0RestoreDot := by
    unfold enterLcdEnabledRestartState
    dsimp only
    split <;> decide
  exact ⟨⟨rfl, rfl, rfl, Nat.lt_of_succ_lt hstart, rfl⟩, hstart⟩

theorem FirstLine.of_withLine {q : Ppu} {request : PendingRequest} {irqLine dot0 line153 : Bool}
    (h : q.FirstLine) : (q.withLine request irqLine dot0 line153).FirstLine :=
  ⟨h.on, h.phase, h.ly, h.dot, h.suppressed⟩

/-- The first tick of the first line does not raise the line once more. -/
theorem not_rises_tickRaster (h : p.FirstLine)
    (hdot : p.lineDot + 1 < lcdReenableLine0Mode0RestoreDot) (hfresh : p.Fresh)
    (latched mode0 : Nat) : (p.tickRaster latched mode0).rises = false := by
  obtain ⟨-, -, henable, hlyc, hline, -, -⟩ := tickRaster_fields p latched mode0
  rw [rises, (h.tickRaster hdot latched mode0).computeStatIrqLine, hline, hfresh,
    h.computeStatIrqLine, henable, hlyc, Bool.not_and_self]

theorem raises_tick {latched mode0 : Nat} (h : (p.tick latched mode0).Armed) :
    p.Armed ∨ p.Raises (p.tick latched mode0) := by
  unfold Ppu.tick at h ⊢
  split at h
  · next hon =>
      rw [if_pos hon]
      exact raises_tickEnabled h
  · next hoff =>
      rw [if_neg hoff]
      split at h
      · exact .inl h
      · next hzero =>
          rw [if_neg hzero]
          dsimp only at h ⊢
          split at h
          · next htwo =>
              rw [if_pos htwo]
              exact (raises_refreshStatIrqLine h).imp id fun hraises =>
                ⟨hraises.low, hraises.pending⟩
          · next htwo =>
              rw [if_neg htwo]
              split at h
              · next hone =>
                  rw [if_pos hone]
                  obtain ⟨hfirst, hdot⟩ := firstLine_enterLcdEnabledRestartState
                    { p with lcdEnablePendingDelayTCycles := p.lcdEnablePendingDelayTCycles - 1 }
                    latched
                  generalize hrestarted : ({ { p with
                      lcdEnablePendingDelayTCycles := p.lcdEnablePendingDelayTCycles - 1
                      }.enterLcdEnabledRestartState with pipelineMode0StartDot := latched } : Ppu)
                    = restarted at h hfirst hdot ⊢
                  obtain ⟨request, irqLine, dot0, line153, heq⟩ :=
                    restarted.refreshStatIrqLine_withLine
                  have hfresh := restarted.fresh_refreshStatIrqLine
                  have hno : (restarted.refreshStatIrqLine.tickRaster latched mode0).rises =
                      false := by
                    rw [heq] at hfresh ⊢
                    have hline : (restarted.withLine request irqLine dot0 line153).FirstLine :=
                      hfirst.of_withLine
                    exact not_rises_tickRaster hline hdot hfresh latched mode0
                  rcases armed_refreshStatIrqLine h with harmed | hrises
                  · rcases raises_refreshStatIrqLine ((armed_tickRaster _ _ _).mp harmed) with
                      hrestart | hraises
                    · rw [← hrestarted] at hrestart
                      rcases hrestart with hpending | hdot0 | hline153
                      · exact .inl (.inl hpending)
                      · exact .inl (.inr (.inl hdot0))
                      · cases hline153
                    · have hlow := hraises.low
                      rw [← hrestarted] at hlow
                      exact .inr ⟨hlow, pending_tickEnabled hraises.pending⟩
                  · exact absurd (hno.symm.trans hrises) Bool.false_ne_true
              · exact .inl h

/-! ### Writes and the low line -/

theorem statStored_armed {value : U8} (h : (p.statStored value).Armed) : p.Armed := by
  unfold statStored cancelObsoleteLine153Lyc0StatIrqPretrigger at h
  dsimp only at h
  by_cases hkeep : (!p.statState.line153Lyc0StatIrqPretriggerPending ||
      { p with statInterruptEnable := value &&& statWritableEnableMask
        }.line153Lyc0StatIrqPretriggerSource) = true
  · rw [if_pos hkeep] at h
    exact h
  · rw [Bool.or_eq_true, not_or, Bool.not_eq_true', Bool.not_eq_false] at hkeep
    exact .inr (.inr hkeep.1)

/-- The line of a `STAT` write is the stored one, unless a request is obsolete. -/
theorem statStored_line (p : Ppu) (value : U8) :
    p.Armed ∨ (p.statStored value).statState.irqLine = p.statState.irqLine := by
  unfold statStored cancelObsoleteLine153Lyc0StatIrqPretrigger
  dsimp only
  by_cases hkeep : (!p.statState.line153Lyc0StatIrqPretriggerPending ||
      { p with statInterruptEnable := value &&& statWritableEnableMask
        }.line153Lyc0StatIrqPretriggerSource) = true
  · rw [if_pos hkeep]
    exact .inr rfl
  · rw [Bool.or_eq_true, not_or, Bool.not_eq_true', Bool.not_eq_false] at hkeep
    exact .inl (.inr (.inr hkeep.1))

theorem raises_writeStat {value : U8} (h : (p.writeStat value).Armed) :
    p.Armed ∨ p.Raises (p.writeStat value) := by
  unfold Ppu.writeStat at h ⊢
  dsimp only at h ⊢
  split at h
  · next hrequest =>
      rw [if_pos hrequest]
      rw [Bool.and_eq_true, Bool.not_eq_true'] at hrequest
      rcases statStored_line p value with harmed | hline
      · exact .inl harmed
      · exact .inr ⟨hline ▸ hrequest.1, rfl⟩
  · have harmed : (p.statStored value).Armed := h
    exact .inl (statStored_armed harmed)

theorem lycCompared_armed {value : U8} (h : (p.lycCompared value).Armed) : p.Armed := by
  obtain ⟨latch, hlatch⟩ := updateLycCompareLatch_eq { p with lyc := value }
  unfold lycCompared cancelObsoleteDot0LycStatIrqEdge at h
  rw [hlatch] at h
  dsimp only at h
  by_cases hkeep : (!p.statState.dot0LycStatIrqEdgePending ||
      { p with
        lyc := value
        statState := { p.statState with lycCompareLatch := latch }
        }.lycCoincidenceForIrqLine) = true
  · rw [if_pos hkeep] at h
    exact h
  · rw [Bool.or_eq_true, not_or, Bool.not_eq_true', Bool.not_eq_false] at hkeep
    exact .inr (.inl hkeep.1)

theorem lycCompared_line (p : Ppu) (value : U8) :
    p.Armed ∨ (p.lycCompared value).statState.irqLine = p.statState.irqLine := by
  obtain ⟨latch, hlatch⟩ := updateLycCompareLatch_eq { p with lyc := value }
  unfold lycCompared cancelObsoleteDot0LycStatIrqEdge
  rw [hlatch]
  dsimp only
  by_cases hkeep : (!p.statState.dot0LycStatIrqEdgePending ||
      { p with
        lyc := value
        statState := { p.statState with lycCompareLatch := latch }
        }.lycCoincidenceForIrqLine) = true
  · rw [if_pos hkeep]
    exact .inr rfl
  · rw [Bool.or_eq_true, not_or, Bool.not_eq_true', Bool.not_eq_false] at hkeep
    exact .inl (.inr (.inl hkeep.1))

/-- An edge of line 153 that is not obsolete is left as it is. -/
theorem cancelObsoleteLine153_eq (h : p.cancelObsoleteLine153Lyc0StatIrqPretrigger.2 = false) :
    p.cancelObsoleteLine153Lyc0StatIrqPretrigger.1 = p := by
  unfold cancelObsoleteLine153Lyc0StatIrqPretrigger at h ⊢
  split at h
  · next hkeep => rw [if_pos hkeep]
  · cases h

theorem line153_of_obsolete
    (h : p.cancelObsoleteLine153Lyc0StatIrqPretrigger.2 = true) :
    p.statState.line153Lyc0StatIrqPretriggerPending = true ∧
      p.line153Lyc0StatIrqPretriggerSource = false := by
  unfold cancelObsoleteLine153Lyc0StatIrqPretrigger at h
  split at h
  · cases h
  · next hkeep =>
      rw [Bool.or_eq_true, not_or, Bool.not_eq_true', Bool.not_eq_false, Bool.not_eq_true] at hkeep
      exact hkeep

/-- An edge of line 153 that a refresh has just found is not obsolete. -/
theorem line153_of_refresh_obsolete
    (h : p.refreshStatIrqLine.cancelObsoleteLine153Lyc0StatIrqPretrigger.2 = true) :
    p.statState.line153Lyc0StatIrqPretriggerPending = true := by
  obtain ⟨hflag, hsource⟩ := line153_of_obsolete h
  obtain ⟨request, irqLine, dot0, line153, heq⟩ := p.refreshStatIrqLine_withLine
  have hgone : p.line153Lyc0StatIrqPretriggerSource = false := by
    rw [heq] at hsource
    exact hsource
  rcases p.refreshStatIrqLine_spec.2.2.2 hflag with ⟨-, hstill⟩ | hheld
  · exact absurd (hgone.symm.trans hstill) Bool.false_ne_true
  · exact hheld

theorem raises_writeLyc {value : U8} (h : (p.writeLyc value).Armed) :
    p.Armed ∨ p.Raises (p.writeLyc value) := by
  by_cases hlcd : p.lcdEnabled = true
  · rw [writeLyc_of_enabled hlcd] at h ⊢
    cases hobsolete :
        (p.lycCompared value).refreshStatIrqLine.cancelObsoleteLine153Lyc0StatIrqPretrigger.2 with
    | true => exact .inl (lycCompared_armed (.inr (.inr (line153_of_refresh_obsolete hobsolete))))
    | false =>
        rw [cancelObsoleteLine153_eq hobsolete] at h ⊢
        rcases raises_refreshStatIrqLine h with harmed | hraises
        · exact .inl (lycCompared_armed harmed)
        · exact (lycCompared_line p value).imp_right fun hline =>
            ⟨hline.symm.trans hraises.low, hraises.pending⟩
  · unfold Ppu.writeLyc at h
    dsimp only at h
    rw [if_neg hlcd] at h
    exact .inl h

theorem lcdcWritten_line (p : Ppu) (value : U8) (source : PpuRegisterWriteSource) :
    (p.lcdcWritten value source).statState.irqLine = p.statState.irqLine ∧
    ((p.lcdcWritten value source).Armed → p.Armed) := by
  unfold lcdcWritten
  dsimp only
  have hflag : p.lcdStatRequest.pending = true ∨
      p.statState.dot0LycStatIrqEdgePending = true ∨ false = true → p.Armed := by
    rintro (hpending | hdot0 | hno)
    · exact .inl hpending
    · exact .inr (.inl hdot0)
    · cases hno
  cases p.lcdEnabled || p.lcdEnablePendingDelayTCycles != 0 with
  | true =>
      cases lcdSwitchedOn value with
      | true => exact ⟨rfl, id⟩
      | false => exact ⟨rfl, hflag⟩
  | false =>
      cases lcdSwitchedOn value with
      | true =>
          cases source with
          | cpuMmioCommit => exact ⟨rfl, id⟩
          | immediate => exact ⟨rfl, hflag⟩
      | false => exact ⟨rfl, id⟩

theorem applyBootPhase_armed (p : Ppu) (phase : BootPhase) :
    (p.applyBootPhase phase).Armed ↔ p.Armed := by
  cases phase with
  | dmgRealBootPowerOnLcdEnable | dmgRealBootHandoffStatIrq | dmgSkipBootStatIrqStartup
  | dmg0DirectBootHandoffStat | cgbCustomBootEntry | cgbBootHandoffRasterCorrection =>
      unfold applyBootPhase
      dsimp only
      split
      · exact Iff.rfl
      · exact Iff.rfl

/-- Only from a low line does an event request an interrupt. -/
theorem raises_step {event : Event} (h : (p.step event).Armed) :
    p.Armed ∨ p.Raises (p.step event) := by
  cases event with
  | tick latched mode0 => exact raises_tick h
  | writeLcdc value source mode0 =>
      obtain ⟨hline, harmed⟩ := lcdcWritten_line p value source
      exact (raises_refreshStatIrqLine h).imp harmed fun hraises =>
        ⟨hline ▸ hraises.low, hraises.pending⟩
  | writeStat value => exact raises_writeStat h
  | writeLyc value => exact raises_writeLyc h
  | writeScx value mode0 => exact .inl h
  | other mode0 => exact .inl h
  | operatingMode mode => exact .inl h
  | bootPhase phase => exact .inl ((applyBootPhase_armed p phase).mp h)
  | takeRequests =>
      rcases h with h | h | h
      · cases h
      · cases h
      · cases h

/-- STAT blocking: once requests have been taken, the event that raises the next finds the line
low. -/
theorem raises_run (h : ¬ p.Armed) (events : List Event) (harmed : (run events p).Armed) :
    ∃ before event after, events = before ++ event :: after ∧ ¬ (run before p).Armed ∧
      (run before p).Raises ((run before p).step event) := by
  induction events generalizing p with
  | nil => exact absurd harmed h
  | cons event events ih =>
      by_cases hstep : (p.step event).Armed
      · exact ⟨[], event, events, rfl, h, (raises_step hstep).resolve_left h⟩
      · obtain ⟨before, raising, after, hevents, hquiet, hraises⟩ := ih hstep harmed
        refine ⟨event :: before, raising, after, ?_, hquiet, hraises⟩
        rw [hevents, List.cons_append]

theorem not_armed_takePendingInterruptRequests (p : Ppu) :
    ¬ p.takePendingInterruptRequests.Armed := by
  rintro (h | h | h)
  · cases h
  · cases h
  · cases h

/-! ### How long a request lasts -/

/-- A `STAT` write withdraws the request of the `LYC` 0 comparison of line 153 when the line no
longer has that source, unless the write requests an interrupt of its own. -/
def statWriteWithdraws (p : Ppu) (value : U8) : Bool :=
  { p with statInterruptEnable := value &&& statWritableEnableMask
    }.cancelObsoleteLine153Lyc0StatIrqPretrigger.2 &&
  !((p.statStored value).statWriteQuirkActiveForWrite ||
    (p.statWritten value).writeRequestsOrdinaryEdge)

/-- An `LYC` write withdraws the request of the comparison at dot 0 when the line is low after it,
and the request of line 153 when that source is gone. -/
def lycWriteWithdraws (p : Ppu) (value : U8) : Bool :=
  p.lcdEnabled &&
    ({ p with lyc := value }.updateLycCompareLatch.cancelObsoleteDot0LycStatIrqEdge.2 &&
        !(p.lycCompared value).computeStatIrqLine false ||
      (p.lycCompared value).refreshStatIrqLine.cancelObsoleteLine153Lyc0StatIrqPretrigger.2)

def withdraws (p : Ppu) : Event → Bool
  | .writeStat value => p.statWriteWithdraws value
  | .writeLyc value => p.lycWriteWithdraws value
  | _ => false

/-- No event of a run takes or withdraws the request. -/
def Untouched : Ppu → List Event → Prop
  | _, [] => True
  | p, event :: events =>
      event ≠ .takeRequests ∧ p.withdraws event = false ∧ Untouched (p.step event) events

theorem pending_tick {latched mode0 : Nat} (h : p.lcdStatRequest.pending = true) :
    (p.tick latched mode0).lcdStatRequest.pending = true := by
  unfold Ppu.tick
  split
  · exact pending_tickEnabled h
  · split
    · exact h
    · dsimp only
      split
      · exact pending_refreshStatIrqLine (by exact h)
      · split
        · exact pending_tickEnabled (pending_refreshStatIrqLine (by exact h))
        · exact h

theorem pending_writeStat {value : U8} (h : p.lcdStatRequest.pending = true)
    (hkept : p.statWriteWithdraws value = false) :
    (p.writeStat value).lcdStatRequest.pending = true := by
  have hwritten : (p.statWritten value).statState.irqLine =
        (p.statStored value).statState.irqLine ∧
      (p.statWritten value).lcdStatRequest = (p.statStored value).lcdStatRequest := ⟨rfl, rfl⟩
  unfold statWriteWithdraws at hkept
  unfold Ppu.writeStat
  dsimp only
  cases hobsolete : { p with statInterruptEnable := value &&& statWritableEnableMask
      }.cancelObsoleteLine153Lyc0StatIrqPretrigger.2 with
  | true =>
      -- the line is low now, so a request of the write itself is queued
      have hlow : (p.statStored value).statState.irqLine = false := by
        unfold statStored
        dsimp only
        rw [if_pos hobsolete]
        rfl
      rw [hobsolete, Bool.true_and, Bool.not_eq_false'] at hkept
      rw [if_pos]
      · rfl
      · rw [hwritten.1, hlow, hkept]
        rfl
  | false =>
      have hstored : (p.statStored value).lcdStatRequest.pending = true := by
        unfold statStored
        dsimp only
        rw [if_neg (by rw [hobsolete]; exact Bool.false_ne_true)]
        rw [cancelObsoleteLine153_eq hobsolete]
        exact h
      split
      · rfl
      · exact hwritten.2 ▸ hstored

theorem pending_writeLyc {value : U8} (h : p.lcdStatRequest.pending = true)
    (hkept : p.lycWriteWithdraws value = false) :
    (p.writeLyc value).lcdStatRequest.pending = true := by
  by_cases hlcd : p.lcdEnabled = true
  · rw [writeLyc_of_enabled hlcd]
    rw [lycWriteWithdraws, Bool.and_eq_false_iff] at hkept
    obtain ⟨hdot0, hline153⟩ :=
      Bool.or_eq_false_iff.mp (hkept.resolve_left (by simp [hlcd]))
    have hrefreshed : (p.lycCompared value).refreshStatIrqLine.lcdStatRequest.pending = true := by
      rw [(p.lycCompared value).refreshStatIrqLine_spec.2.1]
      obtain ⟨latch, hlatch⟩ := updateLycCompareLatch_eq { p with lyc := value }
      cases hobsolete :
          { p with lyc := value }.updateLycCompareLatch.cancelObsoleteDot0LycStatIrqEdge.2 with
      | true =>
          rw [hobsolete, Bool.true_and, Bool.not_eq_false'] at hdot0
          have hlow : (p.lycCompared value).statState.irqLine = false := by
            unfold lycCompared
            dsimp only
            rw [if_pos hobsolete]
            rfl
          rw [rises, hlow, hdot0]
          exact Bool.or_true _
      | false =>
          have hcompared : (p.lycCompared value).lcdStatRequest.pending = true := by
            unfold lycCompared
            dsimp only
            rw [if_neg (by rw [hobsolete]; exact Bool.false_ne_true)]
            rw [hlatch] at hobsolete ⊢
            unfold cancelObsoleteDot0LycStatIrqEdge at hobsolete ⊢
            split at hobsolete
            · next hkeep =>
                rw [if_pos hkeep]
                exact h
            · cases hobsolete
          rw [hcompared, Bool.true_or]
    rw [cancelObsoleteLine153_eq hline153]
    exact hrefreshed
  · unfold Ppu.writeLyc
    dsimp only
    rw [if_neg hlcd]
    exact h

theorem pending_writeLcdc {value : U8} {source : PpuRegisterWriteSource} {mode0 : Nat}
    (h : p.lcdStatRequest.pending = true) :
    (p.writeLcdc value source mode0).lcdStatRequest.pending = true := by
  apply pending_refreshStatIrqLine
  show (p.lcdcWritten value source).lcdStatRequest.pending = true
  unfold lcdcWritten
  dsimp only
  cases p.lcdEnabled || p.lcdEnablePendingDelayTCycles != 0 with
  | true =>
      cases lcdSwitchedOn value with
      | true => exact h
      | false => exact h
  | false =>
      cases lcdSwitchedOn value with
      | true =>
          cases source with
          | cpuMmioCommit => exact h
          | immediate => exact h
      | false => exact h

theorem pending_applyBootPhase {phase : BootPhase} (h : p.lcdStatRequest.pending = true) :
    (p.applyBootPhase phase).lcdStatRequest.pending = true := by
  cases phase with
  | dmgRealBootPowerOnLcdEnable | dmgRealBootHandoffStatIrq | dmgSkipBootStatIrqStartup
  | dmg0DirectBootHandoffStat | cgbCustomBootEntry | cgbBootHandoffRasterCorrection =>
      unfold applyBootPhase
      dsimp only
      split
      · exact h
      · exact h

theorem pending_step {event : Event} (h : p.lcdStatRequest.pending = true)
    (htake : event ≠ .takeRequests) (hkept : p.withdraws event = false) :
    (p.step event).lcdStatRequest.pending = true := by
  cases event with
  | tick latched mode0 => exact pending_tick h
  | writeLcdc value source mode0 => exact pending_writeLcdc h
  | writeStat value => exact pending_writeStat h hkept
  | writeLyc value => exact pending_writeLyc h hkept
  | writeScx value mode0 => exact h
  | other mode0 => exact h
  | operatingMode mode => exact h
  | bootPhase phase => exact pending_applyBootPhase h
  | takeRequests => exact absurd rfl htake

theorem pending_run (h : p.lcdStatRequest.pending = true) {events : List Event}
    (huntouched : Untouched p events) : (run events p).lcdStatRequest.pending = true := by
  induction events generalizing p with
  | nil => exact h
  | cons event events ih =>
      obtain ⟨htake, hkept, hrest⟩ := huntouched
      exact ih (pending_step h htake hkept) hrest

theorem pending_of_refresh_rising (hlow : p.statState.irqLine = false)
    (hhigh : p.refreshStatIrqLine.statState.irqLine = true) :
    p.refreshStatIrqLine.lcdStatRequest.pending = true := by
  obtain ⟨hline, hpending, -, -⟩ := p.refreshStatIrqLine_spec
  rw [hline] at hhigh
  rw [hpending, rises, hlow, hhigh]
  exact Bool.or_true _

theorem pending_of_tickEnabled_rising {latched mode0 : Nat} (hlow : p.statState.irqLine = false)
    (hhigh : (p.tickEnabled latched mode0).statState.irqLine = true) :
    (p.tickEnabled latched mode0).lcdStatRequest.pending = true := by
  obtain ⟨-, -, -, -, hline, -, -⟩ := tickRaster_fields p latched mode0
  exact pending_of_refresh_rising (hline.trans hlow) hhigh

/-- A tick that raises the line requests an interrupt. -/
theorem pending_of_rising_tick {latched mode0 : Nat} (hlow : p.statState.irqLine = false)
    (hhigh : (p.tick latched mode0).statState.irqLine = true) :
    (p.tick latched mode0).lcdStatRequest.pending = true := by
  unfold Ppu.tick at hhigh ⊢
  split at hhigh
  · next hon =>
      rw [if_pos hon]
      exact pending_of_tickEnabled_rising hlow hhigh
  · next hoff =>
      rw [if_neg hoff]
      split at hhigh
      · exact absurd (hlow.symm.trans hhigh) Bool.false_ne_true
      · next hzero =>
          rw [if_neg hzero]
          dsimp only at hhigh ⊢
          split at hhigh
          · next htwo =>
              rw [if_pos htwo]
              exact pending_of_refresh_rising hlow hhigh
          · next htwo =>
              rw [if_neg htwo]
              split at hhigh
              · next hone =>
                  rw [if_pos hone]
                  generalize hrestarted : ({ { p with
                      lcdEnablePendingDelayTCycles := p.lcdEnablePendingDelayTCycles - 1
                      }.enterLcdEnabledRestartState with pipelineMode0StartDot := latched } : Ppu)
                    = restarted at hhigh ⊢
                  have hstart : restarted.statState.irqLine = false := by
                    rw [← hrestarted]
                    exact hlow
                  cases hfirst : restarted.refreshStatIrqLine.statState.irqLine with
                  | true => exact pending_tickEnabled (pending_of_refresh_rising hstart hfirst)
                  | false => exact pending_of_tickEnabled_rising hfirst hhigh
              · exact absurd (hlow.symm.trans hhigh) Bool.false_ne_true

/-- A request is withdrawn only if its edge was one of line 153, or if the line is low after the
write that withdraws it. -/
theorem line_of_withdraws {event : Event} (h : p.withdraws event = true) :
    p.statState.line153Lyc0StatIrqPretriggerPending = true ∨
      p.statState.dot0LycStatIrqEdgePending = true ∧ (p.step event).statState.irqLine = false := by
  cases event with
  | tick | writeLcdc | writeScx | other | operatingMode | bootPhase | takeRequests => cases h
  | writeStat value =>
      rw [withdraws, statWriteWithdraws, Bool.and_eq_true] at h
      exact .inl (line153_of_obsolete h.1).1
  | writeLyc value =>
      rw [withdraws, lycWriteWithdraws, Bool.and_eq_true, Bool.or_eq_true, Bool.and_eq_true] at h
      obtain ⟨hlcd, ⟨hobsolete, hlow⟩ | hobsolete⟩ := h
      · right
        obtain ⟨request, dot0, line153, heq⟩ := writeLyc_withLine hlcd value
        obtain ⟨latch, hlatch⟩ := updateLycCompareLatch_eq { p with lyc := value }
        refine ⟨?_, ?_⟩
        · rw [hlatch] at hobsolete
          unfold cancelObsoleteDot0LycStatIrqEdge at hobsolete
          split at hobsolete
          · cases hobsolete
          · next hkeep =>
              rw [Bool.or_eq_true, not_or, Bool.not_eq_true', Bool.not_eq_false] at hkeep
              exact hkeep.1
        · rw [step, heq]
          exact Bool.not_eq_true' _ ▸ hlow
      · left
        obtain ⟨latch, r₁, l₁, d₁, hcompared⟩ := lycCompared_withLine p value
        have hheld := line153_of_refresh_obsolete hobsolete
        rw [hcompared] at hheld
        exact hheld

/-- The requests of the STAT line over any run.

An event that requests an interrupt finds the line low, when no request is pending and no flag of an
earlier edge is left; so does, after requests have been taken, the event that raises the next.  A
tick that raises the line requests an interrupt, and whatever raised a request, it stays over any
events that neither take nor withdraw it.  A write withdraws a request only if the edge was one
before the comparison of line 153 with `LYC` 0, or if it was the comparison at dot 0 and the line is
low after the write. -/
theorem statRequest_law (p : Ppu) (events : List Event) :
    (∀ event, ¬ p.Armed → (p.step event).lcdStatRequest.pending = true →
      p.statState.irqLine = false) ∧
    ((run events p.takePendingInterruptRequests).lcdStatRequest.pending = true →
      ∃ before event after, events = before ++ event :: after ∧
        ¬ (run before p.takePendingInterruptRequests).Armed ∧
        (run before p.takePendingInterruptRequests).statState.irqLine = false ∧
        ((run before p.takePendingInterruptRequests).step event).lcdStatRequest.pending = true) ∧
    (∀ latched mode0, p.statState.irqLine = false →
      (p.tick latched mode0).statState.irqLine = true →
      (p.tick latched mode0).lcdStatRequest.pending = true) ∧
    (p.lcdStatRequest.pending = true → Untouched p events →
      (run events p).lcdStatRequest.pending = true) ∧
    (∀ event, p.withdraws event = true →
      p.statState.line153Lyc0StatIrqPretriggerPending = true ∨
        p.statState.dot0LycStatIrqEdgePending = true ∧
          (p.step event).statState.irqLine = false) := by
  refine ⟨?_, ?_, fun latched mode0 => pending_of_rising_tick, fun h => pending_run h,
    fun event => line_of_withdraws⟩
  · intro event hquiet hpending
    exact ((raises_step (.inl hpending)).resolve_left hquiet).low
  · intro hpending
    obtain ⟨before, event, after, hevents, hquiet, hraises⟩ :=
      raises_run p.not_armed_takePendingInterruptRequests events (.inl hpending)
    exact ⟨before, event, after, hevents, hquiet, hraises.low, hraises.pending⟩

end Ppu

end GbCycle
