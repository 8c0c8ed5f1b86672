import GbCycle.Ppu.StatLineLaws

/-!
# The raster over runs

The dot counter stays below the length of its line and the line counter below 154, whatever is
written.  While the LCD stays on a tick is one dot of a frame of `456 × 154`, so lines, frames and
VBlank requests come at fixed distances.  The first line after an enable is eight dots short: it
runs as if it had started at dot 8.
-/

namespace GbCycle

def dotsPerFrame : Nat := dotsPerScanline * totalScanlines

namespace Ppu

variable {p : Ppu}

/-! ## The counters stay in the frame -/

structure InFrame (p : Ppu) : Prop where
  ly : p.ly < totalScanlines
  dot : p.lineDot < p.currentScanlineLength

theorem currentScanlineLength_pos (p : Ppu) : 0 < p.currentScanlineLength := by
  unfold currentScanlineLength
  split <;> decide

theorem advance_isFirstLineAfterEnableActive (phase : PpuLcdRestartPhase) (ly : Nat) :
    (phase.advance ly).isFirstLineAfterEnableActive ly = phase.isFirstLineAfterEnableActive ly := by
  unfold PpuLcdRestartPhase.advance
  split
  · rfl
  · next hinactive =>
      rw [Bool.not_eq_true] at hinactive
      rw [hinactive]
      rfl

/-- What the raster does in a tick: a dot further, or to the start of the next line. -/
theorem advanceRaster_cases (p : Ppu) (mode0 : Nat) :
    (p.lineDot + 1 ≠ p.currentScanlineLength ∧
      (p.advanceRaster mode0).ly = p.ly ∧ (p.advanceRaster mode0).lineDot = p.lineDot + 1 ∧
      (p.advanceRaster mode0).lcdRestartPhase = p.lcdRestartPhase.advance p.ly) ∨
    (p.lineDot + 1 = p.currentScanlineLength ∧
      (p.advanceRaster mode0).ly = (if p.ly + 1 = totalScanlines then 0 else p.ly + 1) ∧
      (p.advanceRaster mode0).lineDot = 0 ∧
      (p.advanceRaster mode0).lcdRestartPhase = (p.lcdRestartPhase.advance p.ly).advance
        (if p.ly + 1 = totalScanlines then 0 else p.ly + 1)) := by
  have hlength : { p with
        startupModeLatch := none
        lineDot := p.lineDot + 1
        lcdRestartPhase := p.lcdRestartPhase.advance p.ly
        pipelineMode0StartDot := mode0 }.currentScanlineLength = p.currentScanlineLength := by
    unfold currentScanlineLength isRestartFirstLineActive
    dsimp only
    rw [advance_isFirstLineAfterEnableActive]
  unfold advanceRaster publishRaster
  dsimp only
  rw [hlength]
  by_cases hend : p.lineDot + 1 = p.currentScanlineLength
  · rw [if_pos hend]
    exact .inr ⟨hend, rfl, rfl, rfl⟩
  · rw [if_neg hend]
    exact .inl ⟨hend, rfl, rfl, rfl⟩

theorem advanceRaster_rest (p : Ppu) (mode0 : Nat) :
    (p.advanceRaster mode0).lcdEnabled = p.lcdEnabled ∧
    (p.advanceRaster mode0).startupModeLatch = none ∧
    (p.advanceRaster mode0).vBlankRequest = p.vBlankRequest := by
  unfold advanceRaster publishRaster
  dsimp only
  split
  · exact ⟨rfl, rfl, rfl⟩
  · exact ⟨rfl, rfl, rfl⟩

theorem tickRaster_eq (p : Ppu) (latched mode0 : Nat) :
    p.tickRaster latched mode0 =
      { p.advanceRaster mode0 with
        vBlankRequest :=
          if { p with pipelineMode0StartDot := latched }.currentAccessMode !=
                PpuAccessMode.vBlank &&
              (p.advanceRaster mode0).currentAccessMode == PpuAccessMode.vBlank then
            PendingRequest.queue false
          else (p.advanceRaster mode0).vBlankRequest }.updateLycCompareLatch := rfl

/-- What a tick with the LCD on does to the raster and to the VBlank request. -/
theorem tickEnabled_raster (p : Ppu) (latched mode0 : Nat) :
    (p.tickEnabled latched mode0).ly = (p.advanceRaster mode0).ly ∧
    (p.tickEnabled latched mode0).lineDot = (p.advanceRaster mode0).lineDot ∧
    (p.tickEnabled latched mode0).lcdRestartPhase = (p.advanceRaster mode0).lcdRestartPhase ∧
    (p.tickEnabled latched mode0).startupModeLatch = none ∧
    (p.tickEnabled latched mode0).vBlankRequest =
      (if { p with pipelineMode0StartDot := latched }.currentAccessMode != .vBlank &&
          (p.advanceRaster mode0).currentAccessMode == .vBlank then .queue false
      else p.vBlankRequest) := by
  obtain ⟨request, irqLine, dot0, line153, hrefresh⟩ :=
    (p.tickRaster latched mode0).refreshStatIrqLine_withLine
  obtain ⟨-, hnone, hvblank⟩ := advanceRaster_rest p mode0
  rw [tickEnabled, hrefresh, tickRaster_eq, hvblank]
  generalize (if { p with pipelineMode0StartDot := latched }.currentAccessMode != .vBlank &&
    (p.advanceRaster mode0).currentAccessMode == .vBlank then PendingRequest.queue false
    else p.vBlankRequest) = vblank
  obtain ⟨latch, hlatch⟩ := updateLycCompareLatch_eq
    { p.advanceRaster mode0 with vBlankRequest := vblank }
  rw [hlatch]
  exact ⟨rfl, rfl, rfl, hnone, rfl⟩

theorem InFrame.of_same {q : Ppu} (h : p.InFrame) (hly : q.ly = p.ly)
    (hdot : q.lineDot = p.lineDot) (hphase : q.lcdRestartPhase = p.lcdRestartPhase) :
    q.InFrame := by
  have hlength : q.currentScanlineLength = p.currentScanlineLength := by
    unfold currentScanlineLength isRestartFirstLineActive
    rw [hphase, hly]
  refine ⟨hly ▸ h.ly, ?_⟩
  rw [hlength, hdot]
  exact h.dot

theorem InFrame.advanceRaster (h : p.InFrame) (mode0 : Nat) :
    (p.advanceRaster mode0).InFrame := by
  have hin := h.ly
  have hbelow := h.dot
  rcases advanceRaster_cases p mode0 with ⟨hne, hly, hdot, hphase⟩ | ⟨-, hly, hdot, -⟩
  · refine ⟨hly ▸ hin, ?_⟩
    have hlength : (p.advanceRaster mode0).currentScanlineLength = p.currentScanlineLength := by
      unfold currentScanlineLength isRestartFirstLineActive
      rw [hphase, hly, advance_isFirstLineAfterEnableActive]
    rw [hlength, hdot]
    omega
  · constructor
    · rw [hly]
      split
      · decide
      · omega
    · rw [hdot]
      exact currentScanlineLength_pos _

theorem InFrame.tickEnabled (h : p.InFrame) (latched mode0 : Nat) :
    (p.tickEnabled latched mode0).InFrame := by
  obtain ⟨hly, hdot, hphase, -, -⟩ := tickEnabled_raster p latched mode0
  exact (h.advanceRaster mode0).of_same hly hdot hphase

theorem InFrame.refreshStatIrqLine (h : p.InFrame) : p.refreshStatIrqLine.InFrame := by
  obtain ⟨request, irqLine, dot0, line153, heq⟩ := p.refreshStatIrqLine_withLine
  rw [heq]
  exact h.of_same rfl rfl rfl

theorem inFrame_enterLcdEnabledRestartState (p : Ppu) :
    p.enterLcdEnabledRestartState.InFrame := by
  constructor
  · show 0 < totalScanlines
    decide
  · show (if p.dmgRealBootPowerOnLcdEnablePhaseActive then
        dmgRealBootPowerOnLcdEnableInitialLineDot else lcdReenableInitialLineDot) <
      lcdReenableLine0TotalDots
    split <;> decide

theorem InFrame.tick (h : p.InFrame) (latched mode0 : Nat) : (p.tick latched mode0).InFrame := by
  unfold Ppu.tick
  split
  · exact h.tickEnabled latched mode0
  · split
    · exact h
    · dsimp only
      have hwaited : { p with
          lcdEnablePendingDelayTCycles := p.lcdEnablePendingDelayTCycles - 1 }.InFrame :=
        h.of_same rfl rfl rfl
      split
      · exact hwaited.refreshStatIrqLine
      · split
        · have hrestarted : { { p with
              lcdEnablePendingDelayTCycles := p.lcdEnablePendingDelayTCycles - 1
              }.enterLcdEnabledRestartState with pipelineMode0StartDot := latched }.InFrame :=
            (inFrame_enterLcdEnabledRestartState _).of_same rfl rfl rfl
          exact hrestarted.refreshStatIrqLine.tickEnabled latched mode0
        · exact hwaited

theorem InFrame.lcdcWritten (h : p.InFrame) (value : U8) (source : PpuRegisterWriteSource) :
    (p.lcdcWritten value source).InFrame := by
  unfold Ppu.lcdcWritten
  dsimp only
  cases p.lcdEnabled || p.lcdEnablePendingDelayTCycles != 0 with
  | true =>
      cases lcdSwitchedOn value with
      | true => exact h.of_same rfl rfl rfl
      | false =>
          constructor
          · show 0 < totalScanlines
            decide
          · exact currentScanlineLength_pos _
  | false =>
      cases lcdSwitchedOn value with
      | true =>
          cases source with
          | cpuMmioCommit => exact h.of_same rfl rfl rfl
          | immediate => exact (inFrame_enterLcdEnabledRestartState _)
      | false => exact h.of_same rfl rfl rfl

/-- A `STAT` or `LYC` write leaves the raster and the VBlank request alone. -/
theorem writeStat_raster (p : Ppu) (value : U8) :
    (p.writeStat value).ly = p.ly ∧ (p.writeStat value).lineDot = p.lineDot ∧
    (p.writeStat value).lcdRestartPhase = p.lcdRestartPhase ∧
    (p.writeStat value).lcdEnabled = p.lcdEnabled ∧
    (p.writeStat value).startupModeLatch = p.startupModeLatch := by
  obtain ⟨r₁, l₁, d₁, e₁, hstored⟩ := statStored_withLine p value
  obtain ⟨r₂, d₂, e₂, heq⟩ := writeStat_withLine p value
  rw [heq]
  generalize ((p.statWritten value).ordinaryStatIrqLine ||
    (p.statStored value).statWriteQuirkActiveForWrite) = line
  unfold statWritten
  rw [hstored]
  exact ⟨rfl, rfl, rfl, rfl, rfl⟩

theorem writeLyc_raster (p : Ppu) (value : U8) :
    (p.writeLyc value).ly = p.ly ∧ (p.writeLyc value).lineDot = p.lineDot ∧
    (p.writeLyc value).lcdRestartPhase = p.lcdRestartPhase ∧
    (p.writeLyc value).lcdEnabled = p.lcdEnabled ∧
    (p.writeLyc value).startupModeLatch = p.startupModeLatch := by
  by_cases hlcd : p.lcdEnabled = true
  · obtain ⟨request, dot0, line153, heq⟩ := writeLyc_withLine hlcd value
    obtain ⟨latch, r, l, d, hcompared⟩ := lycCompared_withLine p value
    rw [heq, hcompared]
    exact ⟨rfl, rfl, rfl, rfl, rfl⟩
  · unfold Ppu.writeLyc
    dsimp only
    rw [if_neg hlcd]
    exact ⟨rfl, rfl, rfl, rfl, rfl⟩

/-- The correction at the end of the boot ROM stays in its line, as its assertion says. -/
def Corrects (p : Ppu) : Event → Prop
  | .bootPhase (.cgbBootHandoffRasterCorrection tCycles) =>
      p.lineDot + tCycles < p.currentScanlineLength
  | _ => True

theorem InFrame.applyBootPhase (h : p.InFrame) (phase : BootPhase)
    (hcorrects : p.Corrects (.bootPhase phase)) : (p.applyBootPhase phase).InFrame := by
  cases phase with
  | dmgRealBootPowerOnLcdEnable | dmgRealBootHandoffStatIrq | dmgSkipBootStatIrqStartup
  | dmg0DirectBootHandoffStat =>
      unfold Ppu.applyBootPhase
      dsimp only
      split
      · exact h.of_same rfl rfl rfl
      · exact h
  | cgbCustomBootEntry =>
      unfold Ppu.applyBootPhase
      dsimp only
      split
      · constructor
        · show visibleScanlines < totalScanlines
          decide
        · show cgbBootEntryLineDot < if _ then lcdReenableLine0TotalDots else dotsPerScanline
          split <;> decide
      · exact h
  | cgbBootHandoffRasterCorrection tCycles =>
      unfold Ppu.applyBootPhase
      dsimp only
      split
      · exact h
      · have hcorrects : p.lineDot + tCycles < p.currentScanlineLength := hcorrects
        refine ⟨h.ly, ?_⟩
        show (p.lineDot + tCycles) % 2 ^ 16 < p.currentScanlineLength
        exact lt_of_le_of_lt (Nat.mod_le _ _) hcorrects

theorem InFrame.step (h : p.InFrame) (event : Event) (hcorrects : p.Corrects event) :
    (p.step event).InFrame := by
  cases event with
  | tick latched mode0 => exact h.tick latched mode0
  | writeLcdc value source mode0 =>
      have hwritten : { p.lcdcWritten value source with pipelineMode0StartDot := mode0 }.InFrame :=
        (h.lcdcWritten value source).of_same rfl rfl rfl
      exact hwritten.refreshStatIrqLine
  | writeStat value =>
      obtain ⟨hly, hdot, hphase, -, -⟩ := writeStat_raster p value
      exact h.of_same hly hdot hphase
  | writeLyc value =>
      obtain ⟨hly, hdot, hphase, -, -⟩ := writeLyc_raster p value
      exact h.of_same hly hdot hphase
  | writeScx value mode0 => exact h.of_same rfl rfl rfl
  | other mode0 => exact h.of_same rfl rfl rfl
  | operatingMode mode => exact h.of_same rfl rfl rfl
  | bootPhase phase => exact h.applyBootPhase phase hcorrects
  | takeRequests => exact h.of_same rfl rfl rfl

/-- All corrections of a run stay in their line. -/
def AllCorrect : Ppu → List Event → Prop
  | _, [] => True
  | p, event :: events => p.Corrects event ∧ AllCorrect (p.step event) events

def Event.isCorrection : Event → Bool
  | .bootPhase (.cgbBootHandoffRasterCorrection _) => true
  | _ => false

/-- Only the corrections have anything to meet. -/
theorem allCorrect_of_noCorrection {events : List Event}
    (h : ∀ event ∈ events, event.isCorrection = false) : AllCorrect p events := by
  induction events generalizing p with
  | nil => trivial
  | cons event events ih =>
      refine ⟨?_, ih fun other hmem => h other (List.mem_cons_of_mem _ hmem)⟩
      have hno := h event List.mem_cons_self
      cases event with
      | bootPhase phase =>
          cases phase with
          | cgbBootHandoffRasterCorrection tCycles => cases hno
          | dmgRealBootPowerOnLcdEnable | dmgRealBootHandoffStatIrq | dmgSkipBootStatIrqStartup
          | dmg0DirectBootHandoffStat | cgbCustomBootEntry => trivial
      | tick | writeLcdc | writeStat | writeLyc | writeScx | other | operatingMode
      | takeRequests => trivial

theorem InFrame.run (h : p.InFrame) {events : List Event} (hcorrect : AllCorrect p events) :
    (Ppu.run events p).InFrame := by
  induction events generalizing p with
  | nil => exact h
  | cons event events ih => exact ih (h.step event hcorrect.1) hcorrect.2

/-- The LCD is switched on and scans its short first line and two dots of the next. -/
def switchedOnLine : List Event :=
  .writeLcdc 0x80 .immediate 252 :: List.replicate 450 (.tick 252 252)

/-- The dot counter stays below the length of its line and the line counter below 154, over any
run of ticks and register writes from any startup state inside the frame. -/
theorem inFrame_run (h : Started p) (hstart : p.ly < totalScanlines) {events : List Event}
    (hcorrect : AllCorrect p events) :
    (Ppu.run events p).ly < totalScanlines ∧
      (Ppu.run events p).lineDot < (Ppu.run events p).currentScanlineLength := by
  have hframe : p.InFrame := by
    refine ⟨hstart, ?_⟩
    have hdot : p.lineDot = 0 := by
      cases h with
      | new => rfl
      | startup => rfl
    rw [hdot]
    exact currentScanlineLength_pos _
  obtain ⟨hly, hdot⟩ := hframe.run hcorrect
  exact ⟨hly, hdot⟩

theorem inFrame_run_next_line :
    (Ppu.run switchedOnLine (new .gameBoy)).ly = 1 ∧
    (Ppu.run switchedOnLine (new .gameBoy)).ly < totalScanlines ∧
      (Ppu.run switchedOnLine (new .gameBoy)).lineDot <
        (Ppu.run switchedOnLine (new .gameBoy)).currentScanlineLength :=
  ⟨by decide +kernel,
    inFrame_run (.new .gameBoy) (by decide) (allCorrect_of_noCorrection (by decide +kernel))⟩

/-! ## Positions in the frame -/

/-- The dots since the start of the frame.  The first line after an enable starts at dot 8. -/
def framePosition (p : Ppu) : Nat :=
  if p.isRestartFirstLineActive then p.lineDot + (dotsPerScanline - lcdReenableLine0TotalDots)
  else p.ly * dotsPerScanline + p.lineDot

/-- The LCD is on and no mode is left from a startup state. -/
structure Scanning (p : Ppu) : Prop extends InFrame p where
  on : p.lcdEnabled = true
  unlatched : p.startupModeLatch = none

theorem ly_of_isRestartFirstLineActive (h : p.isRestartFirstLineActive = true) : p.ly = 0 := by
  rw [isRestartFirstLineActive, PpuLcdRestartPhase.isFirstLineAfterEnableActive, Bool.and_eq_true,
    beq_iff_eq, beq_iff_eq] at h
  exact h.2

theorem currentScanlineLength_eq (p : Ppu) :
    p.currentScanlineLength =
      if p.isRestartFirstLineActive then lcdReenableLine0TotalDots else dotsPerScanline := rfl

/-- While the LCD is on the PPU is in VBlank on the lines from 144 on. -/
theorem Scanning.vBlank_iff (h : p.Scanning) (mode0 : Nat) :
    { p with pipelineMode0StartDot := mode0 }.currentAccessMode = .vBlank ↔
      visibleScanlines ≤ p.ly := by
  unfold currentAccessMode
  rw [h.on, h.unlatched]
  dsimp only
  rw [Bool.not_true, if_neg Bool.false_ne_true]
  unfold PpuLcdRestartPhase.rasterMode
  by_cases hfirst : p.isRestartFirstLineActive = true
  · have hly := ly_of_isRestartFirstLineActive hfirst
    rw [isRestartFirstLineActive] at hfirst
    rw [if_pos hfirst, hly]
    dsimp only
    constructor
    · intro hmode
      split at hmode
      · cases hmode
      · split at hmode
        · cases hmode
        · cases hmode
    · intro hvisible
      cases hvisible
  · rw [isRestartFirstLineActive] at hfirst
    rw [if_neg hfirst]
    dsimp only
    simp only [Option.isNone_none, Bool.true_and, Option.getD_none, decide_eq_true_eq]
    by_cases hvisible : visibleScanlines ≤ p.ly
    · rw [if_pos hvisible]
      exact iff_of_true rfl hvisible
    · rw [if_neg hvisible, accessModeFromRaster, if_neg hvisible]
      refine iff_of_false ?_ hvisible
      split
      · intro hmode
        cases hmode
      · split
        · intro hmode
          cases hmode
        · intro hmode
          cases hmode

/-- The line after another one is not the first line after an enable. -/
theorem not_first_of_next (phase : PpuLcdRestartPhase) (ly : Nat) :
    ((phase.advance ly).advance
      (if ly + 1 = totalScanlines then 0 else ly + 1)).isFirstLineAfterEnableActive
        (if ly + 1 = totalScanlines then 0 else ly + 1) = false := by
  rw [advance_isFirstLineAfterEnableActive]
  by_cases hlast : ly + 1 = totalScanlines
  · rw [if_pos hlast, PpuLcdRestartPhase.advance, if_neg]
    · rfl
    · rw [PpuLcdRestartPhase.isFirstLineAfterEnableActive, Bool.and_eq_true, beq_iff_eq,
        beq_iff_eq]
      rintro ⟨-, hly⟩
      rw [hly] at hlast
      cases hlast
  · rw [if_neg hlast, PpuLcdRestartPhase.isFirstLineAfterEnableActive, Bool.and_eq_false_iff]
    exact .inr (beq_eq_false_iff_ne.mpr (Nat.succ_ne_zero ly))

theorem framePosition_advanceRaster (h : p.InFrame) (mode0 : Nat) :
    (p.advanceRaster mode0).framePosition = (p.framePosition + 1) % dotsPerFrame := by
  have hly := h.ly
  have hdot := h.dot
  have hlength := currentScanlineLength_eq p
  have hframe : dotsPerFrame = totalScanlines * dotsPerScanline := rfl
  rcases advanceRaster_cases p mode0 with ⟨hne, hly', hdot', hphase⟩ | ⟨hend, hly', hdot', hphase⟩
  · have hfirst : (p.advanceRaster mode0).isRestartFirstLineActive =
        p.isRestartFirstLineActive := by
      rw [isRestartFirstLineActive, hphase, hly', advance_isFirstLineAfterEnableActive]
      rfl
    unfold framePosition
    rw [hfirst, hdot', hly']
    by_cases hactive : p.isRestartFirstLineActive = true
    · rw [if_pos hactive] at hlength
      rw [if_pos hactive, if_pos hactive, Nat.mod_eq_of_lt]
      · omega
      · simp only [hframe, dotsPerScanline, totalScanlines, lcdReenableLine0TotalDots]
          at hlength ⊢
        omega
    · rw [if_neg hactive] at hlength
      rw [if_neg hactive, if_neg hactive, Nat.mod_eq_of_lt, Nat.add_assoc]
      simp only [hframe, dotsPerScanline, totalScanlines] at hlength hly ⊢
      omega
  · have hfirst : (p.advanceRaster mode0).isRestartFirstLineActive = false := by
      rw [isRestartFirstLineActive, hphase, hly']
      exact not_first_of_next p.lcdRestartPhase p.ly
    unfold framePosition
    rw [hfirst, if_neg Bool.false_ne_true, hdot', hly', Nat.add_zero]
    by_cases hactive : p.isRestartFirstLineActive = true
    · have hzero := ly_of_isRestartFirstLineActive hactive
      rw [if_pos hactive] at hlength ⊢
      rw [hzero, if_neg (by decide), Nat.mod_eq_of_lt]
      · simp only [dotsPerScanline, lcdReenableLine0TotalDots] at hlength ⊢
        omega
      · simp only [hframe, dotsPerScanline, totalScanlines, lcdReenableLine0TotalDots]
          at hlength ⊢
        omega
    · rw [if_neg hactive] at hlength ⊢
      by_cases hlast : p.ly + 1 = totalScanlines
      · have hall : p.ly * dotsPerScanline + p.lineDot + 1 = dotsPerFrame := by
          simp only [hframe, dotsPerScanline, totalScanlines] at hlength hlast ⊢
          omega
        rw [if_pos hlast, hall, Nat.mod_self, Nat.zero_mul]
      · rw [if_neg hlast, Nat.mod_eq_of_lt]
        · simp only [dotsPerScanline] at hlength ⊢
          omega
        · simp only [hframe, dotsPerScanline, totalScanlines] at hlength hlast hly ⊢
          omega

theorem framePosition_tickEnabled (p : Ppu) (latched mode0 : Nat) :
    (p.tickEnabled latched mode0).framePosition = (p.advanceRaster mode0).framePosition := by
  obtain ⟨hly, hdot, hphase, -, -⟩ := tickEnabled_raster p latched mode0
  unfold framePosition isRestartFirstLineActive
  rw [hly, hdot, hphase]

/-- Line 144 begins where VBlank does. -/
theorem framePosition_eq_vBlank (h : p.InFrame) :
    p.framePosition = visibleScanlines * dotsPerScanline ↔
      p.ly = visibleScanlines ∧ p.lineDot = 0 := by
  have hdot := h.dot
  have hlength := currentScanlineLength_eq p
  unfold framePosition
  by_cases hactive : p.isRestartFirstLineActive = true
  · have hzero := ly_of_isRestartFirstLineActive hactive
    rw [if_pos hactive] at hlength ⊢
    simp only [hzero, visibleScanlines, dotsPerScanline, lcdReenableLine0TotalDots] at hlength ⊢
    omega
  · rw [if_neg hactive] at hlength ⊢
    simp only [visibleScanlines, dotsPerScanline] at hlength ⊢
    omega

/-- The raster enters VBlank where line 144 begins. -/
theorem entersVBlank_iff (h : p.InFrame) (mode0 : Nat) :
    (¬ visibleScanlines ≤ p.ly ∧ visibleScanlines ≤ (p.advanceRaster mode0).ly) ↔
      (p.advanceRaster mode0).framePosition = visibleScanlines * dotsPerScanline := by
  rw [framePosition_eq_vBlank (h.advanceRaster mode0)]
  rcases advanceRaster_cases p mode0 with ⟨-, hly, hdot, -⟩ | ⟨-, hly, hdot, -⟩
  · rw [hly, hdot]
    omega
  · rw [hly, hdot]
    by_cases hlast : p.ly + 1 = totalScanlines
    · rw [if_pos hlast]
      simp [visibleScanlines]
    · rw [if_neg hlast]
      omega

/-- A tick is a dot of the frame, and the tick that reaches line 144 requests a VBlank. -/
theorem Scanning.tick (h : p.Scanning) (latched mode0 : Nat) :
    (p.tick latched mode0).Scanning ∧
    (p.tick latched mode0).framePosition = (p.framePosition + 1) % dotsPerFrame ∧
    (p.tick latched mode0).vBlankRequest =
      if (p.tick latched mode0).framePosition = visibleScanlines * dotsPerScanline then
        .queue false
      else p.vBlankRequest := by
  obtain ⟨hly, hdot, hphase, hlatch, hvblank⟩ := tickEnabled_raster p latched mode0
  obtain ⟨hon, hnone, -⟩ := advanceRaster_rest p mode0
  have hadvanced : (p.advanceRaster mode0).Scanning :=
    ⟨h.toInFrame.advanceRaster mode0, hon.trans h.on, hnone⟩
  rw [Ppu.tick, if_pos h.on]
  refine ⟨⟨h.toInFrame.tickEnabled latched mode0, ?_, hlatch⟩, ?_, ?_⟩
  · rw [tickEnabled_lcdEnabled, h.on]
  · rw [framePosition_tickEnabled, framePosition_advanceRaster h.toInFrame]
  · have hbefore := h.vBlank_iff latched
    have hafter : (p.advanceRaster mode0).currentAccessMode = .vBlank ↔
        visibleScanlines ≤ (p.advanceRaster mode0).ly :=
      hadvanced.vBlank_iff (p.advanceRaster mode0).pipelineMode0StartDot
    have henters : ({ p with pipelineMode0StartDot := latched }.currentAccessMode != .vBlank &&
          (p.advanceRaster mode0).currentAccessMode == .vBlank) = true ↔
        (p.advanceRaster mode0).framePosition = visibleScanlines * dotsPerScanline := by
      rw [Bool.and_eq_true, bne_iff_ne, beq_iff_eq, Ne, hbefore, hafter,
        entersVBlank_iff h.toInFrame]
    rw [hvblank, framePosition_tickEnabled]
    by_cases hentry : (p.advanceRaster mode0).framePosition = visibleScanlines * dotsPerScanline
    · rw [if_pos (henters.mpr hentry), if_pos hentry]
    · rw [if_neg (fun hmode => hentry (henters.mp hmode)), if_neg hentry]

/-! ## Frames -/

/-- Events that leave the LCD on and the raster to the ticks. -/
def KeepsScanning : Event → Prop
  | .writeLcdc value _ _ => lcdSwitchedOn value = true
  | .bootPhase _ => False
  | _ => True

def Event.isTick : Event → Bool
  | .tick _ _ => true
  | _ => false

theorem Scanning.of_same {q : Ppu} (h : p.Scanning) (hly : q.ly = p.ly)
    (hdot : q.lineDot = p.lineDot) (hphase : q.lcdRestartPhase = p.lcdRestartPhase)
    (hon : q.lcdEnabled = p.lcdEnabled) (hlatch : q.startupModeLatch = none) :
    q.Scanning ∧ q.framePosition = p.framePosition := by
  refine ⟨⟨h.toInFrame.of_same hly hdot hphase, hon.trans h.on, hlatch⟩, ?_⟩
  unfold framePosition isRestartFirstLineActive
  rw [hly, hdot, hphase]

theorem Scanning.writeLcdc (h : p.Scanning) {value : U8} (hvalue : lcdSwitchedOn value = true)
    (source : PpuRegisterWriteSource) (mode0 : Nat) :
    (p.writeLcdc value source mode0).Scanning ∧
      (p.writeLcdc value source mode0).framePosition = p.framePosition := by
  obtain ⟨request, irqLine, dot0, line153, heq⟩ := refreshStatIrqLine_withLine
    { p.lcdcWritten value source with pipelineMode0StartDot := mode0 }
  have hwritten : p.lcdcWritten value source =
      { p with lcdc := value, startupModeLatch := none, lcdEnabled := true } := by
    unfold lcdcWritten
    rw [h.on, hvalue]
    rfl
  rw [Ppu.writeLcdc, heq, hwritten]
  exact h.of_same rfl rfl rfl h.on.symm rfl

/-- What an event other than a tick leaves of the raster. -/
theorem Scanning.step (h : p.Scanning) {event : Event} (hkeeps : KeepsScanning event)
    (htick : event.isTick = false) :
    (p.step event).Scanning ∧ (p.step event).framePosition = p.framePosition := by
  cases event with
  | tick latched mode0 => cases htick
  | writeLcdc value source mode0 => exact h.writeLcdc hkeeps source mode0
  | writeStat value =>
      obtain ⟨hly, hdot, hphase, hon, hlatch⟩ := writeStat_raster p value
      exact h.of_same hly hdot hphase hon (hlatch.trans h.unlatched)
  | writeLyc value =>
      obtain ⟨hly, hdot, hphase, hon, hlatch⟩ := writeLyc_raster p value
      exact h.of_same hly hdot hphase hon (hlatch.trans h.unlatched)
  | writeScx value mode0 => exact h.of_same rfl rfl rfl rfl h.unlatched
  | other mode0 => exact h.of_same rfl rfl rfl rfl h.unlatched
  | operatingMode mode => exact h.of_same rfl rfl rfl rfl h.unlatched
  | bootPhase phase => exact hkeeps.elim
  | takeRequests => exact h.of_same rfl rfl rfl rfl h.unlatched

/-- Whether a tick would request a VBlank if none were pending. -/
def requestsVBlank (p : Ppu) : Event → Bool
  | .tick latched mode0 =>
      ({ p with vBlankRequest := .none }.tick latched mode0).vBlankRequest.pending
  | _ => false

/-- The VBlank requests along a run. -/
def vBlankRequests : List Event → Ppu → Nat
  | [], _ => 0
  | event :: events, p =>
      (p.requestsVBlank event).toNat + vBlankRequests events (p.step event)

theorem requestsVBlank_tick (h : p.Scanning) (latched mode0 : Nat) :
    p.requestsVBlank (.tick latched mode0) =
      decide ((p.framePosition + 1) % dotsPerFrame = visibleScanlines * dotsPerScanline) := by
  have hnone : { p with vBlankRequest := .none }.Scanning :=
    ⟨⟨h.ly, h.dot⟩, h.on, h.unlatched⟩
  obtain ⟨-, hposition, hrequest⟩ := hnone.tick latched mode0
  have hsame : { p with vBlankRequest := .none }.framePosition = p.framePosition := rfl
  rw [requestsVBlank, hrequest, hposition, hsame]
  by_cases hentry : (p.framePosition + 1) % dotsPerFrame = visibleScanlines * dotsPerScanline
  · rw [if_pos hentry, decide_eq_true hentry]
    rfl
  · rw [if_neg hentry, decide_eq_false hentry]
    rfl

theorem framePosition_lt (h : p.InFrame) : p.framePosition < dotsPerFrame := by
  have hly := h.ly
  have hdot := h.dot
  have hlength := currentScanlineLength_eq p
  unfold framePosition
  by_cases hactive : p.isRestartFirstLineActive = true
  · rw [if_pos hactive] at hlength ⊢
    simp only [dotsPerFrame, dotsPerScanline, totalScanlines, lcdReenableLine0TotalDots]
      at hlength ⊢
    omega
  · rw [if_neg hactive] at hlength ⊢
    simp only [dotsPerFrame, dotsPerScanline, totalScanlines] at hlength hly ⊢
    omega

/-- The entries of line 144 in all dots up to one, counted from the start of some frame. -/
def vBlankEntries (dots : Nat) : Nat :=
  (dots + (dotsPerFrame - visibleScanlines * dotsPerScanline)) / dotsPerFrame

theorem vBlankEntries_succ (dots : Nat) :
    vBlankEntries (dots + 1) =
      (decide ((dots + 1) % dotsPerFrame = visibleScanlines * dotsPerScanline)).toNat +
        vBlankEntries dots := by
  unfold vBlankEntries
  have hframe : dotsPerFrame = 70224 := rfl
  have hentry : visibleScanlines * dotsPerScanline = 65664 := rfl
  rw [hframe, hentry]
  by_cases hat : (dots + 1) % 70224 = 65664
  · rw [decide_eq_true hat, Bool.toNat_true]
    omega
  · rw [decide_eq_false hat, Bool.toNat_false]
    omega

theorem vBlankEntries_mod (dots more : Nat) :
    vBlankEntries (dots % dotsPerFrame + more) + dots / dotsPerFrame =
      vBlankEntries (dots + more) := by
  unfold vBlankEntries
  have hsplit := Nat.mod_add_div dots dotsPerFrame
  have hshift : dots + more + (dotsPerFrame - visibleScanlines * dotsPerScanline) =
      dots % dotsPerFrame + more + (dotsPerFrame - visibleScanlines * dotsPerScanline) +
        dotsPerFrame * (dots / dotsPerFrame) := by
    omega
  rw [hshift, Nat.add_mul_div_left _ _ (by decide)]

/-- The frame law: while the LCD stays on, every tick is the next of `456 × 154` dots, whatever
is written in between, and the VBlank requests are the entries of line 144 among them. -/
theorem raster_law (h : p.Scanning) (events : List Event)
    (hkeeps : ∀ event ∈ events, KeepsScanning event) :
    (Ppu.run events p).Scanning ∧
    (Ppu.run events p).framePosition =
      (p.framePosition + events.countP Event.isTick) % dotsPerFrame ∧
    vBlankEntries p.framePosition + vBlankRequests events p =
      vBlankEntries (p.framePosition + events.countP Event.isTick) := by
  induction events generalizing p with
  | nil =>
      refine ⟨h, ?_, rfl⟩
      rw [run_nil, List.countP_nil, Nat.add_zero, Nat.mod_eq_of_lt (framePosition_lt h.toInFrame)]
  | cons event events ih =>
      have hrest : ∀ event ∈ events, KeepsScanning event := fun event hmem =>
        hkeeps event (List.mem_cons_of_mem _ hmem)
      rw [run_cons, vBlankRequests]
      cases htick : event.isTick with
      | true =>
          cases event with
          | tick latched mode0 =>
              obtain ⟨hscanning, hposition, -⟩ := h.tick latched mode0
              obtain ⟨hrun, hend, hcount⟩ := ih hscanning hrest
              have hone : 1 + events.countP Event.isTick =
                  (Event.tick latched mode0 :: events).countP Event.isTick := by
                rw [List.countP_cons_of_pos htick, Nat.add_comm]
              refine ⟨hrun, ?_, ?_⟩
              · show (Ppu.run events (p.tick latched mode0)).framePosition = _
                rw [hend, hposition, Nat.mod_add_mod, Nat.add_assoc, hone]
              · have hmod := vBlankEntries_mod (p.framePosition + 1)
                  (events.countP Event.isTick)
                have hstart := vBlankEntries_mod (p.framePosition + 1) 0
                have hsucc := vBlankEntries_succ p.framePosition
                have hstep : p.step (.tick latched mode0) = p.tick latched mode0 := rfl
                rw [requestsVBlank_tick h, ← hone, hstep, ← Nat.add_assoc p.framePosition 1]
                rw [hposition] at hcount
                rw [Nat.add_zero, Nat.add_zero] at hstart
                omega
          | writeLcdc | writeStat | writeLyc | writeScx | other | operatingMode | bootPhase
          | takeRequests => cases htick
      | false =>
          obtain ⟨hscanning, hposition⟩ :=
            h.step (hkeeps event List.mem_cons_self) htick
          obtain ⟨hrun, hend, hcount⟩ := ih hscanning hrest
          have hnone : p.requestsVBlank event = false := by
            cases event with
            | tick => cases htick
            | writeLcdc | writeStat | writeLyc | writeScx | other | operatingMode | bootPhase
            | takeRequests => rfl
          rw [List.countP_cons_of_neg (by rw [htick]; exact Bool.false_ne_true), hnone,
            Bool.toNat_false, Nat.zero_add]
          rw [hposition] at hend hcount
          exact ⟨hrun, hend, hcount⟩

theorem scanning_switchedOn : ((new .gameBoy).writeLcdc 0x80 .immediate 252).Scanning :=
  ⟨⟨by decide, by decide⟩, rfl, rfl⟩

theorem keepsScanning_ticks {event : Event} {dots latched mode0 : Nat}
    (h : event ∈ List.replicate dots (.tick latched mode0)) : KeepsScanning event := by
  rw [List.eq_of_mem_replicate h]
  trivial

/-- The LCD is switched on: 65656 dots later line 144 has been entered once. -/
theorem raster_law_switched_on :
    (Ppu.run (List.replicate 65656 (.tick 252 252))
        ((new .gameBoy).writeLcdc 0x80 .immediate 252)).framePosition =
      visibleScanlines * dotsPerScanline ∧
    vBlankRequests (List.replicate 65656 (.tick 252 252))
      ((new .gameBoy).writeLcdc 0x80 .immediate 252) = 1 := by
  obtain ⟨-, hposition, hrequests⟩ := raster_law scanning_switchedOn
    (List.replicate 65656 (.tick 252 252)) fun _ => keepsScanning_ticks
  have hstart : ((new .gameBoy).writeLcdc 0x80 .immediate 252).framePosition = 8 := by decide
  rw [hstart, List.countP_replicate] at hposition hrequests
  exact ⟨hposition, Nat.add_left_cancel (hrequests.trans (Nat.zero_add 1).symm)⟩

end Ppu

end GbCycle
