import GbCycle.Ppu.Sprites
import Mathlib.Data.List.GetD
import Mathlib.Data.List.Range
import Mathlib.Data.Prod.Lex
import Mathlib.Data.Set.Insert

/-!
# What is selected, and what is in front

The scan selects the first ten entries of OAM whose vertical range contains the line.  In the
FIFO a slot is a contest: of the pixels that the merged rows have for it the one of least rank
stays, in whatever order they come.
-/

namespace GbCycle

/-! ## The scan -/

/-- The sprites of the first entries of OAM whose vertical range contains a line. -/
def spritesOnLine (oam : List U8) (ly height entries : Nat) : List PpuSelectedSprite :=
  ((List.range entries).filterMap (readOamSprite oam)).filter fun sprite =>
    spriteMatchesLine sprite ly height

theorem spritesOnLine_succ (oam : List U8) (ly height entries : Nat) :
    spritesOnLine oam ly height (entries + 1) =
      spritesOnLine oam ly height entries ++
        ((readOamSprite oam entries).toList.filter fun sprite =>
          spriteMatchesLine sprite ly height) := by
  unfold spritesOnLine
  rw [List.range_succ, List.filterMap_append, List.filter_append]
  cases h : readOamSprite oam entries <;> simp [h]

/-- They come in the order of OAM, one for an entry at most. -/
theorem spritesOnLine_oamIndex (oam : List U8) (ly height entries : Nat) :
    ((spritesOnLine oam ly height entries).map (·.oamIndex)).Sublist (List.range entries) := by
  induction entries with
  | zero => exact List.Sublist.refl _
  | succ entries ih =>
      rw [spritesOnLine_succ, List.map_append, List.range_succ]
      refine ih.append ?_
      cases hsprite : readOamSprite oam entries with
      | none => exact List.nil_sublist _
      | some sprite =>
          have hindex : sprite.oamIndex = entries := by
            simp only [readOamSprite, Option.bind_eq_bind, Option.bind_eq_some_iff,
              Option.pure_def, Option.some.injEq] at hsprite
            obtain ⟨_, -, _, -, _, -, _, -, rfl⟩ := hsprite
            rfl
          rw [← hindex]
          exact (List.filter_sublist (l := [sprite])).map PpuSelectedSprite.oamIndex

namespace Mode2ScanState

/-- The state has selected some sprites, in their order. -/
structure Selects (s : Mode2ScanState) (sprites : List PpuSelectedSprite) : Prop where
  count : s.selectedSpriteCount = sprites.length
  fits : sprites.length ≤ maxSelectedSpritesPerLine
  slots : ∀ i, i < sprites.length → s.selectedSprites[i]? = some sprites[i]?

theorem Selects.snapshot {s : Mode2ScanState} {sprites : List PpuSelectedSprite}
    (h : s.Selects sprites) : s.selectedSpritesSnapshot = sprites := by
  have hslots : s.selectedSprites.toList.take s.selectedSpriteCount = sprites.map some := by
    apply List.ext_getElem?
    intro i
    rw [h.count, List.getElem?_take, List.getElem?_map, Vector.getElem?_toList]
    by_cases hi : i < sprites.length
    · rw [if_pos hi, h.slots i hi, List.getElem?_eq_getElem hi]
      rfl
    · rw [if_neg hi, List.getElem?_eq_none (by omega)]
      rfl
  unfold selectedSpritesSnapshot
  rw [hslots, List.filterMap_map]
  exact List.filterMap_some

/-- A sprite that is pushed is kept as long as there is room. -/
theorem Selects.push {s : Mode2ScanState} {sprites : List PpuSelectedSprite}
    (h : s.Selects sprites) (sprite : PpuSelectedSprite) :
    (s.push sprite).Selects ((sprites ++ [sprite]).take maxSelectedSpritesPerLine) := by
  unfold Mode2ScanState.push isFull
  have hfits := h.fits
  by_cases hfull : s.selectedSpriteCount = maxSelectedSpritesPerLine
  · rw [if_pos (decide_eq_true hfull), List.take_append_of_le_length (by rw [← h.count, hfull]),
      List.take_of_length_le hfits]
    exact h
  · rw [if_neg (by simp [hfull]), List.take_of_length_le (by
      have hcount := h.count
      rw [List.length_append, List.length_singleton]
      omega)]
    have hcount := h.count
    refine ⟨?_, ?_, ?_⟩
    · rw [List.length_append, List.length_singleton, ← hcount]
    · rw [List.length_append, List.length_singleton]
      omega
    · intro i hi
      rw [List.length_append, List.length_singleton] at hi
      rw [Vector.getElem?_setIfInBounds, hcount]
      by_cases hlast : sprites.length = i
      · subst hlast
        rw [if_pos rfl, if_pos (by omega), List.getElem?_concat_length]
      · rw [if_neg hlast, h.slots i (by omega), List.getElem?_append_left (by omega)]

end Mode2ScanState

namespace Mode2Scan

/-- The scan at the end of its dots, without an OAM DMA. -/
def scannedLine (start : Mode2Scan) (oam : List U8) : Mode2ScanState :=
  (start.tickDots oam false mode2Dots).mode2ScanState

/-- The scan after some dots of the line. -/
structure Scanned (start : Mode2Scan) (oam : List U8) (dots : Nat) (p : Mode2Scan) : Prop where
  others : p = { start with lineDot := dots, mode2ScanState := p.mode2ScanState }
  entries : p.mode2ScanState.scannedEntries = dots / 2
  selects : p.mode2ScanState.Selects
    ((spritesOnLine oam start.ly start.objHeight (dots / 2)).take maxSelectedSpritesPerLine)

/-- Without an OAM DMA a tick that is due looks at the next entry of OAM. -/
theorem selects_scanEntry {p : Mode2Scan} {oam : List U8} {entry : Nat}
    (hentry : p.mode2ScanState.scannedEntries = entry)
    (h : p.mode2ScanState.Selects
      ((spritesOnLine oam p.ly p.objHeight entry).take maxSelectedSpritesPerLine)) :
    (p.scanEntry oam false).scannedEntries = entry + 1 ∧ (p.scanEntry oam false).Selects
      ((spritesOnLine oam p.ly p.objHeight (entry + 1)).take maxSelectedSpritesPerLine) := by
  unfold scanEntry
  rw [hentry, spritesOnLine_succ]
  dsimp only
  generalize hs : ({ p.mode2ScanState with scannedEntries := entry + 1 } : Mode2ScanState) = s
  have hcounted : s.scannedEntries = entry + 1 := by
    rw [← hs]
  have hselects : s.Selects
      ((spritesOnLine oam p.ly p.objHeight entry).take maxSelectedSpritesPerLine) := by
    rw [← hs]
    exact ⟨h.count, h.fits, h.slots⟩
  have hcount := hselects.count
  rw [List.length_take] at hcount
  by_cases hfull : s.isFull = true
  · -- The list is full, and the entries that follow are cut off.
    have hlength : maxSelectedSpritesPerLine ≤
        (spritesOnLine oam p.ly p.objHeight entry).length := by
      rw [of_decide_eq_true hfull] at hcount
      omega
    rw [if_pos hfull, List.take_append_of_le_length hlength]
    exact ⟨hcounted, hselects⟩
  · have hlength : (spritesOnLine oam p.ly p.objHeight entry).length <
        maxSelectedSpritesPerLine := by
      have hne : s.selectedSpriteCount ≠ maxSelectedSpritesPerLine :=
        fun heq => hfull (decide_eq_true heq)
      omega
    rw [List.take_of_length_le (Nat.le_of_lt hlength)] at hselects
    rw [if_neg hfull]
    unfold scannedSprite
    dsimp only
    rw [Bool.false_and, if_neg Bool.false_ne_true]
    cases hsprite : readOamSprite oam entry with
    | none =>
        rw [Option.toList_none, List.filter_nil, List.append_nil,
          List.take_of_length_le (Nat.le_of_lt hlength)]
        exact ⟨hcounted, hselects⟩
    | some sprite =>
        rw [List.take_of_length_le (Nat.le_of_lt hlength)] at h
        simp only [Bool.false_eq_true, if_false, Option.toList_some]
        by_cases hmatches : spriteMatchesLine sprite p.ly p.objHeight = true
        · simp only [hmatches, if_true, List.filter_cons, List.filter_nil]
          refine ⟨?_, Mode2ScanState.Selects.push ?_ sprite⟩
          · unfold Mode2ScanState.push
            split <;> rfl
          · exact ⟨h.count, h.fits, h.slots⟩
        · simp only [hmatches, Bool.false_eq_true, if_false, List.filter_cons, List.filter_nil,
            List.append_nil]
          rw [List.take_of_length_le (Nat.le_of_lt hlength)]
          exact ⟨trivial, h.count, h.fits, h.slots⟩

/-- The dots of a visible line, from its start. -/
theorem scanned_tickDots {start : Mode2Scan} (oam : List U8)
    (hlcd : start.isLcdEnabled = true) (hrestart : start.restartRaster = false)
    (hly : start.ly < visibleScanlines) (hdot : start.lineDot = 0)
    (hreset : ∃ s, start.mode2ScanState = Mode2ScanState.resetScanline s) {dots : Nat}
    (hdots : dots ≤ mode2Dots) : Scanned start oam dots (start.tickDots oam false dots) := by
  induction dots with
  | zero =>
      obtain ⟨s, hs⟩ := hreset
      refine ⟨?_, ?_, ?_⟩
      · show start = { start with lineDot := 0, mode2ScanState := start.mode2ScanState }
        rw [← hdot]
      · show start.mode2ScanState.scannedEntries = 0 / 2
        rw [hs]
        rfl
      · show start.mode2ScanState.Selects _
        rw [hs]
        exact ⟨rfl, Nat.zero_le _, by rintro i ⟨⟩⟩
  | succ dots ih =>
      obtain ⟨hothers, hentries, hselects⟩ := ih (by omega)
      show Scanned start oam (dots + 1) ((start.tickDots oam false dots).tickDot oam false)
      generalize start.tickDots oam false dots = p at hothers hentries hselects
      have hdue : ({ p with lineDot := p.lineDot + 1 } : Mode2Scan).mode2ScanTickDue =
          decide ((dots + 1) % 2 = 0) := by
        have hroom : p.mode2ScanState.scannedEntries < oamSpriteCount := by
          rw [hentries]
          unfold mode2Dots at hdots
          unfold oamSpriteCount
          omega
        unfold mode2ScanTickDue
        rw [hothers] at hroom ⊢
        simp only [hlcd, hrestart, decide_eq_true hly, decide_eq_true hroom]
        simp only [hdots, mode2TCyclesPerOamEntry, decide_true, Bool.not_false, Bool.true_and,
          Bool.and_true, ne_eq, Nat.add_one_ne_zero, not_false_eq_true]
        exact decide_eq_decide.mpr Iff.rfl
      unfold tickDot
      by_cases heven : (dots + 1) % 2 = 0
      · -- An even dot: an entry is looked at.
        have hhalf : (dots + 1) / 2 = dots / 2 + 1 := by omega
        rw [decide_eq_true heven] at hdue
        unfold advanceMode2Scan
        simp only [hdue, if_true, Bool.not_true, Bool.false_eq_true, if_false]
        have hselected := selects_scanEntry (p := { p with lineDot := p.lineDot + 1 })
          hentries (by
            rw [hothers] at hselects ⊢
            exact hselects)
        refine ⟨?_, ?_, ?_⟩
        · rw [hothers]
        · rw [hhalf]
          exact hselected.1
        · rw [hhalf]
          rw [hothers] at hselected ⊢
          exact hselected.2
      · have hhalf : (dots + 1) / 2 = dots / 2 := by omega
        rw [decide_eq_false heven] at hdue
        simp only [hdue, Bool.false_eq_true, if_false]
        refine ⟨?_, ?_, ?_⟩
        · rw [hothers]
        · rw [hhalf]
          exact hentries
        · rw [hhalf]
          exact hselects

end Mode2Scan

/-! ## The FIFO -/

/-- A sprite with the row of its tile on the line. -/
structure ObjRow where
  sprite : PpuSelectedSprite
  tileLow : U8
  tileHigh : U8
  deriving Repr, DecidableEq

/-- What an opaque pixel is ranked by: the least rank is in front. -/
def ObjPixel.rank (mode : CgbObjPriorityMode) (px : ObjPixel) : Nat ×ₗ Nat :=
  match mode with
  | .cgbOamOrder => toLex (px.oamIndex, 0)
  | .dmgXCoordinate => toLex (px.spriteX, px.oamIndex)

/-- A slot holds the opaque pixel of least rank, or nothing if there is none. -/
def ObjPixel.InFront (mode : CgbObjPriorityMode) (pixels : Set ObjPixel) (slot : ObjPixel) : Prop :=
  (slot = .transparent ∧ ∀ px ∈ pixels, px.isTransparent = true) ∨
    (slot ∈ pixels ∧ slot.isTransparent = false ∧
      ∀ px ∈ pixels, px.isTransparent = false → slot.rank mode ≤ px.rank mode)

/-- Between opaque pixels the priority is the order of the ranks. -/
theorem objPixelHasPriorityForMode_iff {mode : CgbObjPriorityMode} {candidate current : ObjPixel}
    (hcandidate : candidate.isTransparent = false) (hcurrent : current.isTransparent = false) :
    objPixelHasPriorityForMode mode candidate current = true ↔
      candidate.rank mode < current.rank mode := by
  unfold objPixelHasPriorityForMode ObjPixel.rank
  rw [hcurrent, hcandidate]
  cases mode with
  | cgbOamOrder => simp [Prod.Lex.toLex_lt_toLex]
  | dmgXCoordinate => simp [Prod.Lex.toLex_lt_toLex]

/-- A pixel more, and the winner of the contest between the slot and the pixel. -/
theorem ObjPixel.InFront.insert {mode : CgbObjPriorityMode} {pixels : Set ObjPixel}
    {slot : ObjPixel} (h : InFront mode pixels slot) (px : ObjPixel) :
    InFront mode (insert px pixels)
      (if objPixelHasPriorityForMode mode px slot = true then px else slot) := by
  cases hpx : px.isTransparent with
  | true =>
      have hkeeps : objPixelHasPriorityForMode mode px slot = false := by
        unfold objPixelHasPriorityForMode
        rw [hpx]
        cases slot.isTransparent <;> rfl
      rw [hkeeps, if_neg Bool.false_ne_true]
      rcases h with ⟨hslot, hnone⟩ | ⟨hmem, hshown, hleast⟩
      · refine .inl ⟨hslot, ?_⟩
        rintro q (rfl | hq)
        · exact hpx
        · exact hnone q hq
      · refine .inr ⟨.inr hmem, hshown, ?_⟩
        rintro q (rfl | hq) hq'
        · rw [hpx] at hq'
          exact absurd hq' (by decide)
        · exact hleast q hq hq'
  | false =>
      rcases h with ⟨hslot, hnone⟩ | ⟨hmem, hshown, hleast⟩
      · have htakes : objPixelHasPriorityForMode mode px slot = true := by
          unfold objPixelHasPriorityForMode
          rw [hslot, hpx]
          rfl
        rw [if_pos htakes]
        refine .inr ⟨.inl rfl, hpx, ?_⟩
        rintro q (rfl | hq) hq'
        · exact le_refl _
        · rw [hnone q hq] at hq'
          exact absurd hq' (by decide)
      · have hiff : objPixelHasPriorityForMode mode px slot = true ↔ _ :=
          objPixelHasPriorityForMode_iff hpx hshown
        by_cases htakes : px.rank mode < slot.rank mode
        · rw [if_pos (hiff.mpr htakes)]
          refine .inr ⟨.inl rfl, hpx, ?_⟩
          rintro q (rfl | hq) hq'
          · exact le_refl _
          · exact le_trans (le_of_lt htakes) (hleast q hq hq')
        · rw [if_neg fun hpriority => htakes (hiff.mp hpriority)]
          refine .inr ⟨.inr hmem, hshown, ?_⟩
          rintro q (rfl | hq) hq'
          · exact not_lt.mp htakes
          · exact hleast q hq hq'

/-- Where ranks tell opaque pixels apart there is one winner. -/
theorem ObjPixel.InFront.unique {mode : CgbObjPriorityMode} {pixels : Set ObjPixel}
    {slot slot' : ObjPixel}
    (hranks : ∀ px ∈ pixels, ∀ px' ∈ pixels, px.rank mode = px'.rank mode → px = px')
    (h : InFront mode pixels slot) (h' : InFront mode pixels slot') : slot = slot' := by
  rcases h with ⟨hslot, hnone⟩ | ⟨hmem, hshown, hleast⟩
  · rcases h' with ⟨hslot', -⟩ | ⟨hmem', hshown', -⟩
    · rw [hslot, hslot']
    · rw [hnone slot' hmem'] at hshown'
      exact absurd hshown' (by decide)
  · rcases h' with ⟨-, hnone'⟩ | ⟨hmem', hshown', hleast'⟩
    · rw [hnone' slot hmem] at hshown
      exact absurd hshown (by decide)
    · exact hranks slot hmem slot' hmem'
        (le_antisymm (hleast slot' hmem' hshown') (hleast' slot hmem hshown))

namespace ObjPipeline

def mergeRow (p : ObjPipeline) (row : ObjRow) : ObjPipeline :=
  p.pushObjPixels row.sprite row.tileLow row.tileHigh p.visiblePixelsOutput

/-- The rows of some sprites, one after another. -/
def mergeRows (p : ObjPipeline) (rows : List ObjRow) : ObjPipeline := rows.foldl mergeRow p

/-- The slot of the FIFO that goes out after some others. -/
def slot (fifo : List ObjPixel) (k : Nat) : ObjPixel := fifo.getD k .transparent

/-- The column that the code takes the front of the FIFO for when it merges a sprite. -/
def rowFront (p : ObjPipeline) (row : ObjRow) : Int :=
  p.objFifoFrontScreenXForSprite p.visiblePixelsOutput (spriteScreenX row.sprite)

def rowPixel (p : ObjPipeline) (row : ObjRow) (tilePixel : Nat) : ObjPixel :=
  p.objPixelFromSprite row.sprite
    (objTilePixelValue row.tileLow row.tileHigh tilePixel row.sprite.attributes)

/-- The pixels of a row that cover a column: there is one at most, and none off the screen. -/
def pixelsAt (p : ObjPipeline) (row : ObjRow) (column : Int) : Set ObjPixel :=
  { px | column < screenWidth ∧ ∃ tilePixel < bgTileWidth,
      spriteScreenX row.sprite + tilePixel = column ∧ px = p.rowPixel row tilePixel }

theorem slot_placeCandidate (mode : CgbObjPriorityMode) (fifo : List ObjPixel) (offset k : Nat)
    (candidate : ObjPixel) :
    slot (placeCandidate mode fifo offset candidate) k =
      if offset = k then
        if objPixelHasPriorityForMode mode candidate (slot fifo k) = true then candidate
        else slot fifo k
      else slot fifo k := by
  have hextended : ∀ n i, slot (fifo ++ List.replicate n .transparent) i = slot fifo i := by
    intro n i
    unfold slot
    by_cases hi : i < fifo.length
    · rw [List.getD_append _ _ _ _ hi]
    · rw [List.getD_append_right _ _ _ _ (by omega), List.getD_eq_default fifo _ (by omega)]
      simp only [List.getD_eq_getElem?_getD, List.getElem?_replicate]
      split <;> rfl
  unfold placeCandidate
  dsimp only
  have hold : (fifo ++ List.replicate (offset + 1 - fifo.length) ObjPixel.transparent).getD offset
      ObjPixel.transparent = slot fifo offset := hextended _ _
  rw [hold]
  by_cases hk : offset = k
  · subst hk
    rw [if_pos rfl]
    by_cases hpriority : objPixelHasPriorityForMode mode candidate (slot fifo offset) = true
    · rw [if_pos hpriority, if_pos hpriority]
      unfold slot
      rw [List.getD_eq_getElem?_getD, List.getElem?_set_self (by
        rw [List.length_append, List.length_replicate]
        omega)]
      rfl
    · rw [if_neg hpriority, if_neg hpriority]
      exact hextended _ _
  · rw [if_neg hk]
    split
    · rw [← hextended (offset + 1 - fifo.length) k]
      unfold slot
      rw [List.getD_eq_getElem?_getD, List.getElem?_set_ne hk, ← List.getD_eq_getElem?_getD]
    · exact hextended _ _

/-- Once a pixel is visible the front of the FIFO is the next column, for every sprite. -/
theorem rowFront_of_visible {p : ObjPipeline} (h : 0 < p.visiblePixelsOutput) (row : ObjRow) :
    p.rowFront row = p.visiblePixelsOutput := by
  unfold rowFront objFifoFrontScreenXForSprite objFifoFrontScreenX
    objFifoHiddenPopsBeforeFirstVisiblePixelRaw objFifoHiddenPopsBeforeFirstVisiblePixel
  rw [if_pos h, if_pos h]
  split <;> exact Int.sub_zero _

/-- One pixel of a row takes part in the contest for the slot of its column. -/
theorem inFront_pushTilePixel (p : ObjPipeline) (row : ObjRow) (fifo : List ObjPixel)
    (tilePixel k : Nat) {pixels : Set ObjPixel}
    (h : ObjPixel.InFront p.currentObjPriorityMode pixels (slot fifo k)) :
    ObjPixel.InFront p.currentObjPriorityMode
      (pixels ∪ { px | p.rowFront row + k < screenWidth ∧
        spriteScreenX row.sprite + tilePixel = p.rowFront row + k ∧ px = p.rowPixel row tilePixel })
      (slot (p.pushTilePixel row.sprite row.tileLow row.tileHigh p.visiblePixelsOutput fifo
        tilePixel) k) := by
  have hnone : ∀ {fifo' : List ObjPixel}, slot fifo' k = slot fifo k →
      ¬ (p.rowFront row + k < screenWidth ∧
        spriteScreenX row.sprite + tilePixel = p.rowFront row + k) →
      ObjPixel.InFront p.currentObjPriorityMode
        (pixels ∪ { px | p.rowFront row + k < screenWidth ∧
          spriteScreenX row.sprite + tilePixel = p.rowFront row + k ∧
          px = p.rowPixel row tilePixel }) (slot fifo' k) := by
    intro fifo' hslot hmiss
    rw [hslot, Set.union_eq_left.mpr (fun px hpx => absurd ⟨hpx.1, hpx.2.1⟩ hmiss)]
    exact h
  show ObjPixel.InFront _ _ (slot (if spriteScreenX row.sprite + tilePixel < p.rowFront row ∨
    screenWidth ≤ spriteScreenX row.sprite + tilePixel then fifo
    else if 0 < p.visiblePixelsOutput ∧ spriteScreenX row.sprite + tilePixel <
      p.visiblePixelsOutput then fifo
    else placeCandidate p.currentObjPriorityMode fifo
      (spriteScreenX row.sprite + tilePixel - p.rowFront row).toNat (p.rowPixel row tilePixel)) k)
  by_cases hclipped : spriteScreenX row.sprite + tilePixel < p.rowFront row ∨
      screenWidth ≤ spriteScreenX row.sprite + tilePixel
  · rw [if_pos hclipped]
    exact hnone rfl (by omega)
  · rw [if_neg hclipped]
    by_cases hpassed : 0 < p.visiblePixelsOutput ∧
        spriteScreenX row.sprite + tilePixel < p.visiblePixelsOutput
    · have hfront := rowFront_of_visible hpassed.1 row
      rw [if_pos hpassed]
      exact hnone rfl (by omega)
    · rw [if_neg hpassed]
      by_cases hk : (spriteScreenX row.sprite + tilePixel - p.rowFront row).toNat = k
      · have hset : pixels ∪ { px | p.rowFront row + k < screenWidth ∧
            spriteScreenX row.sprite + tilePixel = p.rowFront row + k ∧
            px = p.rowPixel row tilePixel } = insert (p.rowPixel row tilePixel) pixels := by
          have hscreen : p.rowFront row + k < screenWidth := by omega
          have hcolumn : spriteScreenX row.sprite + tilePixel = p.rowFront row + k := by omega
          simp only [hscreen, hcolumn, true_and]
          rw [Set.union_comm]
          rfl
        rw [slot_placeCandidate, if_pos hk, hset]
        exact h.insert _
      · refine hnone ?_ (by omega)
        rw [slot_placeCandidate, if_neg hk]

/-- A row takes part with its pixels that are at the column of the slot. -/
theorem inFront_mergeRow (p : ObjPipeline) (row : ObjRow) (k : Nat) {pixels : Set ObjPixel}
    (h : ObjPixel.InFront p.currentObjPriorityMode pixels (slot p.fifo k)) :
    ObjPixel.InFront p.currentObjPriorityMode (pixels ∪ p.pixelsAt row (p.rowFront row + k))
      (slot (p.mergeRow row).fifo k) := by
  have hrun : ∀ n, ObjPixel.InFront p.currentObjPriorityMode
      (pixels ∪ { px | p.rowFront row + k < screenWidth ∧ ∃ tilePixel < n,
        spriteScreenX row.sprite + (tilePixel : Nat) = p.rowFront row + k ∧
        px = p.rowPixel row tilePixel })
      (slot ((List.range n).foldl (p.pushTilePixel row.sprite row.tileLow row.tileHigh
        p.visiblePixelsOutput) p.fifo) k) := by
    intro n
    induction n with
    | zero =>
        simp only [Nat.not_lt_zero, false_and, exists_false, and_false, Set.ofPred_false,
          Set.union_empty]
        exact h
    | succ n ih =>
        have hstep := inFront_pushTilePixel p row _ n k ih
        rw [List.range_succ, List.foldl_append]
        refine (congrArg (ObjPixel.InFront p.currentObjPriorityMode · _) ?_).mp hstep
        ext px
        constructor
        · rintro ((hpx | ⟨hscreen, t, ht, hcolumn, rfl⟩) | ⟨hscreen, hcolumn, rfl⟩)
          · exact .inl hpx
          · exact .inr ⟨hscreen, t, by omega, hcolumn, rfl⟩
          · exact .inr ⟨hscreen, n, by omega, hcolumn, rfl⟩
        · rintro (hpx | ⟨hscreen, t, ht, hcolumn, rfl⟩)
          · exact .inl (.inl hpx)
          · rcases Nat.lt_succ_iff_lt_or_eq.mp ht with hlt | rfl
            · exact .inl (.inr ⟨hscreen, t, hlt, hcolumn, rfl⟩)
            · exact .inr ⟨hscreen, hcolumn, rfl⟩
  exact hrun bgTileWidth

/-- The pixels that some rows have for a slot. -/
def pixelsInSlot (p : ObjPipeline) (rows : List ObjRow) (k : Nat) : Set ObjPixel :=
  { px | ∃ row ∈ rows, px ∈ p.pixelsAt row (p.rowFront row + k) }

theorem inFront_mergeRows (p : ObjPipeline) (rows : List ObjRow) (k : Nat)
    {pixels : Set ObjPixel}
    (h : ObjPixel.InFront p.currentObjPriorityMode pixels (slot p.fifo k)) :
    ObjPixel.InFront p.currentObjPriorityMode (pixels ∪ p.pixelsInSlot rows k)
      (slot (p.mergeRows rows).fifo k) := by
  induction rows generalizing p pixels with
  | nil =>
      rw [Set.union_eq_left.mpr (by rintro px ⟨row, hrow, -⟩; cases hrow)]
      exact h
  | cons row rows ih =>
      have hrest := ih (p.mergeRow row) (inFront_mergeRow p row k h)
      refine (congrArg (ObjPixel.InFront p.currentObjPriorityMode · _) ?_).mp hrest
      ext px
      constructor
      · rintro ((hpx | hpx) | ⟨other, hother, hpx⟩)
        · exact .inl hpx
        · exact .inr ⟨row, List.mem_cons_self, hpx⟩
        · exact .inr ⟨other, List.mem_cons_of_mem _ hother, hpx⟩
      · rintro (hpx | ⟨other, hother, hpx⟩)
        · exact .inl (.inl hpx)
        · rcases List.mem_cons.mp hother with rfl | hrest
          · exact .inl (.inr hpx)
          · exact .inr ⟨other, hrest, hpx⟩

/-- Rows of different sprites have pixels of different rank. -/
theorem eq_of_rank_eq {p : ObjPipeline} {rows : List ObjRow} {k : Nat}
    (hdistinct : (rows.map fun row => row.sprite.oamIndex).Nodup) {mode : CgbObjPriorityMode}
    {px px' : ObjPixel} (hpx : px ∈ p.pixelsInSlot rows k) (hpx' : px' ∈ p.pixelsInSlot rows k)
    (hrank : px.rank mode = px'.rank mode) : px = px' := by
  obtain ⟨row, hrow, -, t, -, ht, rfl⟩ := hpx
  obtain ⟨row', hrow', -, t', -, ht', rfl⟩ := hpx'
  have hindex : row.sprite.oamIndex = row'.sprite.oamIndex := by
    cases mode with
    | cgbOamOrder => exact congrArg (fun r => (ofLex r).1) hrank
    | dmgXCoordinate => exact congrArg (fun r => (ofLex r).2) hrank
  obtain rfl := List.inj_on_of_nodup_map hdistinct hrow hrow' hindex
  obtain rfl : t = t' := by omega
  rfl

/-- The rows of an empty FIFO, in any order. -/
theorem inFront_mergeRows_perm {p : ObjPipeline} (hempty : p.fifo = []) {rows rows' : List ObjRow}
    (hperm : rows'.Perm rows) (k : Nat) :
    ObjPixel.InFront p.currentObjPriorityMode (p.pixelsInSlot rows k)
      (slot (p.mergeRows rows').fifo k) := by
  have hstart : ObjPixel.InFront p.currentObjPriorityMode ∅ (slot p.fifo k) := by
    rw [hempty]
    exact .inl ⟨rfl, fun px hpx => absurd hpx (Set.notMem_empty px)⟩
  have hmerged := inFront_mergeRows p rows' k hstart
  rw [Set.empty_union] at hmerged
  have hsame : p.pixelsInSlot rows' k = p.pixelsInSlot rows k := by
    unfold pixelsInSlot
    simp only [hperm.mem_iff]
  rw [← hsame]
  exact hmerged

/-- Where the front of the FIFO is one column for all the sprites. -/
def SharesFront (p : ObjPipeline) (rows : List ObjRow) : Prop :=
  p.consoleModel.isDmgFamily = false ∨ 0 < p.visiblePixelsOutput ∨ p.initialScxDiscard = 0 ∨
    ∀ row ∈ rows, 0 ≤ spriteScreenX row.sprite

theorem SharesFront.rowFront {p : ObjPipeline} {rows : List ObjRow} (h : p.SharesFront rows)
    {row : ObjRow} (hrow : row ∈ rows) :
    p.rowFront row = p.objFifoFrontScreenX p.visiblePixelsOutput := by
  unfold ObjPipeline.rowFront objFifoFrontScreenXForSprite
  by_cases hraw : spriteScreenX row.sprite < 0 ∧ p.consoleModel.isDmgFamily = true
  · rw [if_pos hraw]
    have hpops : p.objFifoHiddenPopsBeforeFirstVisiblePixelRaw =
        p.objFifoHiddenPopsBeforeFirstVisiblePixel := by
      unfold objFifoHiddenPopsBeforeFirstVisiblePixelRaw objFifoHiddenPopsBeforeFirstVisiblePixel
      rcases h with hdmg | hvisible | hdiscard | hunclipped
      · rw [hraw.2] at hdmg
        cases hdmg
      · rw [if_pos hvisible, if_pos hvisible]
      · rw [hdiscard]
      · exact absurd (hunclipped row hrow) (not_le.mpr hraw.1)
    unfold objFifoFrontScreenX
    rw [hpops]
  · rw [if_neg hraw]

/-- The scan of a line selects the first ten sprites that are on it.  When the rows of some sprites
are merged into an empty FIFO then, in whatever order, each slot holds the opaque pixel in front
at its column, or nothing; and the columns are the same for all of the sprites unless a DMG has
yet to put out the first pixel of a line with an SCX discard. -/
theorem selection_and_merge {start : Mode2Scan} (oam : List U8)
    (hlcd : start.isLcdEnabled = true) (hrestart : start.restartRaster = false)
    (hly : start.ly < visibleScanlines) (hdot : start.lineDot = 0)
    (hreset : ∃ s, start.mode2ScanState = Mode2ScanState.resetScanline s)
    {p : ObjPipeline} (hempty : p.fifo = []) {rows : List ObjRow}
    (hdistinct : (rows.map fun row => row.sprite.oamIndex).Nodup) :
    ((start.scannedLine oam).scannedEntries = oamSpriteCount ∧
        (start.scannedLine oam).selectedSpritesSnapshot =
          (spritesOnLine oam start.ly start.objHeight oamSpriteCount).take
            maxSelectedSpritesPerLine ∧
        ((start.scannedLine oam).selectedSpritesSnapshot.map (·.oamIndex)).Nodup) ∧
      (∀ rows', rows'.Perm rows → ∀ k,
        slot (p.mergeRows rows').fifo k = slot (p.mergeRows rows).fifo k ∧
          ObjPixel.InFront p.currentObjPriorityMode
            { px | ∃ row ∈ rows, px ∈ p.pixelsAt row (p.rowFront row + k) }
            (slot (p.mergeRows rows').fifo k)) ∧
      (p.SharesFront rows → ∀ row ∈ rows,
        p.rowFront row = p.objFifoFrontScreenX p.visiblePixelsOutput) := by
  refine ⟨?_, ?_, fun hshares row hrow => hshares.rowFront hrow⟩
  · have hscanned :=
      Mode2Scan.scanned_tickDots oam hlcd hrestart hly hdot hreset (Nat.le_refl mode2Dots)
    obtain ⟨-, hentries, hselects⟩ := hscanned
    unfold Mode2Scan.scannedLine
    refine ⟨hentries, hselects.snapshot, ?_⟩
    rw [hselects.snapshot, List.map_take]
    exact List.nodup_range.sublist
      ((List.take_sublist _ _).trans (spritesOnLine_oamIndex oam start.ly start.objHeight _))
  · intro rows' hperm k
    have hfront := inFront_mergeRows_perm hempty hperm k
    refine ⟨?_, hfront⟩
    exact hfront.unique (fun px hpx px' hpx' hrank => eq_of_rank_eq hdistinct hpx hpx' hrank)
      (inFront_mergeRows_perm hempty (List.Perm.refl rows) k)

theorem selection_and_merge_two :
    ((⟨.gameBoy, true, false, 0, 0, 8, ⟨0, 0, Vector.replicate _ none, none⟩⟩ :
      Mode2Scan).scannedLine (List.replicate 160 16)).scannedEntries = oamSpriteCount ∧
      ∀ k,
        slot (mergeRows ⟨.gameBoy, .dmg, .dmgXCoordinate, 0, 0, 0, 0, 0, []⟩
          [⟨⟨1, 16, 20, 0, 0⟩, 0xFF, 0⟩, ⟨⟨0, 16, 24, 0, 0⟩, 0, 0xFF⟩]).fifo k =
        slot (mergeRows ⟨.gameBoy, .dmg, .dmgXCoordinate, 0, 0, 0, 0, 0, []⟩
          [⟨⟨0, 16, 24, 0, 0⟩, 0, 0xFF⟩, ⟨⟨1, 16, 20, 0, 0⟩, 0xFF, 0⟩]).fifo k := by
  have h := @selection_and_merge
    ⟨.gameBoy, true, false, 0, 0, 8, ⟨0, 0, Vector.replicate _ none, none⟩⟩
    (List.replicate 160 16) rfl rfl (by decide) rfl
    ⟨⟨0, 0, Vector.replicate _ none, none⟩, rfl⟩
    ⟨.gameBoy, .dmg, .dmgXCoordinate, 0, 0, 0, 0, 0, []⟩ rfl
    [⟨⟨0, 16, 24, 0, 0⟩, 0, 0xFF⟩, ⟨⟨1, 16, 20, 0, 0⟩, 0xFF, 0⟩] (by decide)
  exact ⟨h.1.1, fun k => (h.2.1 _ (List.Perm.swap _ _ _) k).1⟩

/-- Before the first pixel of a line with an SCX discard a DMG merges a sprite that is clipped at
the left edge at another front: the slots are then not one run of columns. -/
theorem mixed_fronts :
    ∃ (p : ObjPipeline) (rows : List ObjRow), p.fifo = [] ∧
      (rows.map fun row => row.sprite.oamIndex).Nodup ∧
      ¬ ∃ front : Int, ∀ k : Nat, ObjPixel.InFront p.currentObjPriorityMode
        { px | ∃ row ∈ rows, px ∈ p.pixelsAt row (front + k) } (slot (p.mergeRows rows).fifo k) := by
  refine ⟨⟨.gameBoy, .dmg, .dmgXCoordinate, 0, 4, 0, 3, 0, []⟩,
    [⟨⟨0, 16, 4, 0, 0⟩, 0xFF, 0⟩, ⟨⟨1, 16, 8, 0, 0⟩, 0xFF, 0⟩], rfl, by decide, ?_⟩
  rintro ⟨front, hfront⟩
  generalize hp : (⟨.gameBoy, .dmg, .dmgXCoordinate, 0, 4, 0, 3, 0, []⟩ : ObjPipeline) = p
    at hfront
  generalize ha : (⟨⟨0, 16, 4, 0, 0⟩, 0xFF, 0⟩ : ObjRow) = a at hfront
  generalize hb : (⟨⟨1, 16, 8, 0, 0⟩, 0xFF, 0⟩ : ObjRow) = b at hfront
  -- The row of `a` takes the slots 0 to 7, and that of `b` one more.
  have hslots : slot (p.mergeRows [a, b]).fifo 0 = p.rowPixel a 0 ∧
      slot (p.mergeRows [a, b]).fifo 7 = p.rowPixel a 0 ∧
      slot (p.mergeRows [a, b]).fifo 9 = .transparent := by
    rw [← hp, ← ha, ← hb]
    decide +kernel
  have hshown : (p.rowPixel a 0).isTransparent = false ∧
      (p.rowPixel a 0).oamIndex = 0 ∧ (p.rowPixel b 5).isTransparent = false := by
    rw [← hp, ← ha, ← hb]
    decide +kernel
  have hcolumns : ∀ k : Nat, p.rowPixel a 0 = slot (p.mergeRows [a, b]).fifo k →
      -4 ≤ front + k ∧ front + k < 4 := by
    intro k hk
    rcases hfront k with ⟨h, -⟩ | ⟨h, -, -⟩
    · rw [← hk] at h
      rw [h] at hshown
      exact absurd hshown.1 (by decide)
    · obtain ⟨row, hrow, -, t, ht, hcolumn, hpx⟩ := h
      rw [← hk] at hpx
      have hindex : (p.rowPixel row t).oamIndex = 0 := by rw [← hpx, hshown.2.1]
      rcases List.mem_pair.mp hrow with rfl | rfl
      · rw [← ha] at hcolumn
        have hx : spriteScreenX ⟨0, 16, 4, 0, 0⟩ = -4 := by decide
        rw [hx] at hcolumn
        unfold bgTileWidth at ht
        omega
      · rw [← hb] at hindex
        exact absurd hindex Nat.one_ne_zero
  have hleft := hcolumns 0 hslots.1.symm
  have hright := hcolumns 7 hslots.2.1.symm
  obtain rfl : front = -4 := by omega
  -- So `b` covers the column of the slot 9, which is empty.
  rcases hfront 9 with ⟨-, hnone⟩ | ⟨-, h, -⟩
  · have hb5 := hnone (p.rowPixel b 5) ⟨b, List.mem_pair.mpr (.inr rfl), by decide, 5, by decide, by
      rw [← hb]
      decide, rfl⟩
    rw [hshown.2.2] at hb5
    cases hb5
  · rw [hslots.2.2] at h
    exact absurd h (by decide)

end ObjPipeline

end GbCycle
