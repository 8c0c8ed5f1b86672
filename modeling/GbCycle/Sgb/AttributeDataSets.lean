import GbCycle.Overlay
import GbCycle.Sgb.Attributes

/-!
# What attribute commands assign

A command is a list of data sets, each of which assigns palettes to some cells: to the parts of
a block, to a line, to the three parts of a split, to the next cell in scan order, or to all
cells from an attribute file.  After any commands a cell has the palette that the last data set
covering it assigns.
-/

namespace GbCycle

open Overlay

instance : NeZero sgbAttrMapWidth := ⟨by decide⟩

instance : NeZero sgbAttrMapHeight := ⟨by decide⟩

abbrev SgbCell := Fin sgbAttrMapWidth × Fin sgbAttrMapHeight

namespace SgbAttributeMap

/-- The palette of a cell. -/
def palette (map : SgbAttributeMap) (c : SgbCell) : U8 :=
  map.cells.getD (c.2.val * sgbAttrMapWidth + c.1.val) 0

/-- A palette below four for each cell. -/
structure Sound (map : SgbAttributeMap) : Prop where
  length : map.cells.length = sgbAttrMapCells
  small : ∀ p ∈ map.cells, p.toNat < 4

theorem sound_initial : initial.Sound := by
  refine ⟨List.length_replicate, fun p hp => ?_⟩
  rw [List.eq_of_mem_replicate hp]
  decide

/-- A step that changes the palettes of the cells it covers. -/
abbrev Assigns (step : SgbAttributeMap → Option SgbAttributeMap) (o : SgbCell → Option U8) : Prop :=
  Paints Sound palette step o

/-! ## Cells, rows and columns -/

theorem toNat_and_three (p : U8) : (p &&& 0x03).toNat < 4 := by
  have hle : (p &&& 0x03).toNat ≤ (0x03 : U8).toNat := by
    rw [BitVec.toNat_and]
    exact Nat.and_le_right
  exact Nat.lt_succ_of_le hle

@[simp] theorem and_three_and_three (p : U8) : p &&& 0x03 &&& 0x03 = p &&& 0x03 := by
  rw [BitVec.and_assoc]
  rfl

theorem assigns_setCell (cellX cellY : Nat) (p : U8) :
    Assigns (setCell cellX cellY p) fun c =>
      if c.1.val = cellX ∧ c.2.val = cellY then some (p &&& 0x03) else none := by
  intro map hmap
  have hlength := hmap.length
  unfold setCell
  by_cases hcell : cellX < sgbAttrMapWidth ∧ cellY < sgbAttrMapHeight
  · have hindex : cellY * sgbAttrMapWidth + cellX < map.cells.length := by
      rw [hlength]
      unfold sgbAttrMapCells
      unfold sgbAttrMapWidth sgbAttrMapHeight at *
      omega
    rw [if_pos hcell]
    refine ⟨_, if_pos hindex, ⟨?_, fun q hq => ?_⟩, funext fun c => ?_⟩
    · show (map.cells.set _ _).length = _
      rw [List.length_set]
      exact hlength
    · rcases List.mem_or_eq_of_mem_set hq with hold | rfl
      · exact hmap.small q hold
      · exact toNat_and_three p
    · show palette _ c =
        (if c.1.val = cellX ∧ c.2.val = cellY then some (p &&& 0x03) else none).getD (map.palette c)
      by_cases hsame : c.1.val = cellX ∧ c.2.val = cellY
      · rw [if_pos hsame, Option.getD_some, palette, hsame.1, hsame.2, List.getD_eq_getElem?_getD,
          List.getElem?_set_self hindex, Option.getD_some]
      · have hne : cellY * sgbAttrMapWidth + cellX ≠ c.2.val * sgbAttrMapWidth + c.1.val := by
          have hx := c.1.isLt
          unfold sgbAttrMapWidth at *
          omega
        rw [if_neg hsame, Option.getD_none, palette, palette, List.getD_eq_getElem?_getD,
          List.getElem?_set_ne hne, ← List.getD_eq_getElem?_getD]
  · rw [if_neg hcell]
    refine ⟨map, rfl, hmap, funext fun c => ?_⟩
    have hnot : ¬ (c.1.val = cellX ∧ c.2.val = cellY) := by
      rintro ⟨rfl, rfl⟩
      exact hcell ⟨c.1.isLt, c.2.isLt⟩
    show _ = (if c.1.val = cellX ∧ c.2.val = cellY then some (p &&& 0x03) else none).getD _
    rw [if_neg hnot, Option.getD_none]

/-- A loop over the cells of a row. -/
theorem assigns_row {step : SgbAttributeMap → Nat → Option SgbAttributeMap} {cellY : Nat}
    {o : Nat → Option U8}
    (h : ∀ cellX < sgbAttrMapWidth, Assigns (fun map => step map cellX) fun c =>
      if c.1.val = cellX ∧ c.2.val = cellY then o cellX else none) :
    Assigns (fun map => (List.range sgbAttrMapWidth).foldlM step map) fun c =>
      if c.2.val = cellY then o c.1.val else none := by
  refine (Paints.foldlM (o := fun cellX c =>
    if c.1.val = cellX ∧ c.2.val = cellY then o cellX else none)
    fun cellX hx => h cellX (List.mem_range.mp hx)).congr fun c => ?_
  rw [last_map_of_unique (List.mem_range.mpr c.1.isLt)]
  · simp only [true_and]
  · intro cellX _ hne
    exact if_neg fun hsame => hne hsame.1.symm

/-- A loop over the cells of a column. -/
theorem assigns_column {step : SgbAttributeMap → Nat → Option SgbAttributeMap} {cellX : Nat}
    {o : Nat → Option U8}
    (h : ∀ cellY < sgbAttrMapHeight, Assigns (fun map => step map cellY) fun c =>
      if c.1.val = cellX ∧ c.2.val = cellY then o cellY else none) :
    Assigns (fun map => (List.range sgbAttrMapHeight).foldlM step map) fun c =>
      if c.1.val = cellX then o c.2.val else none := by
  refine (Paints.foldlM (o := fun cellY c =>
    if c.1.val = cellX ∧ c.2.val = cellY then o cellY else none)
    fun cellY hy => h cellY (List.mem_range.mp hy)).congr fun c => ?_
  rw [last_map_of_unique (List.mem_range.mpr c.2.isLt)]
  · simp only [and_true]
  · intro cellY _ hne
    exact if_neg fun hsame => hne hsame.2.symm

theorem assigns_setRow (cellY : Nat) (p : U8) :
    Assigns (fun map => (List.range sgbAttrMapWidth).foldlM (fun map cellX =>
      setCell cellX cellY p map) map) fun c =>
      if c.2.val = cellY then some (p &&& 0x03) else none :=
  assigns_row fun cellX _ => assigns_setCell cellX cellY p

theorem assigns_setColumn (cellX : Nat) (p : U8) :
    Assigns (fun map => (List.range sgbAttrMapHeight).foldlM (fun map cellY =>
      setCell cellX cellY p map) map) fun c =>
      if c.1.val = cellX then some (p &&& 0x03) else none :=
  assigns_column fun cellY _ => assigns_setCell cellX cellY p

/-- A loop over the rows. -/
theorem assigns_rows {step : SgbAttributeMap → Nat → Option SgbAttributeMap}
    {o : Nat → Nat → Option U8}
    (h : ∀ cellY < sgbAttrMapHeight, Assigns (fun map => step map cellY) fun c =>
      if c.2.val = cellY then o c.1.val cellY else none) :
    Assigns (fun map => (List.range sgbAttrMapHeight).foldlM step map) fun c =>
      o c.1.val c.2.val := by
  refine (Paints.foldlM (o := fun cellY c => if c.2.val = cellY then o c.1.val cellY else none)
    fun cellY hy => h cellY (List.mem_range.mp hy)).congr fun c => ?_
  rw [last_map_of_unique (List.mem_range.mpr c.2.isLt)]
  · exact if_pos rfl
  · intro cellY _ hne
    exact if_neg fun hsame => hne hsame.symm

/-- A loop over the columns. -/
theorem assigns_columns {step : SgbAttributeMap → Nat → Option SgbAttributeMap}
    {o : Nat → Nat → Option U8}
    (h : ∀ cellX < sgbAttrMapWidth, Assigns (fun map => step map cellX) fun c =>
      if c.1.val = cellX then o cellX c.2.val else none) :
    Assigns (fun map => (List.range sgbAttrMapWidth).foldlM step map) fun c =>
      o c.1.val c.2.val := by
  refine (Paints.foldlM (o := fun cellX c => if c.1.val = cellX then o cellX c.2.val else none)
    fun cellX hx => h cellX (List.mem_range.mp hx)).congr fun c => ?_
  rw [last_map_of_unique (List.mem_range.mpr c.1.isLt)]
  · exact if_pos rfl
  · intro cellX _ hne
    exact if_neg fun hsame => hne hsame.symm

theorem assigns_forEachCell {body : Nat → Nat → SgbAttributeMap → Option SgbAttributeMap}
    {o : Nat → Nat → Option U8}
    (h : ∀ cellX < sgbAttrMapWidth, ∀ cellY < sgbAttrMapHeight,
      Assigns (body cellX cellY) fun c =>
        if c.1.val = cellX ∧ c.2.val = cellY then o cellX cellY else none) :
    Assigns (forEachCell body) fun c => o c.1.val c.2.val :=
  assigns_rows fun cellY hy => assigns_row fun cellX hx => h cellX hx cellY hy

end SgbAttributeMap

/-! ## What data sets assign -/

inductive BlockPart where
  | inside
  | border
  | outside
  deriving Repr, DecidableEq

/-- Where a cell is, of the block between two corners in any order. -/
def blockPart (x1 y1 x2 y2 : Nat) (cellX cellY : Nat) : BlockPart :=
  if min x1 x2 ≤ cellX ∧ cellX ≤ max x1 x2 ∧ min y1 y2 ≤ cellY ∧ cellY ≤ max y1 y2 then
    if cellX = x1 ∨ cellX = x2 ∨ cellY = y1 ∨ cellY = y2 then .border else .inside
  else .outside

/-- A part is changed where its control bit is set.  The border goes with the inside or the
outside where the data set changes nothing but that. -/
def blockPalette (control paletteDesignation : U8) : BlockPart → Option U8
  | .inside => if control &&& 0x01 ≠ 0 then some (paletteDesignation &&& 0x03) else none
  | .outside => if control &&& 0x04 ≠ 0 then some ((paletteDesignation >>> 4) &&& 0x03) else none
  | .border =>
      if control = 0x01 then some (paletteDesignation &&& 0x03)
      else if control = 0x04 then some ((paletteDesignation >>> 4) &&& 0x03)
      else if control &&& 0x02 ≠ 0 then some ((paletteDesignation >>> 2) &&& 0x03)
      else none

/-- The corners of a block are moved to the last column and row where they are off the screen. -/
def blockAssigns (dataSet : List U8) (c : SgbCell) : Option U8 :=
  match dataSet with
  | control :: paletteDesignation :: x1 :: y1 :: x2 :: y2 :: _ =>
      blockPalette (control &&& 0x07) paletteDesignation
        (blockPart (min x1.toNat 19) (min y1.toNat 17) (min x2.toNat 19) (min y2.toNat 17) c.1 c.2)
  | _ => none

/-- The data set at an index, where the payload has all of it. -/
def blockDataSet (payload : List U8) (dataSetIndex : Nat) : Option (List U8) :=
  let offset := 1 + dataSetIndex * 6
  if offset + 6 ≤ payload.length then some ((payload.drop offset).take 6) else none

def lineAssigns (line : U8) (c : SgbCell) : Option U8 :=
  if (if line &&& 0x80 ≠ 0 then c.2.val else c.1.val) = (line &&& 0x1F).toNat then
    some ((line >>> 5) &&& 0x03)
  else none

def divAssigns (bytes : SgbPacket) (c : SgbCell) : Option U8 :=
  let palettes := getElem bytes 1 one_lt_sgbPacketBytes
  let coordinate := (getElem bytes 2 two_lt_sgbPacketBytes).toNat
  let position := if palettes &&& 0x40 ≠ 0 then c.2.val else c.1.val
  if position < coordinate then some ((palettes >>> 2) &&& 0x03)
  else if position = coordinate then some ((palettes >>> 4) &&& 0x03)
  else some (palettes &&& 0x03)

/-- The cell that is some steps after another one in scan order. -/
def scanCell (topToBottom : Bool) (cellX cellY steps : Nat) : Nat × Nat :=
  if topToBottom then
    let i := (cellX * sgbAttrMapHeight + cellY + steps) % sgbAttrMapCells
    (i / sgbAttrMapHeight, i % sgbAttrMapHeight)
  else
    let i := (cellY * sgbAttrMapWidth + cellX + steps) % sgbAttrMapCells
    (i % sgbAttrMapWidth, i / sgbAttrMapWidth)

/-- The field of two bits at an index, the first in the top bits of the first byte. -/
def twoBitField (bytes : List U8) (i : Nat) : Option U8 :=
  (bytes[i / 4]?).map fun packed : U8 => (packed >>> (6 - i % 4 * 2)) &&& 0x03

def chrAssigns (topToBottom : Bool) (cellX cellY : Nat) (packed : List U8) (dataSetIndex : Nat)
    (c : SgbCell) : Option U8 :=
  if (c.1.val, c.2.val) = scanCell topToBottom cellX cellY dataSetIndex then
    twoBitField packed dataSetIndex
  else none

/-- A file has five bytes for each row. -/
def fileAssigns (bytes : List U8) (atfIndex : Nat) (c : SgbCell) : Option U8 :=
  twoBitField (bytes.drop (atfIndex * sgbAtfBytes + c.2.val * 5)) c.1.val

/-- The data sets of a command, where the attribute files have some bytes. -/
def dataSetsOf (files : List U8) : SgbAttributeCommand → List (SgbCell → Option U8)
  | .attrBlk payload =>
      ((List.range (min (payload.headD 0).toNat 0x12)).filterMap (blockDataSet payload)).map
        blockAssigns
  | .attrLin payload =>
      ((payload.drop 1).take (min (payload.headD 0).toNat 0x6E)).map lineAssigns
  | .attrDiv bytes => [divAssigns bytes]
  | .attrChr payload =>
      match payload with
      | x :: y :: countLo :: countHi :: direction :: packed =>
          if x.toNat < sgbAttrMapWidth ∧ y.toNat < sgbAttrMapHeight then
            (List.range (min (U16.ofBytes countHi countLo).toNat sgbAttrMapCells)).map
              (chrAssigns (direction &&& 0x01 != 0) x.toNat y.toNat packed)
          else []
      | _ => []
  | .attrTrn _ => []
  | .attrSet bytes =>
      let atfIndex := (getElem bytes 1 one_lt_sgbPacketBytes &&& 0x3F).toNat
      if atfIndex < sgbAtfCount then [fileAssigns files atfIndex] else []

/-- The bytes of the attribute files after a command. -/
def filesAfter (files : List U8) : SgbAttributeCommand → List U8
  | .attrTrn payload => payload.toList.take sgbAtfTotalBytes
  | _ => files

/-- The data sets of some commands, in order. -/
def allDataSets (files : List U8) : List SgbAttributeCommand → List (SgbCell → Option U8)
  | [] => []
  | command :: commands =>
      dataSetsOf files command ++ allDataSets (filesAfter files command) commands

namespace SgbAttributeMap

/-! ## Blocks -/

theorem blockPart_sorted (x1 y1 x2 y2 cellX cellY : Nat) :
    blockPart (min x1 x2) (min y1 y2) (max x1 x2) (max y1 y2) cellX cellY =
      blockPart x1 y1 x2 y2 cellX cellY := by
  unfold blockPart
  exact if_congr (by omega) (if_congr (by omega) rfl rfl) rfl

theorem minMax_eq (a b : Nat) : (if a ≤ b then (a, b) else (b, a)) = (min a b, max a b) := by
  by_cases h : a ≤ b
  · rw [if_pos h, Nat.min_eq_left h, Nat.max_eq_right h]
  · have hle : b ≤ a := Nat.le_of_not_le h
    rw [if_neg h, Nat.min_eq_right hle, Nat.max_eq_left hle]

theorem blockPart_of_le {left top right bottom : Nat} (hx : left ≤ right) (hy : top ≤ bottom)
    (cellX cellY : Nat) :
    blockPart left top right bottom cellX cellY =
      if left ≤ cellX ∧ cellX ≤ right ∧ top ≤ cellY ∧ cellY ≤ bottom then
        if cellX = left ∨ cellX = right ∨ cellY = top ∨ cellY = bottom then .border else .inside
      else .outside := by
  unfold blockPart
  rw [Nat.min_eq_left hx, Nat.max_eq_right hx, Nat.min_eq_left hy, Nat.max_eq_right hy]

/-- What is assigned to a part of a block. -/
def partPalette (changeInside changeLine changeOutside : Bool)
    (insidePalette linePalette outsidePalette : U8) : BlockPart → Option U8
  | .inside => if changeInside then some (insidePalette &&& 0x03) else none
  | .border => if changeLine then some (linePalette &&& 0x03) else none
  | .outside => if changeOutside then some (outsidePalette &&& 0x03) else none

/-- The body of the loop over the cells of a block. -/
theorem assigns_blockBody {cellX cellY left right top bottom : Nat} (hx : left ≤ right)
    (hy : top ≤ bottom) {changeInside changeLine changeOutside : Bool}
    {insidePalette linePalette outsidePalette : U8} :
    Assigns (fun map : SgbAttributeMap =>
      let insideRect := decide (left ≤ cellX ∧ cellX ≤ right ∧ top ≤ cellY ∧ cellY ≤ bottom)
      let onLine := insideRect &&
        (cellX == left || cellX == right || cellY == top || cellY == bottom)
      (if changeOutside && !insideRect then map.setCell cellX cellY outsidePalette
        else some map).bind fun map =>
      (if changeInside && insideRect && !onLine then map.setCell cellX cellY insidePalette
        else some map).bind fun map =>
      if changeLine && onLine then map.setCell cellX cellY linePalette else some map)
    fun c => if c.1.val = cellX ∧ c.2.val = cellY then
      partPalette changeInside changeLine changeOutside insidePalette linePalette outsidePalette
        (blockPart left top right bottom cellX cellY)
    else none := by
  have honLine : (cellX = left ∨ cellX = right ∨ cellY = top ∨ cellY = bottom) ↔
      (cellX == left || cellX == right || cellY == top || cellY == bottom) = true := by
    simp only [Bool.or_eq_true, beq_iff_eq, or_assoc]
  rw [blockPart_of_le hx hy]
  simp only [honLine]
  generalize (cellX == left || cellX == right || cellY == top || cellY == bottom) = onLine
  generalize hrect : decide (left ≤ cellX ∧ cellX ≤ right ∧ top ≤ cellY ∧ cellY ≤ bottom) = inRect
  have hinRect : (left ≤ cellX ∧ cellX ≤ right ∧ top ≤ cellY ∧ cellY ≤ bottom) ↔ inRect = true := by
    rw [← hrect, decide_eq_true_iff]
  simp only [hinRect]
  have houtside := (Paints.ite (c := (changeOutside && !inRect) = true) fun _ =>
    assigns_setCell cellX cellY outsidePalette)
  have hinside := (Paints.ite (c := (changeInside && inRect && !(inRect && onLine)) = true) fun _ =>
    assigns_setCell cellX cellY insidePalette)
  have hline := (Paints.ite (c := (changeLine && (inRect && onLine)) = true) fun _ =>
    assigns_setCell cellX cellY linePalette)
  refine (houtside.bind (hinside.bind hline)).congr fun c => ?_
  by_cases hcell : c.1.val = cellX ∧ c.2.val = cellY
  · simp only [if_pos hcell]
    cases inRect <;> cases onLine <;> cases changeInside <;> cases changeLine <;>
      cases changeOutside <;> rfl
  · simp only [if_neg hcell, ite_self, Option.or_none]

/-- The loop over the cells of a block. -/
theorem assigns_block {left right top bottom : Nat} (hx : left ≤ right) (hy : top ≤ bottom)
    (changeInside changeLine changeOutside : Bool)
    (insidePalette linePalette outsidePalette : U8) :
    Assigns (forEachCell fun cellX cellY map =>
      let insideRect := decide (left ≤ cellX ∧ cellX ≤ right ∧ top ≤ cellY ∧ cellY ≤ bottom)
      let onLine := insideRect &&
        (cellX == left || cellX == right || cellY == top || cellY == bottom)
      (if changeOutside && !insideRect then map.setCell cellX cellY outsidePalette
        else some map).bind fun map =>
      (if changeInside && insideRect && !onLine then map.setCell cellX cellY insidePalette
        else some map).bind fun map =>
      if changeLine && onLine then map.setCell cellX cellY linePalette else some map)
    fun c => partPalette changeInside changeLine changeOutside insidePalette linePalette
      outsidePalette (blockPart left top right bottom c.1 c.2) :=
  assigns_forEachCell fun _ _ _ _ => assigns_blockBody hx hy

/-- The border has a palette of its own, unless only the inside or only the outside changes. -/
theorem blockPalette_eq (control paletteDesignation : U8) (part : BlockPart) :
    blockPalette control paletteDesignation part =
      partPalette (control &&& 0x01 != 0)
        (if control = 0x01 ∨ control = 0x04 then true else control &&& 0x02 != 0)
        (control &&& 0x04 != 0) (paletteDesignation &&& 0x03)
        (if control = 0x01 then paletteDesignation &&& 0x03
          else if control = 0x04 then (paletteDesignation >>> 4) &&& 0x03
          else (paletteDesignation >>> 2) &&& 0x03)
        ((paletteDesignation >>> 4) &&& 0x03) part := by
  unfold blockPalette partPalette
  cases part with
  | inside =>
      dsimp only
      rw [and_three_and_three]
      exact if_congr bne_iff_ne.symm rfl rfl
  | outside =>
      dsimp only
      rw [and_three_and_three]
      exact if_congr bne_iff_ne.symm rfl rfl
  | border =>
      dsimp only
      by_cases hone : control = 0x01
      · rw [if_pos hone, if_pos (Or.inl hone), if_pos hone, if_pos rfl, and_three_and_three]
      · by_cases hfour : control = 0x04
        · rw [if_neg hone, if_pos hfour, if_pos (Or.inr hfour), if_neg hone, if_pos hfour,
            if_pos rfl, and_three_and_three]
        · rw [if_neg hone, if_neg hfour, if_neg (not_or.mpr ⟨hone, hfour⟩), if_neg hone,
            if_neg hfour, and_three_and_three]
          exact if_congr bne_iff_ne.symm rfl rfl

theorem assigns_attrBlkDataSet {dataSet : List U8} (h : 6 ≤ dataSet.length) :
    Assigns (applyAttrBlkDataSet dataSet) (blockAssigns dataSet) := by
  match dataSet, h with
  | control :: paletteDesignation :: x1 :: y1 :: x2 :: y2 :: rest, _ =>
      unfold applyAttrBlkDataSet
      dsimp only
      generalize hcontrol : control &&& 0x07 = masked
      have hline : (if masked = 0x01 then (true, paletteDesignation &&& 0x03)
          else if masked = 0x04 then (true, (paletteDesignation >>> 4) &&& 0x03)
          else (masked &&& 0x02 != 0, (paletteDesignation >>> 2) &&& 0x03)) =
        (if masked = 0x01 ∨ masked = 0x04 then true else masked &&& 0x02 != 0,
          if masked = 0x01 then paletteDesignation &&& 0x03
          else if masked = 0x04 then (paletteDesignation >>> 4) &&& 0x03
          else (paletteDesignation >>> 2) &&& 0x03) := by
        by_cases hone : masked = 0x01
        · rw [if_pos hone, if_pos (Or.inl hone), if_pos hone]
        · by_cases hfour : masked = 0x04
          · rw [if_neg hone, if_pos hfour, if_pos (Or.inr hfour), if_neg hone, if_pos hfour]
          · rw [if_neg hone, if_neg hfour, if_neg (not_or.mpr ⟨hone, hfour⟩), if_neg hone,
              if_neg hfour]
      rw [hline, minMax_eq, minMax_eq]
      refine (assigns_block (Nat.le_trans (Nat.min_le_left _ _) (Nat.le_max_left _ _))
        (Nat.le_trans (Nat.min_le_left _ _) (Nat.le_max_left _ _)) _ _ _ _ _ _).congr fun c => ?_
      rw [blockPart_sorted, ← blockPalette_eq, ← hcontrol]
      rfl

theorem assigns_attrBlkDataSets (payload : List U8) (count dataSetIndex : Nat) :
    Assigns (applyAttrBlkDataSets payload count dataSetIndex)
      (last (((List.range' dataSetIndex count).filterMap (blockDataSet payload)).map
        blockAssigns)) := by
  induction count generalizing dataSetIndex with
  | zero => exact paints_skip
  | succ count ih =>
      by_cases hfits : 1 + dataSetIndex * 6 + 6 ≤ payload.length
      · have hdataSet : blockDataSet payload dataSetIndex =
            some ((payload.drop (1 + dataSetIndex * 6)).take 6) := if_pos hfits
        have hlength : 6 ≤ ((payload.drop (1 + dataSetIndex * 6)).take 6).length := by
          rw [List.length_take, List.length_drop]
          omega
        have hstep : applyAttrBlkDataSets payload (count + 1) dataSetIndex = fun map =>
            (map.applyAttrBlkDataSet ((payload.drop (1 + dataSetIndex * 6)).take 6)).bind
              (applyAttrBlkDataSets payload count (dataSetIndex + 1)) :=
          funext fun map => if_pos hfits
        rw [hstep]
        refine ((assigns_attrBlkDataSet hlength).bind (ih (dataSetIndex + 1))).congr fun c => ?_
        rw [List.range'_succ, List.filterMap_cons, hdataSet, List.map_cons, last_cons]
      · have hstep : applyAttrBlkDataSets payload (count + 1) dataSetIndex = some :=
          funext fun map => if_neg hfits
        have hnone : (List.range' dataSetIndex (count + 1)).filterMap (blockDataSet payload) =
            [] := by
          rw [List.filterMap_eq_nil_iff]
          intro i hi
          refine if_neg ?_
          have hle : dataSetIndex ≤ i := (List.mem_range'_1.mp hi).1
          omega
        rw [hstep, hnone]
        exact paints_skip

/-! ## Lines and splits -/

theorem assigns_attrLinDataSet (line : U8) :
    Assigns (fun map => map.applyAttrLinDataSet line) (lineAssigns line) := by
  unfold applyAttrLinDataSet lineAssigns
  generalize (line &&& 0x1F).toNat = coordinate
  by_cases hhorizontal : line &&& 0x80 ≠ 0
  · have hbit : (line &&& 0x80 != 0) = true := bne_iff_ne.mpr hhorizontal
    simp only [hbit, if_true]
    refine (Paints.ite fun _ => assigns_setRow coordinate ((line >>> 5) &&& 0x03)).congr
      fun c => ?_
    rw [if_pos hhorizontal, and_three_and_three]
    by_cases hline : c.2.val = coordinate
    · rw [if_pos (hline ▸ c.2.isLt)]
    · rw [if_neg hline, ite_self]
  · have hbit : (line &&& 0x80 != 0) = false := by
      rw [bne_eq_false_iff_eq]
      exact not_not.mp hhorizontal
    simp only [hbit, Bool.false_eq_true, if_false]
    refine (Paints.ite fun _ => assigns_setColumn coordinate ((line >>> 5) &&& 0x03)).congr
      fun c => ?_
    rw [if_neg hhorizontal, and_three_and_three]
    by_cases hline : c.1.val = coordinate
    · rw [if_pos (hline ▸ c.1.isLt)]
    · rw [if_neg hline, ite_self]

theorem assigns_attrDivSplit (bytes : SgbPacket) :
    Assigns (applyAttrDivSplit bytes) (divAssigns bytes) := by
  unfold applyAttrDivSplit divAssigns
  dsimp only
  generalize bytes[2].toNat = coordinate
  by_cases hhorizontal : bytes[1] &&& 0x40 ≠ 0
  · have hbit : (bytes[1] &&& 0x40 != 0) = true := bne_iff_ne.mpr hhorizontal
    simp only [hbit, if_true]
    refine (assigns_rows (o := fun _ cellY => some ((if cellY < coordinate then _
      else if cellY = coordinate then _ else _) &&& 0x03))
      fun cellY _ => assigns_setRow cellY _).congr fun c => ?_
    rw [if_pos hhorizontal]
    split
    · rw [and_three_and_three]
    · split
      · rw [and_three_and_three]
      · rw [and_three_and_three]
  · have hbit : (bytes[1] &&& 0x40 != 0) = false := by
      rw [bne_eq_false_iff_eq]
      exact not_not.mp hhorizontal
    simp only [hbit, Bool.false_eq_true, if_false]
    refine (assigns_columns (o := fun cellX _ => some ((if cellX < coordinate then _
      else if cellX = coordinate then _ else _) &&& 0x03))
      fun cellX _ => assigns_setColumn cellX _).congr fun c => ?_
    rw [if_neg hhorizontal]
    split
    · rw [and_three_and_three]
    · split
      · rw [and_three_and_three]
      · rw [and_three_and_three]

/-! ## Scan order and files -/

theorem scanCell_zero {cellX cellY : Nat} (hx : cellX < sgbAttrMapWidth)
    (hy : cellY < sgbAttrMapHeight) (topToBottom : Bool) :
    scanCell topToBottom cellX cellY 0 = (cellX, cellY) := by
  unfold scanCell sgbAttrMapCells
  unfold sgbAttrMapWidth sgbAttrMapHeight at *
  cases topToBottom with
  | true =>
      refine Prod.ext ?_ ?_
      · show (cellX * 18 + cellY + 0) % (20 * 18) / 18 = cellX
        omega
      · show (cellX * 18 + cellY + 0) % (20 * 18) % 18 = cellY
        omega
  | false =>
      refine Prod.ext ?_ ?_
      · show (cellY * 20 + cellX + 0) % (20 * 18) % 20 = cellX
        omega
      · show (cellY * 20 + cellX + 0) % (20 * 18) / 20 = cellY
        omega

theorem nextCell_scanCell (topToBottom : Bool) (cellX cellY steps : Nat) :
    nextCell topToBottom (scanCell topToBottom cellX cellY steps) =
      scanCell topToBottom cellX cellY (steps + 1) := by
  unfold nextCell scanCell sgbAttrMapCells sgbAttrMapWidth sgbAttrMapHeight
  cases topToBottom with
  | true =>
      dsimp only
      simp only [if_true]
      generalize hi : (cellX * 18 + cellY + steps) % (20 * 18) = i
      have hnext : (cellX * 18 + cellY + (steps + 1)) % (20 * 18) =
          if i = 359 then 0 else i + 1 := by
        split <;> omega
      rw [hnext]
      split
      · refine Prod.ext ?_ ?_
        · show (i / 18 + 1) % 20 = (if i = 359 then 0 else i + 1) / 18
          split <;> omega
        · show 0 = (if i = 359 then 0 else i + 1) % 18
          split <;> omega
      · refine Prod.ext ?_ ?_
        · show i / 18 = (if i = 359 then 0 else i + 1) / 18
          split <;> omega
        · show i % 18 + 1 = (if i = 359 then 0 else i + 1) % 18
          split <;> omega
  | false =>
      dsimp only
      simp only [Bool.false_eq_true, if_false]
      generalize hi : (cellY * 20 + cellX + steps) % (20 * 18) = i
      have hnext : (cellY * 20 + cellX + (steps + 1)) % (20 * 18) =
          if i = 359 then 0 else i + 1 := by
        split <;> omega
      rw [hnext]
      split
      · refine Prod.ext ?_ ?_
        · show 0 = (if i = 359 then 0 else i + 1) % 20
          split <;> omega
        · show (i / 20 + 1) % 18 = (if i = 359 then 0 else i + 1) / 20
          split <;> omega
      · refine Prod.ext ?_ ?_
        · show i % 20 + 1 = (if i = 359 then 0 else i + 1) % 20
          split <;> omega
        · show i / 20 = (if i = 359 then 0 else i + 1) / 20
          split <;> omega

/-- The cells from an index on, until the payload ends. -/
theorem assigns_attrChrDataSets {header : List U8} (hheader : header.length = 5)
    (packed : List U8) (topToBottom : Bool) (cellX cellY count dataSetIndex : Nat) :
    Assigns (applyAttrChrDataSets (header ++ packed) topToBottom count dataSetIndex
        (scanCell topToBottom cellX cellY dataSetIndex))
      (last ((List.range' dataSetIndex count).map
        (chrAssigns topToBottom cellX cellY packed))) := by
  induction count generalizing dataSetIndex with
  | zero => exact paints_skip
  | succ count ih =>
      have hbyte : (header ++ packed)[5 + dataSetIndex / 4]? = packed[dataSetIndex / 4]? := by
        rw [← hheader, List.getElem?_append_right (Nat.le_add_right _ _), Nat.add_sub_cancel_left]
      cases hpacked : packed[dataSetIndex / 4]? with
      | none =>
          have hstep : applyAttrChrDataSets (header ++ packed) topToBottom (count + 1)
              dataSetIndex (scanCell topToBottom cellX cellY dataSetIndex) = some := by
            funext map
            unfold applyAttrChrDataSets
            rw [hbyte, hpacked]
          rw [hstep]
          refine paints_skip.congr fun c => (last_eq_none fun o ho => ?_).symm
          obtain ⟨i, hi, rfl⟩ := List.mem_map.mp ho
          have hle : dataSetIndex ≤ i := (List.mem_range'_1.mp hi).1
          have hend : packed.length ≤ dataSetIndex / 4 := List.getElem?_eq_none_iff.mp hpacked
          have hfield : twoBitField packed i = none := by
            unfold twoBitField
            rw [List.getElem?_eq_none (Nat.le_trans hend (Nat.div_le_div_right hle)),
              Option.map_none]
          unfold chrAssigns
          rw [hfield, ite_self]
      | some byte =>
          have hstep : applyAttrChrDataSets (header ++ packed) topToBottom (count + 1)
              dataSetIndex (scanCell topToBottom cellX cellY dataSetIndex) = fun map =>
              (map.setCell (scanCell topToBottom cellX cellY dataSetIndex).1
                (scanCell topToBottom cellX cellY dataSetIndex).2
                ((byte >>> (6 - dataSetIndex % 4 * 2)) &&& 0x03)).bind
                (applyAttrChrDataSets (header ++ packed) topToBottom count (dataSetIndex + 1)
                  (scanCell topToBottom cellX cellY (dataSetIndex + 1))) := by
            funext map
            rw [← nextCell_scanCell, applyAttrChrDataSets, hbyte, hpacked]
          rw [hstep]
          refine ((assigns_setCell _ _ _).bind (ih (dataSetIndex + 1))).congr fun c => ?_
          rw [List.range'_succ, List.map_cons, last_cons, and_three_and_three]
          congr 1
          unfold chrAssigns twoBitField
          rw [hpacked, Option.map_some]
          refine if_congr ⟨fun h => Prod.ext h.1 h.2, fun h => ?_⟩ rfl rfl
          exact ⟨congrArg Prod.fst h, congrArg Prod.snd h⟩

theorem length_filesAfter {files : List U8} (h : files.length = sgbAtfTotalBytes)
    (command : SgbAttributeCommand) : (filesAfter files command).length = sgbAtfTotalBytes := by
  cases command with
  | attrTrn payload =>
      show (payload.toList.take sgbAtfTotalBytes).length = sgbAtfTotalBytes
      rw [List.length_take, Vector.length_toList]
      rfl
  | _ => exact h

/-- The loop over the cells of an attribute file. -/
theorem assigns_file {files : SgbAttributeFileState} (h : files.bytes.length = sgbAtfTotalBytes)
    {atfIndex : Nat} (hindex : atfIndex < sgbAtfCount) :
    Assigns (forEachCell fun cellX cellY map =>
        (files.paletteIndex atfIndex cellX cellY).bind (map.setCell cellX cellY ·))
      (fileAssigns files.bytes atfIndex) := by
  have hfield : ∀ cellX < sgbAttrMapWidth, ∀ cellY < sgbAttrMapHeight, ∃ byte : U8,
      files.paletteIndex atfIndex cellX cellY =
        some ((byte >>> (6 - cellX % 4 * 2)) &&& 0x03) ∧
      twoBitField (files.bytes.drop (atfIndex * sgbAtfBytes + cellY * 5)) cellX =
        some ((byte >>> (6 - cellX % 4 * 2)) &&& 0x03) := by
    intro cellX hx cellY hy
    have hbyte : atfIndex * sgbAtfBytes + cellY * 5 + cellX / 4 < files.bytes.length := by
      rw [h]
      unfold sgbAtfTotalBytes
      unfold sgbAttrMapWidth at hx
      unfold sgbAttrMapHeight at hy
      unfold sgbAtfCount sgbAtfBytes at *
      omega
    refine ⟨files.bytes[atfIndex * sgbAtfBytes + cellY * 5 + cellX / 4], ?_, ?_⟩
    · unfold SgbAttributeFileState.paletteIndex
      dsimp only
      rw [List.getElem?_eq_getElem hbyte, Option.map_some]
    · unfold twoBitField
      rw [List.getElem?_drop, List.getElem?_eq_getElem hbyte, Option.map_some]
  refine (assigns_forEachCell (o := fun cellX cellY =>
    twoBitField (files.bytes.drop (atfIndex * sgbAtfBytes + cellY * 5)) cellX)
    fun cellX hx cellY hy => ?_)
  obtain ⟨byte, hindexed, hassigned⟩ := hfield cellX hx cellY hy
  rw [hindexed, hassigned]
  refine (assigns_setCell cellX cellY _).congr fun c => ?_
  rw [and_three_and_three]

end SgbAttributeMap

/-! ## The commands -/

namespace SgbAttributeState

/-- A sound map, and attribute files of the size that a transfer fills. -/
structure Sound (s : SgbAttributeState) : Prop where
  map : s.map.Sound
  files : s.files.bytes.length = sgbAtfTotalBytes

theorem sound_initial : initial.Sound := ⟨SgbAttributeMap.sound_initial, List.length_replicate⟩

/-- A command assigns what its data sets do, and keeps the state sound. -/
theorem Sound.step {s : SgbAttributeState} (h : s.Sound) (command : SgbAttributeCommand) :
    ∃ s', s.step command = some s' ∧ s'.Sound ∧
      s'.files.bytes = filesAfter s.files.bytes command ∧
      s'.map.palette = paint (last (dataSetsOf s.files.bytes command)) s.map.palette := by
  cases command with
  | attrBlk payload =>
      match payload with
      | [] => exact ⟨s, rfl, h, rfl, rfl⟩
      | count :: payload =>
          obtain ⟨map, hrun, hmap, hpalette⟩ := SgbAttributeMap.assigns_attrBlkDataSets
            (count :: payload) (min count.toNat 0x12) 0 s.map h.map
          refine ⟨_, congrArg (Option.map _) hrun, ⟨hmap, h.files⟩, rfl, hpalette.trans ?_⟩
          rw [← List.range_eq_range']
          rfl
  | attrLin payload =>
      match payload with
      | [] => exact ⟨s, rfl, h, rfl, rfl⟩
      | count :: lines =>
          obtain ⟨map, hrun, hmap, hpalette⟩ := (Paints.foldlM fun line _ =>
            SgbAttributeMap.assigns_attrLinDataSet line) s.map h.map
          exact ⟨_, congrArg (Option.map _) hrun, ⟨hmap, h.files⟩, rfl, hpalette⟩
  | attrDiv bytes =>
      obtain ⟨map, hrun, hmap, hpalette⟩ := SgbAttributeMap.assigns_attrDivSplit bytes s.map h.map
      refine ⟨_, congrArg (Option.map _) hrun, ⟨hmap, h.files⟩, rfl, hpalette.trans ?_⟩
      exact congrArg (paint · _) (last_singleton _).symm
  | attrChr payload =>
      match payload with
      | x :: y :: countLo :: countHi :: direction :: packed =>
          have hdataSets : dataSetsOf s.files.bytes
              (.attrChr (x :: y :: countLo :: countHi :: direction :: packed)) =
            if x.toNat < sgbAttrMapWidth ∧ y.toNat < sgbAttrMapHeight then
              (List.range (min (U16.ofBytes countHi countLo).toNat sgbAttrMapCells)).map
                (chrAssigns (direction &&& 0x01 != 0) x.toNat y.toNat packed)
            else [] := rfl
          rw [hdataSets]
          by_cases hcell : x.toNat < sgbAttrMapWidth ∧ y.toNat < sgbAttrMapHeight
          · have hinside : ¬ (sgbAttrMapWidth ≤ x.toNat ∨ sgbAttrMapHeight ≤ y.toNat) := by
              omega
            have hassigns := SgbAttributeMap.assigns_attrChrDataSets
              (show [x, y, countLo, countHi, direction].length = 5 from rfl) packed
              (direction &&& 0x01 != 0) x.toNat y.toNat
              (min (U16.ofBytes countHi countLo).toNat sgbAttrMapCells) 0
            rw [SgbAttributeMap.scanCell_zero hcell.1 hcell.2] at hassigns
            obtain ⟨map, hrun, hmap, hpalette⟩ := hassigns s.map h.map
            rw [if_pos hcell, List.range_eq_range']
            exact ⟨_, (if_neg hinside).trans (congrArg (Option.map _) hrun), ⟨hmap, h.files⟩,
              rfl, hpalette⟩
          · have houtside : sgbAttrMapWidth ≤ x.toNat ∨ sgbAttrMapHeight ≤ y.toNat := by
              omega
            rw [if_neg hcell]
            exact ⟨s, if_pos houtside, h, rfl, rfl⟩
      | [] => exact ⟨s, rfl, h, rfl, rfl⟩
      | [_] => exact ⟨s, rfl, h, rfl, rfl⟩
      | [_, _] => exact ⟨s, rfl, h, rfl, rfl⟩
      | [_, _, _] => exact ⟨s, rfl, h, rfl, rfl⟩
      | [_, _, _, _] => exact ⟨s, rfl, h, rfl, rfl⟩
  | attrTrn payload =>
      have hsize := SgbAttributeMap.length_filesAfter h.files (.attrTrn payload)
      have hcopy : s.files.bytes.length = (payload.toList.take sgbAtfTotalBytes).length :=
        h.files.trans hsize.symm
      exact ⟨_, congrArg (Option.map _) (if_pos hcopy), ⟨h.map, hsize⟩, rfl, rfl⟩
  | attrSet bytes =>
      have hdataSets : dataSetsOf s.files.bytes (.attrSet bytes) =
        if (bytes[1] &&& 0x3F).toNat < sgbAtfCount then
          [fileAssigns s.files.bytes (bytes[1] &&& 0x3F).toNat] else [] := rfl
      rw [hdataSets]
      unfold SgbAttributeState.step applyAttrSet SgbAttributeFileState.applyToMap
      dsimp only
      by_cases hindex : (bytes[1] &&& 0x3F).toNat < sgbAtfCount
      · obtain ⟨map, hrun, hmap, hpalette⟩ :=
          SgbAttributeMap.assigns_file h.files hindex s.map h.map
        rw [if_neg (Nat.not_le_of_lt hindex), if_pos hindex, last_singleton, hrun]
        exact ⟨_, rfl, ⟨hmap, h.files⟩, rfl, hpalette⟩
      · rw [if_pos (Nat.le_of_not_lt hindex), if_neg hindex]
        exact ⟨_, rfl, ⟨h.map, h.files⟩, rfl, rfl⟩

/-- No sequence of commands indexes out of range, whatever their payloads; the map keeps a
palette below four for each of its cells, and a cell that some data set covers has the palette
that the last one assigns, the others are unchanged. -/
theorem attributes_lastDataSet {s : SgbAttributeState} (h : s.Sound)
    (commands : List SgbAttributeCommand) :
    ∃ s', s.run commands = some s' ∧ s'.map.cells.length = sgbAttrMapCells ∧
      (∀ p ∈ s'.map.cells, p.toNat < 4) ∧
      ∀ c, s'.map.palette c =
        (last (allDataSets s.files.bytes commands) c).getD (s.map.palette c) := by
  have hrun : ∃ s', s.run commands = some s' ∧ s'.Sound ∧
      s'.map.palette = paint (last (allDataSets s.files.bytes commands)) s.map.palette := by
    induction commands generalizing s with
    | nil => exact ⟨s, rfl, h, rfl⟩
    | cons command commands ih =>
        obtain ⟨s₁, hstep, h₁, hfiles, hpalette₁⟩ := h.step command
        obtain ⟨s', hrun, h', hpalette⟩ := ih h₁
        refine ⟨s', ?_, h', ?_⟩
        · rw [run, List.foldlM_cons, hstep]
          exact hrun
        · rw [allDataSets, paint_last_append, hpalette, hpalette₁, hfiles]
  obtain ⟨s', hrun, h', hpalette⟩ := hrun
  exact ⟨s', hrun, h'.map.length, h'.map.small, congrFun hpalette⟩

/-- A block with its corners the wrong way round and off the screen, and a line over it. -/
theorem attributes_lastDataSet_line :
    ∃ s', initial.run [.attrBlk [1, 0x07, 0x1B, 0xFF, 0xFF, 0x10, 0x0E], .attrLin [1, 0x51]] =
        some s' ∧ s'.map.palette (17, 3) = 2 ∧ s'.map.palette (17, 15) = 2 ∧
      s'.map.palette (18, 15) = 3 ∧ s'.map.palette (19, 15) = 2 ∧ s'.map.palette (0, 0) = 1 := by
  obtain ⟨s', hrun, -, -, hpalette⟩ := attributes_lastDataSet sound_initial
    [.attrBlk [1, 0x07, 0x1B, 0xFF, 0xFF, 0x10, 0x0E], .attrLin [1, 0x51]]
  refine ⟨s', hrun, ?_⟩
  rw [hpalette, hpalette, hpalette, hpalette, hpalette]
  decide

end SgbAttributeState

end GbCycle
