import GbCycle.Word

/-!
# Printed pages

A page is rendered from the image buffer by three nested loops, over the tiles, their rows and
the bits of a row, each of which writes one pixel at an index it computes.  A read or a write
out of range is a panic, here `none`.  For a buffer of the size the printer has there is none,
and the page is the picture of the complete tiles, twenty to a row, in the colours of their two
bit planes.
-/

namespace GbCycle

namespace Printer

def printerTileWidth : Nat := 20
def printerPageWidthPixels : Nat := 160

structure PrinterMargins where
  before : U8
  after : U8
  deriving Repr, DecidableEq

structure PrinterPrintArgs where
  sheets : U8
  margins : PrinterMargins
  palette : U8
  exposure : U8
  deriving Repr, DecidableEq

structure PrintedPage where
  width : Nat
  height : Nat
  pixels : List U8
  printArgs : PrinterPrintArgs
  deriving Repr, DecidableEq

/-- `pixels[index] = color`. -/
def writePixel (pixels : List U8) (index : Nat) (color : U8) : Option (List U8) :=
  if index < pixels.length then some (pixels.set index color) else none

/-- The colour of a bit in two planes. -/
def planeColor (planeLo planeHi : U8) (bit : Nat) : U8 :=
  let shift := 7 - bit
  ((planeLo >>> shift) &&& 1) ||| (((planeHi >>> shift) &&& 1) <<< 1)

def renderRow (imageBuffer : List U8) (tileIndex : Nat) (pixels : List U8) (row : Nat) :
    Option (List U8) :=
  let tileBase := tileIndex * 16
  let tileX := tileIndex % printerTileWidth
  let tileY := tileIndex / printerTileWidth
  imageBuffer[tileBase + row * 2]?.bind fun planeLo =>
    imageBuffer[tileBase + row * 2 + 1]?.bind fun planeHi =>
      (List.range 8).foldlM (fun pixels bit =>
        let x := tileX * 8 + bit
        let y := tileY * 8 + row
        writePixel pixels (y * printerPageWidthPixels + x) (planeColor planeLo planeHi bit)) pixels

def renderTile (imageBuffer pixels : List U8) (tileIndex : Nat) : Option (List U8) :=
  (List.range 8).foldlM (renderRow imageBuffer tileIndex) pixels

/-- The height is cut to a `u16`. -/
def renderPrintedPage (imageBuffer : List U8) (printArgs : PrinterPrintArgs) :
    Option PrintedPage :=
  let totalTiles := imageBuffer.length / 16
  let tileRows := (totalTiles + printerTileWidth - 1) / printerTileWidth
  let height := tileRows * 8 % 2 ^ 16
  ((List.range totalTiles).foldlM (renderTile imageBuffer)
    (List.replicate (printerPageWidthPixels * height) 0)).map fun pixels =>
      { width := printerPageWidthPixels, height, pixels, printArgs }

/-! ## The picture of a buffer -/

/-- The pixel at `x`, `y` of the complete tiles of a buffer, twenty to a row, in the colours of
their two bit planes; blank where there is no tile. -/
def tilePixel (imageBuffer : List U8) (x y : Nat) : U8 :=
  let tile := y / 8 * 20 + x / 8
  if tile < imageBuffer.length / 16 then
    let plane := tile * 16 + y % 8 * 2
    planeColor (imageBuffer.getD plane 0) (imageBuffer.getD (plane + 1) 0) (x % 8)
  else 0

def tileRows (imageBuffer : List U8) : Nat := (imageBuffer.length / 16 + 19) / 20

/-- The page that shows the complete tiles of a buffer. -/
def pageOf (imageBuffer : List U8) (printArgs : PrinterPrintArgs) : PrintedPage where
  width := 160
  height := tileRows imageBuffer * 8
  pixels := (List.range (160 * (tileRows imageBuffer * 8))).map fun i =>
    tilePixel imageBuffer (i % 160) (i / 160)
  printArgs

/-- The pixels in `written` are those of a picture, the others are blank. -/
structure Painted (picture : Nat → U8) (size : Nat) (written : Nat → Prop) (pixels : List U8) :
    Prop where
  length : pixels.length = size
  painted : ∀ i, written i → i < size → pixels[i]? = some (picture i)
  blank : ∀ i, ¬ written i → i < size → pixels[i]? = some 0

section

variable {picture : Nat → U8} {size : Nat} {written : Nat → Prop} {pixels : List U8}

/-- A step that paints some more pixels. -/
def Paints {ι : Type} (picture : Nat → U8) (size : Nat) (step : List U8 → ι → Option (List U8))
    (painted : ι → Nat → Prop) (x : ι) : Prop :=
  ∀ written pixels, Painted picture size written pixels →
    ∃ pixels', step pixels x = some pixels' ∧
      Painted picture size (fun i => written i ∨ painted x i) pixels'

/-- A loop paints what its steps paint. -/
theorem paints_foldlM {ι : Type} {step : List U8 → ι → Option (List U8)}
    {painted : ι → Nat → Prop} {xs : List ι} (hsteps : ∀ x ∈ xs, Paints picture size step painted x)
    (hpixels : Painted picture size written pixels) :
    ∃ pixels', xs.foldlM step pixels = some pixels' ∧
      Painted picture size (fun i => written i ∨ ∃ x ∈ xs, painted x i) pixels' := by
  induction xs generalizing written pixels with
  | nil =>
      refine ⟨pixels, rfl, ?_⟩
      have hsame : (fun i => written i ∨ ∃ x ∈ ([] : List ι), painted x i) = written := by
        funext i
        simp
      rw [hsame]
      exact hpixels
  | cons x xs ih =>
      obtain ⟨pixels₁, hstep, hpixels₁⟩ := hsteps x (List.mem_cons_self ..) written pixels hpixels
      obtain ⟨pixels₂, hloop, hpixels₂⟩ :=
        ih (fun x' hx' => hsteps x' (List.mem_cons_of_mem _ hx')) hpixels₁
      refine ⟨pixels₂, ?_, ?_⟩
      · rw [List.foldlM_cons, hstep]
        exact hloop
      · have hsame : (fun i => written i ∨ ∃ x' ∈ x :: xs, painted x' i) =
            fun i => (written i ∨ painted x i) ∨ ∃ x' ∈ xs, painted x' i := by
          funext i
          simp [or_assoc]
        rw [hsame]
        exact hpixels₂

theorem paints_writePixel {index : Nat} (hindex : index < size)
    (hpixels : Painted picture size written pixels) :
    ∃ pixels', writePixel pixels index (picture index) = some pixels' ∧
      Painted picture size (fun i => written i ∨ i = index) pixels' := by
  have hlength := hpixels.length
  refine ⟨pixels.set index (picture index), if_pos (by omega), ?_, fun i hi hlt => ?_,
    fun i hi hlt => ?_⟩
  · rw [List.length_set, hlength]
  · rw [List.getElem?_set]
    by_cases hsame : index = i
    · rw [if_pos hsame, if_pos (by omega), hsame]
    · rw [if_neg hsame]
      exact hpixels.painted i (hi.resolve_right (Ne.symm hsame)) hlt
  · rw [List.getElem?_set, if_neg fun hsame => hi (.inr hsame.symm)]
    exact hpixels.blank i (fun hold => hi (.inl hold)) hlt

end

/-! ## The loops paint the picture -/

section

variable (imageBuffer : List U8)

/-- The index of the pixel that a tile, a row and a bit stand for. -/
def pixelIndex (tile row bit : Nat) : Nat := (tile / 20 * 8 + row) * 160 + (tile % 20 * 8 + bit)

/-- The picture of the buffer, by pixel index. -/
def picture (i : Nat) : U8 := tilePixel imageBuffer (i % 160) (i / 160)

variable {imageBuffer : List U8} {tile row bit : Nat}

theorem pixelIndex_lt (htile : tile < imageBuffer.length / 16) (hrow : row < 8) (hbit : bit < 8) :
    pixelIndex tile row bit < 160 * (tileRows imageBuffer * 8) := by
  unfold pixelIndex tileRows
  omega

theorem picture_pixelIndex (htile : tile < imageBuffer.length / 16) (hrow : row < 8)
    (hbit : bit < 8) :
    picture imageBuffer (pixelIndex tile row bit) =
      planeColor (imageBuffer.getD (tile * 16 + row * 2) 0)
        (imageBuffer.getD (tile * 16 + row * 2 + 1) 0) bit := by
  have hx : pixelIndex tile row bit % 160 = tile % 20 * 8 + bit := by
    unfold pixelIndex
    omega
  have hy : pixelIndex tile row bit / 160 = tile / 20 * 8 + row := by
    unfold pixelIndex
    omega
  have htile' : (tile / 20 * 8 + row) / 8 * 20 + (tile % 20 * 8 + bit) / 8 = tile := by omega
  have hrow' : (tile / 20 * 8 + row) % 8 = row := by omega
  have hbit' : (tile % 20 * 8 + bit) % 8 = bit := by omega
  unfold picture tilePixel
  rw [hx, hy, htile', hrow', hbit', if_pos htile]

theorem exists_pixelIndex {i : Nat} (htile : i / 160 / 8 * 20 + i % 160 / 8 < imageBuffer.length / 16) :
    ∃ tile < imageBuffer.length / 16, ∃ row < 8, ∃ bit < 8, i = pixelIndex tile row bit := by
  refine ⟨_, htile, i / 160 % 8, Nat.mod_lt _ (by omega), i % 160 % 8, Nat.mod_lt _ (by omega), ?_⟩
  unfold pixelIndex
  omega

/-- A row of a tile is painted. -/
theorem paints_renderRow (htile : tile < imageBuffer.length / 16) (hrow : row < 8) :
    Paints (picture imageBuffer) (160 * (tileRows imageBuffer * 8)) (renderRow imageBuffer tile)
      (fun row i => ∃ bit < 8, i = pixelIndex tile row bit) row := by
  intro written pixels hpixels
  have hlo : imageBuffer[tile * 16 + row * 2]? =
      some (imageBuffer.getD (tile * 16 + row * 2) 0) := by
    rw [List.getD_eq_getElem?_getD, List.getElem?_eq_getElem (by omega)]
    rfl
  have hhi : imageBuffer[tile * 16 + row * 2 + 1]? =
      some (imageBuffer.getD (tile * 16 + row * 2 + 1) 0) := by
    rw [List.getD_eq_getElem?_getD, List.getElem?_eq_getElem (by omega)]
    rfl
  unfold renderRow
  simp only [hlo, hhi, Option.bind_some]
  have hbits : ∀ bit ∈ List.range 8, Paints (picture imageBuffer)
      (160 * (tileRows imageBuffer * 8)) (fun pixels bit => writePixel pixels
        (pixelIndex tile row bit) (planeColor (imageBuffer.getD (tile * 16 + row * 2) 0)
          (imageBuffer.getD (tile * 16 + row * 2 + 1) 0) bit))
      (fun bit i => i = pixelIndex tile row bit) bit := by
    intro bit hbit written pixels hpixels
    have hbit := List.mem_range.mp hbit
    have hwrite := paints_writePixel (pixelIndex_lt htile hrow hbit) hpixels
    rw [picture_pixelIndex htile hrow hbit] at hwrite
    exact hwrite
  obtain ⟨pixels', hloop, hpixels'⟩ := paints_foldlM hbits hpixels
  refine ⟨pixels', hloop, ?_⟩
  simpa only [List.mem_range] using hpixels'

theorem paints_renderTile (htile : tile < imageBuffer.length / 16) :
    Paints (picture imageBuffer) (160 * (tileRows imageBuffer * 8)) (renderTile imageBuffer)
      (fun tile i => ∃ row < 8, ∃ bit < 8, i = pixelIndex tile row bit) tile := by
  intro written pixels hpixels
  obtain ⟨pixels', hloop, hpixels'⟩ := paints_foldlM
    (fun row hrow => paints_renderRow htile (List.mem_range.mp hrow)) hpixels
  refine ⟨pixels', hloop, ?_⟩
  simpa only [List.mem_range] using hpixels'

/-- Rendering a buffer of the printer's size never fails and gives its picture. -/
theorem renderPrintedPage_eq (hlength : imageBuffer.length ≤ 8000) (printArgs : PrinterPrintArgs) :
    renderPrintedPage imageBuffer printArgs = some (pageOf imageBuffer printArgs) := by
  have hheight : (imageBuffer.length / 16 + printerTileWidth - 1) / printerTileWidth * 8 % 2 ^ 16 =
      tileRows imageBuffer * 8 := by
    unfold printerTileWidth tileRows
    omega
  have hblank : Painted (picture imageBuffer) (160 * (tileRows imageBuffer * 8)) (fun _ => False)
      (List.replicate (160 * (tileRows imageBuffer * 8)) 0) :=
    ⟨List.length_replicate, fun _ => False.elim, fun i _ hi => List.getElem?_replicate_of_lt hi⟩
  obtain ⟨pixels, hloop, hpixels⟩ := paints_foldlM
    (fun tile htile => paints_renderTile (List.mem_range.mp htile)) hblank
  have hpicture : pixels = (pageOf imageBuffer printArgs).pixels := by
    refine List.ext_getElem? fun i => ?_
    show pixels[i]? = ((List.range (160 * (tileRows imageBuffer * 8))).map (picture imageBuffer))[i]?
    by_cases hi : i < 160 * (tileRows imageBuffer * 8)
    · rw [List.getElem?_map, List.getElem?_range hi, Option.map_some]
      by_cases htile : i / 160 / 8 * 20 + i % 160 / 8 < imageBuffer.length / 16
      · obtain ⟨tile, htile, hwritten⟩ := exists_pixelIndex htile
        exact hpixels.painted i (.inr ⟨tile, List.mem_range.mpr htile, hwritten⟩) hi
      · have hnone : picture imageBuffer i = 0 := if_neg htile
        rw [hnone]
        refine hpixels.blank i ?_ hi
        rintro (hfalse | ⟨tile, hmem, row, hrow, bit, hbit, rfl⟩)
        · exact hfalse
        · refine htile ?_
          have hlt := List.mem_range.mp hmem
          unfold pixelIndex
          omega
    · rw [List.getElem?_eq_none (by rw [hpixels.length]; omega),
        List.getElem?_eq_none (by rw [List.length_map, List.length_range]; omega)]
  unfold renderPrintedPage
  simp only [hheight]
  show Option.map _ ((List.range (imageBuffer.length / 16)).foldlM (renderTile imageBuffer)
    (List.replicate (160 * (tileRows imageBuffer * 8)) 0)) = _
  rw [hloop, Option.map_some, hpicture]
  rfl

end

end Printer

end GbCycle
