import GbCycle.Word

/-!
# The image of the Pocket Camera

What the sensor sees is the frame that the host set, with some lines repeated above and below.
The registers expose, filter and dither it to four shades, which are then packed into tiles.  The
factors of the edge enhancement are quarters, and every product is exact in single precision, so
that the conversion back to an integer only drops the fraction.
-/

namespace GbCycle

def pocketCameraCaptureWidth : Nat := 128
def pocketCameraCaptureHeight : Nat := 112
def pocketCameraCapturePixelCount : Nat := pocketCameraCaptureWidth * pocketCameraCaptureHeight
def pocketCameraSensorExtraLines : Nat := 8
def pocketCameraSensorHeight : Nat := pocketCameraCaptureHeight + pocketCameraSensorExtraLines
def pocketCameraSensorPixelCount : Nat := pocketCameraCaptureWidth * pocketCameraSensorHeight
def pocketCameraCaptureTileBytes : Nat := 14 * 16 * 16
def pocketCameraCaptureTileWidth : Nat := 16
def pocketCameraRegisterCount : Nat := 0x36

/-! ## Host frames -/

structure PocketCameraFrame where
  width : U16
  height : U16
  grayscalePixels : List U8
  deriving Repr, DecidableEq

inductive PocketCameraFrameError where
  | unsupportedCartridge
  | invalidDimensions (width height : U16) (pixelLen : Nat)
  deriving Repr, DecidableEq

/-- A frame of the size of a capture. -/
abbrev CameraPixels : Type := Vector U8 pocketCameraCapturePixelCount

/-- An image of the size of a capture, pixel by pixel. -/
def cameraPixels (pixel : Nat → Nat → U8) : CameraPixels :=
  .ofFn fun i => pixel (i / pocketCameraCaptureWidth) (i % pocketCameraCaptureWidth)

/-- `PocketCameraFrame::normalize`: the frame at the size of a capture, by the nearest pixel above
and to the left. -/
def PocketCameraFrame.normalize (frame : PocketCameraFrame) :
    Except PocketCameraFrameError CameraPixels :=
  let width := frame.width.toNat
  let height := frame.height.toNat
  if width = 0 ∨ height = 0 ∨ frame.grayscalePixels.length ≠ width * height then
    .error (.invalidDimensions frame.width frame.height frame.grayscalePixels.length)
  else if h : frame.grayscalePixels.length = pocketCameraCapturePixelCount ∧
      width = pocketCameraCaptureWidth ∧ height = pocketCameraCaptureHeight then
    .ok ⟨frame.grayscalePixels.toArray, h.1⟩
  else
    .ok (cameraPixels fun y x =>
      frame.grayscalePixels[y * height / pocketCameraCaptureHeight * width +
        x * width / pocketCameraCaptureWidth]?.getD 0)

def pocketCameraPlaceholderFrame : CameraPixels :=
  cameraPixels fun y x =>
    if x = 0 ∨ y = 0 ∨ x + 1 = pocketCameraCaptureWidth ∨ y + 1 = pocketCameraCaptureHeight then 0
    else ([0, 85, 170, 255] : List U8)[x * 4 / pocketCameraCaptureWidth]?.getD 0

/-! ## From the sensor to the tiles -/

abbrev CameraRegisters : Type := Vector U8 pocketCameraRegisterCount

namespace CameraRegisters

variable (registers : CameraRegisters)

def get0 (index : Nat) : U8 := registers[index]?.getD 0

/-- The image on the sensor, line by line with the repeated lines.  All positions here are within
the images, so that the values past them do not matter. -/
def buildSensorImage (hostFrame : CameraPixels) : List Int :=
  let exposure : Int := (U16.ofBytes (registers.get0 2) (registers.get0 3)).toNat
  let invert : Bool := registers.get0 4 &&& 0x08 ≠ 0
  (List.range pocketCameraSensorPixelCount).map fun i =>
    let y := i / pocketCameraCaptureWidth
    let x := i % pocketCameraCaptureWidth
    let sourceY :=
      if y < pocketCameraSensorExtraLines / 2 then 0
      else if pocketCameraCaptureHeight + pocketCameraSensorExtraLines / 2 ≤ y then
        pocketCameraCaptureHeight - 1
      else y - pocketCameraSensorExtraLines / 2
    let value : Int := ((hostFrame[sourceY * pocketCameraCaptureWidth + x]?.getD 0).toNat : Int)
    let exposed := (value * exposure).tdiv 0x0300
    let value := max 0 (min 255 (128 + (exposed - 128).tdiv 8))
    if invert then 255 - value else value

/-- The edge factor, in quarters. -/
def edgeAlphaQuarters : Int :=
  ([2, 3, 4, 5, 8, 12, 16, 20] : List Int)[((registers.get0 4 &&& 0x70) >>> 4).toNat]?.getD 0

def pBits : U8 := if (registers.get0 0 >>> 1) &&& 0x03 = 0 then 0x00 else 0x01

def mBits : U8 :=
  if (registers.get0 0 >>> 1) &&& 0x03 = 0 then 0x01
  else if (registers.get0 0 >>> 1) &&& 0x03 = 1 then 0x00
  else 0x02

/-- A pixel of the positive and negative image that the P and M bits select. -/
def verticalKernel (current south : Int) : Int :=
  max (-128) (min 127
    ((if registers.pBits &&& 0x01 ≠ 0 then current else 0) +
      (if registers.pBits &&& 0x02 ≠ 0 then south else 0) -
      (if registers.mBits &&& 0x01 ≠ 0 then current else 0) -
      (if registers.mBits &&& 0x02 ≠ 0 then south else 0)))

def filteringMode : Nat :=
  (if registers.get0 1 &&& 0x80 ≠ 0 then 8 else 0) +
    2 * ((registers.get0 1 >>> 5) &&& 0x03).toNat +
    (if registers.get0 4 &&& 0x80 ≠ 0 then 1 else 0)

/-- `pixels` by row and column. -/
def pixelAt (pixels : List Int) (x y : Nat) : Int :=
  pixels[y * pocketCameraCaptureWidth + x]?.getD 0

/-- A sensor image from what is at each column and row. -/
def mapPixels (pixel : Nat → Nat → Int) : List Int :=
  (List.range pocketCameraSensorPixelCount).map fun i =>
    pixel (i % pocketCameraCaptureWidth) (i / pocketCameraCaptureWidth)

def verticalPass (pixels : List Int) : List Int :=
  mapPixels fun x y =>
    registers.verticalKernel (pixelAt pixels x y)
      (pixelAt pixels x (min (y + 1) (pocketCameraSensorHeight - 1)))

def applyFiltering (original : List Int) : List Int :=
  let west x y := pixelAt original (x - 1) y
  let east x y := pixelAt original (min (x + 1) (pocketCameraCaptureWidth - 1)) y
  let north x y := pixelAt original x (y - 1)
  let south x y := pixelAt original x (min (y + 1) (pocketCameraSensorHeight - 1))
  if registers.filteringMode = 0x0 then registers.verticalPass original
  else if registers.filteringMode = 0x2 then
    registers.verticalPass (mapPixels fun x y =>
      let current := pixelAt original x y
      max 0 (min 255 (current +
        ((2 * current - west x y - east x y) * registers.edgeAlphaQuarters).tdiv 4)))
  else if registers.filteringMode = 0xE then
    mapPixels fun x y =>
      let current := pixelAt original x y
      max (-128) (min 127 (current +
        ((4 * current - west x y - east x y - north x y - south x y) *
          registers.edgeAlphaQuarters).tdiv 4))
  else if registers.filteringMode = 0x1 then List.replicate original.length 0
  else original

/-- The shade of a value at a position, by the thresholds of the dither matrix. -/
def matrixMap (value : Nat) (x y : Nat) : U8 :=
  let base := 6 + (y % 4 * 4 + x % 4) * 3
  if value < (registers.get0 base).toNat then 0x00
  else if value < (registers.get0 (base + 1)).toNat then 0x40
  else if value < (registers.get0 (base + 2)).toNat then 0x80
  else 0xC0

/-- The shade of the captured image at a position. -/
def fourColor (processed : List Int) (x y : Nat) : U8 :=
  let value := pixelAt processed x (y + pocketCameraSensorExtraLines / 2) + 128
  registers.matrixMap (max 0 (min 255 value)).toNat x y

/-- `|=` on a byte of the tiles. -/
def setTileBit (tiles : List U8) (offset : Nat) (bit : U8) : List U8 :=
  tiles.set offset (tiles[offset]?.getD 0 ||| bit)

/-- Packs one pixel into the two planes of its tile. -/
def packPixel (processed : List Int) (tiles : List U8) (y x : Nat) : List U8 :=
  let outcolor := 3 - (registers.fourColor processed x y >>> 6)
  let tileIndex := y / 8 * pocketCameraCaptureTileWidth + x / 8
  let tileOffset := tileIndex * 16 + y % 8 * 2
  let bit : U8 := 1 <<< (7 - x % 8)
  let tiles := if outcolor &&& 0x01 ≠ 0 then setTileBit tiles tileOffset bit else tiles
  if outcolor &&& 0x02 ≠ 0 then setTileBit tiles (tileOffset + 1) bit else tiles

def buildCaptureTiles (hostFrame : CameraPixels) : List U8 :=
  let sensor := registers.buildSensorImage hostFrame
  let processed := registers.applyFiltering (sensor.map (· - 128))
  (List.range pocketCameraCaptureHeight).foldl
    (fun tiles y =>
      (List.range pocketCameraCaptureWidth).foldl
        (fun tiles x => registers.packPixel processed tiles y x) tiles)
    (List.replicate pocketCameraCaptureTileBytes 0)

/-! ## The size of the tiles -/

theorem length_packPixel (processed : List Int) (tiles : List U8) (y x : Nat) :
    (registers.packPixel processed tiles y x).length = tiles.length := by
  unfold packPixel setTileBit
  dsimp only
  split <;> split <;> simp only [List.length_set]

theorem length_foldl_packPixel (processed : List Int) (tiles : List U8) (y : Nat)
    (xs : List Nat) :
    (xs.foldl (fun tiles x => registers.packPixel processed tiles y x) tiles).length =
      tiles.length := by
  induction xs generalizing tiles with
  | nil => rfl
  | cons x xs ih => rw [List.foldl_cons, ih, length_packPixel]

theorem length_buildCaptureTiles (hostFrame : CameraPixels) :
    (registers.buildCaptureTiles hostFrame).length = pocketCameraCaptureTileBytes := by
  have hrows : ∀ (processed : List Int) (ys : List Nat) (tiles : List U8),
      (ys.foldl (fun tiles y =>
        (List.range pocketCameraCaptureWidth).foldl
          (fun tiles x => registers.packPixel processed tiles y x) tiles) tiles).length =
        tiles.length := by
    intro processed ys
    induction ys with
    | nil => exact fun _ => rfl
    | cons y ys ih =>
        intro tiles
        rw [List.foldl_cons, ih, length_foldl_packPixel]
  unfold buildCaptureTiles
  dsimp only
  rw [hrows, List.length_replicate]

end CameraRegisters

end GbCycle
