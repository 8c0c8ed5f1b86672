import GbCycle.Model
import GbCycle.Word

/-!
# The OAM scan and the OBJ FIFO

In the first eighty dots of a line the PPU looks at one OAM entry every other dot and keeps the
first ten whose vertical range contains the line.  Later the tile row of a sprite is merged into
the OBJ FIFO, whose front is the next column to go out: a pixel takes a slot from another by the
priority of the console's mode.
-/

namespace GbCycle

def oamEntryBytes : Nat := 4
def oamSpriteCount : Nat := 40
def mode2Dots : Nat := 80
def mode2TCyclesPerOamEntry : Nat := 2
def maxSelectedSpritesPerLine : Nat := 10
def visibleScanlines : Nat := 144
def screenWidth : Int := 160
def bgTileWidth : Nat := 8
def cgbObjAttrDmgPaletteBit : U8 := 0x10
def cgbObjAttrXFlipBit : U8 := 0x20
def cgbObjAttrBgOverObjBit : U8 := 0x80

structure PpuSelectedSprite where
  oamIndex : Nat
  y : U8
  x : U8
  tileIndex : U8
  attributes : U8
  deriving Repr, DecidableEq

/-! ## The scan -/

structure Mode2ScanState where
  scannedEntries : Nat
  selectedSpriteCount : Nat
  selectedSprites : Vector (Option PpuSelectedSprite) maxSelectedSpritesPerLine
  latchedMode2YxWord : Option (U8 × U8)
  deriving Repr, DecidableEq

namespace Mode2ScanState

def resetScanline (s : Mode2ScanState) : Mode2ScanState :=
  { s with
    scannedEntries := 0, selectedSpriteCount := 0
    selectedSprites := Vector.replicate maxSelectedSpritesPerLine none }

def isFull (s : Mode2ScanState) : Bool := s.selectedSpriteCount = maxSelectedSpritesPerLine

def push (s : Mode2ScanState) (sprite : PpuSelectedSprite) : Mode2ScanState :=
  if s.isFull then s
  else
    { s with
      selectedSprites := s.selectedSprites.setIfInBounds s.selectedSpriteCount (some sprite)
      selectedSpriteCount := s.selectedSpriteCount + 1 }

def selectedSpritesSnapshot (s : Mode2ScanState) : List PpuSelectedSprite :=
  (s.selectedSprites.toList.take s.selectedSpriteCount).filterMap id

end Mode2ScanState

/-- `read_oam_sprite`, of the view's `bytes().get(offset).copied()`. -/
def readOamSprite (oam : List U8) (oamIndex : Nat) : Option PpuSelectedSprite := do
  let entryStart := oamIndex * oamEntryBytes
  let y ← oam[entryStart]?
  let x ← oam[entryStart + 1]?
  let tileIndex ← oam[entryStart + 2]?
  let attributes ← oam[entryStart + 3]?
  return { oamIndex, y, x, tileIndex, attributes }

def spriteMatchesLine (sprite : PpuSelectedSprite) (ly height : Nat) : Bool :=
  sprite.y.toNat ≤ ly + 16 ∧ ly + 16 < sprite.y.toNat + height

/-- What the scan of a line looks at. -/
structure Mode2Scan where
  consoleModel : ConsoleModel
  isLcdEnabled : Bool
  /-- `lcd_restart_phase.raster_state(ly, line_dot)` is there. -/
  restartRaster : Bool
  ly : Nat
  lineDot : Nat
  objHeight : Nat
  mode2ScanState : Mode2ScanState
  deriving Repr, DecidableEq

namespace Mode2Scan

def mode2ScanTickDue (p : Mode2Scan) : Bool :=
  p.isLcdEnabled && p.ly < visibleScanlines && !p.restartRaster && p.lineDot ≠ 0 &&
    p.lineDot ≤ mode2Dots && p.lineDot % mode2TCyclesPerOamEntry = 0 &&
    p.mode2ScanState.scannedEntries < oamSpriteCount

/-- The entry that a tick looks at: with an OAM DMA on a DMG only its last two bytes are its own. -/
def scannedSprite (p : Mode2Scan) (oam : List U8) (dmaOamActive : Bool) (oamIndex : Nat) :
    Option PpuSelectedSprite :=
  let nominalSprite := readOamSprite oam oamIndex
  if dmaOamActive && p.consoleModel.isDmgFamily then
    p.mode2ScanState.latchedMode2YxWord.map fun (y, x) =>
      let (tileIndex, attributes) :=
        (nominalSprite.map fun sprite => (sprite.tileIndex, sprite.attributes)).getD (0xFF, 0xFF)
      { oamIndex, y, x, tileIndex, attributes }
  else nominalSprite

/-- The next entry: it counts, and is kept if there is room for it and it is on the line. -/
def scanEntry (p : Mode2Scan) (oam : List U8) (dmaOamActive : Bool) : Mode2ScanState :=
  let oamIndex := p.mode2ScanState.scannedEntries
  let s := { p.mode2ScanState with scannedEntries := oamIndex + 1 }
  if s.isFull then s
  else
    match p.scannedSprite oam dmaOamActive oamIndex with
    | none => s
    | some sprite =>
        let s :=
          if dmaOamActive && p.consoleModel.isDmgFamily then s
          else { s with latchedMode2YxWord := some (sprite.y, sprite.x) }
        if spriteMatchesLine sprite p.ly p.objHeight then s.push sprite else s

def advanceMode2Scan (p : Mode2Scan) (oam : List U8) (dmaOamActive : Bool) : Mode2Scan :=
  if !p.mode2ScanTickDue then p
  else { p with mode2ScanState := p.scanEntry oam dmaOamActive }

/-- A dot of the line, as far as the scan goes. -/
def tickDot (p : Mode2Scan) (oam : List U8) (dmaOamActive : Bool) : Mode2Scan :=
  let p := { p with lineDot := p.lineDot + 1 }
  if p.mode2ScanTickDue then p.advanceMode2Scan oam dmaOamActive else p

/-- The next dots of the line, while nothing changes what the scan sees of OAM. -/
def tickDots (p : Mode2Scan) (oam : List U8) (dmaOamActive : Bool) : Nat → Mode2Scan
  | 0 => p
  | n + 1 => (p.tickDots oam dmaOamActive n).tickDot oam dmaOamActive

end Mode2Scan

/-! ## The FIFO -/

structure ObjPixel where
  color : U8
  paletteObp1 : Bool
  bgOverObj : Bool
  cgbObjAttrs : Option U8
  spriteX : Nat
  oamIndex : Nat
  deriving Repr, DecidableEq

def ObjPixel.transparent : ObjPixel :=
  { color := 0, paletteObp1 := false, bgOverObj := false, cgbObjAttrs := none
    spriteX := 255, oamIndex := 255 }

def ObjPixel.isTransparent (p : ObjPixel) : Bool := p.color = 0

inductive CgbObjPriorityMode where
  | cgbOamOrder
  | dmgXCoordinate
  deriving Repr, DecidableEq

def spriteScreenX (sprite : PpuSelectedSprite) : Int := (sprite.x.toNat : Int) - 8

def bgTilePixelValue (tileLow tileHigh : U8) (pixelIndex : Nat) : U8 :=
  let bit := bgTileWidth - 1 - pixelIndex
  (((tileHigh >>> bit) &&& 0x01) <<< 1) ||| ((tileLow >>> bit) &&& 0x01)

def objEffectivePixelIndex (pixelIndex : Nat) (attributes : U8) : Nat :=
  if attributes &&& cgbObjAttrXFlipBit ≠ 0 then bgTileWidth - 1 - pixelIndex else pixelIndex

def objTilePixelValue (tileLow tileHigh : U8) (pixelIndex : Nat) (attributes : U8) : U8 :=
  bgTilePixelValue tileLow tileHigh (objEffectivePixelIndex pixelIndex attributes)

def objPixelHasPriorityForMode (priorityMode : CgbObjPriorityMode) (candidate current : ObjPixel) :
    Bool :=
  if current.isTransparent then !candidate.isTransparent
  else if candidate.isTransparent then false
  else
    match priorityMode with
    | .cgbOamOrder => candidate.oamIndex < current.oamIndex
    | .dmgXCoordinate =>
        candidate.spriteX < current.spriteX ∨
          candidate.spriteX = current.spriteX ∧ candidate.oamIndex < current.oamIndex

/-- What the merge of a sprite looks at. -/
structure ObjPipeline where
  consoleModel : ConsoleModel
  operatingMode : OperatingMode
  cgbObjPriorityMode : CgbObjPriorityMode
  visiblePixelsOutput : Nat
  currentTransferX : Nat
  scxDiscardRemaining : Nat
  initialScxDiscard : Nat
  startupPreVisibleTransferDotsRemaining : Nat
  fifo : List ObjPixel
  deriving Repr, DecidableEq

namespace ObjPipeline

def currentObjPriorityMode (p : ObjPipeline) : CgbObjPriorityMode :=
  if p.consoleModel.isCgbFamily then p.cgbObjPriorityMode else .dmgXCoordinate

/-- The loop of the two functions below: the dots until the first pixel is visible, of which the
SCX discard and the startup take some. -/
def hiddenPopsLoop (discard : Nat) : Nat → Nat → Nat → Nat → Nat → Nat
  | 0, _, _, _, hiddenPops => hiddenPops
  | fuel + 1, transferX, scxDiscardRemaining, startupRemaining, hiddenPops =>
      if 0 < scxDiscardRemaining then
        hiddenPopsLoop discard fuel transferX (scxDiscardRemaining - 1) startupRemaining hiddenPops
      else if min (transferX + discard) 255 < 8 then
        if 0 < startupRemaining then
          hiddenPopsLoop discard fuel (transferX + 1) 0 (startupRemaining - 1) hiddenPops
        else hiddenPopsLoop discard fuel (transferX + 1) 0 0 (hiddenPops + 1)
      else hiddenPops

def objFifoHiddenPopsBeforeFirstVisiblePixelRaw (p : ObjPipeline) : Nat :=
  if 0 < p.visiblePixelsOutput then 0
  else
    hiddenPopsLoop 0 (p.scxDiscardRemaining + 8) p.currentTransferX p.scxDiscardRemaining
      p.startupPreVisibleTransferDotsRemaining 0

def objFifoHiddenPopsBeforeFirstVisiblePixel (p : ObjPipeline) : Nat :=
  if 0 < p.visiblePixelsOutput then 0
  else
    hiddenPopsLoop p.initialScxDiscard (p.scxDiscardRemaining + 8) p.currentTransferX
      p.scxDiscardRemaining p.startupPreVisibleTransferDotsRemaining 0

def objFifoFrontScreenX (p : ObjPipeline) (currentVisibleX : Nat) : Int :=
  currentVisibleX - p.objFifoHiddenPopsBeforeFirstVisiblePixel

def objFifoFrontScreenXForSprite (p : ObjPipeline) (currentVisibleX : Nat) (spriteX : Int) : Int :=
  if spriteX < 0 ∧ p.consoleModel.isDmgFamily = true then
    currentVisibleX - p.objFifoHiddenPopsBeforeFirstVisiblePixelRaw
  else p.objFifoFrontScreenX currentVisibleX

def cgbObjAttributes (p : ObjPipeline) (sprite : PpuSelectedSprite) : Option U8 :=
  if p.consoleModel.isCgbFamily && p.operatingMode = .cgb then some sprite.attributes else none

def objPixelFromSprite (p : ObjPipeline) (sprite : PpuSelectedSprite) (color : U8) : ObjPixel :=
  { color
    paletteObp1 := sprite.attributes &&& cgbObjAttrDmgPaletteBit ≠ 0
    bgOverObj := sprite.attributes &&& cgbObjAttrBgOverObjBit ≠ 0
    cgbObjAttrs := p.cgbObjAttributes sprite
    spriteX := sprite.x.toNat
    oamIndex := sprite.oamIndex }

/-- The FIFO is made long enough for the slot, and the candidate takes it if it has priority. -/
def placeCandidate (mode : CgbObjPriorityMode) (fifo : List ObjPixel) (offset : Nat)
    (candidate : ObjPixel) : List ObjPixel :=
  let fifo := fifo ++ List.replicate (offset + 1 - fifo.length) .transparent
  if objPixelHasPriorityForMode mode candidate (fifo.getD offset .transparent) then
    fifo.set offset candidate
  else fifo

/-- One pixel of the row: off the screen, or to the left of the FIFO, it is skipped. -/
def pushTilePixel (p : ObjPipeline) (sprite : PpuSelectedSprite) (tileLow tileHigh : U8)
    (currentVisibleX : Nat) (fifo : List ObjPixel) (tilePixel : Nat) : List ObjPixel :=
  let front := p.objFifoFrontScreenXForSprite currentVisibleX (spriteScreenX sprite)
  let screenX := spriteScreenX sprite + tilePixel
  if screenX < front ∨ screenWidth ≤ screenX then fifo
  else if 0 < currentVisibleX ∧ screenX < currentVisibleX then fifo
  else
    placeCandidate p.currentObjPriorityMode fifo (screenX - front).toNat
      (p.objPixelFromSprite sprite
        (objTilePixelValue tileLow tileHigh tilePixel sprite.attributes))

def pushObjPixels (p : ObjPipeline) (sprite : PpuSelectedSprite) (tileLow tileHigh : U8)
    (currentVisibleX : Nat) : ObjPipeline :=
  { p with
    fifo :=
      (List.range bgTileWidth).foldl (p.pushTilePixel sprite tileLow tileHigh currentVisibleX)
        p.fifo }

end ObjPipeline

end GbCycle
