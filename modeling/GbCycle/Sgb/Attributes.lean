import GbCycle.Sgb.Protocol
import GbCycle.Sgb.VramTransfer

/-!
# Attribute commands

The attribute map gives a palette to each cell of the screen.  The commands read counts,
coordinates and packed palettes from payloads that nothing has checked; an index out of range is
a panic, here `none`.
-/

namespace GbCycle

def sgbAttrMapWidth : Nat := 20
def sgbAttrMapHeight : Nat := 18
def sgbAttrMapCells : Nat := sgbAttrMapWidth * sgbAttrMapHeight
def sgbAtfCount : Nat := 45
def sgbAtfBytes : Nat := 90
def sgbAtfTotalBytes : Nat := sgbAtfCount * sgbAtfBytes

/-! ## The map -/

structure SgbAttributeMap where
  cells : List U8
  deriving Repr, DecidableEq

namespace SgbAttributeMap

def initial : SgbAttributeMap := { cells := List.replicate sgbAttrMapCells 0 }

def setCell (cellX cellY : Nat) (paletteIndex : U8) (map : SgbAttributeMap) :
    Option SgbAttributeMap :=
  if cellX < sgbAttrMapWidth ∧ cellY < sgbAttrMapHeight then
    let index := cellY * sgbAttrMapWidth + cellX
    if index < map.cells.length then
      some { cells := map.cells.set index (paletteIndex &&& 0x03) }
    else none
  else some map

/-- `for cell_y in .. { for cell_x in .. { .. } }`. -/
def forEachCell (body : Nat → Nat → SgbAttributeMap → Option SgbAttributeMap)
    (map : SgbAttributeMap) : Option SgbAttributeMap :=
  (List.range sgbAttrMapHeight).foldlM (fun map cellY =>
    (List.range sgbAttrMapWidth).foldlM (fun map cellX => body cellX cellY map) map) map

/-! ## Blocks -/

def applyAttrBlkDataSet (dataSet : List U8) (map : SgbAttributeMap) : Option SgbAttributeMap :=
  match dataSet with
  | control :: paletteDesignation :: x1 :: y1 :: x2 :: y2 :: _ =>
      let control := control &&& 0x07
      let insidePalette := paletteDesignation &&& 0x03
      let linePalette := (paletteDesignation >>> 2) &&& 0x03
      let outsidePalette := (paletteDesignation >>> 4) &&& 0x03
      let changeInside := control &&& 0x01 != 0
      let changeLine := control &&& 0x02 != 0
      let changeOutside := control &&& 0x04 != 0
      let (changeLine, linePalette) :=
        if control = 0x01 then (true, insidePalette)
        else if control = 0x04 then (true, outsidePalette)
        else (changeLine, linePalette)
      let x1 := min x1.toNat (sgbAttrMapWidth - 1)
      let y1 := min y1.toNat (sgbAttrMapHeight - 1)
      let x2 := min x2.toNat (sgbAttrMapWidth - 1)
      let y2 := min y2.toNat (sgbAttrMapHeight - 1)
      let (left, right) := if x1 ≤ x2 then (x1, x2) else (x2, x1)
      let (top, bottom) := if y1 ≤ y2 then (y1, y2) else (y2, y1)
      map.forEachCell fun cellX cellY map =>
        let insideRect := decide (left ≤ cellX ∧ cellX ≤ right ∧ top ≤ cellY ∧ cellY ≤ bottom)
        let onLine := insideRect &&
          (cellX == left || cellX == right || cellY == top || cellY == bottom)
        (if changeOutside && !insideRect then map.setCell cellX cellY outsidePalette
          else some map).bind fun map =>
        (if changeInside && insideRect && !onLine then map.setCell cellX cellY insidePalette
          else some map).bind fun map =>
        if changeLine && onLine then map.setCell cellX cellY linePalette else some map
  | _ => none

/-- The data sets from an index on, as many as asked for, until the payload ends. -/
def applyAttrBlkDataSets (payload : List U8) : Nat → Nat → SgbAttributeMap → Option SgbAttributeMap
  | 0, _, map => some map
  | count + 1, dataSetIndex, map =>
      let offset := 1 + dataSetIndex * 6
      if offset + 6 ≤ payload.length then
        (map.applyAttrBlkDataSet ((payload.drop offset).take 6)).bind
          (applyAttrBlkDataSets payload count (dataSetIndex + 1))
      else some map

/-! ## Lines and splits -/

def applyAttrLinDataSet (map : SgbAttributeMap) (line : U8) : Option SgbAttributeMap :=
  let coordinate := (line &&& 0x1F).toNat
  let paletteIndex := (line >>> 5) &&& 0x03
  let horizontal := line &&& 0x80 != 0
  if horizontal then
    if coordinate < sgbAttrMapHeight then
      (List.range sgbAttrMapWidth).foldlM (fun map cellX =>
        map.setCell cellX coordinate paletteIndex) map
    else some map
  else if coordinate < sgbAttrMapWidth then
    (List.range sgbAttrMapHeight).foldlM (fun map cellY =>
      map.setCell coordinate cellY paletteIndex) map
  else some map

def applyAttrDivSplit (bytes : SgbPacket) (map : SgbAttributeMap) : Option SgbAttributeMap :=
  let palettes := getElem bytes 1 one_lt_sgbPacketBytes
  let belowOrRightPalette := palettes &&& 0x03
  let aboveOrLeftPalette := (palettes >>> 2) &&& 0x03
  let linePalette := (palettes >>> 4) &&& 0x03
  let horizontal := palettes &&& 0x40 != 0
  let coordinate := (getElem bytes 2 two_lt_sgbPacketBytes).toNat
  if horizontal then
    (List.range sgbAttrMapHeight).foldlM (fun map cellY =>
      let paletteIndex :=
        if cellY < coordinate then aboveOrLeftPalette
        else if cellY = coordinate then linePalette
        else belowOrRightPalette
      (List.range sgbAttrMapWidth).foldlM (fun map cellX =>
        map.setCell cellX cellY paletteIndex) map) map
  else
    (List.range sgbAttrMapWidth).foldlM (fun map cellX =>
      let paletteIndex :=
        if cellX < coordinate then aboveOrLeftPalette
        else if cellX = coordinate then linePalette
        else belowOrRightPalette
      (List.range sgbAttrMapHeight).foldlM (fun map cellY =>
        map.setCell cellX cellY paletteIndex) map) map

/-! ## Single cells in scan order -/

/-- The cell after another one, downwards or to the right, wrapping at the end of a column or a
row. -/
def nextCell (topToBottom : Bool) (cell : Nat × Nat) : Nat × Nat :=
  let (cellX, cellY) := cell
  if topToBottom then
    if cellY + 1 = sgbAttrMapHeight then ((cellX + 1) % sgbAttrMapWidth, 0)
    else (cellX, cellY + 1)
  else if cellX + 1 = sgbAttrMapWidth then (0, (cellY + 1) % sgbAttrMapHeight)
  else (cellX + 1, cellY)

def applyAttrChrDataSets (payload : List U8) (topToBottom : Bool) :
    Nat → Nat → Nat × Nat → SgbAttributeMap → Option SgbAttributeMap
  | 0, _, _, map => some map
  | count + 1, dataSetIndex, cell, map =>
      match payload[5 + dataSetIndex / 4]? with
      | none => some map
      | some packed =>
          let shift := 6 - dataSetIndex % 4 * 2
          (map.setCell cell.1 cell.2 ((packed >>> shift) &&& 0x03)).bind
            (applyAttrChrDataSets payload topToBottom count (dataSetIndex + 1)
              (nextCell topToBottom cell))

end SgbAttributeMap

/-! ## Attribute files -/

structure SgbAttributeFileState where
  bytes : List U8
  loaded : Bool
  deriving Repr, DecidableEq

namespace SgbAttributeFileState

def initial : SgbAttributeFileState :=
  { bytes := List.replicate sgbAtfTotalBytes 0, loaded := false }

/-- `copy_from_slice` panics where the lengths differ. -/
def applyAttrTrn (payload : SgbVramTransferBuffer) (files : SgbAttributeFileState) :
    Option SgbAttributeFileState :=
  let source := payload.toList.take sgbAtfTotalBytes
  if files.bytes.length = source.length then some { bytes := source, loaded := true } else none

def paletteIndex (files : SgbAttributeFileState) (atfIndex cellX cellY : Nat) : Option U8 :=
  let byteIndex := atfIndex * sgbAtfBytes + cellY * 5 + cellX / 4
  let shift := 6 - cellX % 4 * 2
  (files.bytes[byteIndex]?).map fun byte : U8 => (byte >>> shift) &&& 0x03

def applyToMap (files : SgbAttributeFileState) (atfIndex : U8) (map : SgbAttributeMap) :
    Option (SgbAttributeMap × Bool) :=
  let atfIndex := atfIndex.toNat
  if sgbAtfCount ≤ atfIndex then some (map, false)
  else
    (map.forEachCell fun cellX cellY map =>
      (files.paletteIndex atfIndex cellX cellY).bind (map.setCell cellX cellY ·)).map (·, true)

end SgbAttributeFileState

/-! ## The commands -/

structure SgbAttributeState where
  map : SgbAttributeMap
  files : SgbAttributeFileState
  lastAtfIndex : Option U8
  attrBlkCount : Nat
  attrLinCount : Nat
  attrDivCount : Nat
  attrChrCount : Nat
  attrTrnCount : Nat
  attrSetCount : Nat
  invalidAtfCount : Nat
  deriving Repr, DecidableEq

namespace SgbAttributeState

def initial : SgbAttributeState where
  map := .initial
  files := .initial
  lastAtfIndex := none
  attrBlkCount := 0
  attrLinCount := 0
  attrDivCount := 0
  attrChrCount := 0
  attrTrnCount := 0
  attrSetCount := 0
  invalidAtfCount := 0

def applyAttrBlk (payload : List U8) (s : SgbAttributeState) : Option SgbAttributeState :=
  match payload with
  | [] => some s
  | count :: _ =>
      let dataSetCount := min count.toNat 0x12
      (s.map.applyAttrBlkDataSets payload dataSetCount 0).map fun map =>
        { s with map, attrBlkCount := saturatingAdd 64 s.attrBlkCount 1 }

def applyAttrLin (payload : List U8) (s : SgbAttributeState) : Option SgbAttributeState :=
  match payload with
  | [] => some s
  | count :: lines =>
      let dataSetCount := min count.toNat 0x6E
      ((lines.take dataSetCount).foldlM SgbAttributeMap.applyAttrLinDataSet s.map).map fun map =>
        { s with map, attrLinCount := saturatingAdd 64 s.attrLinCount 1 }

def applyAttrDiv (bytes : SgbPacket) (s : SgbAttributeState) : Option SgbAttributeState :=
  (s.map.applyAttrDivSplit bytes).map fun map =>
    { s with map, attrDivCount := saturatingAdd 64 s.attrDivCount 1 }

def applyAttrChr (payload : List U8) (s : SgbAttributeState) : Option SgbAttributeState :=
  match payload with
  | x :: y :: countLo :: countHi :: direction :: _ =>
      let cellX := x.toNat
      let cellY := y.toNat
      if sgbAttrMapWidth ≤ cellX ∨ sgbAttrMapHeight ≤ cellY then some s
      else
        let dataSetCount := min (U16.ofBytes countHi countLo).toNat sgbAttrMapCells
        let topToBottom := direction &&& 0x01 != 0
        (s.map.applyAttrChrDataSets payload topToBottom dataSetCount 0 (cellX, cellY)).map fun map =>
          { s with map, attrChrCount := saturatingAdd 64 s.attrChrCount 1 }
  | _ => some s

def applyAttrTrn (payload : SgbVramTransferBuffer) (s : SgbAttributeState) :
    Option SgbAttributeState :=
  (s.files.applyAttrTrn payload).map fun files =>
    { s with files, attrTrnCount := saturatingAdd 64 s.attrTrnCount 1 }

def applyAttrSet (atfIndex : U8) (s : SgbAttributeState) : Option (SgbAttributeState × Bool) :=
  (s.files.applyToMap atfIndex s.map).map fun (map, applied) =>
    if applied then
      ({ s with
          map
          lastAtfIndex := some atfIndex
          attrSetCount := saturatingAdd 64 s.attrSetCount 1 }, true)
    else ({ s with map, invalidAtfCount := saturatingAdd 64 s.invalidAtfCount 1 }, false)

end SgbAttributeState

/-- The attribute commands, with the payload of their packets or of the transfer. -/
inductive SgbAttributeCommand where
  | attrBlk (payload : List U8)
  | attrLin (payload : List U8)
  | attrDiv (bytes : SgbPacket)
  | attrChr (payload : List U8)
  | attrTrn (payload : SgbVramTransferBuffer)
  | attrSet (bytes : SgbPacket)

namespace SgbAttributeState

def step (s : SgbAttributeState) : SgbAttributeCommand → Option SgbAttributeState
  | .attrBlk payload => s.applyAttrBlk payload
  | .attrLin payload => s.applyAttrLin payload
  | .attrDiv bytes => s.applyAttrDiv bytes
  | .attrChr payload => s.applyAttrChr payload
  | .attrTrn payload => s.applyAttrTrn payload
  | .attrSet bytes => (s.applyAttrSet (getElem bytes 1 one_lt_sgbPacketBytes &&& 0x3F)).map Prod.fst

def run (s : SgbAttributeState) (commands : List SgbAttributeCommand) : Option SgbAttributeState :=
  commands.foldlM step s

end SgbAttributeState

end GbCycle
