import GbCycle.Word
import Mathlib.Tactic.Common

/-!
# Transfers from video RAM

A transfer command asks for 4096 bytes.  They are what the game shows: twenty tiles a line,
each tile read through the background map.  When the screen is not set up for that, the
bytes are simply the first ones of the video RAM.  The bytes are taken in five pieces, one
at each of the five frame starts after the request.
-/

namespace GbCycle

/-! ## The request -/

def sgbVramTransferBytes : Nat := 0x1000
def sgbVramTransferTotalFrames : Nat := 5
def sgbGbVramBytes : Nat := 0x2000
def sgbGbTileBytes : Nat := 16
def sgbTransferDisplayTileColumns : Nat := 20
def sgbTransferDisplayTileCount : Nat := sgbVramTransferBytes / sgbGbTileBytes
def sgbGbTilemapWidth : Nat := 32
def sgbGbBgMap9800Offset : Nat := 0x1800
def sgbGbBgMap9C00Offset : Nat := 0x1C00
def sgbGbSignedTileDataBaseOffset : Int := 0x1000
def sgbTransferRequiredBgp : U8 := 0xE4
def sgbLcdcEnableBit : U8 := 0x80
def sgbLcdcBgTileMapBit : U8 := 0x08
def sgbLcdcBgWindowTileDataBit : U8 := 0x10
def sgbLcdcBgEnableBit : U8 := 0x01

inductive SgbChrTransferTileType where
  | bg
  | obj
  deriving Repr, DecidableEq

structure SgbChrTransferSelection where
  tileBlock : U8
  tileType : SgbChrTransferTileType
  deriving Repr, DecidableEq

def SgbChrTransferSelection.fromCommandByte (value : U8) : SgbChrTransferSelection :=
  { tileBlock := value &&& 0x01, tileType := if value &&& 0x02 = 0 then .bg else .obj }

structure SgbSnesAddress where
  bank : U8
  address : U16
  deriving Repr, DecidableEq

def SgbSnesAddress.fromPacketBytes (low high bank : U8) : SgbSnesAddress :=
  { bank, address := U16.ofBytes high low }

inductive SgbVramTransferTarget where
  | chr (selection : SgbChrTransferSelection)
  | pct
  | pal
  | attr
  | sound
  | snesData (destination : SgbSnesAddress)
  deriving Repr, DecidableEq

inductive SgbVramTransferPhase where
  | waitingForNextFrame
  | capturing
  deriving Repr, DecidableEq

inductive SgbVramTransferSourceMode where
  | unresolved
  | raw
  | displayOrder
  deriving Repr, DecidableEq

structure SgbPendingVramTransfer where
  commandId : U8
  target : SgbVramTransferTarget
  frameStartsUntilCapture : Nat
  phase : SgbVramTransferPhase
  framesCaptured : Nat
  totalFrames : Nat
  sourceMode : SgbVramTransferSourceMode
  deriving Repr, DecidableEq

abbrev SgbVramTransferBuffer := Vector U8 sgbVramTransferBytes

def SgbVramTransferBuffer.zero : SgbVramTransferBuffer := Vector.replicate sgbVramTransferBytes 0

structure SgbCompletedVramTransfer where
  commandId : U8
  target : SgbVramTransferTarget
  payload : SgbVramTransferBuffer
  deriving Repr, DecidableEq

structure SgbVramTransferState where
  pending : Option SgbPendingVramTransfer
  partialPayload : Option SgbVramTransferBuffer
  displayOrderPayload : Option SgbVramTransferBuffer
  lastCompleted : Option SgbCompletedVramTransfer
  requestedTransferCount : Nat
  completedTransferCount : Nat
  deriving Repr, DecidableEq

namespace SgbVramTransferState

def initial : SgbVramTransferState :=
  { pending := none, partialPayload := none, displayOrderPayload := none
    lastCompleted := none, requestedTransferCount := 0, completedTransferCount := 0 }

def requestVramTransfer (commandId : U8) (target : SgbVramTransferTarget)
    (s : SgbVramTransferState) : SgbVramTransferState :=
  { s with
    pending := some
      { commandId, target, frameStartsUntilCapture := 1, phase := .waitingForNextFrame
        framesCaptured := 0, totalFrames := sgbVramTransferTotalFrames
        sourceMode := .unresolved }
    partialPayload := some .zero
    displayOrderPayload := none
    requestedTransferCount := saturatingAdd 64 s.requestedTransferCount 1 }

end SgbVramTransferState

/-! ## What the game shows -/

/-- The video RAM of the game, which has at least the bank that is displayed. -/
structure SgbVramBytes where
  bytes : List U8
  full : sgbGbVramBytes ≤ bytes.length

/-- `vram_bytes[offset]`; the host reads below `0x2000` only, see `transferTileSource_add_lt`. -/
def SgbVramBytes.byte (vram : SgbVramBytes) (offset : Nat) : U8 := vram.bytes[offset]?.getD 0

structure SgbVramTransferDisplayState where
  lcdc : U8
  scy : U8
  scx : U8
  bgp : U8
  deriving Repr, DecidableEq

/-- `lcdc & SGB_LCDC_ENABLE_BIT != 0`. -/
def SgbVramTransferDisplayState.lcdEnabled (display : SgbVramTransferDisplayState) : Bool :=
  display.lcdc &&& sgbLcdcEnableBit != 0

/-- The screen is set up for a transfer.  Once a transfer has begun in display order, the
screen may have been switched off since. -/
def SgbVramTransferDisplayState.canExtractDisplayOrder (display : SgbVramTransferDisplayState)
    (allowLcdDisabledTail : Bool) : Bool :=
  (allowLcdDisabledTail || display.lcdEnabled)
    && display.lcdc &&& sgbLcdcBgEnableBit != 0
    && display.scy == 0
    && display.scx == 0
    && display.bgp == sgbTransferRequiredBgp

def gbTileDataOffset (lcdc tileIndex : U8) : Nat :=
  if lcdc &&& sgbLcdcBgWindowTileDataBit ≠ 0 then tileIndex.toNat * sgbGbTileBytes
  else (sgbGbSignedTileDataBaseOffset + tileIndex.toInt * sgbGbTileBytes).toNat

/-- Where the data of a tile of the picture is, found through the background map. -/
def transferTileSource (vram : SgbVramBytes) (display : SgbVramTransferDisplayState)
    (transferTileIndex : Nat) : Nat :=
  let tileMapBase := if display.lcdc &&& sgbLcdcBgTileMapBit ≠ 0 then sgbGbBgMap9C00Offset
    else sgbGbBgMap9800Offset
  let tileX := transferTileIndex % sgbTransferDisplayTileColumns
  let tileY := transferTileIndex / sgbTransferDisplayTileColumns
  gbTileDataOffset display.lcdc
    (vram.byte (tileMapBase + tileY * sgbGbTilemapWidth + tileX))

/-- `target[start..stop].copy_from_slice(&source[start..stop])`. -/
def SgbVramTransferBuffer.copyRange (target source : SgbVramTransferBuffer) (start stop : Nat) :
    SgbVramTransferBuffer :=
  Vector.ofFn fun i => if start ≤ i.val ∧ i.val < stop then source[i] else target[i]

namespace SgbVramTransferBuffer

def fromSourceBytes (vram : SgbVramBytes) : SgbVramTransferBuffer :=
  Vector.ofFn fun i => vram.byte i

def copyTile (vram : SgbVramBytes) (display : SgbVramTransferDisplayState)
    (bytes : SgbVramTransferBuffer) (transferTileIndex : Nat) : SgbVramTransferBuffer :=
  let sourceOffset := transferTileSource vram display transferTileIndex
  let destinationOffset := transferTileIndex * sgbGbTileBytes
  Vector.ofFn fun i =>
    if destinationOffset ≤ i.val ∧ i.val < destinationOffset + sgbGbTileBytes then
      vram.byte (sourceOffset + (i - destinationOffset))
    else bytes[i]

def inDisplayOrder (vram : SgbVramBytes) (display : SgbVramTransferDisplayState) :
    SgbVramTransferBuffer :=
  (List.range sgbTransferDisplayTileCount).foldl (copyTile vram display) .zero

def fromDisplayMemoryWithSourceMode (vram : SgbVramBytes)
    (display : SgbVramTransferDisplayState) (currentSourceMode : SgbVramTransferSourceMode) :
    SgbVramTransferBuffer × SgbVramTransferSourceMode :=
  if currentSourceMode = .raw then (fromSourceBytes vram, .raw)
  else
    let allowLcdDisabledTail := currentSourceMode = .displayOrder
    if display.canExtractDisplayOrder allowLcdDisabledTail then
      (inDisplayOrder vram display, .displayOrder)
    else (fromSourceBytes vram, .raw)

end SgbVramTransferBuffer

/-! ### The display order -/

theorem gbTileDataOffset_add_lt (lcdc tileIndex : U8) {k : Nat} (hk : k < sgbGbTileBytes) :
    gbTileDataOffset lcdc tileIndex + k < 0x1800 := by
  have hbyte : tileIndex.toNat < 256 := tileIndex.isLt
  have hsigned : tileIndex.toInt < 128 := by
    have := BitVec.toInt_lt (x := tileIndex)
    simpa using this
  simp only [sgbGbTileBytes] at hk
  unfold gbTileDataOffset
  split <;> simp only [sgbGbTileBytes, sgbGbSignedTileDataBaseOffset] <;> omega

/-- The host stays inside the displayed bank of the video RAM. -/
theorem transferTileSource_add_lt (vram : SgbVramBytes) (display : SgbVramTransferDisplayState)
    (tile : Nat) {k : Nat} (hk : k < sgbGbTileBytes) :
    transferTileSource vram display tile + k < sgbGbVramBytes := by
  have := gbTileDataOffset_add_lt display.lcdc
    (vram.byte ((if display.lcdc &&& sgbLcdcBgTileMapBit ≠ 0 then sgbGbBgMap9C00Offset
      else sgbGbBgMap9800Offset) + tile / sgbTransferDisplayTileColumns * sgbGbTilemapWidth +
      tile % sgbTransferDisplayTileColumns)) hk
  have hbound : sgbGbVramBytes = 0x2000 := rfl
  unfold transferTileSource
  dsimp only
  omega

namespace SgbVramTransferBuffer

theorem getElem_copyRange (target source : SgbVramTransferBuffer) (start stop i : Nat)
    (hi : i < sgbVramTransferBytes) :
    (copyRange target source start stop)[i] =
      if start ≤ i ∧ i < stop then source[i] else target[i] := by
  simp [copyRange]

/-- After the first `n` tiles, the bytes of those tiles are in place. -/
theorem getElem_copyTiles (vram : SgbVramBytes) (display : SgbVramTransferDisplayState)
    (n i : Nat) (hi : i < sgbVramTransferBytes) :
    ((List.range n).foldl (copyTile vram display) .zero)[i] =
      if i < n * sgbGbTileBytes then
        vram.byte (transferTileSource vram display (i / sgbGbTileBytes) + i % sgbGbTileBytes)
      else 0 := by
  induction n with
  | zero => simp [SgbVramTransferBuffer.zero]
  | succ n ih =>
      rw [List.range_succ, List.foldl_append, List.foldl_cons, List.foldl_nil]
      simp only [copyTile, Vector.getElem_ofFn, Fin.getElem_fin, ih]
      have hsize : sgbGbTileBytes = 16 := rfl
      by_cases hnew : n * sgbGbTileBytes ≤ i ∧ i < n * sgbGbTileBytes + sgbGbTileBytes
      · have htile : i / sgbGbTileBytes = n := by rw [hsize] at hnew ⊢; omega
        have hrest : i - n * sgbGbTileBytes = i % sgbGbTileBytes := by
          rw [hsize] at hnew ⊢
          omega
        have hin : i < (n + 1) * sgbGbTileBytes := by rw [hsize] at hnew ⊢; omega
        rw [if_pos hnew, if_pos hin, htile, hrest]
      · rw [if_neg hnew]
        by_cases hold : i < n * sgbGbTileBytes
        · have hin : i < (n + 1) * sgbGbTileBytes := by rw [hsize] at hold ⊢; omega
          rw [if_pos hold, if_pos hin]
        · have hout : ¬ i < (n + 1) * sgbGbTileBytes := by rw [hsize] at hnew hold ⊢; omega
          rw [if_neg hold, if_neg hout]

/-- Byte `i` is byte `i % 16` of tile `i / 16` of the picture. -/
theorem getElem_inDisplayOrder (vram : SgbVramBytes) (display : SgbVramTransferDisplayState)
    (i : Nat) (hi : i < sgbVramTransferBytes) :
    (inDisplayOrder vram display)[i] =
      vram.byte (transferTileSource vram display (i / sgbGbTileBytes) + i % sgbGbTileBytes) := by
  have hin : i < sgbTransferDisplayTileCount * sgbGbTileBytes := by
    simpa [sgbTransferDisplayTileCount, sgbGbTileBytes, sgbVramTransferBytes] using hi
  unfold inDisplayOrder
  rw [getElem_copyTiles vram display _ i hi, if_pos hin]

end SgbVramTransferBuffer

/-! ## Capturing -/

def vramTransferChunkRange (frameIndex totalFrames : Nat) : Nat × Nat :=
  let totalFrames := max totalFrames 1
  let frameIndex := min frameIndex (totalFrames - 1)
  (sgbVramTransferBytes * frameIndex / totalFrames,
    sgbVramTransferBytes * (frameIndex + 1) / totalFrames)

namespace SgbVramTransferState

/-- The picture at a frame start.  Games may switch the screen off before the last frame of
a transfer; the picture is then the last one that was visible. -/
def vramTransferPayload (vram : SgbVramBytes) (display : SgbVramTransferDisplayState)
    (pending : SgbPendingVramTransfer) (s : SgbVramTransferState) :
    SgbVramTransferBuffer × SgbVramTransferSourceMode × SgbVramTransferState :=
  let lcdDisabledTail := pending.sourceMode = .displayOrder ∧
    !display.lcdEnabled ∧ display.canExtractDisplayOrder true
  match if lcdDisabledTail then s.displayOrderPayload else none with
  | some payload => (payload, .displayOrder, s)
  | none =>
      let read := SgbVramTransferBuffer.fromDisplayMemoryWithSourceMode vram display
        pending.sourceMode
      (read.1, read.2,
        if read.2 = .displayOrder ∧ display.lcdEnabled then
          { s with displayOrderPayload := some read.1 }
        else s)

def completePendingVramTransferPayload (pending : SgbPendingVramTransfer)
    (payload : SgbVramTransferBuffer) (s : SgbVramTransferState) :
    SgbVramTransferState × Option SgbCompletedVramTransfer :=
  let completed := { commandId := pending.commandId, target := pending.target, payload }
  ({ s with
      pending := none
      partialPayload := none
      displayOrderPayload := none
      lastCompleted := some completed
      completedTransferCount := saturatingAdd 64 s.completedTransferCount 1 },
    some completed)

/-- One frame start; the transfer is returned when this completes it. -/
def advancePendingVramTransfer (vram : SgbVramBytes) (display : SgbVramTransferDisplayState)
    (s : SgbVramTransferState) : SgbVramTransferState × Option SgbCompletedVramTransfer :=
  match s.pending with
  | none => (s, none)
  | some pending =>
      if 1 < pending.frameStartsUntilCapture then
        ({ s with
            pending := some
              { pending with frameStartsUntilCapture := pending.frameStartsUntilCapture - 1 } },
          none)
      else
        let read := vramTransferPayload vram display pending s
        let chunk := vramTransferChunkRange
          (min pending.framesCaptured (pending.totalFrames - 1)) (max pending.totalFrames 1)
        let partialPayload := SgbVramTransferBuffer.copyRange
          (read.2.2.partialPayload.getD .zero) read.1 chunk.1 chunk.2
        let framesCaptured := saturatingAdd 8 pending.framesCaptured 1
        if pending.totalFrames ≤ framesCaptured then
          completePendingVramTransferPayload pending partialPayload read.2.2
        else
          ({ read.2.2 with
              pending := some
                { pending with
                  sourceMode := if pending.sourceMode = .unresolved then read.2.1
                    else pending.sourceMode
                  frameStartsUntilCapture := 0
                  phase := .capturing
                  framesCaptured }
              partialPayload := some partialPayload },
            none)

end SgbVramTransferState

/-! ### The pictures of a transfer

What a transfer captures, said from the frames alone: which mode the first frame fixes, and
which picture each frame contributes. -/

/-- What the host is shown at a frame start. -/
structure SgbFrameStart where
  vram : SgbVramBytes
  display : SgbVramTransferDisplayState

/-- The mode that the first frame of a transfer fixes. -/
def transferSourceMode (frames : List SgbFrameStart) : SgbVramTransferSourceMode :=
  match frames with
  | [] => .unresolved
  | first :: _ => if first.display.canExtractDisplayOrder false then .displayOrder else .raw

/-- The last frame on which the picture was on the screen. -/
def lastVisible (frames : List SgbFrameStart) : Option SgbFrameStart :=
  (frames.filter fun frame => frame.display.canExtractDisplayOrder false).getLast?

/-- The picture that the last of these frames contributes to a transfer whose frames, up to
it, these are. -/
def transferPicture (frames : List SgbFrameStart) (last : SgbFrameStart) :
    SgbVramTransferBuffer :=
  if transferSourceMode frames = .displayOrder ∧ last.display.canExtractDisplayOrder true then
    let shown := (lastVisible frames).getD last
    .inDisplayOrder shown.vram shown.display
  else .fromSourceBytes last.vram

/-- The payload is made of the pictures' chunks. -/
def MadeOfPictures (frames : List SgbFrameStart) (payload : SgbVramTransferBuffer) : Prop :=
  ∀ (c : Nat) (last : SgbFrameStart), frames[c]? = some last →
    ∀ i (hi : i < sgbVramTransferBytes),
      (vramTransferChunkRange c sgbVramTransferTotalFrames).1 ≤ i →
      i < (vramTransferChunkRange c sgbVramTransferTotalFrames).2 →
      payload[i] = (transferPicture (frames.take (c + 1)) last)[i]

/-- The state in the middle of a transfer of which these frames have been captured. -/
structure Capturing (request : U8 × SgbVramTransferTarget) (frames : List SgbFrameStart)
    (s : SgbVramTransferState) : Prop where
  few : frames.length < sgbVramTransferTotalFrames
  pending : ∃ pending, s.pending = some pending ∧ pending.commandId = request.1 ∧
    pending.target = request.2 ∧ pending.frameStartsUntilCapture ≤ 1 ∧
    pending.framesCaptured = frames.length ∧
    pending.totalFrames = sgbVramTransferTotalFrames ∧
    pending.sourceMode = transferSourceMode frames
  payload : ∃ payload, s.partialPayload = some payload ∧ MadeOfPictures frames payload
  visible : transferSourceMode frames = .displayOrder →
    ∃ shown, lastVisible frames = some shown ∧
      s.displayOrderPayload = some (.inDisplayOrder shown.vram shown.display)

/-! ### The five chunks -/

theorem vramTransferChunkRange_of_lt {c : Nat} (hc : c < sgbVramTransferTotalFrames) :
    vramTransferChunkRange c sgbVramTransferTotalFrames = (4096 * c / 5, 4096 * (c + 1) / 5) := by
  have hframes : sgbVramTransferTotalFrames = 5 := rfl
  have hmin : min c (5 - 1) = c := by omega
  unfold vramTransferChunkRange
  rw [hframes]
  dsimp only
  rw [show max 5 1 = 5 from rfl, hmin]
  rfl

/-- The chunks partition the payload. -/
theorem existsUnique_chunk {i : Nat} (hi : i < sgbVramTransferBytes) :
    ∃ c, (c < sgbVramTransferTotalFrames ∧
      (vramTransferChunkRange c sgbVramTransferTotalFrames).1 ≤ i ∧
      i < (vramTransferChunkRange c sgbVramTransferTotalFrames).2) ∧
      ∀ c', c' < sgbVramTransferTotalFrames →
        (vramTransferChunkRange c' sgbVramTransferTotalFrames).1 ≤ i →
        i < (vramTransferChunkRange c' sgbVramTransferTotalFrames).2 → c' = c := by
  have hframes : sgbVramTransferTotalFrames = 5 := rfl
  have hbytes : sgbVramTransferBytes = 4096 := rfl
  rw [hbytes] at hi
  have hchunk : ∃ c, c < 5 ∧ 4096 * c / 5 ≤ i ∧ i < 4096 * (c + 1) / 5 := by
    refine ⟨(5 * i + 4) / 4096, ?_, ?_, ?_⟩ <;> omega
  obtain ⟨c, hc, hlow, hhigh⟩ := hchunk
  refine ⟨c, ⟨hc, ?_, ?_⟩, ?_⟩
  · rw [vramTransferChunkRange_of_lt hc]
    exact hlow
  · rw [vramTransferChunkRange_of_lt hc]
    exact hhigh
  · intro c' hc' hlow' hhigh'
    rw [vramTransferChunkRange_of_lt hc'] at hlow' hhigh'
    dsimp only at hlow' hhigh'
    omega

/-! ### The modes -/

theorem canExtractDisplayOrder_false (display : SgbVramTransferDisplayState) :
    display.canExtractDisplayOrder false =
      (display.canExtractDisplayOrder true && display.lcdEnabled) := by
  simp only [SgbVramTransferDisplayState.canExtractDisplayOrder, Bool.false_or, Bool.true_or,
    Bool.true_and]
  cases display.lcdEnabled <;> simp

theorem transferSourceMode_append {frames : List SgbFrameStart} (hne : frames ≠ [])
    (last : SgbFrameStart) : transferSourceMode (frames ++ [last]) = transferSourceMode frames := by
  cases frames with
  | nil => contradiction
  | cons first rest => rfl

theorem transferSourceMode_eq_unresolved {frames : List SgbFrameStart} :
    transferSourceMode frames = .unresolved ↔ frames = [] := by
  constructor
  · intro h
    cases frames with
    | nil => rfl
    | cons first rest =>
        simp only [transferSourceMode] at h
        split at h <;> contradiction
  · rintro rfl
    rfl

theorem lastVisible_append (frames : List SgbFrameStart) (last : SgbFrameStart) :
    lastVisible (frames ++ [last]) =
      if last.display.canExtractDisplayOrder false then some last else lastVisible frames := by
  unfold lastVisible
  cases hvisible : last.display.canExtractDisplayOrder false with
  | true => simp [List.filter_append, hvisible]
  | false => simp [List.filter_append, hvisible]

namespace SgbVramTransferState

/-- The host reads the picture that the frames so far determine, keeps the mode of the first
frame, and remembers the last visible picture of a transfer in display order. -/
theorem vramTransferPayload_spec {frames : List SgbFrameStart} (last : SgbFrameStart)
    {pending : SgbPendingVramTransfer} {s : SgbVramTransferState}
    (hmode : pending.sourceMode = transferSourceMode frames)
    (hvisible : transferSourceMode frames = .displayOrder →
      ∃ shown, lastVisible frames = some shown ∧
        s.displayOrderPayload = some (.inDisplayOrder shown.vram shown.display)) :
    ∃ displayOrderPayload mode,
      vramTransferPayload last.vram last.display pending s =
        (transferPicture (frames ++ [last]) last, mode, { s with displayOrderPayload }) ∧
      (if pending.sourceMode = .unresolved then mode else pending.sourceMode) =
        transferSourceMode (frames ++ [last]) ∧
      (transferSourceMode (frames ++ [last]) = .displayOrder →
        ∃ shown, lastVisible (frames ++ [last]) = some shown ∧
          displayOrderPayload = some (.inDisplayOrder shown.vram shown.display)) := by
  have hlast := lastVisible_append frames last
  have hfalse := canExtractDisplayOrder_false last.display
  by_cases hnil : frames = []
  · -- the first frame fixes the mode
    subst hnil
    have hunresolved : pending.sourceMode = .unresolved := hmode
    cases hon : last.display.canExtractDisplayOrder false with
    | true =>
        have hboth := hon
        rw [hfalse, Bool.and_eq_true] at hboth
        obtain ⟨htail, hlcd⟩ := hboth
        refine ⟨some (.inDisplayOrder last.vram last.display), .displayOrder, ?_, ?_, ?_⟩
        · simp [vramTransferPayload, SgbVramTransferBuffer.fromDisplayMemoryWithSourceMode,
            hunresolved, hon, transferPicture, transferSourceMode, htail, lastVisible, hlcd]
        · simp [hunresolved, transferSourceMode, hon]
        · intro _
          exact ⟨last, by simp [lastVisible, hon], rfl⟩
    | false =>
        refine ⟨s.displayOrderPayload, .raw, ?_, ?_, ?_⟩
        · simp [vramTransferPayload, SgbVramTransferBuffer.fromDisplayMemoryWithSourceMode,
            hunresolved, hon, transferPicture, transferSourceMode]
        · simp [hunresolved, transferSourceMode, hon]
        · intro h
          simp [transferSourceMode, hon] at h
  · have hkeep := transferSourceMode_append hnil last
    have hresolved : transferSourceMode frames ≠ .unresolved :=
      fun h => hnil (transferSourceMode_eq_unresolved.mp h)
    have hpending : pending.sourceMode ≠ .unresolved := by rw [hmode]; exact hresolved
    cases hfirst : transferSourceMode frames with
    | unresolved => contradiction
    | raw =>
        rw [hfirst] at hmode
        refine ⟨s.displayOrderPayload, .raw, ?_, ?_, ?_⟩
        · simp [vramTransferPayload, SgbVramTransferBuffer.fromDisplayMemoryWithSourceMode,
            hmode, transferPicture, hkeep, hfirst]
        · rw [if_neg hpending, hmode, hkeep, hfirst]
        · intro h
          rw [hkeep, hfirst] at h
          contradiction
    | displayOrder =>
        obtain ⟨shown, hshown, hstored⟩ := hvisible hfirst
        rw [hfirst] at hmode
        have hfixed : (if pending.sourceMode = .unresolved then .displayOrder
            else pending.sourceMode) = transferSourceMode (frames ++ [last]) := by
          rw [if_neg hpending, hmode, hkeep, hfirst]
        cases htail : last.display.canExtractDisplayOrder true with
        | false =>
            -- the layout is gone: this frame's chunk is the raw bytes
            rw [htail, Bool.false_and] at hfalse
            refine ⟨s.displayOrderPayload, .raw, ?_, ?_, ?_⟩
            · simp [vramTransferPayload, SgbVramTransferBuffer.fromDisplayMemoryWithSourceMode,
                hmode, transferPicture, hkeep, hfirst, htail]
            · rw [if_neg hpending, hmode, hkeep, hfirst]
            · intro _
              rw [hlast, hfalse]
              exact ⟨shown, hshown, hstored⟩
        | true =>
            rw [htail, Bool.true_and] at hfalse
            cases hlcd : last.display.lcdEnabled with
            | false =>
              -- the screen is off: the last visible picture stands in
              have hoff : last.display.canExtractDisplayOrder false = false := by
                rw [hfalse, hlcd]
              rw [hoff] at hlast
              refine ⟨s.displayOrderPayload, .displayOrder, ?_, hfixed, ?_⟩
              · simp [vramTransferPayload, hmode, transferPicture, hkeep, hfirst, htail, hlcd,
                  hstored, hlast, hshown]
                rw [← hstored]
              · intro _
                rw [hlast]
                exact ⟨shown, hshown, hstored⟩
            | true =>
              have hon : last.display.canExtractDisplayOrder false = true := by
                rw [hfalse, hlcd]
              rw [hon, if_pos rfl] at hlast
              refine ⟨some (.inDisplayOrder last.vram last.display), .displayOrder, ?_, hfixed,
                ?_⟩
              · simp [vramTransferPayload,
                  SgbVramTransferBuffer.fromDisplayMemoryWithSourceMode, hmode, transferPicture,
                  hkeep, hfirst, htail, hlcd, hlast]
              · intro _
                exact ⟨last, hlast, rfl⟩

/-! ### One frame start -/

/-- The bytes that a frame start copies are its own chunk, so the chunks before it stay. -/
theorem madeOfPictures_append {frames : List SgbFrameStart} {last : SgbFrameStart}
    (hfew : frames.length < sgbVramTransferTotalFrames) {payload : SgbVramTransferBuffer}
    (hmade : MadeOfPictures frames payload) :
    MadeOfPictures (frames ++ [last])
      (.copyRange payload (transferPicture (frames ++ [last]) last)
        (vramTransferChunkRange frames.length sgbVramTransferTotalFrames).1
        (vramTransferChunkRange frames.length sgbVramTransferTotalFrames).2) := by
  intro c frame hframe i hi hlow hhigh
  rw [SgbVramTransferBuffer.getElem_copyRange]
  have hc : c < frames.length + 1 := by
    have := List.getElem?_eq_some_iff.mp hframe
    simpa using this.1
  by_cases hnew : c = frames.length
  · subst hnew
    have hlast : frame = last := by simpa using hframe.symm
    rw [if_pos ⟨hlow, hhigh⟩, hlast, List.take_of_length_le (by simp)]
  · have hold : c < frames.length := by omega
    rw [List.getElem?_append_left hold] at hframe
    have hother : ¬ ((vramTransferChunkRange frames.length sgbVramTransferTotalFrames).1 ≤ i ∧
        i < (vramTransferChunkRange frames.length sgbVramTransferTotalFrames).2) := by
      have hcfew : c < sgbVramTransferTotalFrames := by omega
      rw [vramTransferChunkRange_of_lt hcfew] at hhigh
      rw [vramTransferChunkRange_of_lt hfew]
      dsimp only at hhigh ⊢
      omega
    rw [if_neg hother, List.take_append_of_le_length hold]
    exact hmade c frame hframe i hi hlow hhigh

/-- A request starts a transfer that has captured nothing. -/
theorem capturing_requestVramTransfer (request : U8 × SgbVramTransferTarget)
    (s : SgbVramTransferState) :
    Capturing request [] (requestVramTransfer request.1 request.2 s) := by
  refine ⟨by decide, ⟨_, rfl, rfl, rfl, le_refl 1, rfl, rfl, rfl⟩, ⟨.zero, rfl, ?_⟩, ?_⟩
  · intro c last hlast
    simp at hlast
  · intro h
    contradiction

/-- What a frame start does to a transfer that is being captured: before the fifth it copies
one more chunk, and at the fifth it completes the transfer. -/
theorem advancePendingVramTransfer_spec {request : U8 × SgbVramTransferTarget}
    {frames : List SgbFrameStart} {s : SgbVramTransferState}
    (hcapturing : Capturing request frames s) (last : SgbFrameStart) :
    (frames.length + 1 < sgbVramTransferTotalFrames ∧
      ∃ s', advancePendingVramTransfer last.vram last.display s = (s', none) ∧
        Capturing request (frames ++ [last]) s' ∧
        s'.requestedTransferCount = s.requestedTransferCount ∧
        s'.completedTransferCount = s.completedTransferCount) ∨
    (frames.length + 1 = sgbVramTransferTotalFrames ∧
      ∃ s' payload,
        advancePendingVramTransfer last.vram last.display s =
          (s', some { commandId := request.1, target := request.2, payload }) ∧
        MadeOfPictures (frames ++ [last]) payload ∧ s'.pending = none ∧
        s'.lastCompleted =
          some { commandId := request.1, target := request.2, payload } ∧
        s'.requestedTransferCount = s.requestedTransferCount ∧
        s'.completedTransferCount = saturatingAdd 64 s.completedTransferCount 1) := by
  obtain ⟨hfew, ⟨pending, hpending, hid, htarget, huntil, hcaptured, htotal, hmode⟩,
    ⟨payload, hpayload, hmade⟩, hvisible⟩ := hcapturing
  have hframes : sgbVramTransferTotalFrames = 5 := rfl
  obtain ⟨displayOrderPayload, mode, hread, hfixed, hvisible'⟩ :=
    vramTransferPayload_spec last hmode hvisible
  have hmin : min pending.framesCaptured (sgbVramTransferTotalFrames - 1) = frames.length := by
    omega
  have hmax : max sgbVramTransferTotalFrames 1 = sgbVramTransferTotalFrames := by omega
  have hcount : saturatingAdd 8 pending.framesCaptured 1 = frames.length + 1 := by
    unfold saturatingAdd
    omega
  have hmade' : MadeOfPictures (frames ++ [last]) _ := madeOfPictures_append hfew hmade
  have hstep : advancePendingVramTransfer last.vram last.display s =
      (if sgbVramTransferTotalFrames ≤ frames.length + 1 then
        completePendingVramTransferPayload pending
          (.copyRange payload (transferPicture (frames ++ [last]) last)
            (vramTransferChunkRange frames.length sgbVramTransferTotalFrames).1
            (vramTransferChunkRange frames.length sgbVramTransferTotalFrames).2)
          { s with displayOrderPayload }
      else
        ({ s with
            displayOrderPayload
            pending := some
              { pending with
                sourceMode := transferSourceMode (frames ++ [last])
                frameStartsUntilCapture := 0
                phase := .capturing
                framesCaptured := frames.length + 1 }
            partialPayload := some
              (.copyRange payload (transferPicture (frames ++ [last]) last)
                (vramTransferChunkRange frames.length sgbVramTransferTotalFrames).1
                (vramTransferChunkRange frames.length sgbVramTransferTotalFrames).2) },
          none)) := by
    unfold advancePendingVramTransfer
    simp only [hpending, if_neg (by omega : ¬ 1 < pending.frameStartsUntilCapture), hread, hmin,
      hmax, hcount, hpayload, Option.getD_some, hfixed, htotal]
  by_cases hdone : sgbVramTransferTotalFrames ≤ frames.length + 1
  · right
    rw [if_pos hdone, completePendingVramTransferPayload, hid, htarget] at hstep
    exact ⟨by omega, _, _, hstep, hmade', rfl, rfl, rfl, rfl⟩
  · left
    rw [if_neg hdone] at hstep
    refine ⟨by omega, _, hstep, ?_, rfl, rfl⟩
    refine ⟨by simp only [List.length_append, List.length_singleton]; omega, ?_, ?_, hvisible'⟩
    · exact ⟨_, rfl, hid, htarget, Nat.zero_le 1, by simp, htotal, rfl⟩
    · exact ⟨_, rfl, hmade'⟩

/-- A transfer that is not pending is not advanced. -/
theorem advancePendingVramTransfer_none {s : SgbVramTransferState} (h : s.pending = none)
    (vram : SgbVramBytes) (display : SgbVramTransferDisplayState) :
    advancePendingVramTransfer vram display s = (s, none) := by
  simp only [advancePendingVramTransfer, h]

end SgbVramTransferState

end GbCycle
