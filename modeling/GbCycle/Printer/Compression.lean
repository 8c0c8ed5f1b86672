import GbCycle.Word

/-!
# Compressed print data

A compressed data packet is a sequence of runs.  A control byte below `80` is followed by one
more literal byte than it says; one from `80` on is followed by a single byte that is repeated
two more times than its low bits say.  The decoder stops where a run is cut off or where the
output would not fit a packet, and then rejects the whole packet.  What it accepts is exactly
the encodings of runs whose expansion fits, whichever way the data is split into runs.
-/

namespace GbCycle

namespace Printer

def printerMaxDataPacketBytes : Nat := 0x280

/-- The loop of `decode_compressed_data_packet`, on the data from the index on. -/
def decodeRuns (decoded : List U8) (remaining : List U8) : Option (List U8) :=
  match remaining with
  | [] => some decoded
  | control :: rest =>
      if control &&& 0x80 = 0 then
        let len := (control &&& 0x7F).toNat + 1
        if rest.length < len ∨ printerMaxDataPacketBytes < decoded.length + len then none
        else decodeRuns (decoded ++ rest.take len) (rest.drop len)
      else
        let len := (control &&& 0x7F).toNat + 2
        match rest with
        | [] => none
        | byte :: rest =>
            if printerMaxDataPacketBytes < decoded.length + len then none
            else decodeRuns (decoded ++ List.replicate len byte) rest
termination_by remaining.length

def decodeCompressedDataPacket (data : List U8) : Option (List U8) := decodeRuns [] data

/-! ## Runs -/

/-- A run of an encoding, with as many bytes as a control byte can say. -/
inductive PrinterRun where
  | literal (bytes : List U8) (bounds : 1 ≤ bytes.length ∧ bytes.length ≤ 128)
  | repeated (byte : U8) (count : Nat) (bounds : 2 ≤ count ∧ count ≤ 129)

namespace PrinterRun

def encode : PrinterRun → List U8
  | literal bytes _ => BitVec.ofNat 8 (bytes.length - 1) :: bytes
  | repeated byte count _ => [0x80 ||| BitVec.ofNat 8 (count - 2), byte]

def expand : PrinterRun → List U8
  | literal bytes _ => bytes
  | repeated byte count _ => List.replicate count byte

end PrinterRun

def encodeRuns (runs : List PrinterRun) : List U8 := runs.flatMap PrinterRun.encode

def expandRuns (runs : List PrinterRun) : List U8 := runs.flatMap PrinterRun.expand

theorem encodeRuns_cons (run : PrinterRun) (runs : List PrinterRun) :
    encodeRuns (run :: runs) = run.encode ++ encodeRuns runs := List.flatMap_cons

theorem expandRuns_cons (run : PrinterRun) (runs : List PrinterRun) :
    expandRuns (run :: runs) = run.expand ++ expandRuns runs := List.flatMap_cons

/-! ## Control bytes -/

theorem and_7F_toNat (control : U8) : (control &&& 0x7F).toNat = control.toNat % 128 := by
  have hmask : (control &&& 0x7F).toNat = control.toNat &&& (2 ^ 7 - 1) := BitVec.toNat_and _ _
  rw [hmask, Nat.and_two_pow_sub_one_eq_mod]

theorem and_80_eq_zero (control : U8) : control &&& 0x80 = 0 ↔ control.toNat < 128 := by
  have hlt := control.isLt
  have hand : control &&& 0x80 = if control.getLsbD 7 then BitVec.twoPow 8 7 else 0 :=
    BitVec.and_twoPow control 7
  have hbit : control.getLsbD 7 = decide (control.toNat / 2 ^ 7 % 2 = 1) :=
    Nat.testBit_eq_decide_div_mod_eq
  rw [hand, hbit]
  by_cases hlow : control.toNat < 128
  · rw [if_neg (by rw [decide_eq_true_eq]; omega)]
    exact ⟨fun _ => hlow, fun _ => rfl⟩
  · rw [if_pos (by rw [decide_eq_true_eq]; omega)]
    exact ⟨fun h => absurd h (by decide), fun h => absurd h hlow⟩

theorem or_80_toNat {count : Nat} (h : count < 128) :
    (0x80 ||| BitVec.ofNat 8 count : U8).toNat = 128 + count := by
  have hor : (0x80 ||| BitVec.ofNat 8 count : U8).toNat =
      1 <<< 7 ||| (BitVec.ofNat 8 count).toNat := BitVec.toNat_or _ _
  rw [hor, BitVec.toNat_ofNat, Nat.mod_eq_of_lt (by omega), ← Nat.shiftLeft_add_eq_or_of_lt h]
  rfl

/-! ## What the decoder accepts -/

/-- An encoding of runs whose expansion fits is decoded to the expansion. -/
theorem decodeRuns_encodeRuns (runs : List PrinterRun) {decoded : List U8}
    (hfits : decoded.length + (expandRuns runs).length ≤ printerMaxDataPacketBytes) :
    decodeRuns decoded (encodeRuns runs) = some (decoded ++ expandRuns runs) := by
  induction runs generalizing decoded with
  | nil =>
      rw [show encodeRuns [] = [] from rfl, decodeRuns, show expandRuns [] = [] from rfl,
        List.append_nil]
  | cons run runs ih =>
      rw [expandRuns_cons, List.length_append] at hfits
      rw [encodeRuns_cons, expandRuns_cons, ← List.append_assoc]
      cases run with
      | literal bytes bounds =>
          have hcontrol : (BitVec.ofNat 8 (bytes.length - 1)).toNat = bytes.length - 1 := by
            rw [BitVec.toNat_ofNat]
            exact Nat.mod_eq_of_lt (by omega)
          have hlen : (BitVec.ofNat 8 (bytes.length - 1) &&& 0x7F).toNat + 1 = bytes.length := by
            rw [and_7F_toNat, hcontrol]
            omega
          have hexpand : (PrinterRun.literal bytes bounds).expand = bytes := rfl
          rw [hexpand] at hfits ⊢
          rw [show (PrinterRun.literal bytes bounds).encode = _ :: bytes from rfl,
            List.cons_append, decodeRuns]
          rw [if_pos ((and_80_eq_zero _).mpr (by rw [hcontrol]; omega))]
          simp only [hlen]
          rw [if_neg (by rw [List.length_append]; omega), List.take_left, List.drop_left]
          exact ih (by rw [List.length_append]; omega)
      | repeated byte count bounds =>
          have hcontrol := or_80_toNat (show count - 2 < 128 by omega)
          have hlen : ((0x80 ||| BitVec.ofNat 8 (count - 2) : U8) &&& 0x7F).toNat + 2 = count := by
            rw [and_7F_toNat, hcontrol]
            omega
          have hexpand : (PrinterRun.repeated byte count bounds).expand =
              List.replicate count byte := rfl
          rw [hexpand, List.length_replicate] at hfits
          rw [hexpand, show (PrinterRun.repeated byte count bounds).encode = [_, byte] from rfl,
            List.cons_append, List.singleton_append, decodeRuns]
          rw [if_neg (mt (and_80_eq_zero _).mp (by rw [hcontrol]; omega))]
          simp only [hlen]
          rw [if_neg (by omega)]
          exact ih (by rw [List.length_append, List.length_replicate]; omega)

/-- What the decoder accepts is an encoding of runs, and it returns their expansion. -/
theorem decodeRuns_eq_some {decoded remaining out : List U8}
    (hfits : decoded.length ≤ printerMaxDataPacketBytes)
    (hdecode : decodeRuns decoded remaining = some out) :
    ∃ runs, remaining = encodeRuns runs ∧ out = decoded ++ expandRuns runs ∧
      out.length ≤ printerMaxDataPacketBytes := by
  fun_induction decodeRuns decoded remaining with
  | case1 decoded =>
      obtain rfl := Option.some.inj hdecode
      exact ⟨[], rfl, (List.append_nil _).symm, hfits⟩
  | case2 decoded control rest hliteral len hover => cases hdecode
  | case3 decoded control rest hliteral len hroom ih =>
      have hbounds : len ≤ rest.length ∧ decoded.length + len ≤ printerMaxDataPacketBytes := by
        omega
      have hlow := (and_80_eq_zero control).mp hliteral
      have hlen : len = control.toNat + 1 := by
        show (control &&& 0x7F).toNat + 1 = _
        rw [and_7F_toNat, Nat.mod_eq_of_lt hlow]
      have htake : (rest.take len).length = len := List.length_take_of_le hbounds.1
      obtain ⟨runs, hrest, hout, hle⟩ := ih
        (by rw [List.length_append, htake]; exact hbounds.2) hdecode
      refine ⟨.literal (rest.take len) (by omega) :: runs, ?_, ?_, hle⟩
      · have hcontrol : BitVec.ofNat 8 ((rest.take len).length - 1) = control := by
          rw [htake, hlen, Nat.add_sub_cancel, BitVec.ofNat_toNat, BitVec.setWidth_eq]
        rw [encodeRuns_cons, PrinterRun.encode, hcontrol, List.cons_append, ← hrest,
          List.take_append_drop]
      · rw [expandRuns_cons, PrinterRun.expand, hout, List.append_assoc]
  | case4 decoded control hrepeated => cases hdecode
  | case5 decoded control hrepeated len byte rest hover => cases hdecode
  | case6 decoded control hrepeated len byte rest hroom ih =>
      have hlow := mt (and_80_eq_zero control).mpr hrepeated
      have hlt := control.isLt
      have hlen : len = control.toNat - 128 + 2 := by
        show (control &&& 0x7F).toNat + 2 = _
        rw [and_7F_toNat]
        omega
      obtain ⟨runs, hrest, hout, hle⟩ := ih
        (by rw [List.length_append, List.length_replicate]; omega) hdecode
      refine ⟨.repeated byte len (by omega) :: runs, ?_, ?_, hle⟩
      · have hcontrol : 0x80 ||| BitVec.ofNat 8 (len - 2) = control := by
          refine BitVec.eq_of_toNat_eq ?_
          rw [or_80_toNat (by omega)]
          omega
        rw [encodeRuns_cons, PrinterRun.encode, hcontrol, hrest]
        rfl
      · rw [expandRuns_cons, PrinterRun.expand, hout, List.append_assoc]

/-- The decoder accepts exactly the encodings of runs that expand to what fits a packet. -/
theorem decodeCompressedDataPacket_eq_some {data out : List U8} :
    decodeCompressedDataPacket data = some out ↔
      ∃ runs, data = encodeRuns runs ∧ out = expandRuns runs ∧
        out.length ≤ printerMaxDataPacketBytes := by
  constructor
  · intro hdecode
    obtain ⟨runs, hdata, hout, hle⟩ := decodeRuns_eq_some (Nat.zero_le _) hdecode
    exact ⟨runs, hdata, hout, hle⟩
  · rintro ⟨runs, rfl, rfl, hle⟩
    exact decodeRuns_encodeRuns runs (by rwa [List.length_nil, Nat.zero_add])

end Printer

end GbCycle
