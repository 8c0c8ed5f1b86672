import Mathlib.Tactic.IntervalCases
import GbCycle.MysteryGift.RoundTrip

/-!
# Flipped bits

What a receiver makes of three messages depends on the length in the first one.  Where it is the
length of the second, that one is the payload.  Where it is greater, the receiver waits for bits
that are not sent.  Where it is smaller, a bit behind the payload is taken for its end, and the
space before the checksum is taken for the first bit of it.

A bit that is flipped in the payload or in the checksum changes one of the two sums, so that the
block is refused.
-/

namespace GbCycle

namespace MysteryGift

/-! ## Parsing three messages -/

/-- What the receiver compares with the checksum that it got. -/
def receivedSum (len : U8) (payload : List U8) : U16 :=
  payload.foldl (fun sum byte => sum + U16.ofByte byte)
    (U16.ofByte messagePrefix + U16.ofByte len)

/-- A checksum that is read one bit late: the space before it is a one, and its last bit is taken
for its end. -/
def lateChecksum (sum : U16) : U16 :=
  U16.ofBytes ((sum.low <<< 7) ||| (sum.high >>> 1)) (0x80 ||| (sum.low >>> 1))

/-- The symbols behind the header of a block. -/
def BlockBytes.bodySymbols (b : BlockBytes) : List Symbol :=
  .long :: (bitSymbols b.body ++ .long :: .long :: (bitSymbols b.checksum ++ [.long]))

/-- The header is parsed, and what comes next depends on its length. -/
theorem parseBlock_header {b : BlockBytes} {headerPrefix len : U8}
    (h : b.header = [headerPrefix, len]) :
    parseBlock (symbols b.cells) =
      if headerPrefix ≠ messagePrefix ∨ maxReceivedBlockLen < len.toNat then none
      else
        (parseMessage len.toNat b.bodySymbols).bind fun (payload, rest) =>
          (parseMessage 2 rest).bind fun (checksum, _) =>
            match checksum with
            | [lo, hi] =>
                if U16.ofBytes hi lo = receivedSum len payload then some payload else none
            | _ => none := by
  have hheader : parseMessage 2 (symbols b.cells) =
      some ([headerPrefix, len], b.bodySymbols) := by
    rw [b.symbols_cells, h]
    exact parseMessage_bitSymbols [headerPrefix, len] .long b.bodySymbols
  unfold parseBlock
  rw [hheader]
  rfl

section

variable {b : BlockBytes} {len lo hi : U8}

/-- The length is that of the body. -/
theorem parseBlock_exact (hheader : b.header = [messagePrefix, len])
    (hchecksum : b.checksum = [lo, hi]) (hlen : len.toNat = b.body.length)
    (hmax : b.body.length ≤ maxReceivedBlockLen) :
    parseBlock (symbols b.cells) =
      if U16.ofBytes hi lo = receivedSum len b.body then some b.body else none := by
  have hbody : parseMessage len.toNat b.bodySymbols =
      some (b.body, .long :: (bitSymbols [lo, hi] ++ [.long])) := by
    unfold BlockBytes.bodySymbols
    rw [hlen, hchecksum]
    exact parseMessage_bitSymbols b.body .long _
  have hsum : parseMessage 2 (.long :: (bitSymbols [lo, hi] ++ [.long])) =
      some ([lo, hi], []) := parseMessage_bitSymbols [lo, hi] .long []
  have haccepted : ¬(messagePrefix ≠ messagePrefix ∨ maxReceivedBlockLen < len.toNat) := by
    rintro (hne | hlong)
    · exact hne rfl
    · omega
  rw [parseBlock_header hheader, if_neg haccepted, hbody, Option.bind_some]
  dsimp only
  rw [hsum, Option.bind_some]

theorem bitSymbols_append (bytes bytes' : List U8) :
    bitSymbols (bytes ++ bytes') = bitSymbols bytes ++ bitSymbols bytes' := by
  unfold bitSymbols
  rw [List.flatMap_append, List.map_append]

/-- The bits of the first bytes, with a bit of the next one for their end. -/
theorem parseMessage_take {bytes : List U8} {n : Nat} (h : n < bytes.length)
    (rest : List Symbol) :
    ∃ passed, (∀ s ∈ passed, s ≠ .long) ∧
      parseMessage n (.long :: (bitSymbols bytes ++ rest)) =
        some (bytes.take n, passed ++ rest) := by
  have hsplit : bitSymbols bytes = bitSymbols (bytes.take n) ++ bitSymbols (bytes.drop n) := by
    rw [← bitSymbols_append, List.take_append_drop]
  have hlength : (bitSymbols (bytes.drop n)).length = (bytes.length - n) * 8 := by
    rw [length_bitSymbols, List.length_drop]
  have htake : (bytes.take n).length = n := List.length_take_of_le (Nat.le_of_lt h)
  cases hleft : bitSymbols (bytes.drop n) with
  | nil =>
      rw [hleft, List.length_nil] at hlength
      omega
  | cons symbol passed =>
      refine ⟨passed, ?_, ?_⟩
      · intro s hs
        exact bitSymbols_ne_long (hleft ▸ List.mem_cons_of_mem symbol hs)
      · have hparse := parseMessage_bitSymbols (bytes.take n) symbol (passed ++ rest)
        rw [htake] at hparse
        rw [hsplit, hleft, List.append_assoc]
        exact hparse

/-- A space, and all bits of two bytes but the last. -/
theorem parseMessage_late (lo hi : U8) (symbol : Symbol) :
    parseMessage 2 (.long :: .long :: (bitSymbols [lo, hi] ++ [symbol])) =
      some ([0x80 ||| (lo >>> 1), (lo <<< 7) ||| (hi >>> 1)], [symbol]) := by
  have hbits : bitSymbols [lo, hi] =
      (bitSymbols [lo, hi]).take 15 ++ [bitSymbol (bitAt hi 0)] := rfl
  have hlength : (Symbol.long :: (bitSymbols [lo, hi]).take 15).length = 2 * 8 := rfl
  have hread : (Symbol.long :: (bitSymbols [lo, hi]).take 15).map Symbol.bit =
      1 :: ([lo, hi].flatMap byteBits).take 15 := by
    rw [List.map_cons, List.map_take, map_bit_bitSymbols]
    rfl
  have hlo : packByte (1 :: (byteBits lo).take 7) = 0x80 ||| (lo >>> 1) := by
    unfold packByte byteBits bitAt
    ext i hlt
    interval_cases i <;> simp [List.range, List.range.loop]
  have hhi : packByte (bitAt lo 0 :: (byteBits hi).take 7) = (lo <<< 7) ||| (hi >>> 1) := by
    unfold packByte byteBits bitAt
    ext i hlt
    interval_cases i <;> simp [List.range, List.range.loop]
  rw [hbits, List.append_assoc]
  refine (parseMessage_long hlength [bitSymbol (bitAt hi 0), symbol]).trans ?_
  rw [hread, ← hlo, ← hhi]
  rfl

/-- The length is less than that of the body. -/
theorem parseBlock_shortened (hheader : b.header = [messagePrefix, len])
    (hchecksum : b.checksum = [lo, hi]) (hlen : len.toNat < b.body.length)
    (hmax : b.body.length ≤ maxReceivedBlockLen) :
    parseBlock (symbols b.cells) =
      if lateChecksum (U16.ofBytes hi lo) = receivedSum len (b.body.take len.toNat) then
        some (b.body.take len.toNat)
      else none := by
  obtain ⟨passed, hpassed, hbody⟩ := parseMessage_take hlen
    (.long :: .long :: (bitSymbols b.checksum ++ [.long]))
  have hbody : parseMessage len.toNat b.bodySymbols = _ := hbody
  have haccepted : ¬(messagePrefix ≠ messagePrefix ∨ maxReceivedBlockLen < len.toNat) := by
    rintro (hne | hlong)
    · exact hne rfl
    · omega
  rw [parseBlock_header hheader, if_neg haccepted, hbody, Option.bind_some]
  dsimp only
  rw [parseMessage_short hpassed, hchecksum, parseMessage_late, Option.bind_some]
  unfold lateChecksum
  rw [U16.ofBytes_low, U16.ofBytes_high]

/-- The end of the checksum is no message. -/
theorem parseMessage_drop (bytes : List U8) (k : Nat) :
    parseMessage 2 ((bitSymbols bytes ++ [Symbol.long]).drop k) = none := by
  by_cases hbits : k ≤ (bitSymbols bytes).length
  · rw [List.drop_append_of_le_length hbits]
    exact parseMessage_end 2 fun s hs => bitSymbols_ne_long (List.mem_of_mem_drop hs)
  · have hall : (bitSymbols bytes ++ [Symbol.long]).length ≤ k := by
      rw [List.length_append, List.length_singleton]
      omega
    rw [List.drop_of_length_le hall]
    rfl

/-- The length is greater than that of the body: there are not enough bits, or what is left over
is no checksum. -/
theorem parseBlock_lengthened (hheader : b.header = [messagePrefix, len])
    (hlen : b.body.length < len.toNat) : parseBlock (symbols b.cells) = none := by
  obtain ⟨front, hfront⟩ : ∃ front, front = bitSymbols b.body ++ [Symbol.long, Symbol.long] :=
    ⟨_, rfl⟩
  obtain ⟨back, hback⟩ : ∃ back, back = bitSymbols b.checksum ++ [Symbol.long] := ⟨_, rfl⟩
  have hsplit : b.bodySymbols = .long :: (front ++ back) := by
    unfold BlockBytes.bodySymbols
    rw [hfront, hback, List.append_assoc]
    rfl
  rw [parseBlock_header hheader, hsplit]
  split
  · rfl
  by_cases hshort : (front ++ back).length < len.toNat * 8
  · have hne : len.toNat ≠ 0 := by omega
    have hnone : parseMessage len.toNat (.long :: (front ++ back)) = none := by
      rw [parseMessage, if_neg hne]
      exact parseBits_short (by rw [List.length_nil]; omega)
    rw [hnone]
    rfl
  · -- The two long spaces are taken for bits, so that what is left is the end of the checksum.
    obtain ⟨k, hk⟩ : ∃ k, len.toNat * 8 = front.length + k := by
      refine ⟨len.toNat * 8 - front.length, ?_⟩
      rw [hfront, List.length_append, length_bitSymbols]
      show _ = b.body.length * 8 + 2 + _
      have hlonger : b.body.length * 8 + 2 ≤ len.toNat * 8 := by omega
      exact (Nat.add_sub_cancel' hlonger).symm
    have htake : ((front ++ back).take (len.toNat * 8)).length = len.toNat * 8 :=
      List.length_take_of_le (Nat.le_of_not_lt hshort)
    have hparse := parseMessage_long htake ((front ++ back).drop (len.toNat * 8))
    have hleft : (front ++ back).drop (len.toNat * 8) = back.drop k := by
      rw [hk, List.drop_length_add_append]
    rw [List.take_append_drop, hleft] at hparse
    rw [hparse]
    cases hrest : back.drop k with
    | nil => rfl
    | cons symbol rest =>
        have hdrop : rest = (bitSymbols b.checksum ++ [Symbol.long]).drop (k + 1) := by
          rw [← hback, ← List.tail_drop, hrest]
          rfl
        show (parseMessage 2 rest).bind _ = none
        rw [hdrop, parseMessage_drop]
        rfl

end

/-! ## Sums -/

theorem receivedSum_length {payload : List U8} {len : U8} (h : len.toNat = payload.length) :
    receivedSum len payload = dataBlockChecksum payload := by
  have hlen : U16.ofByte len = BitVec.ofNat 16 payload.length := by
    rw [← h]
    exact BitVec.eq_of_toNat_eq (by rw [U16.ofByte, BitVec.toNat_setWidth, BitVec.toNat_ofNat])
  unfold receivedSum dataBlockChecksum
  rw [hlen]

/-- A sum of bytes determines what it was started with. -/
theorem foldl_sum_injective (bytes : List U8) {sum sum' : U16}
    (h : bytes.foldl (fun sum byte => sum + U16.ofByte byte) sum =
      bytes.foldl (fun sum byte => sum + U16.ofByte byte) sum') : sum = sum' := by
  induction bytes generalizing sum sum' with
  | nil => exact h
  | cons byte bytes ih => exact add_right_cancel (ih h)

theorem ofByte_injective {byte byte' : U8} (h : U16.ofByte byte = U16.ofByte byte') :
    byte = byte' := by
  have hnat := congrArg BitVec.toNat h
  rw [U16.ofByte, U16.ofByte, BitVec.toNat_setWidth, BitVec.toNat_setWidth] at hnat
  have hbyte := byte.isLt
  have hbyte' := byte'.isLt
  exact BitVec.eq_of_toNat_eq (by omega)

/-! ## Flips -/

/-- One bit of some bytes is flipped. -/
inductive FlipsBit : List U8 → List U8 → Prop where
  | intro (before after : List U8) (byte : U8) {bit : Nat} (h : bit < 8) :
      FlipsBit (before ++ byte :: after) (before ++ (byte ^^^ ((1 : U8) <<< bit)) :: after)

theorem flip_ne (byte : U8) {bit : Nat} (h : bit < 8) : byte ^^^ ((1 : U8) <<< bit) ≠ byte := by
  intro hsame
  have hmask : (1 : U8) <<< bit = 0 := by
    calc (1 : U8) <<< bit = byte ^^^ (byte ^^^ ((1 : U8) <<< bit)) := by
          rw [← BitVec.xor_assoc, BitVec.xor_self, BitVec.zero_xor]
      _ = 0 := by
          rw [hsame, BitVec.xor_self]
          rfl
  have hmasks : ∀ bit < 8, (1 : U8) <<< bit ≠ 0 := by decide
  exact hmasks bit h hmask

theorem FlipsBit.length {bytes bytes' : List U8} (h : FlipsBit bytes bytes') :
    bytes'.length = bytes.length := by
  cases h with
  | intro before after byte _ =>
      rw [List.length_append, List.length_append, List.length_cons, List.length_cons]

/-- Of two bytes, one is flipped. -/
theorem FlipsBit.pair {first second : U8} {bytes : List U8} (h : FlipsBit [first, second] bytes) :
    (∃ first', first' ≠ first ∧ bytes = [first', second]) ∨
      ∃ second', second' ≠ second ∧ bytes = [first, second'] := by
  generalize hpair : [first, second] = original at h
  cases h with
  | intro before after byte hbit =>
      match before with
      | [] =>
          obtain ⟨rfl, rfl⟩ := List.cons.inj hpair
          exact .inl ⟨_, flip_ne first hbit, rfl⟩
      | [_] =>
          obtain ⟨rfl, htail⟩ := List.cons.inj hpair
          obtain ⟨rfl, rfl⟩ := List.cons.inj htail
          exact .inr ⟨_, flip_ne second hbit, rfl⟩
      | _ :: _ :: before =>
          have hlength := congrArg List.length hpair
          rw [List.length_append, List.length_cons, List.length_cons, List.length_cons,
            List.length_cons, List.length_cons, List.length_nil] at hlength
          omega

/-- A flipped bit changes the sum. -/
theorem FlipsBit.sum_ne {payload payload' : List U8} (h : FlipsBit payload payload') (len : U8) :
    receivedSum len payload' ≠ receivedSum len payload := by
  intro hsum
  cases h with
  | intro before after byte hbit =>
      unfold receivedSum at hsum
      rw [List.foldl_append, List.foldl_append, List.foldl_cons, List.foldl_cons] at hsum
      have hbyte := add_left_cancel (foldl_sum_injective after hsum)
      exact flip_ne byte hbit (ofByte_injective hbyte)

/-- One bit of the messages of a block is flipped. -/
inductive BlockBytes.Flipped (b : BlockBytes) : BlockBytes → Prop where
  | header {header : List U8} (h : FlipsBit b.header header) : Flipped b { b with header }
  | body {body : List U8} (h : FlipsBit b.body body) : Flipped b { b with body }
  | checksum {checksum : List U8} (h : FlipsBit b.checksum checksum) :
      Flipped b { b with checksum }

/-- What is accepted where the header says less than there is: the checksum is read one bit late,
and it is right. -/
def AcceptedShort (payload header received : List U8) : Prop :=
  ∃ len : U8, header = [messagePrefix, len] ∧ len.toNat < payload.length ∧
    received = payload.take len.toNat ∧
    dataBlockChecksum received = lateChecksum (dataBlockChecksum payload)

theorem not_acceptedShort {payload received : List U8} (h : payload.length < 2 ^ 8) :
    ¬AcceptedShort payload (blockBytes payload).header received := by
  rintro ⟨len, hheader, hless, -⟩
  obtain ⟨-, hlen⟩ := List.cons.inj hheader
  obtain ⟨rfl, -⟩ := List.cons.inj hlen
  rw [BitVec.toNat_ofNat, Nat.mod_eq_of_lt h] at hless
  exact Nat.lt_irrefl _ hless

section

variable {payload : List U8}

theorem blockBytes_len (h : payload.length ≤ maxReceivedBlockLen) :
    (BitVec.ofNat 8 payload.length).toNat = payload.length := by
  have hmax : maxReceivedBlockLen < 2 ^ 8 := by decide
  rw [BitVec.toNat_ofNat, Nat.mod_eq_of_lt (by omega)]

/-- A block that was received as it was sent. -/
theorem parseBlock_blockBytes (h : payload.length ≤ maxReceivedBlockLen) :
    parseBlock (symbols (blockBytes payload).cells) = some payload := by
  have hlen := blockBytes_len h
  rw [parseBlock_exact rfl rfl hlen h]
  show (if _ = receivedSum _ payload then some payload else none) = some payload
  rw [receivedSum_length hlen, U16.ofBytes_high_low, if_pos rfl]

theorem parseBlock_flippedBody (h : payload.length ≤ maxReceivedBlockLen) {body : List U8}
    (hflip : FlipsBit payload body) :
    parseBlock (symbols { blockBytes payload with body }.cells) = none := by
  have hlen := blockBytes_len h
  have hbody : (BitVec.ofNat 8 payload.length).toNat = body.length := hlen.trans hflip.length.symm
  have hexact := parseBlock_exact (b := { blockBytes payload with body }) rfl rfl hbody
    (by rw [hflip.length]; exact h)
  rw [hexact, U16.ofBytes_high_low, ← receivedSum_length hlen]
  exact if_neg (hflip.sum_ne _).symm

theorem parseBlock_flippedChecksum (h : payload.length ≤ maxReceivedBlockLen)
    {checksum : List U8} (hflip : FlipsBit (blockBytes payload).checksum checksum) :
    parseBlock (symbols { blockBytes payload with checksum }.cells) = none := by
  have hlen := blockBytes_len h
  obtain ⟨lo, hi, rfl, hne⟩ : ∃ lo hi, checksum = [lo, hi] ∧
      U16.ofBytes hi lo ≠ dataBlockChecksum payload := by
    rcases hflip.pair with ⟨lo, hne, rfl⟩ | ⟨hi, hne, rfl⟩
    · refine ⟨lo, _, rfl, fun hsum => hne ?_⟩
      rw [← hsum, U16.ofBytes_low]
    · refine ⟨_, hi, rfl, fun hsum => hne ?_⟩
      rw [← hsum, U16.ofBytes_high]
  have hexact := parseBlock_exact (b := { blockBytes payload with checksum := [lo, hi] }) rfl rfl
    hlen h
  rw [hexact]
  show (if _ = receivedSum _ payload then some payload else none) = none
  rw [receivedSum_length hlen, if_neg hne]

/-- With a wrong header, only a shorter block can be accepted. -/
theorem parseBlock_flippedHeader (h : payload.length ≤ maxReceivedBlockLen) {header : List U8}
    (hflip : FlipsBit (blockBytes payload).header header) (received : List U8) :
    parseBlock (symbols { blockBytes payload with header }.cells) = some received ↔
      AcceptedShort payload header received := by
  have hlen := blockBytes_len h
  rcases hflip.pair with ⟨headerPrefix, hne, rfl⟩ | ⟨len, hne, rfl⟩
  · rw [parseBlock_header rfl, if_pos (.inl hne)]
    refine ⟨nofun, ?_⟩
    rintro ⟨len, hheader, -⟩
    exact absurd (List.cons.inj hheader).1 hne
  · have hdiffers : len.toNat ≠ payload.length := by
      intro hsame
      exact hne (BitVec.eq_of_toNat_eq (hsame.trans hlen.symm))
    rcases Nat.lt_or_gt_of_ne hdiffers with hless | hgreater
    · have hshort := parseBlock_shortened
        (b := { blockBytes payload with header := [messagePrefix, len] }) rfl rfl hless h
      have htake : len.toNat = (payload.take len.toNat).length :=
        (List.length_take_of_le (Nat.le_of_lt hless)).symm
      rw [hshort, U16.ofBytes_high_low]
      show (if lateChecksum (dataBlockChecksum payload) =
        receivedSum len (payload.take len.toNat) then some (payload.take len.toNat) else none) =
          some received ↔ _
      rw [receivedSum_length htake]
      constructor
      · intro haccepted
        by_cases hsum : lateChecksum (dataBlockChecksum payload) =
            dataBlockChecksum (payload.take len.toNat)
        · rw [if_pos hsum] at haccepted
          obtain rfl := Option.some.inj haccepted
          exact ⟨len, rfl, hless, rfl, hsum.symm⟩
        · rw [if_neg hsum] at haccepted
          nomatch haccepted
      · rintro ⟨len', hheader, -, rfl, hsum⟩
        obtain rfl : len = len' := (List.cons.inj (List.cons.inj hheader).2).1
        rw [if_pos hsum.symm]
    · have hlong := parseBlock_lengthened
        (b := { blockBytes payload with header := [messagePrefix, len] }) rfl hgreater
      rw [hlong]
      refine ⟨nofun, ?_⟩
      rintro ⟨len', hheader, hless, -⟩
      obtain rfl : len = len' := (List.cons.inj (List.cons.inj hheader).2).1
      exact absurd hless (Nat.lt_asymm hgreater)

/-- One flipped bit: a block is accepted only where it is cut short. -/
theorem parseBlock_flipped (h : payload.length ≤ maxReceivedBlockLen) {b : BlockBytes}
    (hflip : (blockBytes payload).Flipped b) (received : List U8) :
    parseBlock (symbols b.cells) = some received ↔ AcceptedShort payload b.header received := by
  have hmax : maxReceivedBlockLen < 2 ^ 8 := by decide
  have hnot : ¬AcceptedShort payload (blockBytes payload).header received :=
    not_acceptedShort (by omega)
  cases hflip with
  | header hflip => exact parseBlock_flippedHeader h hflip received
  | body hflip =>
      rw [parseBlock_flippedBody h hflip]
      exact ⟨nofun, fun haccepted => absurd haccepted hnot⟩
  | checksum hflip =>
      rw [parseBlock_flippedChecksum h hflip]
      exact ⟨nofun, fun haccepted => absurd haccepted hnot⟩

/-- A payload that is too long for the receiver. -/
theorem parseBlock_tooLong (hlong : maxReceivedBlockLen < payload.length)
    (hfits : payload.length < 2 ^ 8) : parseBlock (symbols (blockBytes payload).cells) = none := by
  rw [parseBlock_header rfl, BitVec.toNat_ofNat, Nat.mod_eq_of_lt hfits, if_pos (.inr hlong)]

end

/-! ## Over distorted light -/

theorem receive_distortedBlock {b : BlockBytes} {pulses : List Pulse}
    (h : Distorts (b.encode .new).pulses pulses) :
    receive (pulsesLight pulses) DataBlockReceiver.new = parseBlock (symbols b.cells) := by
  rw [b.encode_new] at h
  obtain ⟨dark, cells, rfl, hreadable, hsymbols⟩ := distorts_cellsPulses h
  rw [pulsesLight_cellsPulses, DataBlockReceiver.receive_block hreadable, hsymbols]

theorem receive_distortedAck {status : U8} {pulses : List Pulse}
    (h : Distorts (encodeBlockAck status .new).pulses pulses) :
    receive (pulsesLight pulses) (DataMessageReceiver.new 1) = some [status] := by
  rw [encodeBlockAck_new] at h
  obtain ⟨dark, cells, rfl, hreadable, hsymbols⟩ := distorts_cellsPulses h
  rw [pulsesLight_cellsPulses, receive_message hreadable, hsymbols,
    symbols_append, symbols_openCells]
  have hparse : parseMessage 1 (.long :: (bitSymbols [status] ++ [Symbol.long])) =
      some ([status], []) := parseMessage_bitSymbols [status] .long []
  show (parseMessage 1 (.long :: (bitSymbols [status] ++ [Symbol.long]))).map _ = _
  rw [hparse]
  rfl

/-- A payload of at most eighty bytes comes back from its light, however that is distorted, and
with one bit flipped nothing is received but a payload that is cut short, where the length is the
byte that was hit.  A longer payload is refused, and the status of an acknowledgement comes back
as well. -/
theorem block_roundTrip (payload : List U8) :
    (payload.length ≤ maxReceivedBlockLen →
      ∃ q, encodeDataBlock payload .new = some q ∧
        q.emit (pulsesLight q.pulses).length = pulsesLight q.pulses ∧
        Distorts q.pulses q.pulses ∧
        (∀ pulses, Distorts q.pulses pulses →
          receive (pulsesLight pulses) DataBlockReceiver.new = some payload) ∧
        q = (blockBytes payload).encode .new ∧
        ∀ b, (blockBytes payload).Flipped b →
          ∀ pulses, Distorts (b.encode .new).pulses pulses →
            ∀ received, receive (pulsesLight pulses) DataBlockReceiver.new = some received ↔
              AcceptedShort payload b.header received) ∧
    (maxReceivedBlockLen < payload.length →
      ∀ q, encodeDataBlock payload .new = some q →
        ∀ pulses, Distorts q.pulses pulses →
          receive (pulsesLight pulses) DataBlockReceiver.new = none) ∧
    ∀ status pulses, Distorts (encodeBlockAck status .new).pulses pulses →
      receive (pulsesLight pulses) (DataMessageReceiver.new 1) = some [status] := by
  refine ⟨fun hlen => ?_, fun hlong q hencode pulses hpulses => ?_,
    fun status pulses hpulses => receive_distortedAck hpulses⟩
  · have hmax : maxReceivedBlockLen < 2 ^ 8 := by decide
    refine ⟨(blockBytes payload).encode .new, encodeDataBlock_eq (by omega) _,
      PulseQueue.emit_pulsesLight (blockBytes payload).positive_encode,
      (blockBytes payload).distorts_encode, fun pulses hpulses => ?_, rfl,
      fun b hflip pulses hpulses received => ?_⟩
    · rw [receive_distortedBlock hpulses, parseBlock_blockBytes hlen]
    · rw [receive_distortedBlock hpulses]
      exact parseBlock_flipped hlen hflip received
  · by_cases hfits : payload.length < 2 ^ 8
    · rw [encodeDataBlock_eq hfits] at hencode
      obtain rfl := Option.some.inj hencode
      rw [receive_distortedBlock hpulses, parseBlock_tooLong hlong hfits]
    · rw [encodeDataBlock, if_neg hfits] at hencode
      nomatch hencode

/-- A length of three that has lost a bit, and a checksum that is right one bit late. -/
def shortenedBytes : BlockBytes :=
  { blockBytes [0x25, 0x3F, 0x3F] with header := [messagePrefix, 1] }

theorem shortenedBytes_flipped : (blockBytes [0x25, 0x3F, 0x3F]).Flipped shortenedBytes :=
  .header (.intro [messagePrefix] [] 3 (by decide : 1 < 8))

theorem shortenedBytes_accepted :
    AcceptedShort [0x25, 0x3F, 0x3F] shortenedBytes.header [0x25] :=
  ⟨1, rfl, by decide, rfl, rfl⟩

/-- Two light patterns that differ in one bit of a length, and both are accepted. -/
theorem block_accepted_shortened :
    ∃ b pulses, (blockBytes [0x25, 0x3F, 0x3F]).Flipped b ∧
      Distorts (b.encode .new).pulses pulses ∧
      receive (pulsesLight pulses) DataBlockReceiver.new = some [0x25] ∧
      ([0x25] : List U8) ≠ [0x25, 0x3F, 0x3F] := by
  refine ⟨shortenedBytes, _, shortenedBytes_flipped, shortenedBytes.distorts_encode, ?_, nofun⟩
  rw [receive_distortedBlock shortenedBytes.distorts_encode]
  exact (parseBlock_flipped (by decide) shortenedBytes_flipped [0x25]).mpr shortenedBytes_accepted

theorem block_roundTrip_threeBytes :
    (∃ q, encodeDataBlock [0x25, 0x3F, 0x3F] .new = some q ∧
      receive (pulsesLight q.pulses) DataBlockReceiver.new = some [0x25, 0x3F, 0x3F] ∧
      receive (pulsesLight (shortenedBytes.encode .new).pulses) DataBlockReceiver.new =
        some [0x25]) ∧
    (∃ q, encodeDataBlock (List.replicate 81 0) .new = some q ∧
      receive (pulsesLight q.pulses) DataBlockReceiver.new = none) ∧
    receive (pulsesLight (cellsPulses 0 (openCells [0x6C] ++
      [(irMessageTrailerMarkTCycles, irMessageTrailerSpaceTCycles)])))
        (DataMessageReceiver.new 1) = some [0x6C] := by
  refine ⟨?_, ?_, ?_⟩
  · obtain ⟨q, hencode, -, hself, hback, -, hflipped⟩ :=
      (block_roundTrip [0x25, 0x3F, 0x3F]).1 (by decide)
    refine ⟨_, hencode, hback _ hself, ?_⟩
    exact (hflipped _ shortenedBytes_flipped _ shortenedBytes.distorts_encode [0x25]).mpr
      shortenedBytes_accepted
  · have hlength : (List.replicate 81 (0 : U8)).length = 81 := List.length_replicate
    have hencode : encodeDataBlock (List.replicate 81 0) .new =
        some ((blockBytes (List.replicate 81 0)).encode .new) :=
      encodeDataBlock_eq (by rw [hlength]; decide) _
    exact ⟨_, hencode, (block_roundTrip (List.replicate 81 0)).2.1 (by rw [hlength]; decide) _
      hencode _
      (blockBytes (List.replicate 81 0)).distorts_encode⟩
  · refine (block_roundTrip []).2.2 0x6C _ ?_
    rw [encodeBlockAck_new]
    refine distorts_dark ?_ _ _
    intro cell hcell
    rcases List.mem_append.mp hcell with hcell | hcell
    · exact readable_openCells _ cell hcell
    · obtain rfl := List.mem_singleton.mp hcell
      exact ⟨by decide, by decide⟩

end MysteryGift

end GbCycle
