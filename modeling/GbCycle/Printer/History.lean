import GbCycle.Printer.Session

/-!
# The printer's job, read off its notes

What the printer has done is a function of the packets it recognised and of its timeouts.  The
image is the data that was accepted since the last initialise packet or timeout, as far as it
fits; a page is printed by a print packet that finds the image armed, which it is when an empty
data packet has come since with neither data nor a print after it.
-/

namespace GbCycle

namespace Printer

namespace PrinterNote

/-- The command and the data of an accepted packet. -/
def accepted : PrinterNote → Option (PrinterCommand × List U8)
  | .packet p => p.accepted
  | .timeout => none

/-- A timeout, or an initialise packet that is accepted. -/
def resets (n : PrinterNote) : Bool :=
  match n with
  | .timeout => true
  | .packet p => p.accepted.map Prod.fst == some .initializePrinter

/-- The data of an accepted data packet. -/
def imageData (n : PrinterNote) : List U8 :=
  match n.accepted with
  | some (.data, data) => data
  | _ => []

/-- The arguments of an accepted print packet. -/
def prints (n : PrinterNote) : Option PrinterPrintArgs :=
  match n.accepted with
  | some (.print, data) => some (PrinterJob.printArgs data)
  | _ => none

end PrinterNote

/-- The notes since the last reset. -/
def sinceReset (notes : List PrinterNote) : List PrinterNote :=
  (notes.reverse.takeWhile fun n => !n.resets).reverse

/-- The data accepted since the last reset, in the order in which it came. -/
def imageOf (notes : List PrinterNote) : List U8 := (sinceReset notes).flatMap PrinterNote.imageData

/-- An empty data packet has been accepted since the last reset, with some data before it and
neither data nor a print after it. -/
def Armed (notes : List PrinterNote) : Prop :=
  ∃ before p after, sinceReset notes = before ++ PrinterNote.packet p :: after ∧
    (PrinterNote.packet p).accepted = some (.data, []) ∧ before.flatMap PrinterNote.imageData ≠ [] ∧
    ∀ n ∈ after, n.imageData = [] ∧ n.prints = none

theorem sinceReset_concat (notes : List PrinterNote) (n : PrinterNote) :
    sinceReset (notes ++ [n]) = if n.resets then [] else sinceReset notes ++ [n] := by
  unfold sinceReset
  rw [List.reverse_append, List.reverse_singleton, List.singleton_append, List.takeWhile_cons]
  cases n.resets with
  | true => rfl
  | false => exact List.reverse_cons

theorem imageOf_concat (notes : List PrinterNote) (n : PrinterNote) :
    imageOf (notes ++ [n]) = if n.resets then [] else imageOf notes ++ n.imageData := by
  unfold imageOf
  rw [sinceReset_concat]
  split
  · rfl
  · rw [List.flatMap_append, List.flatMap_singleton]

/-! ## The image -/

/-- What a note does to the image of a job. -/
theorem note_image (j : PrinterJob) (n : PrinterNote) (h : j.Sound) :
    (j.note n).image =
      if n.resets then [] else (j.image ++ n.imageData).take printerImageBufferCapacityBytes := by
  have hkeep : (j.image ++ []).take printerImageBufferCapacityBytes = j.image := by
    rw [List.append_nil]
    exact List.take_of_length_le h.bounded
  cases n with
  | timeout => rfl
  | packet p =>
      cases haccepted : p.accepted with
      | none =>
          simp only [PrinterJob.note, PrinterNote.resets, PrinterNote.imageData,
            PrinterNote.accepted, haccepted]
          exact hkeep.symm
      | some accepted =>
          obtain ⟨command, data⟩ := accepted
          simp only [PrinterJob.note, PrinterNote.resets, PrinterNote.imageData,
            PrinterNote.accepted, haccepted]
          cases command with
          | initializePrinter => rfl
          | print =>
              refine Eq.trans ?_ hkeep.symm
              show (j.print _).image = j.image
              unfold PrinterJob.print
              split <;> rfl
          | data =>
              show (j.addData data).image =
                (j.image ++ data).take printerImageBufferCapacityBytes
              unfold PrinterJob.addData
              by_cases hempty : data.isEmpty = true
              · rw [if_pos hempty, List.isEmpty_iff.mp hempty, hkeep]
              · rw [if_neg hempty]
          | status => exact hkeep.symm

theorem ofNotes_image (notes : List PrinterNote) :
    (PrinterJob.ofNotes notes).image = (imageOf notes).take printerImageBufferCapacityBytes := by
  induction notes using List.reverseRecOn with
  | nil => rfl
  | append_singleton notes n ih =>
      rw [PrinterJob.ofNotes_concat, note_image _ n (PrinterJob.sound_ofNotes notes),
        imageOf_concat, ih]
      split
      · rfl
      · rw [List.take_append, List.take_append, List.take_take, Nat.min_self, List.length_take]
        congr 2
        omega

theorem ofNotes_image_eq_nil (notes : List PrinterNote) :
    (PrinterJob.ofNotes notes).image = [] ↔ imageOf notes = [] := by
  rw [ofNotes_image, List.take_eq_nil_iff]
  exact ⟨fun h => h.resolve_left (by decide), .inr⟩

/-! ## Armed prints -/

/-- A note that is not a reset, not data and not a print leaves the armed state alone. -/
theorem armed_concat (notes : List PrinterNote) (n : PrinterNote) :
    Armed (notes ++ [n]) ↔ n.resets = false ∧
      (Armed notes ∧ n.imageData = [] ∧ n.prints = none ∨
        n.accepted = some (.data, []) ∧ imageOf notes ≠ []) := by
  unfold Armed
  rw [sinceReset_concat]
  cases hresets : n.resets with
  | true =>
      rw [if_pos rfl]
      refine ⟨?_, fun h => absurd h.1 (by decide)⟩
      rintro ⟨before, p, after, hnil, -⟩
      exact absurd hnil (by simp)
  | false =>
      rw [if_neg (by decide)]
      constructor
      · rintro ⟨before, p, after, hsplit, hempty, hfilled, hquiet⟩
        refine ⟨rfl, ?_⟩
        rcases List.eq_nil_or_concat after with rfl | ⟨after, last, rfl⟩
        · obtain ⟨hsame, hlast⟩ := List.append_inj' hsplit rfl
          obtain rfl := List.singleton_inj.mp hlast
          exact .inr ⟨hempty, by rw [imageOf, hsame]; exact hfilled⟩
        · rw [List.concat_eq_append] at hsplit hquiet
          have hsplit' : sinceReset notes ++ [n] =
              (before ++ PrinterNote.packet p :: after) ++ [last] := by
            rw [hsplit, List.append_assoc, List.cons_append]
          obtain ⟨hsame, hlast⟩ := List.append_inj' hsplit' rfl
          obtain rfl := List.singleton_inj.mp hlast
          exact .inl ⟨⟨before, p, after, hsame, hempty, hfilled,
            fun m hm => hquiet m (List.mem_append_left _ hm)⟩,
            hquiet n (List.mem_append_right _ (List.mem_singleton_self n))⟩
      · rintro ⟨-, ⟨⟨before, p, after, hsplit, hempty, hfilled, hquiet⟩, hn⟩ | ⟨hempty, hfilled⟩⟩
        · refine ⟨before, p, after ++ [n], ?_, hempty, hfilled, fun m hm => ?_⟩
          · rw [hsplit, List.append_assoc, List.cons_append]
          · rcases List.mem_append.mp hm with hold | hnew
            · exact hquiet m hold
            · obtain rfl := List.mem_singleton.mp hnew
              exact hn
        · cases n with
          | timeout => cases hempty
          | packet p => exact ⟨sinceReset notes, p, [], rfl, hempty, hfilled, nofun⟩

/-- What a note does to the armed state of a job. -/
theorem note_armed (j : PrinterJob) (n : PrinterNote) (h : j.Sound) :
    (j.note n).armed = true ↔ n.resets = false ∧
      (j.armed = true ∧ n.imageData = [] ∧ n.prints = none ∨
        n.accepted = some (.data, []) ∧ j.image ≠ []) := by
  cases n with
  | timeout =>
      exact ⟨fun h => absurd h Bool.false_ne_true, fun h => absurd h.1 Bool.noConfusion⟩
  | packet p =>
      cases haccepted : p.accepted with
      | none =>
          simp [PrinterJob.note, PrinterNote.resets, PrinterNote.prints, PrinterNote.imageData,
            PrinterNote.accepted, haccepted]
      | some accepted =>
          obtain ⟨command, data⟩ := accepted
          simp only [PrinterJob.note, PrinterNote.resets, PrinterNote.prints,
            PrinterNote.imageData, PrinterNote.accepted, haccepted]
          cases command with
          | initializePrinter =>
              exact ⟨fun h => absurd h Bool.false_ne_true, fun h => absurd h.1 Bool.noConfusion⟩
          | print =>
              have hprinted : (j.print (PrinterJob.printArgs data)).armed = false := by
                unfold PrinterJob.print
                split
                · rfl
                · next hidle => exact Bool.not_eq_true _ ▸ hidle
              show (j.print _).armed = true ↔ _
              rw [hprinted]
              simp
          | data =>
              show (j.addData data).armed = true ↔ _
              unfold PrinterJob.addData
              cases data with
              | nil =>
                  simp only [List.isEmpty_nil, if_true, Bool.not_eq_true', List.isEmpty_eq_false_iff]
                  constructor
                  · intro himage
                    exact ⟨rfl, .inr ⟨trivial, himage⟩⟩
                  · rintro ⟨-, ⟨harmed, -⟩ | ⟨-, himage⟩⟩
                    · exact h.armed harmed
                    · exact himage
              | cons byte data => simp
          | status => simp [PrinterJob.execute]

theorem ofNotes_armed (notes : List PrinterNote) :
    (PrinterJob.ofNotes notes).armed = true ↔ Armed notes := by
  induction notes using List.reverseRecOn with
  | nil =>
      refine ⟨nofun, ?_⟩
      rintro ⟨before, p, after, hnil, -⟩
      exact absurd hnil (by simp [sinceReset])
  | append_singleton notes n ih =>
      rw [PrinterJob.ofNotes_concat, note_armed _ n (PrinterJob.sound_ofNotes notes), armed_concat,
        ih, Ne, ofNotes_image_eq_nil]

/-! ## The pages -/

open Classical in
/-- The page that a note prints after others, if any. -/
noncomputable def pageOfNote (notes : List PrinterNote) (n : PrinterNote) : List PrintedPage :=
  match n.prints with
  | none => []
  | some args =>
      if args.sheets ≠ 0 ∧ Armed notes then
        [pageOf ((imageOf notes).take printerImageBufferCapacityBytes) args]
      else []

theorem ofNotes_pages_concat (notes : List PrinterNote) (n : PrinterNote) :
    (PrinterJob.ofNotes (notes ++ [n])).pages =
      (PrinterJob.ofNotes notes).pages ++ pageOfNote notes n := by
  rw [PrinterJob.ofNotes_concat]
  generalize hjob : PrinterJob.ofNotes notes = j
  have himage : j.image = (imageOf notes).take printerImageBufferCapacityBytes :=
    hjob ▸ ofNotes_image notes
  have harmed : j.armed = true ↔ Armed notes := hjob ▸ ofNotes_armed notes
  unfold pageOfNote
  rw [← himage, ← harmed]
  cases n with
  | timeout => exact (List.append_nil _).symm
  | packet p =>
      cases haccepted : p.accepted with
      | none =>
          simp only [PrinterJob.note, PrinterNote.prints, PrinterNote.accepted, haccepted]
          exact (List.append_nil _).symm
      | some accepted =>
          obtain ⟨command, data⟩ := accepted
          simp only [PrinterJob.note, PrinterNote.prints, PrinterNote.accepted, haccepted]
          cases command with
          | initializePrinter => exact (List.append_nil _).symm
          | print =>
              show (j.print (PrinterJob.printArgs data)).pages = _
              unfold PrinterJob.print
              by_cases hready : j.armed = true
              · by_cases hsheets : (PrinterJob.printArgs data).sheets = 0
                · simp only [hready, hsheets, if_true, ne_eq, not_true_eq_false, false_and, if_false]
                · simp only [hready, hsheets, if_true, ne_eq, not_false_eq_true, and_self,
                    if_false]
              · simp only [hready, and_false, if_false, List.append_nil, Bool.false_eq_true]
          | data =>
              refine Eq.trans ?_ (List.append_nil _).symm
              show (j.addData data).pages = j.pages
              unfold PrinterJob.addData
              split <;> rfl
          | status => exact (List.append_nil _).symm

/-! ## Compressed data -/

/-- A compressed data packet is accepted with what its data is decoded to, and rejected where it
is not decoded. -/
theorem acceptedCommand_compressed (data : List U8) :
    PrinterDevice.acceptedCommand 0x04 0x01 data =
      (decodeCompressedDataPacket data).map (.data, ·) := by
  show (decodeCompressedDataPacket data).bind _ = _
  cases hdecode : decodeCompressedDataPacket data with
  | none => rfl
  | some out =>
      obtain ⟨runs, -, -, hle⟩ := decodeCompressedDataPacket_eq_some.mp hdecode
      exact if_pos (decide_eq_true hle)

/-- A rejected packet leaves the image, the armed state and the pages alone. -/
theorem finishPacket_rejected (d : PrinterDevice) {command flag : U8} (checksum : U16)
    (hrejected : PrinterDevice.acceptedCommand command flag (d.packetData.drop 4) = none) :
    ∃ d', d.finishPacket command flag (d.packetData.drop 4).length checksum = some d' ∧
      d'.imageBuffer = d.imageBuffer ∧ d'.printArmed = d.printArmed ∧
      d'.printedPages = d.printedPages ∧
      (checksum = d.packetChecksumSum → d'.status.packetError = true) := by
  unfold PrinterDevice.finishPacket
  simp only [hrejected, ne_eq, not_true_eq_false, if_false]
  by_cases hright : checksum = d.packetChecksumSum
  · rw [if_neg (not_not_intro hright)]
    exact ⟨_, rfl, rfl, rfl, rfl, fun _ => rfl⟩
  · rw [if_pos hright]
    exact ⟨_, rfl, rfl, rfl, rfl, fun h => absurd h hright⟩

/-- The decoder accepts exactly the sequences of runs that expand to what fits a packet, a packet
that it rejects leaves the image alone, and any encoding of data that fits is decoded to it. -/
theorem printer_decompression :
    (∀ data out, decodeCompressedDataPacket data = some out ↔
      ∃ runs, data = encodeRuns runs ∧ out = expandRuns runs ∧
        out.length ≤ printerMaxDataPacketBytes) ∧
    (∀ (d : PrinterDevice) (checksum : U16),
      decodeCompressedDataPacket (d.packetData.drop 4) = none →
      ∃ d', d.finishPacket 0x04 0x01 (d.packetData.drop 4).length checksum = some d' ∧
        d'.imageBuffer = d.imageBuffer ∧ d'.printArmed = d.printArmed ∧
        d'.printedPages = d.printedPages ∧
        (checksum = d.packetChecksumSum → d'.status.packetError = true)) ∧
    ∀ data runs, data.length ≤ printerMaxDataPacketBytes → expandRuns runs = data →
      decodeCompressedDataPacket (encodeRuns runs) = some data := by
  refine ⟨fun data out => decodeCompressedDataPacket_eq_some, fun d checksum hnone => ?_,
    fun data runs hle hexpand => ?_⟩
  · exact finishPacket_rejected d checksum (by rw [acceptedCommand_compressed, hnone]; rfl)
  · exact decodeCompressedDataPacket_eq_some.mpr ⟨runs, rfl, hexpand.symm, hle⟩

/-- Three literal bytes and a byte that is repeated four times. -/
theorem printer_decompression_runs :
    decodeCompressedDataPacket [0x02, 0x11, 0x22, 0x33, 0x82, 0xFF] =
      some [0x11, 0x22, 0x33, 0xFF, 0xFF, 0xFF, 0xFF] :=
  printer_decompression.2.2 [0x11, 0x22, 0x33, 0xFF, 0xFF, 0xFF, 0xFF]
    [.literal [0x11, 0x22, 0x33] (by decide), .repeated 0xFF 4 (by decide)] (by decide) rfl

end Printer

end GbCycle
