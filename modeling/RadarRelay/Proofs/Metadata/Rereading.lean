import RadarRelay.Metadata.Document
import RadarRelay.Proofs.Document.Rereading
import RadarRelay.Proofs.Json.Rereading

/-!
# Metadata in files

A file is written with the fields of metadata in the order of their declaration, so its text is
not that of a free-form value, whose fields are sorted. It is JSON all the same: every text in it
is found again, whatever characters it has, and so is every size of 64 bits. Whoever reads the
file therefore has the metadata back, with the size of the file in place of the size that was
written.
-/

namespace RadarRelay

open RadarRelay.Number RadarRelay.Document
open RadarRelay.Json (outlineOfNumber)

namespace Json

/-- A part of a value with exact numbers, whatever the order of fields. -/
def Numbered : Json → Prop
  | number value => value.Exact
  | _ => True

theorem rereads_numbered : Rereads tokens outlineOfNumber Numbered :=
  rereads_of_numbers (fun exact => exact) fun _ _ _ => trivial

end Json

namespace Document.Codec

/-- A natural number of 64 bits is read from what is written for it. -/
theorem decode_natural (expected : String) {value : Nat} (fits : value ≤ nat64Max) :
    (natural expected).decode .text (written outlineOfNumber (.number (.whole value))) =
      .ok value := by
  have inside : (0 : Int) ≤ value ∧ (value : Int) ≤ nat64Max :=
    ⟨Int.natCast_nonneg value, Int.ofNat_le.2 fits⟩
  show (if (0 : Int) ≤ value ∧ (value : Int) ≤ nat64Max then Except.ok (value : Int)
    else .error _).map Int.toNat = _
  rw [if_pos inside]
  rfl

end Document.Codec

/-! ## Attributes -/

namespace Attribute

/-- An attribute as it is written to a file. -/
def document (entry : Attribute) : Json :=
  .object (record.members entry)

theorem decode_document (entry : Attribute) :
    record.decode .text (written outlineOfNumber entry.document) = .ok entry :=
  Record.decode_declared (fun field => field.write entry) (by decide)
    (.cons (Field.makes_ofCodec rfl) (.cons (Field.makes_ofCodec rfl) .nil)) rfl

theorem numbered_document (entry : Attribute) : entry.document.Every Json.Numbered := by
  simp [document, record, Record.members, Json.every_object, Json.Numbered, Field.needed,
    Field.ofCodec, Codec.text, Codec.textNamed]

theorem depth_document (entry : Attribute) : entry.document.depth = 1 := rfl

end Attribute

/-! ## Metadata -/

namespace Metadata

/-- The value of a field as it is written to a file. -/
def view (metadata : Metadata) (field : Document.Field Metadata) : Json :=
  if field.name = "nodes" then .array (metadata.attributes.map Attribute.document)
  else field.write metadata

/-- Metadata as it is written to a file. -/
def document (metadata : Metadata) : Json :=
  .object (record.fields.map fun field => (field.name, metadata.view field))

variable {metadata : Metadata}

theorem fileText_eq (metadata : Metadata) : metadata.fileText = metadata.document.text := rfl

theorem document_eq (metadata : Metadata) :
    metadata.document = .object
      [ ("nodes", .array (metadata.attributes.map Attribute.document)),
        ("source_name", .string metadata.sourceName),
        ("resolved_source", .string metadata.resolvedSource),
        ("fingerprint", .string metadata.fingerprint),
        ("file_size", .number (.whole metadata.fileSize)) ] := rfl

theorem decode_document (counted : metadata.fileSize ≤ nat64Max) :
    record.decode .text (written outlineOfNumber metadata.document) = .ok metadata := by
  have attributes : Attribute.record.codec.list.decode .text
      (written outlineOfNumber (.array (metadata.attributes.map Attribute.document))) =
        .ok metadata.attributes := by
    rw [written, writtenItems_eq_map, List.map_map]
    exact Codec.decode_each fun entry _ => entry.decode_document
  have size := Codec.decode_natural "u64" counted
  exact Record.decode_declared metadata.view (by decide)
    (.cons (Field.makes_ofCodec attributes)
      (.cons (Field.makes_ofCodec rfl)
        (.cons (Field.makes_ofCodec rfl)
          (.cons (Field.makes_ofCodec rfl)
            (.cons (Field.makes_ofCodec size) .nil))))) rfl

theorem numbered_document (counted : metadata.fileSize ≤ nat64Max) :
    metadata.document.Every Json.Numbered := by
  have attributes : (Json.array (metadata.attributes.map Attribute.document)).Every
      Json.Numbered := by
    refine Json.every_array.2 ⟨trivial, List.forall_mem_map.2 fun entry _ => ?_⟩
    exact entry.numbered_document
  have size : Json.Number.Exact (.whole metadata.fileSize) :=
    ⟨Int.le_trans (by decide) (Int.natCast_nonneg metadata.fileSize), Int.ofNat_le.2 counted⟩
  rw [document_eq, Json.every_object]
  simpa [Json.Numbered] using ⟨attributes, size⟩

theorem depth_document_le (metadata : Metadata) : metadata.document.depth ≤ 3 := by
  have attributes : Json.depthOfItems (metadata.attributes.map Attribute.document) ≤ 1 := by
    refine Json.depthOfItems_le_iff.2 (List.forall_mem_map.2 fun entry _ => ?_)
    exact entry.depth_document.le
  simp only [document_eq, Json.depth, Json.depthOfFields]
  omega

/-- The text of metadata is read as the metadata. -/
theorem read_fileText (counted : metadata.fileSize ≤ nat64Max) :
    read metadata.fileText = .ok metadata := by
  have shallow : metadata.document.depth ≤ 127 :=
    Nat.le_trans metadata.depth_document_le (by decide)
  have drafted := (Json.goes_draft Json.rereads_numbered (numbered_document counted)).1
    (Json.bears_iff.2 shallow)
  rw [fileText_eq, read, drafted]
  simp only [decode_document counted]
  rfl

/-- Whoever reads the file that was written for metadata has the metadata back, with the size of the
file in it. Without the name of a source nothing is given. -/
theorem ofFile_fileText (counted : metadata.fileSize ≤ nat64Max) :
    ofFile metadata.fileText =
      if metadata.sourceName = "" then .error (.lookup "no source in metadata")
      else .ok { metadata with fileSize := metadata.fileText.utf8ByteSize } := by
  rw [ofFile, read_fileText counted]
  rfl

/-- Quotes, control characters, a line separator and a path that comes twice are found again, and
the greatest size gives way to the size of the file. -/
theorem ofFile_fileText_of_odd_texts :
    let attributes : List Attribute :=
      [⟨"/what/\"object\"", "P\x00\\\n\x7f"⟩, ⟨"/what/\"object\"", "\u2028é😀"⟩]
    let metadata : Metadata := ⟨attributes, "sehem", "NOD:sehem,PLC:Älv", "", nat64Max⟩
    metadata.fileSize ≤ nat64Max ∧
      ofFile metadata.fileText = .ok { metadata with fileSize := 221 } := by
  intro attributes metadata
  have counted : metadata.fileSize ≤ nat64Max := Nat.le_refl _
  have size : metadata.fileText.utf8ByteSize = 221 := by decide +kernel
  have reread := ofFile_fileText counted
  rw [if_neg (by decide), size] at reread
  exact ⟨counted, reread⟩

end Metadata

end RadarRelay
