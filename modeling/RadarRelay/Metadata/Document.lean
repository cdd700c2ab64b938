import RadarRelay.Document.Record
import RadarRelay.Error
import RadarRelay.Json.Printer
import RadarRelay.Json.Reader
import RadarRelay.Metadata.Basic

/-!
# Metadata as a document

Metadata is exchanged as a JSON text. Every field may be left out, other fields
are refused. A node reads it from the file that it was posted; there the radar
has to be known, and the size is that of the file.
-/

namespace RadarRelay

open RadarRelay.Number RadarRelay.Document

def Attribute.record : Record Attribute where
  name := "MetadataNode"
  strict := true
  defaults := ⟨"", ""⟩
  fields :=
    [ .needed "path" .text Attribute.path (fun entry path => { entry with path }),
      .needed "value" .text Attribute.value (fun entry value => { entry with value }) ]

namespace Metadata

def record : Record Metadata where
  name := "Metadata"
  strict := true
  defaults := empty
  fields :=
    [ .defaulted "nodes" Attribute.record.codec.list Metadata.attributes
        (fun metadata attributes => { metadata with attributes }),
      .defaulted "source_name" .text Metadata.sourceName
        (fun metadata sourceName => { metadata with sourceName }),
      .defaulted "resolved_source" .text Metadata.resolvedSource
        (fun metadata resolvedSource => { metadata with resolvedSource }),
      .defaulted "fingerprint" .text Metadata.fingerprint
        (fun metadata fingerprint => { metadata with fingerprint }),
      .defaulted "file_size" (.natural "u64") Metadata.fileSize
        (fun metadata fileSize => { metadata with fileSize }) ]

/-- The error of a JSON text of another shape than required. -/
def shapeError (fault : ShapeFault) : Error :=
  match fault with
  | .broken _ => .json true fault.message
  | _ => .json false fault.message

/-- Reads metadata from a JSON text. Of several faults the first in the text counts. -/
def read (text : String) : Except Error Metadata := do
  let draft := Json.draft text
  let metadata ← (record.decode .text draft.outline).mapError shapeError
  match draft.fault? with
  | some fault => throw (.json true fault.message)
  | none => return metadata

/-- Metadata as a free-form value. -/
def toJson (metadata : Metadata) : Json :=
  record.codec.encode metadata

/-- The JSON text of metadata with the fields in the order of their declaration. -/
def fileText (metadata : Metadata) : String :=
  let attributes := metadata.attributes.map fun entry =>
    Json.object (Attribute.record.members entry)
  let members := (record.members metadata).map fun (name, value) =>
    (name, if name = "nodes" then .array attributes else value)
  (Json.object members).text

/-- Reads the metadata of a file from the text in it. -/
def ofFile (content : String) : Except Error Metadata := do
  let metadata ← read content
  if metadata.sourceName = "" then throw (.lookup "no source in metadata")
  else return { metadata with fileSize := content.utf8ByteSize }

end Metadata

end RadarRelay
