import RadarRelay.Calendar.Format
import RadarRelay.Metadata.Source

/-!
# Metadata of a file

Metadata is the list of the attributes of one radar file, each addressed by its
path, together with what is known of the file as a whole. Values are texts;
whoever asks for one says how it is to be read. Paths may repeat.
-/

namespace RadarRelay

open RadarRelay.Calendar

/-- One attribute of a file. -/
structure Attribute where
  path : String
  value : String
  deriving DecidableEq, Repr

structure Metadata where
  attributes : List Attribute
  /-- Short name of the radar. -/
  sourceName : String
  /-- Source identifier as the source database has it. -/
  resolvedSource : String
  /-- Two files are the same file when their fingerprints are equal. -/
  fingerprint : String
  /-- Size in bytes. -/
  fileSize : Nat
  deriving DecidableEq, Repr

namespace Metadata

/-- Metadata of which nothing is known. -/
def empty : Metadata := ⟨[], "", "", "", 0⟩

instance : Inhabited Metadata := ⟨empty⟩

/-- Appends an attribute. -/
def withAttribute (metadata : Metadata) (path value : String) : Metadata :=
  { metadata with attributes := metadata.attributes ++ [⟨path, value⟩] }

/-- The value of the first attribute with exactly this path. -/
def find? (metadata : Metadata) (path : String) : Option String :=
  (metadata.attributes.find? fun entry => entry.path == path).map (·.value)

/-- Whether there are no attributes. -/
def isEmpty (metadata : Metadata) : Bool :=
  metadata.attributes.isEmpty

/-- Source identifier as the file itself has it. -/
def writtenSource (metadata : Metadata) : Source :=
  .read ((metadata.find? "/what/source").getD "")

/-- Source identifier as the source database has it. -/
def knownSource (metadata : Metadata) : Source :=
  .read metadata.resolvedSource

def objectType? (metadata : Metadata) : Option String :=
  metadata.find? "/what/object"

/-- Nominal date; blanks are not removed before it is read. -/
def date? (metadata : Metadata) : Option Date := do
  let text ← metadata.find? "/what/date"
  (← Format.compactDate.read? text).date?

/-- Nominal time of day. -/
def time? (metadata : Metadata) : Option TimeOfDay := do
  let text ← metadata.find? "/what/time"
  (← Format.compactTime.read? text).time?

/-- Nominal date and time of the product. -/
def nominalTime? (metadata : Metadata) : Option Moment := do
  return ⟨← metadata.date?, ← metadata.time?⟩

/-- A text, or `none` in words when it is empty. -/
def orNone (text : String) : String :=
  if text = "" then "none" else text

/-- The elevation angle of a scan. -/
def elevation? (metadata : Metadata) : Option String :=
  ["/dataset1/where/elangle", "/where/elangle"].findSome? metadata.find?

/-- The name under which a file appears in events and errors. Only scans show their elevation. -/
def fileId (metadata : Metadata) : String :=
  let object := metadata.objectType?.getD "none"
  let time := match metadata.nominalTime? with
    | some moment => moment.text "-" "T" ":" ++ "Z"
    | none => "none"
  let elevation :=
    if object = "SCAN" then ", elangle:" ++ metadata.elevation?.getD "none" else ""
  "nod:" ++ orNone metadata.sourceName ++ ", object:" ++ object ++ ", time:" ++ time ++
    elevation ++ ", hash:" ++ orNone metadata.fingerprint

/-- The origin of a file as events show it. -/
def originText (origin : Option String) : String :=
  orNone (origin.getD "")

@[simp] theorem attributes_withAttribute (metadata : Metadata) (path value : String) :
    (metadata.withAttribute path value).attributes =
      metadata.attributes ++ [⟨path, value⟩] := rfl

/-- A later attribute never hides an earlier one. -/
theorem find?_withAttribute_of_find? {metadata : Metadata} {path found : String}
    (earlier : metadata.find? path = some found) (otherPath value : String) :
    (metadata.withAttribute otherPath value).find? path = some found := by
  simp only [find?, Option.map_eq_some_iff] at earlier ⊢
  obtain ⟨entry, first, rfl⟩ := earlier
  exact ⟨entry, by simp [List.find?_append, first], rfl⟩

end Metadata

end RadarRelay
