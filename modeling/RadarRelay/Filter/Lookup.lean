import RadarRelay.Metadata.Basic
import RadarRelay.Text.Split

/-!
# Attribute names in filters

A filter names attributes by the end of their path, so that one name can select
several attributes of a file. Three forms of names are special: they select a
component of the source identifier in the file, a component of the one in the
source database, or the short name of the radar.
-/

namespace RadarRelay

open RadarRelay.Text

/-- What an attribute name selects. -/
inductive Selector where
  | writtenSource (key : String)
  | knownSource (key : String)
  | sourceName
  | pathEnd (segments : List (List Char))
  deriving DecidableEq

namespace Selector

/-- Whether a name begins with one of the given texts. -/
def startsWithAny (beginnings : List String) (name : String) : Bool :=
  beginnings.any fun beginning => beginning.toList.isPrefixOf name.toList

/-- The selector that a name stands for. Keys follow the last colon of the name. -/
def ofName (name : String) : Selector :=
  if startsWithAny ["what/source:"] name then writtenSource (lastPiece ':' name)
  else if startsWithAny ["_bdb/source:", "_baltrad/source:"] name then
    knownSource (lastPiece ':' name)
  else if startsWithAny ["_bdb/source_name", "_baltrad/source_name"] name then sourceName
  else pathEnd (split '/' name.toList)

/-- The texts that a selector finds in a file, in order. -/
def select (metadata : Metadata) : Selector → List String
  | writtenSource key => (metadata.writtenSource.get? key).toList
  | knownSource key => (metadata.knownSource.get? key).toList
  | sourceName => if metadata.sourceName = "" then [] else [metadata.sourceName]
  | pathEnd segments =>
      (metadata.attributes.filter fun entry =>
        segments.isSuffixOf (split '/' entry.path.toList)).map (·.value)

end Selector

/-- The texts that an attribute name selects in a file. -/
def Metadata.select (metadata : Metadata) (name : String) : List String :=
  (Selector.ofName name).select metadata

end RadarRelay
