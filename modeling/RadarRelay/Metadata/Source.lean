import RadarRelay.Text.Blank
import RadarRelay.Text.Split

/-!
# Source identifiers

A source identifier names a radar by several keys at once, as in
`NOD:sehem,RAD:SE41,PLC:Hemse`. Blanks around keys and values do not count, and
what is not a pair of a key and a value is passed over. Of several values for
one key the first counts.
-/

namespace RadarRelay

open RadarRelay.Text

/-- The pairs of a source identifier in written order. -/
structure Source where
  entries : List (String × String)
  deriving DecidableEq, Repr

namespace Source

/-- The pair that a piece between commas denotes: the text before its first colon and the text
after it. A piece without a colon or with a blank key denotes none. -/
def readEntry? (piece : List Char) : Option (String × String) :=
  match splitFirst ':' piece with
  | (_, none) => none
  | (key, some value) =>
      let key := String.ofList (trimChars key)
      if key = "" then none else some (key, String.ofList (trimChars value))

/-- Reads a source identifier. -/
def read (text : String) : Source :=
  ⟨(split ',' text.toList).filterMap readEntry?⟩

/-- The first value given for a key. -/
def get? (source : Source) (key : String) : Option String :=
  source.entries.lookup key

def isEmpty (source : Source) : Bool :=
  source.entries.isEmpty

end Source

end RadarRelay
