/-!
# Files

As far as a node is concerned a file is its content. A file that cannot be read
has none.
-/

namespace RadarRelay

/-- A file as far as reading it goes: its content, or nothing when it is missing. -/
structure File where
  content? : Option String
  deriving DecidableEq, Repr

end RadarRelay
