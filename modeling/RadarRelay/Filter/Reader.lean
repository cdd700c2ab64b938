import RadarRelay.Document.Shape
import RadarRelay.Filter.Tree
import RadarRelay.Json.Reader

/-!
# Filters as texts

A filter may be given as a JSON text of its own. A text that is no JSON is an error
of that kind; a value that is no filter is an error of the configuration.
-/

namespace RadarRelay.Filter

open RadarRelay.Document

/-- Reads a filter from a JSON text. -/
def ofText (text : String) : Except Error Filter := do
  let value ← (Json.read text).mapError fun fault => .json true (ShapeFault.broken fault).message
  ofValue value

end RadarRelay.Filter
