import RadarRelay.Rehearsal.Basic

/-!
# Reports on a rehearsal

Workers run side by side, so the order of what they do is not always
meaningful. Reports put it into an order that does not depend on them.
-/

namespace RadarRelay.Rehearsal

/-- Texts in ascending order. -/
def sorted (texts : List String) : List String :=
  texts.mergeSort fun left right => left ≤ right

namespace Cast

/-- The files that each storage kept since the journal was begun. -/
def storedFiles (cast : Cast) : List (String × List String) :=
  let stored := cast.journal.stored
  (stored.map (·.1)).eraseDups.map fun name =>
    (name, sorted ((stored.filter fun entry => entry.1 == name).map (·.2)))

/-- The files, with their lengths, that a sender transmitted since the journal was begun. -/
def sentFiles (cast : Cast) (id : String) : List (String × Nat) :=
  let sent := (cast.journal.sent.filter fun entry => entry.1 == id).map (·.2)
  sent.mergeSort fun left right => left.1 < right.1 || (left.1 == right.1 && left.2 ≤ right.2)

end Cast

/-- Events during deliveries by publication. Where a publication has several workers, its
deliveries are ordered by file. -/
def deliveryReport (rehearsal : Rehearsal) : List DeliveryEvent :=
  let names := sorted (rehearsal.deliveries.map (·.publication)).eraseDups
  names.flatMap fun name =>
    let own := rehearsal.deliveries.filter fun delivery => delivery.publication == name
    if own.any (·.shared) then own.mergeSort fun left right => left.fileId ≤ right.fileId
    else own

end RadarRelay.Rehearsal
