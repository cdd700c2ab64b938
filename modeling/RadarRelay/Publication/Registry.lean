import RadarRelay.Publication.Basic

/-!
# Registered publications

A node routes to its registered publications in the order of their
registration. Names are distinct: registering a publication under a name in use
takes the place of the earlier one, and whoever takes a publication out of the
registry has to stop it.
-/

namespace RadarRelay

/-- Publications with distinct names. -/
structure PublicationRegistry where
  publications : List Publication

namespace PublicationRegistry

def empty : PublicationRegistry := ⟨[]⟩

/-- The publication of a name. -/
def get? (registry : PublicationRegistry) (name : String) : Option Publication :=
  registry.publications.find? fun publication => publication.name == name

def names (registry : PublicationRegistry) : List String :=
  registry.publications.map (·.name)

/-- Puts a publication in the place of the first one of its name, or at the end. -/
def place (publication : Publication) : List Publication → List Publication
  | [] => [publication]
  | other :: rest =>
      if other.name = publication.name then publication :: rest
      else other :: place publication rest

/-- Registers a publication and gives back the one that it replaces. -/
def insert (registry : PublicationRegistry) (publication : Publication) :
    Option Publication × PublicationRegistry :=
  (registry.get? publication.name, ⟨place publication registry.publications⟩)

/-- Takes out the publication of a name and gives it back. -/
def remove (registry : PublicationRegistry) (name : String) :
    Option Publication × PublicationRegistry :=
  (registry.get? name,
    ⟨registry.publications.filter fun publication => publication.name != name⟩)

/-- Takes out every publication. -/
def drain (registry : PublicationRegistry) : List Publication × PublicationRegistry :=
  (registry.publications, empty)

theorem get?_insert_self (registry : PublicationRegistry) (publication : Publication) :
    (registry.insert publication).2.get? publication.name = some publication := by
  unfold insert get?
  simp only
  induction registry.publications with
  | nil => simp [place]
  | cons other rest ih =>
      simp only [place]
      split
      · simp
      · rename_i different
        simp [different, ih]

theorem get?_remove_self (registry : PublicationRegistry) (name : String) :
    (registry.remove name).2.get? name = none := by
  simp [remove, get?, List.find?_eq_none]

end PublicationRegistry

end RadarRelay
