import RadarRelay.Activity

/-!
# Storages by name

A node knows its storages by name. Registering a storage under a name in use
takes the place of the earlier one.
-/

namespace RadarRelay

/-- Storages with distinct names. -/
structure StorageRegistry where
  storages : List Storage
  deriving DecidableEq, Repr

namespace StorageRegistry

def empty : StorageRegistry := ⟨[]⟩

/-- The storage of a name. -/
def get? (registry : StorageRegistry) (name : String) : Option Storage :=
  registry.storages.find? fun storage => storage.name == name

def contains (registry : StorageRegistry) (name : String) : Bool :=
  (registry.get? name).isSome

/-- Drops the storage of a name and gives it back. -/
def remove (registry : StorageRegistry) (name : String) : Option Storage × StorageRegistry :=
  (registry.get? name, ⟨registry.storages.filter fun storage => storage.name != name⟩)

/-- Adds a storage and gives back the one that had its name. -/
def register (registry : StorageRegistry) (storage : Storage) :
    Option Storage × StorageRegistry :=
  let (replaced, rest) := registry.remove storage.name
  (replaced, ⟨rest.storages ++ [storage]⟩)

/-- Keeps a file in the storage of a name. -/
def store (name : String) (file : File) (metadata : Metadata) :
    Activity StorageRegistry (Except Error Unit) := do
  let registry ← Activity.look
  match registry.get? name with
  | some storage => Activity.request (.store storage file metadata)
  | none => return .error (.storage name "no storage registered under that name")

theorem get?_remove_self (registry : StorageRegistry) (name : String) :
    (registry.remove name).2.get? name = none := by
  simp [remove, get?, List.find?_eq_none]

theorem get?_register_self (registry : StorageRegistry) (storage : Storage) :
    (registry.register storage).2.get? storage.name = some storage := by
  have gone := registry.get?_remove_self storage.name
  unfold get? at gone ⊢
  simp [register, List.find?_append, gone]

end StorageRegistry

end RadarRelay
