import RadarRelay.Surroundings

/-!
# Temporary files

Publications work on copies of files, which lie in the folder of the node, and
on files that decorators put in their place, which lie elsewhere. Which of these
files exist is part of the state; each has a number of its own, so that two
copies of one file are two files.
-/

namespace RadarRelay

/-- A temporary file, whether it exists or not. -/
structure TemporaryFile where
  serial : Nat
  file : File
  /-- Whether it lies in the folder of the node. -/
  inFolder : Bool
  deriving DecidableEq, Repr

/-- The temporary files that exist. -/
structure Disk where
  next : Nat
  present : List TemporaryFile
  deriving DecidableEq, Repr

namespace Disk

def empty : Disk := ⟨0, []⟩

/-- Makes a temporary file. -/
def create (inFolder : Bool) (file : File) (disk : Disk) : TemporaryFile × Disk :=
  let made := ⟨disk.next, file, inFolder⟩
  (made, ⟨disk.next + 1, made :: disk.present⟩)

/-- Makes a copy of a file in the folder of the node. -/
def copy : File → Disk → TemporaryFile × Disk :=
  create true

/-- Makes a file that takes the place of another. -/
def replacement : File → Disk → TemporaryFile × Disk :=
  create false

/-- Deletes a temporary file. -/
def delete (disk : Disk) (file : TemporaryFile) : Disk :=
  { disk with present := disk.present.filter fun other => other.serial != file.serial }

/-- Deletes several temporary files. -/
def deleteAll (disk : Disk) (files : List TemporaryFile) : Disk :=
  files.foldl delete disk

/-- The number of files in the folder of the node. -/
def copies (disk : Disk) : Nat :=
  disk.present.countP (·.inFolder)

theorem mem_present_create (inFolder : Bool) (file : File) (disk : Disk) :
    (disk.create inFolder file).1 ∈ (disk.create inFolder file).2.present := by
  simp [create]

theorem mem_present_delete {disk : Disk} {file other : TemporaryFile} :
    other ∈ (disk.delete file).present ↔ other ∈ disk.present ∧ other.serial ≠ file.serial := by
  simp [delete]

@[simp] theorem next_deleteAll (disk : Disk) (files : List TemporaryFile) :
    (disk.deleteAll files).next = disk.next := by
  rw [deleteAll]
  induction files generalizing disk with
  | nil => rfl
  | cons file files ih => exact ih (disk.delete file)

end Disk

end RadarRelay
