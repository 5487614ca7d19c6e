import ProcessWatch.Record.Descriptor

/-!
# What is known of a file

A file stays in the record of its process after it was closed. When it is opened again it is a new
file under the old name.
-/

namespace ProcessWatch

/-- A file that a process has or had open. -/
structure FileRecord where
  name : String
  isOpen : Bool
  descriptors : SortedMap String DescriptorRecord

namespace FileRecord

def ofSnapshot (ctx : CycleContext) (time : Option Float) (name : String)
    (descriptors : SortedMap String DescriptorSnapshot) : FileRecord :=
  ⟨name, true, descriptors.mapWithKey (DescriptorRecord.ofSnapshot ctx time)⟩

/-- Merges what was seen now into what was seen before. -/
def merge (file incoming : FileRecord) : Merged FileRecord :=
  -- a file that is opened again has nothing to do with the one that was closed
  if !file.isOpen && incoming.isOpen then .done incoming
  else
    let descriptors := Merged.maps DescriptorRecord.merge file.descriptors incoming.descriptors
    ⟨⟨file.name, incoming.isOpen, descriptors.value⟩, descriptors.error⟩

/-- Fills the fields that the snapshots of known descriptors leave out. -/
def fill (file : FileRecord) (descriptors : SortedMap String DescriptorSnapshot) :
    SortedMap String DescriptorSnapshot :=
  if file.isOpen then
    descriptors.mapWithKey fun id snapshot =>
      match file.descriptors.get? id with
      | some known => known.fill snapshot
      | none => snapshot
  -- nothing that is known of a closed file holds of the one that is open now
  else descriptors

/-- The file after it was closed. -/
def close (file : FileRecord) : FileRecord := { file with isOpen := false }

end FileRecord

end ProcessWatch
