import DexGraft.Zip.Content

/-!
Where the data of each entry begins, read off the local headers.
-/
namespace DexGraft.Zip

/-- The entries by the place of their local headers; entries at one place keep their order. -/
def Archive.byOffset (archive : Archive) : List Entry :=
  archive.entries.mergeSort fun first second => first.offset ≤ second.offset

/-- The start of the entry's data, from the name and extra sizes of its local header. -/
def Archive.dataStart (archive : Archive) (entry : Entry) : Except Fault Int := do
  let sizes ← archive.fromPlace (entry.offset + 26)
  if sizes.length < 4 then throw .layoutCut
  return entry.offset + localHeaderSize + sizes.field 0 2 + sizes.field 2 2

end DexGraft.Zip
