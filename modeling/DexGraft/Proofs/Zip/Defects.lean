import DexGraft.Proofs.Checked
import DexGraft.Zip.Layout

/-!
What can be wrong with an archive, by the part of it that is looked at. A directory
can contradict itself, have names that are no text, or ask for too new a reader; an
entry can also lie out of reach, be encrypted, or hold data that cannot be unpacked;
for the layout nothing counts but the reach of the local headers.
-/
namespace DexGraft.Zip

open Checked

/-- Faults that no report of a bad archive speaks of: they come from the reader as they are. What
bzip2 complains of is a refusal of the system, and what zlib and LZMA complain of is not. -/
def Fault.isForeign : Fault → Bool
  | .malformed _ | .beforeStart | @corruptStream .bzip2 => false
  | _ => true

end DexGraft.Zip
