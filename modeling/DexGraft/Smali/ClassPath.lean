import DexGraft.Files.Basic
import DexGraft.Text.Blank
import DexGraft.Text.Split

/-!
Where a class is found in a disassembled tree. A class may be named with
slashes, with dots or as a descriptor, and also by the path of its file.
-/
namespace DexGraft.Smali

open Text

def fileExtension : List Char := ".smali".toList

/-- What a descriptor has between its `L` and its semicolon; other names stay as they are. -/
def stripDescriptor (name : List Char) : List Char :=
  match name with
  | 'L' :: rest => (dropEnd? [';'] rest).getD name
  | _ => name

def dotToSlash (c : Char) : Char :=
  if c == '.' then '/' else c

def classFile (name : String) : String :=
  let stripped := stripDescriptor (trim name.toList)
  if fileExtension.isSuffixOf stripped then String.ofList stripped
  else String.ofList (stripped.map dotToSlash ++ fileExtension)

def locate (files : Files) (tree : Path) (name : String) : Except Cause (Option Path) := do
  let path := tree / classFile name
  return if ← files.isFile path then some path else none

end DexGraft.Smali
