import DexGraft.Apk.Archive

/-!
The table of an archive's entries. Texts are filled up to the width of their
column and never cut.
-/
namespace DexGraft.CommandLine

def left (width : Nat) (text : String) : String :=
  text ++ String.ofList (List.replicate (width - text.length) ' ')

def right (width : Nat) (text : String) : String :=
  String.ofList (List.replicate (width - text.length) ' ') ++ text

def ruler (c : Char) : String := String.ofList (List.replicate 72 c)

def doubleRuler : String := ruler '═'

def singleRuler : String := ruler '─'

/-- A quotient rounded to the nearest whole number; a half goes to the even neighbour. -/
def roundedQuotient (number divisor : Nat) : Nat :=
  let whole := number / divisor
  let twice := number % divisor * 2
  if twice < divisor || (twice = divisor && whole % 2 = 0) then whole else whole + 1

def megabytes (size : Nat) : String :=
  let hundredths := roundedQuotient (size * 100) (1024 * 1024)
  let places := toString (hundredths % 100)
  toString (hundredths / 100) ++ "." ++ (if places.length = 1 then "0" ++ places else places)

def tableRow (name packing aligned offset : String) : String :=
  "  " ++ left 40 name ++ " " ++ right 8 packing ++ "  " ++ right 8 aligned ++ "  " ++
    right 10 offset

def entryRow (entry : Apk.EntryLayout) : String :=
  let isStored := entry.method == .stored
  let mark := if entry.mustStore then " ◄ MUST-STORE"
    else if entry.signing then " ◄ SIGNATURE" else ""
  tableRow entry.name (if isStored then "STORE" else "DEFLATE")
    (if entry.aligned || !isStored then "✓" else "✗") (toString entry.dataOffset) ++ mark

def table (name : String) (size count : Nat) (entries : List Apk.EntryLayout) : List String :=
  ["", doubleRuler, s!"  APK     : {name}", "  Size    : " ++ megabytes size ++ " MB",
    s!"  Entries : {count}", singleRuler, tableRow "Entry" "Comp" "Aligned" "Data Offset",
    singleRuler] ++ entries.map entryRow ++ [doubleRuler, ""]

end DexGraft.CommandLine
