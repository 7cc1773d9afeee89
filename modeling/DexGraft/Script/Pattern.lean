/-!
Patterns: a star stands for any text, a question mark for any character, and
brackets for one character of a set.
-/
namespace DexGraft.Script

inductive Atom
  | one (c : Char)
  | any
  | star
  | set (negated : Bool) (ranges : List (Char × Char))

def readRanges : List Char → List (Char × Char)
  | a :: '-' :: b :: rest => (a, b) :: readRanges rest
  | a :: rest => (a, a) :: readRanges rest
  | [] => []

/-- A set in brackets and what follows it; a bracket that opens the set belongs to it. -/
def readSet (text : List Char) : Option (Atom × List Char) :=
  let (negated, text) := match text with
    | '!' :: rest => (true, rest)
    | other => (false, other)
  let (first, rest) := match text with
    | ']' :: more => ([']'], more)
    | other => ([], other)
  match rest.dropWhile (· != ']') with
  | _ :: after => some (.set negated (readRanges (first ++ rest.takeWhile (· != ']'))), after)
  | [] => none

def atomsOf : (fuel : Nat) → List (Char × Bool) → List Atom
  | 0, _ => []
  | _ + 1, [] => []
  | fuel + 1, (c, quoted) :: rest =>
      if quoted then .one c :: atomsOf fuel rest
      else match c with
        | '*' => .star :: atomsOf fuel rest
        | '?' => .any :: atomsOf fuel rest
        | '[' =>
            match readSet (rest.map (·.1)) with
            | some (set, after) => set :: atomsOf fuel (rest.drop (rest.length - after.length))
            | none => .one c :: atomsOf fuel rest
        | _ => .one c :: atomsOf fuel rest

def Atom.admits (c : Char) : Atom → Bool
  | .one own => own == c
  | .any => true
  | .star => false
  | .set negated ranges => (ranges.any fun range => range.1 ≤ c && c ≤ range.2) != negated

def isMatch : List Atom → List Char → Bool
  | [], text => text.isEmpty
  | .star :: atoms, text => skipping atoms text
  | _ :: _, [] => false
  | atom :: atoms, c :: text => atom.admits c && isMatch atoms text
where
  /-- Whether the atoms match the text or one of its ends. -/
  skipping (atoms : List Atom) : List Char → Bool
    | [] => isMatch atoms []
    | c :: text => isMatch atoms (c :: text) || skipping atoms text

def patternOf (text : List (Char × Bool)) : List Atom :=
  atomsOf (text.length + 1) text

end DexGraft.Script
