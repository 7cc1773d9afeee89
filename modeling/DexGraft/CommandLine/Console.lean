import DexGraft.Session

/-!
What a run shows: the lines that it printed, and its journal, briefly with the
level in front, or at length with the time and the part that speaks.
-/
namespace DexGraft.CommandLine

def programName : String := "apksurgeon"

def readerName : String := "dotenv.main"

def lineOf (verbose : Bool) (time : String) (source : String) (level : Level)
    (message : String) : Option String :=
  if verbose then some (s!"{time} - {source} - " ++ level.name ++ s!" - {message}\n")
  else if level = .debug then none
  else some ("[" ++ level.name ++ s!"] {message}\n")

def journalLine (verbose : Bool) (time : String) : Event → Option String
  | .logged level message => lineOf verbose time programName level message
  | .remarked level message => lineOf verbose time readerName level message
  | _ => none

def journalText (verbose : Bool) (time : String) (session : Session) : String :=
  String.join (session.journal.filterMap (journalLine verbose time))

def printedLine : Event → Option String
  | .printed line => some (line ++ "\n")
  | _ => none

def printedText (session : Session) : String :=
  String.join (session.journal.filterMap printedLine)

end DexGraft.CommandLine
