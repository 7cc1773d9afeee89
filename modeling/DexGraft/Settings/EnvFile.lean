import DexGraft.Session
import DexGraft.Text.Blank
import DexGraft.Text.Break
import DexGraft.Text.Capital
import DexGraft.Text.Split

/-!
Environment files. A statement names a variable and may give it a value, bare
or quoted; what no statement can be made of is skipped with a remark. Values
may refer to variables in braces after a dollar sign. Variables that are set
already keep their values.
-/
namespace DexGraft.EnvFile

open Text

structure Statement where
  key : Option String
  value : Option String

/-- Fails with what is left of the text where a statement turns out to be none. -/
abbrev Reading := Except (List Char)

def isLineBlank (c : Char) : Bool :=
  isBlank c && !isBreak c

def skipLineBlanks (text : List Char) : List Char :=
  text.dropWhile isLineBlank

def skipExport (text : List Char) : List Char :=
  match dropStart? "export".toList text with
  | some (c :: rest) => if isLineBlank c then skipLineBlanks rest else text
  | _ => text

def isKeyChar (c : Char) : Bool :=
  c != '=' && c != '#' && !isBlank c

def readKey (text : List Char) : Reading (Option String × List Char) :=
  match text with
  | '#' :: _ => .ok (none, text)
  | c :: rest =>
      if c == singleQuote then
        let key := rest.takeWhile (· != singleQuote)
        match rest.dropWhile (· != singleQuote) with
        | _ :: after => if key.isEmpty then .error text else .ok (some (String.ofList key), after)
        | [] => .error text
      else
        let key := text.takeWhile isKeyChar
        if key.isEmpty then .error text
        else .ok (some (String.ofList key), text.dropWhile isKeyChar)
  | [] => .error text
where
  singleQuote : Char := Char.ofNat 39

def closeAtQuote (quote : Char) (sofar : List Char) : List Char → Option (List Char × List Char)
  | [] => none
  | '\\' :: c :: rest =>
      if c == quote then closeAtQuote quote (c :: '\\' :: sofar) rest
      else closeAtQuote quote ('\\' :: sofar) (c :: rest)
  | c :: rest =>
      if c == quote then some (sofar.reverse, rest) else closeAtQuote quote (c :: sofar) rest
termination_by text => text.length

def closeAtLast (quote : Char) (text : List Char) : Option (List Char × List Char) :=
  let after := (text.reverse.takeWhile (· != quote)).reverse
  if after.length = text.length then none
  else some (text.take (text.length - (after.length + 1)), after)

/-- Closes at a quote without a backslash, or if there is none at the last one with it. -/
def readQuoted (quote : Char) (text : List Char) : Option (List Char × List Char) :=
  (closeAtQuote quote [] text).or (closeAtLast quote text)

def controlEscape? : Char → Option Char
  | 'a' => some (Char.ofNat 7)
  | 'b' => some (Char.ofNat 8)
  | 'f' => some (Char.ofNat 12)
  | 'n' => some '\n'
  | 'r' => some '\r'
  | 't' => some '\t'
  | 'v' => some (Char.ofNat 11)
  | _ => none

def escapeInDouble? (c : Char) : Option Char :=
  if c == '\\' || c == '"' || c.toNat == 39 then some c else controlEscape? c

def escapeInSingle? (c : Char) : Option Char :=
  if c == '\\' || c.toNat == 39 then some c else none

def unescape (escape? : Char → Option Char) : List Char → List Char
  | '\\' :: c :: rest =>
      match escape? c with
      | some plain => plain :: unescape escape? rest
      | none => '\\' :: unescape escape? (c :: rest)
  | c :: rest => c :: unescape escape? rest
  | [] => []
termination_by text => text.length

/-- A bare value without what follows a number sign after a blank. -/
def withoutComment (afterBlank : Bool) : List Char → List Char
  | [] => []
  | c :: rest =>
      if afterBlank && c == '#' then [] else c :: withoutComment (isBlank c) rest

def readValue (text : List Char) : Reading (String × List Char) :=
  let start := skipLineBlanks text
  match start with
  | [] => .ok ("", start)
  | c :: rest =>
      if c == '"' || c.toNat == 39 then
        match readQuoted c rest with
        | none => .error start
        | some (value, after) =>
            let escape? := if c == '"' then escapeInDouble? else escapeInSingle?
            .ok (String.ofList (unescape escape? value), after)
      else if isBreak c then .ok ("", start)
      else
        let line := text.takeWhile (!isBreak ·)
        .ok (String.ofList (trim (withoutComment false line)), text.dropWhile (!isBreak ·))

def skipComment (text : List Char) : List Char :=
  match skipLineBlanks text with
  | '#' :: rest => rest.dropWhile (!isBreak ·)
  | _ => text

def readLineEnd (text : List Char) : Reading (List Char) :=
  match skipLineBlanks text with
  | [] => .ok []
  | c :: rest => if isBreak c then .ok rest else .error text

/-- A statement up to the end of its line; blank lines before it belong to it. -/
def readStatement (text : List Char) : Reading (Statement × List Char) := do
  let start := text.dropWhile isBlank
  if start.isEmpty then return (⟨none, none⟩, [])
  let (key, rest) ← readKey (skipExport start)
  let (value, rest) ← match skipLineBlanks rest with
    | '=' :: after => do
        let (value, rest) ← readValue after
        pure (some value, rest)
    | other => pure (none, other)
  let rest ← readLineEnd (skipComment rest)
  return (⟨key, value⟩, rest)

inductive Line
  | statement (statement : Statement)
  /-- No statement begins at this line. -/
  | invalid (number : Nat)

def breaksIn (text : List Char) : Nat :=
  text.count '\n'

def skipLine (text : List Char) : List Char :=
  (text.dropWhile (!isBreak ·)).drop 1

/-- Reads statement after statement; each takes at least one character of the fuel. -/
def readLines : (fuel : Nat) → (number : Nat) → List Char → List Line
  | 0, _, _ => []
  | fuel + 1, number, text =>
      if text.isEmpty then []
      else
        let (line, rest) := match readStatement text with
          | .ok (statement, rest) => (Line.statement statement, rest)
          | .error failed => (Line.invalid number, skipLine failed)
        line :: readLines fuel (number + breaksIn (text.take (text.length - rest.length))) rest

def byteOrderMark : Char := Char.ofNat 0xfeff

def withoutMark : List Char → List Char
  | c :: rest => if c == byteOrderMark then rest else c :: rest
  | [] => []

def parse (text : String) : List Line :=
  let chars := unifyBreaks (withoutMark text.toList)
  readLines (chars.length + 1) 1 chars

def readReference (text : List Char) : Option (List Char × List Char × List Char) :=
  let isNameChar (c : Char) : Bool := c != '\x7d' && c != ':'
  let name := text.takeWhile isNameChar
  match text.dropWhile isNameChar with
  | '\x7d' :: rest => some (name, [], rest)
  | ':' :: '-' :: rest =>
      match rest.dropWhile (· != '\x7d') with
      | _ :: after => some (name, rest.takeWhile (· != '\x7d'), after)
      | [] => none
  | _ => none

def expand (look : String → Option String) : (fuel : Nat) → List Char → List Char
  | 0, text => text
  | _ + 1, [] => []
  | fuel + 1, '$' :: '\x7b' :: rest =>
      match readReference rest with
      | some (name, fallback, after) =>
          match look (String.ofList name) with
          | some value => value.toList ++ expand look fuel after
          | none => fallback ++ expand look fuel after
      | none => '$' :: expand look fuel ('\x7b' :: rest)
  | fuel + 1, c :: rest => c :: expand look fuel rest

/-- Values that a file has given so far; the last for a name counts, and it may be none. -/
abbrev Given := List (String × Option String)

def Given.look (given : Given) (environment : Environment) (name : String) : Option String :=
  match environment.get? name with
  | some value => some value
  | none => (given.reverse.find? fun entry => entry.1 == name).map fun entry => entry.2.getD ""

def resolve (environment : Environment) (given : Given) : List Line → Given
  | [] => given
  | .statement ⟨some key, value⟩ :: rest =>
      let value := value.map fun text =>
        String.ofList (expand (given.look environment) (text.length + 1) text.toList)
      resolve environment (given ++ [(key, value)]) rest
  | _ :: rest => resolve environment given rest

def additions (environment : Environment) (given : Given) : Environment :=
  let keys := (given.map (·.1)).eraseDups
  keys.filterMap fun key =>
    if (environment.get? key).isSome then none
    else
      ((given.reverse.find? fun entry => entry.1 == key).bind (·.2)).map fun value => (key, value)

def switch : String := "PYTHON_DOTENV_DISABLED"

def affirmatives : List String := ["TRUE", "T", "YES", "Y"]

def isDisabled (environment : Environment) : Bool :=
  match environment.get? switch with
  | none => false
  | some value =>
      value == "1" || affirmatives.any fun word => spells word.toList value.toList

def fileName : String := ".env"

def nearest (files : Files) : Option Path :=
  let places := (List.range (files.here.length + 1)).reverse.map files.here.take
  let paths := places.map fun place => (⟨1, place ++ [fileName]⟩ : Path)
  paths.find? fun path =>
    match files.isFile path with
    | .ok found => found
    | .error _ => false

def invalidMessage (number : Nat) : String :=
  "python-dotenv could not parse statement starting at line " ++ toString number

def remark (line : Line) : Action Unit :=
  match line with
  | .statement _ => pure ()
  | .invalid number => Action.record (.remarked .warning (invalidMessage number))

def disabledMessage : String :=
  "python-dotenv: .env loading disabled by " ++ switch ++ " environment variable"

def loadFile (path : Path) : Action Unit := do
  let session ← get
  match session.files.read path with
  | .error _ => pure ()
  | .ok content =>
      match content.toText? with
      | none => Action.raise .notUtf8
      | some text =>
          let lines := parse text
          lines.forM remark
          let added := additions session.environment (resolve session.environment [] lines)
          modify fun session => { session with environment := session.environment ++ added }

/-- Loads the file of this name, or the nearest one if the name is missing or empty. -/
def load (name : Option String) : Action Unit := do
  let session ← get
  let path := match name.filter (· != "") with
    | some name => some (Path.ofText name)
    | none => nearest session.files
  if isDisabled session.environment then
    Action.record (.remarked .debug disabledMessage)
  else
    match path with
    | some path => loadFile path
    | none => pure ()

end DexGraft.EnvFile
