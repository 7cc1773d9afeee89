import DexGraft.Script.Syntax
import DexGraft.Text.Digit

/-!
Reading command scripts. Every function takes fuel, which no script of that
length can use up, and gives what it read with the rest of the text.
-/
namespace DexGraft.Script

def singleQuote : Char := Char.ofNat 39
def backquote : Char := Char.ofNat 96

def isNameStart (c : Char) : Bool :=
  c == '_' || ('a' ≤ c && c ≤ 'z') || ('A' ≤ c && c ≤ 'Z')

def isNameChar (c : Char) : Bool :=
  isNameStart c || Text.isAsciiDigit c

def isWordEnd (c : Char) : Bool :=
  c == ' ' || c == '\t' || c == '\n' || c == ';' || c == '&' || c == '|' || c == '<' || c == '>' ||
    c == '(' || c == ')'

def skipBlanks : (fuel : Nat) → List Char → List Char
  | 0, text => text
  | fuel + 1, text =>
      match text with
      | ' ' :: rest => skipBlanks fuel rest
      | '\t' :: rest => skipBlanks fuel rest
      | '\\' :: '\n' :: rest => skipBlanks fuel rest
      | '#' :: rest => rest.dropWhile (· != '\n')
      | _ => text

def skip (text : List Char) : List Char :=
  skipBlanks (text.length + 1) text

def skipLinesFrom : (fuel : Nat) → List Char → List Char
  | 0, text => text
  | fuel + 1, text =>
      match skip text with
      | '\n' :: rest => skipLinesFrom fuel rest
      | other => other

def skipLines (text : List Char) : List Char :=
  skipLinesFrom (text.length + 1) text

def bareWord (text : List Char) : List Char :=
  text.takeWhile fun c => !isWordEnd c

def afterWord? (word : String) (text : List Char) : Option (List Char) :=
  if bareWord text == word.toList then some (text.drop word.length) else none

def closers : List String := ["then", "do", "done", "fi", "elif", "else", "esac", "\x7d"]

def isListEnd (text : List Char) : Bool :=
  text.isEmpty || text.head? == some ')' || ";;".toList.isPrefixOf text ||
    closers.any fun word => bareWord text == word.toList

def takeName (text : List Char) : String × List Char :=
  (String.ofList (text.takeWhile isNameChar), text.dropWhile isNameChar)

def specialParameters : List Char := ['@', '*', '#', '?', '$', '!', '-']

def takeArithmetic : (depth : Nat) → (sofar : List Char) → List Char →
    Option (List Char × List Char)
  | _, _, [] => none
  | 0, sofar, ')' :: ')' :: rest => some (sofar.reverse, rest)
  | depth, sofar, c :: rest =>
      takeArithmetic (if c == '(' then depth + 1 else if c == ')' then depth - 1 else depth)
        (c :: sofar) rest

def takeBackquoted : (sofar : List Char) → List Char → Option (List Char × List Char)
  | _, [] => none
  | sofar, '\\' :: c :: rest =>
      if c == backquote || c == '\\' || c == '$' then takeBackquoted (c :: sofar) rest
      else takeBackquoted (c :: '\\' :: sofar) rest
  | sofar, c :: rest => if c == backquote then some (sofar.reverse, rest)
      else takeBackquoted (c :: sofar) rest

def assignmentName? (text : List Char) : Option (String × List Char) :=
  match text with
  | c :: _ =>
      if isNameStart c then
        match takeName text with
        | (name, '=' :: rest) => some (name, rest)
        | _ => none
      else none
  | [] => none

/-- The descriptor and direction of a redirection. -/
def redirectOperator? (text : List Char) : Option ((Nat × Direction) × List Char) :=
  let (given, rest) := match text with
    | c :: rest => if Text.isAsciiDigit c then (some (c.toNat - '0'.toNat), rest) else (none, text)
    | [] => (none, text)
  match rest with
  | '>' :: '>' :: more => some ((given.getD 1, .append), more)
  | '>' :: '&' :: more => some ((given.getD 1, .duplicate), more)
  | '>' :: '|' :: more => some ((given.getD 1, .write), more)
  | '>' :: more => some ((given.getD 1, .write), more)
  | '<' :: '<' :: _ => none
  | '<' :: more => some ((given.getD 0, .read), more)
  | _ => none

def substituteRule? : List Char → Option (Substitute × List Char)
  | ':' :: '-' :: rest => some (.ifEmpty, rest)
  | '-' :: rest => some (.ifUnset, rest)
  | ':' :: '+' :: rest => some (.ifFilled, rest)
  | '+' :: rest => some (.ifSet, rest)
  | _ => none

def shortenRule? : List Char → Option ((Bool × Bool) × List Char)
  | '%' :: '%' :: rest => some ((true, true), rest)
  | '%' :: rest => some ((true, false), rest)
  | '#' :: '#' :: rest => some ((false, true), rest)
  | '#' :: rest => some ((false, false), rest)
  | _ => none

mutual

/-- A word's pieces up to a character at which `stop` holds. -/
def readPieces (total : Nat) (quoted : Bool) (stop : Char → Bool) :
    (fuel : Nat) → List Char → Option (List Piece × List Char)
  | 0, _ => none
  | _ + 1, [] => if quoted then none else some ([], [])
  | fuel + 1, c :: rest =>
      if stop c then some ([], c :: rest)
      else do
        let (pieces, after) ← readPiece total quoted fuel (c :: rest)
        let (others, after) ← readPieces total quoted stop fuel after
        return (pieces ++ others, after)

def readPiece (total : Nat) (quoted : Bool) :
    (fuel : Nat) → List Char → Option (List Piece × List Char)
  | 0, _ => none
  | fuel + 1, text =>
      match text with
      | '\\' :: '\n' :: rest => some ([], rest)
      | '\\' :: c :: rest =>
          if !quoted || c == '"' || c == '\\' || c == '$' || c == backquote then
            some ([.plain [c] true], rest)
          else some ([.plain ['\\', c] true], rest)
      | '$' :: rest => do
          let (piece, after) ← readDollar total quoted fuel rest
          return ([piece], after)
      | '"' :: rest =>
          if quoted then some ([.plain ['"'] true], rest)
          else do
            let (inner, after) ← readPieces total true (· == '"') fuel rest
            return (.plain [] true :: inner, after.drop 1)
      | c :: rest =>
          if c == singleQuote && !quoted then
            match rest.dropWhile (· != singleQuote) with
            | _ :: after => some ([.plain (rest.takeWhile (· != singleQuote)) true], after)
            | [] => none
          else if c == backquote then do
            let (inner, after) ← takeBackquoted [] rest
            let (body, _) ← readSteps total fuel inner
            return ([.output body quoted], after)
          else some ([.plain [c] quoted], rest)
      | [] => none

def readDollar (total : Nat) (quoted : Bool) :
    (fuel : Nat) → List Char → Option (Piece × List Char)
  | 0, _ => none
  | fuel + 1, text =>
      match text with
      | '(' :: '(' :: rest => do
          let (inner, after) ← takeArithmetic 0 [] rest
          let (expression, _) ← readPieces total false (fun _ => false) fuel inner
          return (.number expression quoted, after)
      | '(' :: rest => do
          let (body, after) ← readSteps total fuel rest
          match skipLines after with
          | ')' :: after => return (.output body quoted, after)
          | _ => none
      | '\x7b' :: rest => readBraced total quoted fuel rest
      | c :: rest =>
          if isNameStart c then
            let (name, after) := takeName text
            some (.parameter name quoted, after)
          else if Text.isAsciiDigit c || specialParameters.contains c then
            some (.parameter (String.singleton c) quoted, rest)
          else some (.plain ['$'] quoted, text)
      | [] => some (.plain ['$'] quoted, [])

def readBraced (total : Nat) (quoted : Bool) :
    (fuel : Nat) → List Char → Option (Piece × List Char)
  | 0, _ => none
  | fuel + 1, text =>
      let (name, after) := match text with
        | c :: rest =>
            if isNameChar c then takeName text
            else if specialParameters.contains c then (String.singleton c, rest)
            else ("", text)
        | [] => ("", text)
      if name == "#" && after.head? != some '\x7d' then
        let (name, after) := takeName after
        if after.head? == some '\x7d' then some (.size name, after.drop 1) else none
      else if name == "" then none
      else
        match after with
        | '\x7d' :: rest => some (.parameter name quoted, rest)
        | _ =>
            match substituteRule? after with
            | some (rule, rest) => do
                let (word, after) ← readPieces total quoted (· == '\x7d') fuel rest
                return (.substitute name rule word quoted, after.drop 1)
            | none => do
                let ((fromEnd, longest), rest) ← shortenRule? after
                let (pattern, after) ← readPieces total false (· == '\x7d') fuel rest
                return (.shorten name fromEnd longest pattern quoted, after.drop 1)

def readRedirects (total : Nat) : (fuel : Nat) → List Char → Option (List Redirect × List Char)
  | 0, _ => none
  | fuel + 1, text =>
      match redirectOperator? (skip text) with
      | none => some ([], text)
      | some ((descriptor, direction), rest) => do
          let (target, rest) ← readPieces total false isWordEnd fuel (skip rest)
          let (others, rest) ← readRedirects total fuel rest
          return (.mk descriptor direction target :: others, rest)

def readWords (total : Nat) : (fuel : Nat) → (started : Bool) → List Char →
    Option ((List (String × List Piece) × List (List Piece) × List Redirect) × List Char)
  | 0, _, _ => none
  | fuel + 1, started, text =>
      let text := skip text
      match redirectOperator? text with
      | some ((descriptor, direction), rest) => do
          let (target, rest) ← readPieces total false isWordEnd fuel (skip rest)
          let ((assignments, words, redirects), rest) ← readWords total fuel started rest
          return ((assignments, words, .mk descriptor direction target :: redirects), rest)
      | none =>
          match text with
          | [] => some (([], [], []), [])
          | c :: _ =>
              if isWordEnd c then some (([], [], []), text)
              else
                match if started then none else assignmentName? text with
                | some (name, rest) => do
                    let (value, rest) ← readPieces total false isWordEnd fuel rest
                    let ((assignments, words, redirects), rest) ←
                      readWords total fuel started rest
                    return (((name, value) :: assignments, words, redirects), rest)
                | none => do
                    let (word, rest) ← readPieces total false isWordEnd fuel text
                    let ((assignments, words, redirects), rest) ← readWords total fuel true rest
                    return ((assignments, word :: words, redirects), rest)

def readUntil (total : Nat) (word : String) : (fuel : Nat) → List Char →
    Option (List Step × List Char)
  | 0, _ => none
  | fuel + 1, text => do
      let (steps, rest) ← readSteps total fuel text
      let rest ← afterWord? word (skipLines rest)
      return (steps, rest)

def readBranches (total : Nat) : (fuel : Nat) → List Char →
    Option ((List (List Step × List Step) × List Step) × List Char)
  | 0, _ => none
  | fuel + 1, text => do
      let (condition, rest) ← readUntil total "then" fuel text
      let (body, rest) ← readSteps total fuel rest
      let rest := skipLines rest
      match afterWord? "elif" rest with
      | some rest => do
          let ((branches, otherwise), rest) ← readBranches total fuel rest
          return (((condition, body) :: branches, otherwise), rest)
      | none =>
          match afterWord? "else" rest with
          | some rest => do
              let (otherwise, rest) ← readUntil total "fi" fuel rest
              return (([(condition, body)], otherwise), rest)
          | none => do
              let rest ← afterWord? "fi" rest
              return (([(condition, body)], []), rest)

def readList (total : Nat) : (fuel : Nat) → List Char → Option (List (List Piece) × List Char)
  | 0, _ => none
  | fuel + 1, text =>
      match skip text with
      | [] => some ([], [])
      | c :: rest =>
          if isWordEnd c then some ([], c :: rest)
          else do
            let (word, rest) ← readPieces total false isWordEnd fuel (c :: rest)
            let (others, rest) ← readList total fuel rest
            return (word :: others, rest)

def readEach (total : Nat) : (fuel : Nat) → List Char → Option (Command × List Char)
  | 0, _ => none
  | fuel + 1, text => do
      let (name, rest) := takeName (skip text)
      let rest := skipLines rest
      let (words, rest) ← match afterWord? "in" rest with
        | some rest => do
            let (words, rest) ← readList total fuel rest
            pure (some words, rest)
        | none => pure (none, rest)
      let rest := match skip rest with
        | ';' :: more => more
        | other => other
      let rest ← afterWord? "do" (skipLines rest)
      let (body, rest) ← readUntil total "done" fuel rest
      return (.each name words body, rest)

def readPatterns (total : Nat) :
    (fuel : Nat) → List Char → Option (List (List Piece) × List Char)
  | 0, _ => none
  | fuel + 1, text => do
      let (pattern, rest) ← readPieces total false isWordEnd fuel (skip text)
      match skip rest with
      | '|' :: more => do
          let (others, rest) ← readPatterns total fuel more
          return (pattern :: others, rest)
      | ')' :: more => return ([pattern], more)
      | _ => none

def readArms (total : Nat) : (fuel : Nat) → List Char →
    Option ((List (List (List Piece) × List Step)) × List Char)
  | 0, _ => none
  | fuel + 1, text =>
      let text := skipLines text
      match afterWord? "esac" text with
      | some rest => some ([], rest)
      | none => do
          let text := match text with
            | '(' :: rest => rest
            | other => other
          let (patterns, rest) ← readPatterns total fuel text
          let (body, rest) ← readSteps total fuel rest
          match skipLines rest with
          | ';' :: ';' :: more => do
              let (arms, rest) ← readArms total fuel more
              return ((patterns, body) :: arms, rest)
          | other => do
              let rest ← afterWord? "esac" other
              return ([(patterns, body)], rest)

def readCompound (total : Nat) :
    (fuel : Nat) → List Char → Option (Option (Command × List Char))
  | 0, _ => none
  | fuel + 1, text =>
      match text with
      | '(' :: rest => some do
          let (body, rest) ← readSteps total fuel rest
          match skipLines rest with
          | ')' :: rest => return (.subshell body, rest)
          | _ => none
      | _ =>
          match String.ofList (bareWord text) with
          | "\x7b" => some do
              let (body, rest) ← readUntil total "\x7d" fuel (text.drop 1)
              return (.group body, rest)
          | "if" => some do
              let ((branches, otherwise), rest) ← readBranches total fuel (text.drop 2)
              return (.choose branches otherwise, rest)
          | "while" => some do
              let (condition, rest) ← readUntil total "do" fuel (text.drop 5)
              let (body, rest) ← readUntil total "done" fuel rest
              return (.loop true condition body, rest)
          | "until" => some do
              let (condition, rest) ← readUntil total "do" fuel (text.drop 5)
              let (body, rest) ← readUntil total "done" fuel rest
              return (.loop false condition body, rest)
          | "for" => some (readEach total fuel (text.drop 3))
          | "case" => some do
              let (word, rest) ← readPieces total false isWordEnd fuel (skip (text.drop 4))
              let rest ← afterWord? "in" (skipLines rest)
              let (arms, rest) ← readArms total fuel rest
              return (.case word arms, rest)
          | _ => none

def readCommand (total : Nat) : (fuel : Nat) → List Char → Option (Command × List Char)
  | 0, _ => none
  | fuel + 1, text =>
      let text := skip text
      let line := total - text.count '\n' + 1
      match readCompound total fuel text with
      | some compound => do
          let (command, rest) ← compound
          let (redirects, rest) ← readRedirects total fuel rest
          return (if redirects.isEmpty then command else .redirected line command redirects, rest)
      | none => do
          let ((assignments, words, redirects), rest) ← readWords total fuel false text
          if assignments.isEmpty && words.isEmpty && redirects.isEmpty then none
          let command := .simple line assignments words
          return (if redirects.isEmpty then command else .redirected line command redirects, rest)

def readPipe (total : Nat) : (fuel : Nat) → List Char → Option (List Command × List Char)
  | 0, _ => none
  | fuel + 1, text => do
      let (command, rest) ← readCommand total fuel text
      match skip rest with
      | '|' :: '|' :: _ => return ([command], rest)
      | '|' :: more => do
          let (others, rest) ← readPipe total fuel (skipLines more)
          return (command :: others, rest)
      | _ => return ([command], rest)

def readPipeline (total : Nat) : (fuel : Nat) → List Char → Option (Pipeline × List Char)
  | 0, _ => none
  | fuel + 1, text => do
      let text := skip text
      let (negated, text) := match afterWord? "!" text with
        | some rest => (true, rest)
        | none => (false, text)
      let (commands, rest) ← readPipe total fuel text
      return (.mk negated commands, rest)

def readOthers (total : Nat) : (fuel : Nat) → List Char →
    Option ((List (Bool × Pipeline)) × List Char)
  | 0, _ => none
  | fuel + 1, text =>
      match skip text with
      | '&' :: '&' :: rest => do
          let (pipeline, rest) ← readPipeline total fuel (skipLines rest)
          let (others, rest) ← readOthers total fuel rest
          return ((true, pipeline) :: others, rest)
      | '|' :: '|' :: rest => do
          let (pipeline, rest) ← readPipeline total fuel (skipLines rest)
          let (others, rest) ← readOthers total fuel rest
          return ((false, pipeline) :: others, rest)
      | rest => some ([], rest)

def readSteps (total : Nat) : (fuel : Nat) → List Char → Option (List Step × List Char)
  | 0, _ => none
  | fuel + 1, text =>
      let text := skipLines text
      if isListEnd text then some ([], text)
      else do
        let (first, rest) ← readPipeline total fuel text
        let (others, rest) ← readOthers total fuel rest
        let step := Step.mk first others
        match skip rest with
        | ';' :: ';' :: _ => return ([step], skip rest)
        | ';' :: more => do
            let (steps, rest) ← readSteps total fuel more
            return (step :: steps, rest)
        | '&' :: more => do
            let (steps, rest) ← readSteps total fuel more
            return (step :: steps, rest)
        | '\n' :: more => do
            let (steps, rest) ← readSteps total fuel more
            return (step :: steps, rest)
        | other => if isListEnd other then return ([step], other) else none

end

def read (text : String) : Option (List Step) := do
  let chars := text.toList
  let (steps, rest) ← readSteps (chars.count '\n') (8 * chars.length + 16) chars
  if rest.isEmpty then some steps else none

end DexGraft.Script
