import DexGraft.Bytes
import DexGraft.Text.Digit

/-!
Formatted output: escapes, and directives that take their arguments in turn. A
format is used again until no argument is left.
-/
namespace DexGraft.Script

def charBytes (c : Char) : Bytes :=
  Bytes.ofText (String.singleton c)

def isOctal (c : Char) : Bool :=
  '0' ≤ c && c ≤ '7'

def octalValue (digits : List Char) : Nat :=
  digits.foldl (fun value c => value * 8 + (c.toNat - '0'.toNat)) 0

def readOctal (limit : Nat) (text : List Char) : Bytes × List Char :=
  let digits := (text.take limit).takeWhile isOctal
  ([UInt8.ofNat (octalValue digits)], text.drop digits.length)

def namedEscape? : Char → Option Nat
  | 'a' => some 7
  | 'b' => some 8
  | 't' => some 9
  | 'n' => some 10
  | 'v' => some 11
  | 'f' => some 12
  | 'r' => some 13
  | 'e' => some 27
  | '\\' => some 92
  | _ => none

/-- What an escape after a backslash stands for, and what follows it. -/
def readEscape (text : List Char) : Bytes × List Char :=
  match text with
  | [] => ([92], [])
  | c :: rest =>
      match namedEscape? c with
      | some code => ([UInt8.ofNat code], rest)
      | none =>
          if isOctal c then readOctal 3 text
          else if c == '"' || c.toNat == 39 then (charBytes c, rest)
          else (92 :: charBytes c, rest)

/-- Escapes of an argument: octal numbers follow a nought. Tells whether all output ends here. -/
def expandEscapes : (fuel : Nat) → List Char → Bytes × Bool
  | 0, _ => ([], false)
  | _ + 1, [] => ([], false)
  | _ + 1, '\\' :: 'c' :: _ => ([], true)
  | fuel + 1, '\\' :: rest =>
      let (bytes, after) := match rest with
        | '0' :: digits => readOctal 3 digits
        | _ => readEscape rest
      let (more, ends) := expandEscapes fuel after
      (bytes ++ more, ends)
  | fuel + 1, c :: rest =>
      let (more, ends) := expandEscapes fuel rest
      (charBytes c ++ more, ends)

structure Directive where
  left : Bool
  zeros : Bool
  width : Nat
  precision : Option Nat
  kind : Char

def readDirective (text : List Char) : Option (Directive × List Char) :=
  let isFlag (c : Char) : Bool := c == '-' || c == '0' || c == '+' || c == ' ' || c == '#'
  let flags := text.takeWhile isFlag
  let text := text.dropWhile isFlag
  let number (digits : List Char) : Nat :=
    digits.foldl (fun value c => value * 10 + (c.toNat - '0'.toNat)) 0
  let width := number (text.takeWhile Text.isAsciiDigit)
  let text := text.dropWhile Text.isAsciiDigit
  let (precision, text) := match text with
    | '.' :: rest =>
        (some (number (rest.takeWhile Text.isAsciiDigit)), rest.dropWhile Text.isAsciiDigit)
    | other => (none, other)
  match text with
  | kind :: rest =>
      some (⟨flags.contains '-', flags.contains '0', width, precision, kind⟩, rest)
  | [] => none

def padded (directive : Directive) (content : Bytes) : Bytes :=
  let missing := directive.width - content.length
  let fill : UInt8 := if directive.zeros && !directive.left then 48 else 32
  if directive.left then content ++ List.replicate missing 32
  else List.replicate missing fill ++ content

def numberArgument (argument : String) : Int :=
  (argument.trimAscii.toString.toInt?).getD 0

def digitsText (base : Nat) (value : Int) : String :=
  let digits := String.ofList (Nat.toDigits base value.natAbs)
  if value < 0 then "-" ++ digits else digits

def directiveBytes (directive : Directive) (argument : String) : Bytes :=
  let cut (content : Bytes) : Bytes :=
    match directive.precision with
    | some limit => content.take limit
    | none => content
  match directive.kind with
  | 's' => padded directive (cut (Bytes.ofText argument))
  | 'b' => padded directive (cut (expandEscapes (argument.length + 1) argument.toList).1)
  | 'c' => padded directive ((Bytes.ofText argument).take 1)
  | 'x' => padded directive (Bytes.ofText (digitsText 16 (numberArgument argument)))
  | 'o' => padded directive (Bytes.ofText (digitsText 8 (numberArgument argument)))
  | _ => padded directive (Bytes.ofText (digitsText 10 (numberArgument argument)))

/-- One pass over a format, with the arguments that are left after it. -/
def formatOnce : (fuel : Nat) → List Char → List String → Bytes × List String
  | 0, _, arguments => ([], arguments)
  | _ + 1, [], arguments => ([], arguments)
  | fuel + 1, '\\' :: rest, arguments =>
      let (bytes, after) := readEscape rest
      let (more, left) := formatOnce fuel after arguments
      (bytes ++ more, left)
  | fuel + 1, '%' :: '%' :: rest, arguments =>
      let (more, left) := formatOnce fuel rest arguments
      (37 :: more, left)
  | fuel + 1, '%' :: rest, arguments =>
      match readDirective rest with
      | none => ([], arguments)
      | some (directive, after) =>
          let (more, left) := formatOnce fuel after arguments.tail
          (directiveBytes directive (arguments.headD "") ++ more, left)
  | fuel + 1, c :: rest, arguments =>
      let (more, left) := formatOnce fuel rest arguments
      (charBytes c ++ more, left)

/-- Every pass but the first has to take at least one argument. -/
def formatAll (format : List Char) : (fuel : Nat) → List String → Bytes
  | 0, _ => []
  | fuel + 1, arguments =>
      let (bytes, left) := formatOnce (format.length + 1) format arguments
      if left.isEmpty || left.length = arguments.length then bytes
      else bytes ++ formatAll format fuel left

end DexGraft.Script
