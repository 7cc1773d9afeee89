import DexGraft.Text.Printable

/-!
Quoted text for messages. The quote is a single one, or a double one when the
text holds a single quote and no double quote. Backslash, the quote and
everything unprintable are escaped.
-/
namespace DexGraft.Text

def singleQuote : Char := Char.ofNat 39

def quoteFor (text : List Char) : Char :=
  if text.contains singleQuote && !text.contains '"' then '"' else singleQuote

def hexDigits (width value : Nat) : List Char :=
  let digits := Nat.toDigits 16 value
  List.replicate (width - digits.length) '0' ++ digits

def escapeCode (value : Nat) : List Char :=
  if value ≤ 0xff then '\\' :: 'x' :: hexDigits 2 value
  else if value ≤ 0xffff then '\\' :: 'u' :: hexDigits 4 value
  else '\\' :: 'U' :: hexDigits 8 value

def escapeChar (quote c : Char) : List Char :=
  if c == '\\' || c == quote then ['\\', c]
  else if c == '\n' then ['\\', 'n']
  else if c == '\r' then ['\\', 'r']
  else if c == '\t' then ['\\', 't']
  else if isPrintable c then [c]
  else escapeCode c.toNat

def quote (text : String) : String :=
  let mark := quoteFor text.toList
  String.ofList (mark :: text.toList.flatMap (escapeChar mark) ++ [mark])

end DexGraft.Text
