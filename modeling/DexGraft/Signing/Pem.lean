import DexGraft.Text.Base64
import DexGraft.Text.Split

/-!
Sections of armoured text. A section has a label, header lines of which each
has a colon, and content in base 64; whatever stands between sections is passed
over.
-/
namespace DexGraft.Signing

structure Section where
  label : String
  headers : List (List Char)
  content : Bytes

namespace Section

def opening : List Char := "-----BEGIN ".toList

def closing : List Char := "-----END ".toList

def dashes : List Char := "-----".toList

def cutAt (mark : List Char) : List Char → Option (List Char × List Char)
  | [] => if mark.isEmpty then some ([], []) else none
  | c :: rest =>
      if mark.isPrefixOf (c :: rest) then some ([], (c :: rest).drop mark.length)
      else (cutAt mark rest).map fun (before, after) => (c :: before, after)

def isSpace (c : Char) : Bool := c == ' ' || c == '\t' || c == '\n' || c == '\r'

def splitHeaders (body : List Char) : List Char × List Char :=
  match cutAt ['\n', '\n'] body with
  | some parts => parts
  | none => (cutAt ['\r', '\n', '\r', '\n'] body).getD ([], body)

def headerLines (text : List Char) : List (List Char) :=
  ((Text.splitAt '\n' text).map fun line => line.filter (· != '\r')).filter (!·.isEmpty)

def ofParts (label : List Char) (body : List Char) (ending : List Char) : Option Section := do
  if label.isEmpty || label != ending then none
  let (headers, data) := splitHeaders (body.dropWhile isSpace)
  let lines := headerLines headers
  if lines.any fun line => !line.contains ':' then none
  let content ← Base64.decode (data.filter fun c => !isSpace c)
  return ⟨String.ofList label, lines, content⟩

def cut (text : List Char) : Option ((List Char × List Char × List Char) × List Char) := do
  let (_, text) ← cutAt opening text
  let (label, text) ← cutAt dashes text
  let (body, text) ← cutAt closing text
  let (ending, text) ← cutAt dashes text
  return ((label, body, ending), text)

def readFrom : (limit : Nat) → List Char → Option (List Section)
  | 0, _ => some []
  | limit + 1, text =>
      match cut text with
      | none => some []
      | some ((label, body, ending), rest) => do
          let first ← ofParts label body ending
          return first :: (← readFrom limit rest)

def readAll (bytes : Bytes) : Option (List Section) :=
  let text := bytes.map fun byte => Char.ofNat byte.toNat
  readFrom text.length text

def isArmoured (bytes : Bytes) : Bool :=
  (cutAt "-----BEGIN".toList (bytes.map fun byte => Char.ofNat byte.toNat)).isSome

def lineLength : Nat := 64

/-- Lines of full length, of which there are no more than characters, each with its break. -/
def wrap : (limit : Nat) → List Char → List Char
  | 0, _ => []
  | limit + 1, text =>
      if text.isEmpty then []
      else text.take lineLength ++ '\n' :: wrap limit (text.drop lineLength)

def write (label : String) (content : Bytes) : Bytes :=
  let data := Base64.encode content
  Bytes.ofText (s!"-----BEGIN {label}-----\n" ++ String.ofList (wrap data.length data) ++
    s!"-----END {label}-----\n")

end Section
end DexGraft.Signing
