import DexGraft.Text.Capital
import DexGraft.Text.Digit
import DexGraft.Text.Split

/-!
What the name of an archive entry says about it: whether it must be stored
uncompressed, where its data has to begin, and whether it belongs to an earlier
signature. A single line feed at the end of a name counts for nothing, except
where a rule below says otherwise.
-/
namespace DexGraft.Apk

open Text

def resourceTable : String := "resources.arsc"

def isEnding (ending name : List Char) : Bool :=
  name == ending || name == ending ++ ['\n']

def mustStore (name : String) : Bool :=
  name == resourceTable ||
    match dropStart? "classes".toList name.toList with
    | some numbered => isEnding ".dex".toList (numbered.dropWhile isAsciiDigit)
    | none => false

def endsLine (ending name : List Char) : Bool :=
  match dropEnd? ending name with
  | some body => !body.isEmpty && !body.contains '\n'
  | none => false

def isNativeLibrary (name : String) : Bool :=
  match dropStart? "lib/".toList name.toList with
  | some path => endsLine ".so".toList path || endsLine ".so\n".toList path
  | none => false

def pageAlignment : Int := 4096

def defaultAlignment : Int := 4

/-- Native libraries begin at a page, whatever the alignment of the others. -/
def alignmentFor (name : String) (alignment : Int) : Int :=
  if isNativeLibrary name then pageAlignment else alignment

def signatureFolder : List Char := "META-INF/".toList

def signatureExtensions : List (List Char) :=
  ["SF".toList, "RSA".toList, "DSA".toList, "EC".toList]

def endsInWord (word name : List Char) : Bool :=
  let start := name.length - (word.length + 1)
  match name.drop start with
  | '.' :: ending => spells word ending
  | _ => false

def withoutLineFeed (name : List Char) : List Char :=
  (dropEnd? ['\n'] name).getD name

def hasSignatureExtension (name : List Char) : Bool :=
  signatureExtensions.any fun word => endsInWord word (withoutLineFeed name)

/-- The manifest and signature files directly inside the signature folder. The manifest's name
has no line feed at its end. -/
def isSigningMetadata (name : String) : Bool :=
  match dropStart? signatureFolder name.toList with
  | none => false
  | some base =>
      !base.contains '/' &&
        (asciiCapitals base == "MANIFEST.MF".toList || hasSignatureExtension base ||
          "SIG-".toList.isPrefixOf base)

end DexGraft.Apk
