import DexGraft.CommandLine.Option
import DexGraft.Signing.KeyFiles

/-!
The commands of the program and what they are given.
-/
namespace DexGraft.CommandLine

structure PatchOrder where
  apk : String
  output : String
  spec : Option String
  keystore : Option String
  keystorePass : Option String
  keyAlias : Option String
  key : Option String
  certificate : Option String
  keyPass : Option String
  signerName : String
  minSdk : Option Int
  keepUnsigned : Bool

inductive Command
  | patch (order : PatchOrder)
  /-- Lists the images of an archive in the order in which they are tried. -/
  | images (apk : String)
  /-- Shows how the entries of an archive lie. -/
  | inspect (apk : String)
  /-- Tells which of the tools are there. -/
  | verify

structure Invocation where
  verbose : Bool
  envFile : Option String
  command : Command

/-- What arguments ask for. -/
inductive Request
  | run (invocation : Invocation)
  /-- Only the usage, with this exit status. -/
  | usage (status : Nat)
  | misuse

def helpRule : Rule := ⟨["-h", "--help"], .help⟩

def programGrammar : Grammar where
  rules := [helpRule, ⟨["-v", "--verbose"], .flag⟩, ⟨["--env"], .text⟩]
  operands := .command

def patchGrammar : Grammar where
  rules := [helpRule, ⟨["-o", "--output"], .text⟩, ⟨["--spec"], .text⟩, ⟨["--keystore"], .text⟩,
    ⟨["--ks-pass"], .text⟩, ⟨["--alias"], .text⟩, ⟨["--key"], .text⟩, ⟨["--cert"], .text⟩,
    ⟨["--key-pass"], .text⟩, ⟨["--signer-name"], .text⟩, ⟨["--min-sdk"], .integer⟩,
    ⟨["--keep-unsigned"], .flag⟩]
  operands := .one

def archiveGrammar : Grammar := ⟨[helpRule], .one⟩

def verifyGrammar : Grammar := ⟨[helpRule], .none⟩

def patchOrder? (found : Found) : Option PatchOrder :=
  match found.operands, found.value? "--output" with
  | [apk], some output => some {
      apk, output
      spec := found.value? "--spec"
      keystore := found.value? "--keystore"
      keystorePass := found.value? "--ks-pass"
      keyAlias := found.value? "--alias"
      key := found.value? "--key"
      certificate := found.value? "--cert"
      keyPass := found.value? "--key-pass"
      signerName := (found.value? "--signer-name").getD Signing.defaultName
      minSdk := (found.value? "--min-sdk").bind fun text => Text.readInteger text.toList
      keepUnsigned := found.has "--keep-unsigned" }
  | _, _ => none

def commandOf? (name : String) : Option (Grammar × (Found → Option Command)) :=
  match name with
  | "patch" => some (patchGrammar, fun found => (patchOrder? found).map .patch)
  | "dexes" => some (archiveGrammar, fun found => found.operands.head?.map .images)
  | "inspect" => some (archiveGrammar, fun found => found.operands.head?.map .inspect)
  | "verify" => some (verifyGrammar, fun _ => some .verify)
  | _ => none

def readCommand : List String → Except Refusal (Option Command)
  | [] => .ok none
  | name :: arguments =>
      match commandOf? name with
      | none => .error .misuse
      | some (grammar, make) => do
          let found ← grammar.parse arguments
          match make found with
          | some command => if found.surplus then .error .misuse else .ok (some command)
          | none => .error .misuse

def readInvocation (arguments : List String) : Except Refusal (Option Invocation) := do
  let found ← programGrammar.parse arguments
  let command ← readCommand found.operands
  if found.surplus then .error .misuse
  else
    return command.map fun command => {
      verbose := found.has "--verbose", envFile := found.value? "--env", command }

def Request.ofArguments (arguments : List String) : Request :=
  match readInvocation arguments with
  | .ok (some invocation) => .run invocation
  | .ok none => .usage 1
  | .error .helpWanted => .usage 0
  | .error .misuse => .misuse

end DexGraft.CommandLine
