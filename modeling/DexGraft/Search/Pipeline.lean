import DexGraft.Search.Row

/-!
A whole run: the archive is copied, its images are tried until one is patched,
the archive is rebuilt around it, and the result is signed. Everything happens
in a temporary directory that is gone at the end, whatever the end.
-/
namespace DexGraft.Search

structure Pipeline where
  setting : Setting
  minSdk : Int
  /-- Where the temporary directory is made, if not in the usual place. -/
  temporaryRoot : Option Path
  keepUnsigned : Bool
  deflate : Bytes → Bytes

inductive FailureCause
  | noCandidateImages
  | targetNotFound
  | ioFailure
  | signingError
  deriving DecidableEq

def FailureCause.name : FailureCause → String
  | .noCandidateImages => "no-candidate-images"
  | .targetNotFound => "target-not-found"
  | .ioFailure => "io-failure"
  | .signingError => "signing-error"

inductive Conclusion
  | signed (output : Path) (entry : String)
  /-- The signer refused; the unsigned archive may have been kept. -/
  | unsigned (fault : Fault) (entry : String) (kept : Option Path)
  | noImages (fault : Fault)
  | notFound
  | failed (fault : Fault)

structure Report where
  conclusion : Conclusion
  attempts : List Attempt

def summary (attempt : Attempt) : String :=
  let reason := (attempt.reason?.map Reason.name).getD ""
  attempt.image.entry ++ ": " ++ reason

def notFoundMessage (attempts : List Attempt) : String :=
  "Target method not found in any DEX file (" ++ ", ".intercalate (attempts.map summary) ++ ")"

namespace Report

def isSuccess (report : Report) : Bool :=
  match report.conclusion with
  | .signed _ _ => true
  | _ => false

def message (report : Report) : String :=
  match report.conclusion with
  | .signed _ _ => "Successfully modified and signed APK"
  | .unsigned fault _ _ => "Signing failed: " ++ fault.message
  | .noImages fault => fault.message
  | .notFound => notFoundMessage report.attempts
  | .failed fault => "Processing failed: " ++ fault.message

def cause? (report : Report) : Option FailureCause :=
  match report.conclusion with
  | .signed _ _ => none
  | .unsigned _ _ _ => some .signingError
  | .noImages _ => some .noCandidateImages
  | .notFound => some .targetNotFound
  | .failed _ => some .ioFailure

def fault? (report : Report) : Option Fault :=
  match report.conclusion with
  | .unsigned fault _ _ | .noImages fault | .failed fault => some fault
  | _ => none

def output? (report : Report) : Option Path :=
  match report.conclusion with
  | .signed output _ => some output
  | _ => none

def patchedEntry? (report : Report) : Option String :=
  match report.conclusion with
  | .signed _ entry | .unsigned _ entry _ => some entry
  | _ => none

def unsignedOutput? (report : Report) : Option Path :=
  match report.conclusion with
  | .unsigned _ _ kept => kept
  | _ => none

end Report

def copyFile (source target : Path) : Action Unit := do
  let content ← Action.ask fun files => files.read source
  Action.change fun files => files.write target content

def unsignedName (output : Path) : String :=
  output.stem ++ ".unsigned.apk"

/-- Copies the unsigned archive beside the output, if that is wanted and possible. -/
def keep (pipeline : Pipeline) (unsigned output : Path) : Action (Option Path) := do
  if !pipeline.keepUnsigned then return none
  match output.withName? (unsignedName output) with
  | none => Action.raise .noFileName
  | some target =>
      let copied ← tryCatch (do copyFile unsigned target; return true) fun
        | .cause cause => do
            if !cause.isRefusal then Action.raise cause
            Action.log .warning ("could not keep unsigned archive: " ++ cause.message)
            return false
        | fault => throw fault
      if !copied then return none
      Action.info ("Unsigned archive kept at " ++ target.text)
      return some target

/-- Signs the rebuilt archive; the signer's refusal is a conclusion and no fault. -/
def signed (pipeline : Pipeline) (unsigned output : Path) (entry : String)
    (material : List Signer) : Action Conclusion := do
  let progress := pipeline.setting.progress
  progress "Signing modified APK"
  Action.record (.signed unsigned output material pipeline.minSdk)
  let refusal ← tryCatch
    (do pipeline.setting.toolbox.sign unsigned output material pipeline.minSdk; return none) fun
    | .signing text => return some text
    | fault => throw fault
  match refusal with
  | some text =>
      Action.log .error s!"Signing failed: {text}"
      progress s!"Error: {text}"
      return .unsigned (.signing text) entry (← keep pipeline unsigned output)
  | none =>
      let name := output.name
      Action.log .success s!"✅ {name}: {entry} patched and signed"
      progress s!"APK processing complete: {name}"
      return .signed output entry

def rebuiltAndSigned (pipeline : Pipeline) (root archive output : Path) (image : Apk.Image)
    (promotedPath : Path) (material : List Signer) : Action Conclusion := do
  let entry := image.entry
  pipeline.setting.progress s!"Updating APK with modified {entry}"
  let unsigned := root / "unsigned_modified.apk"
  let reading := Action.ask fun files => files.read promotedPath
  let replacement ← reading.rewording Cause.isRefusal fun cause => .io (.readPatched entry cause)
  let _ ← Apk.rebuildFile pipeline.deflate archive entry replacement unsigned Apk.defaultAlignment
    pipeline.setting.reader.decoders
  signed pipeline unsigned output entry material

def candidateList (images : List Apk.Image) : String :=
  ", ".intercalate (images.map fun image =>
    image.entry ++ "(" ++ toString image.priority ++ ")")

def prepared (pipeline : Pipeline) (input archive : Path) : Action (List Apk.Image) := do
  pipeline.setting.progress "Copying input APK"
  (copyFile input archive).rewording Cause.isRefusal fun cause =>
    .io (.copyInput input.text cause)
  pipeline.setting.progress "Getting sorted DEX file list (highest to lowest)"
  let images ← Apk.select archive pipeline.setting.reader.decoders
  Action.info ("Candidates: " ++ candidateList images)
  return images

def concluded (pipeline : Pipeline) (root archive output : Path) (material : List Signer)
    (attempts : List Attempt) : Option Attempt → Action Conclusion
  | some ⟨image, .promoted path⟩ =>
      rebuiltAndSigned pipeline root archive output image path material
  | _ => do
      let message := notFoundMessage attempts
      Action.log .error message
      pipeline.setting.progress message
      return .notFound

/-- The attempts are known even where a later step ends in a fault. -/
abbrev Course := List Attempt × Except Fault Conclusion

def searched (pipeline : Pipeline) (root archive output : Path) (material : List Signer)
    (images : List Apk.Image) : Action Course := do
  let found := (row pipeline.setting archive root (← get) images).search
  set found.session
  match found.winner with
  | .error fault => return (found.attempts, .error fault)
  | .ok winner =>
      let concluding := concluded pipeline root archive output material found.attempts winner
      let ending ← tryCatch (Except.ok <$> concluding) fun fault => return .error fault
      return (found.attempts, ending)

def processed (pipeline : Pipeline) (root input output : Path) (material : List Signer) :
    Action Course := do
  let archive := root / "input.apk"
  let images ← prepared pipeline input archive
  searched pipeline root archive output material images

/-- The run inside its temporary directory, which is removed in every case. -/
def course (pipeline : Pipeline) (input output : Path) (material : List Signer) :
    Action Course := do
  let root ←
    Action.makeTemporary (pipeline.temporaryRoot.getD (← get).temporary) "apk_processing_"
  (processed pipeline root input output material).ensuring (Action.clearTree root)

/-- Faults in the program's own words, and refusals of the operating system, end a run in a
report. -/
def isReported : Fault → Bool
  | .cause cause => cause.isRefusal
  | _ => true

def faulted (pipeline : Pipeline) (attempts : List Attempt) (fault : Fault) : Action Report := do
  let message := fault.message
  match fault with
  | .noImages _ _ =>
      Action.log .warning message
      pipeline.setting.progress s!"Error: {message}"
      return ⟨.noImages fault, attempts⟩
  | _ =>
      if !isReported fault then throw fault
      Action.log .error s!"Processing failed: {message}"
      pipeline.setting.progress s!"Error: {message}"
      return ⟨.failed fault, attempts⟩

def Pipeline.run (pipeline : Pipeline) (input output : Path) (material : List Signer) :
    Action Report := do
  let (attempts, ending) ← tryCatch (course pipeline input output material) fun fault =>
    return ([], .error fault)
  match ending with
  | .ok conclusion => return ⟨conclusion, attempts⟩
  | .error fault => faulted pipeline attempts fault

end DexGraft.Search
