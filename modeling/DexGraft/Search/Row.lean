import DexGraft.Search.Attempt

/-!
Images tried one after the other, each in a fresh scratch directory of its own.
A `Row` is the course of all attempts: it holds each result with the session at
that moment, and goes on only for someone who asks.
-/
namespace DexGraft.Search

inductive Row
  | finished (session : Session)
  | broken (fault : Fault) (session : Session)
  | attempted (attempt : Attempt) (session : Session) (rest : Unit → Row)

def scratchOf (workRoot : Path) (image : Apk.Image) : Path :=
  workRoot / ("dex_attempt_" ++ image.stem)

def freshScratch (scratch : Path) : Action Unit := do
  if ← Action.ask fun files => files.exists? scratch then Action.removeTree scratch
  let making := Action.change fun files => files.makeDirectories scratch
  making.rewording Cause.isRefusal fun cause => .io (.createDirectory scratch.text cause)

/-- One attempt with its scratch directory, which stays only if the image was patched. -/
def tryImage (setting : Setting) (archive workRoot : Path) (image : Apk.Image) :
    Action Attempt := do
  let name := image.entry
  let scratch := scratchOf workRoot image
  freshScratch scratch
  setting.progress s!"Attempting to find method in: {name}"
  let result ← tryCatch (attempt setting archive image scratch) fun fault => do
    Action.clearTree scratch
    throw fault
  if let some reason := result.reason? then
    let reasonName := reason.name
    Action.clearTree scratch
    setting.progress s!"{reasonName} in {name}; trying next image"
  return result

def row (setting : Setting) (archive workRoot : Path) (session : Session) :
    List Apk.Image → Row
  | [] => .finished session
  | image :: rest =>
      match (tryImage setting archive workRoot image).run session with
      | (.ok result, session) =>
          .attempted result session fun _ => row setting archive workRoot session rest
      | (.error fault, session) => .broken fault session

structure Found where
  attempts : List Attempt
  winner : Except Fault (Option Attempt)
  session : Session

def Row.search : Row → Found
  | .finished session => ⟨[], .ok none, session⟩
  | .broken fault session => ⟨[], .error fault, session⟩
  | .attempted attempt session rest =>
      if attempt.isPatched then ⟨[attempt], .ok (some attempt), session⟩
      else
        let found := (rest ()).search
        { found with attempts := attempt :: found.attempts }

end DexGraft.Search
