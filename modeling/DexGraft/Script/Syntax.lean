/-!
Command scripts: lists of steps, each a row of pipelines that depend on one
another, made of commands whose words are put together from pieces.
-/
namespace DexGraft.Script

inductive Substitute
  | ifUnset
  | ifEmpty
  | ifSet
  | ifFilled
  deriving DecidableEq

inductive Direction
  | read
  | write
  | append
  | duplicate
  deriving DecidableEq

mutual

inductive Piece
  | plain (text : List Char) (quoted : Bool)
  | parameter (name : String) (quoted : Bool)
  | size (name : String)
  | substitute (name : String) (rule : Substitute) (word : List Piece) (quoted : Bool)
  /-- A value without the part that a pattern matches at its start or end. -/
  | shorten (name : String) (fromEnd longest : Bool) (pattern : List Piece) (quoted : Bool)
  | output (body : List Step) (quoted : Bool)
  | number (expression : List Piece) (quoted : Bool)

inductive Redirect
  | mk (descriptor : Nat) (direction : Direction) (target : List Piece)

inductive Command
  | simple (line : Nat) (assignments : List (String × List Piece)) (words : List (List Piece))
  | group (body : List Step)
  | subshell (body : List Step)
  | choose (branches : List (List Step × List Step)) (otherwise : List Step)
  | loop (whileTrue : Bool) (condition body : List Step)
  | each (name : String) (words : Option (List (List Piece))) (body : List Step)
  | case (word : List Piece) (arms : List (List (List Piece) × List Step))
  | redirected (line : Nat) (command : Command) (redirects : List Redirect)

inductive Pipeline
  | mk (negated : Bool) (commands : List Command)

/-- A pipeline, and others that run only after success or only after failure. -/
inductive Step
  | mk (first : Pipeline) (others : List (Bool × Pipeline))

end

end DexGraft.Script
