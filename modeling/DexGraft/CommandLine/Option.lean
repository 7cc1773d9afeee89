import DexGraft.Text.Number

/-!
Arguments by a grammar. Options may be shortened as long as they stay
unambiguous, may carry their value after an equals sign, and options of one
letter may be joined. Two hyphens alone make operands of all that follows.
-/
namespace DexGraft.CommandLine

inductive Kind
  | help
  | flag
  | text
  | integer
  deriving DecidableEq

def Kind.takesValue : Kind → Bool
  | .text | .integer => true
  | .help | .flag => false

structure Rule where
  /-- Its spellings, with their hyphens. -/
  names : List String
  kind : Kind

/-- The spelling under which the values of an option are kept. -/
def Rule.key (rule : Rule) : String := rule.names.getLastD ""

inductive Operands
  | none
  | one
  /-- A command, to which all further arguments belong. -/
  | command
  deriving DecidableEq

structure Grammar where
  rules : List Rule
  operands : Operands

inductive Refusal
  | helpWanted
  | misuse
  deriving DecidableEq

/-- A value in the same argument, and whether an equals sign stands before it. -/
structure Attached where
  separated : Bool
  text : List Char

inductive Token
  | operand
  | hyphens
  | unknown
  | option (rule : Rule) (isLong : Bool) (attached : Option Attached)

def isLong (name : String) : Bool := "--".toList.isPrefixOf name.toList

def isNegativeNumber (text : List Char) : Bool :=
  match text with
  | '-' :: rest =>
      let rest := match rest.reverse with
        | '\n' :: more => more.reverse
        | _ => rest
      let whole := rest.takeWhile fun c => (Text.decimalValue? c).isSome
      let after := rest.drop whole.length
      match after with
      | [] => !whole.isEmpty
      | '.' :: places =>
          !places.isEmpty && places.all fun c => (Text.decimalValue? c).isSome
      | _ => false
  | _ => false

def Grammar.spellings (grammar : Grammar) : List (String × Rule) :=
  grammar.rules.flatMap fun rule => rule.names.map fun name => (name, rule)

def Grammar.find? (grammar : Grammar) (name : String) : Option Rule :=
  (grammar.spellings.find? fun entry => entry.1 == name).map (·.2)

def attachedAfterEquals (text : List Char) : Option Attached :=
  if text.contains '=' then some ⟨true, (text.dropWhile (· != '=')).drop 1⟩ else none

def Grammar.readings (grammar : Grammar) (text : List Char) : List Token :=
  match text with
  | '-' :: '-' :: _ =>
      let start := text.takeWhile (· != '=')
      grammar.spellings.filterMap fun (name, rule) =>
        if start.isPrefixOf name.toList then
          some (.option rule (isLong name) (attachedAfterEquals text))
        else none
  | _ =>
      grammar.spellings.filterMap fun (name, rule) =>
        if name.toList == text.take 2 then
          some (.option rule (isLong name) (some ⟨false, text.drop 2⟩))
        else if text.isPrefixOf name.toList then some (.option rule (isLong name) none)
        else none

def Grammar.token (grammar : Grammar) (argument : String) : Except Refusal Token :=
  let text := argument.toList
  let start := String.ofList (text.takeWhile (· != '='))
  if text.head? != some '-' then .ok .operand
  else match grammar.find? argument with
  | some rule => .ok (.option rule (isLong argument) none)
  | none =>
      if text.length = 1 then .ok .operand
      else match attachedAfterEquals text, grammar.find? start with
      | some attached, some rule => .ok (.option rule (isLong start) (some attached))
      | _, _ =>
          match grammar.readings text with
          | [reading] => .ok reading
          | _ :: _ :: _ => .error .misuse
          | [] =>
              if isNegativeNumber text || text.contains ' ' then .ok .operand else .ok .unknown

def Grammar.tokens (grammar : Grammar) : List String → Except Refusal (List (String × Token))
  | [] => .ok []
  | "--" :: rest => .ok (("--", .hyphens) :: rest.map fun argument => (argument, .operand))
  | argument :: rest => do
      let token ← grammar.token argument
      return (argument, token) :: (← grammar.tokens rest)

structure Found where
  /-- Options with their values, last ones first. -/
  options : List (String × String)
  operands : List String
  /-- Whether there is anything that the grammar has no use for. -/
  surplus : Bool

/-- What an option's argument stands for: options with their values, a last one whose value is the
next argument, and whether some letter stands for nothing. -/
structure Spread where
  options : List (Rule × String)
  open? : Option Rule
  surplus : Bool

/-- Joined letters one after the other. Each takes at least one character. -/
def Grammar.spread (grammar : Grammar) :
    (limit : Nat) → Rule → (isLong : Bool) → Option Attached → Except Refusal Spread
  | 0, _, _, _ => .error .misuse
  | _ + 1, rule, _, none =>
      .ok (if rule.kind.takesValue then ⟨[], some rule, false⟩ else ⟨[(rule, "")], none, false⟩)
  | limit + 1, rule, isLong, some attached =>
      if rule.kind.takesValue then .ok ⟨[(rule, String.ofList attached.text)], none, false⟩
      else
        match attached.text with
        | [] => .error .misuse
        | c :: rest =>
            if isLong || attached.separated || c = '-' then .error .misuse
            else
              match grammar.find? (String.ofList ['-', c]) with
              | none => .ok ⟨[(rule, "")], none, true⟩
              | some next => do
                  let after := match rest with
                    | [] => none
                    | '=' :: value => some ⟨true, value⟩
                    | value => some ⟨false, value⟩
                  let others ← grammar.spread limit next false after
                  return { others with options := (rule, "") :: others.options }

def Found.take (found : Found) (entry : Rule × String) : Except Refusal Found :=
  match entry.1.kind with
  | .help => .error .helpWanted
  | .integer =>
      if (Text.readInteger entry.2.toList).isSome then
        .ok { found with options := (entry.1.key, entry.2) :: found.options }
      else .error .misuse
  | _ => .ok { found with options := (entry.1.key, entry.2) :: found.options }

def Grammar.wantsOperand (grammar : Grammar) (found : Found) : Bool :=
  grammar.operands != .none && found.operands.isEmpty

def Grammar.takeOperand (grammar : Grammar) (found : Found) (text : String) : Found :=
  if grammar.wantsOperand found then { found with operands := [text] }
  else { found with surplus := true }

/-- Goes through the arguments in order. Two hyphens belong to an operand beside them. -/
def Grammar.walk (grammar : Grammar) (found : Found) :
    List (String × Token) → Except Refusal Found
  | [] => .ok found
  | (text, .operand) :: rest =>
      if grammar.operands = .command && found.operands.isEmpty then
        .ok { found with operands := text :: rest.map (·.1) }
      else
        let taken := grammar.takeOperand found text
        match rest with
        | (other, .hyphens) :: more =>
            if grammar.wantsOperand found then grammar.walk taken more
            else grammar.walk taken ((other, .hyphens) :: more)
        | rest => grammar.walk taken rest
  | [(_, .hyphens)] => .ok { found with surplus := true }
  | (text, .hyphens) :: (operand, token) :: more =>
      if grammar.operands = .command && found.operands.isEmpty then
        .ok { found with operands := text :: operand :: more.map (·.1) }
      else if grammar.wantsOperand found then
        grammar.walk (grammar.takeOperand found operand) more
      else grammar.walk { found with surplus := true } ((operand, token) :: more)
  | (_, .unknown) :: rest => grammar.walk { found with surplus := true } rest
  | (text, .option rule isLong attached) :: rest => do
      let spread ← grammar.spread (text.length + 1) rule isLong attached
      let found := { found with surplus := found.surplus || spread.surplus }
      match spread.open?, rest with
      | none, rest => grammar.walk (← spread.options.foldlM Found.take found) rest
      | some last, (value, .operand) :: more =>
          grammar.walk (← (spread.options ++ [(last, value)]).foldlM Found.take found) more
      | some _, _ => .error .misuse
termination_by tokens => tokens.length

def Grammar.parse (grammar : Grammar) (arguments : List String) : Except Refusal Found := do
  grammar.walk ⟨[], [], false⟩ (← grammar.tokens arguments)

def Found.value? (found : Found) (key : String) : Option String :=
  (found.options.find? fun entry => entry.1 == key).map (·.2)

def Found.has (found : Found) (key : String) : Bool := (found.value? key).isSome

end DexGraft.CommandLine
