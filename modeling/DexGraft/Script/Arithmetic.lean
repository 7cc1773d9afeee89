import DexGraft.Script.Reader

/-!
Whole-number expressions with the usual operators. A name stands for the value
of its variable, nought if that is no number.
-/
namespace DexGraft.Script

inductive Sign
  | number (value : Int)
  | operator (text : String)

def operators : List String :=
  ["<=", ">=", "==", "!=", "&&", "||", "+", "-", "*", "/", "%", "(", ")", "<", ">", "!"]

def signsOf (value : String → Int) : (fuel : Nat) → List Char → Option (List Sign)
  | 0, _ => none
  | _ + 1, [] => some []
  | fuel + 1, c :: rest =>
      if c == ' ' || c == '\t' || c == '\n' then signsOf value fuel rest
      else if Text.isAsciiDigit c then
        let digits := (c :: rest).takeWhile Text.isAsciiDigit
        let number := digits.foldl (fun value c => value * 10 + (c.toNat - '0'.toNat)) 0
        (signsOf value fuel ((c :: rest).dropWhile Text.isAsciiDigit)).map
          (.number (Int.ofNat number) :: ·)
      else if isNameStart c then
        let (name, after) := takeName (c :: rest)
        (signsOf value fuel after).map (.number (value name) :: ·)
      else
        match operators.find? fun word => word.toList.isPrefixOf (c :: rest) with
        | some word =>
            (signsOf value fuel ((c :: rest).drop word.length)).map (.operator word :: ·)
        | none => none

def truth (value : Bool) : Int := if value then 1 else 0

def apply (operator : String) (a b : Int) : Option Int :=
  match operator with
  | "+" => some (a + b)
  | "-" => some (a - b)
  | "*" => some (a * b)
  | "/" => if b = 0 then none else some (a.tdiv b)
  | "%" => if b = 0 then none else some (a.tmod b)
  | "<" => some (truth (a < b))
  | ">" => some (truth (a > b))
  | "<=" => some (truth (a ≤ b))
  | ">=" => some (truth (a ≥ b))
  | "==" => some (truth (a == b))
  | "!=" => some (truth (a != b))
  | "&&" => some (truth (a != 0 && b != 0))
  | "||" => some (truth (a != 0 || b != 0))
  | _ => none

def tiers : List (List String) :=
  [["||"], ["&&"], ["==", "!="], ["<", ">", "<=", ">="], ["+", "-"], ["*", "/", "%"]]

mutual

def evalTier : (fuel : Nat) → List (List String) → List Sign → Option (Int × List Sign)
  | 0, _, _ => none
  | fuel + 1, [], signs => evalUnit fuel signs
  | fuel + 1, tier :: tighter, signs => do
      let (first, rest) ← evalTier fuel tighter signs
      evalRest fuel tier tighter first rest

def evalRest : (fuel : Nat) → List String → List (List String) → Int → List Sign →
    Option (Int × List Sign)
  | 0, _, _, _, _ => none
  | fuel + 1, tier, tighter, value, signs =>
      match signs with
      | .operator word :: rest =>
          if tier.contains word then do
            let (other, rest) ← evalTier fuel tighter rest
            evalRest fuel tier tighter (← apply word value other) rest
          else some (value, signs)
      | _ => some (value, signs)

def evalUnit : (fuel : Nat) → List Sign → Option (Int × List Sign)
  | 0, _ => none
  | fuel + 1, signs =>
      match signs with
      | .number value :: rest => some (value, rest)
      | .operator "-" :: rest => do
          let (value, rest) ← evalUnit fuel rest
          return (-value, rest)
      | .operator "+" :: rest => evalUnit fuel rest
      | .operator "!" :: rest => do
          let (value, rest) ← evalUnit fuel rest
          return (truth (value == 0), rest)
      | .operator "(" :: rest => do
          match ← evalTier fuel tiers rest with
          | (value, .operator ")" :: rest) => return (value, rest)
          | _ => none
      | _ => none

end

def evalArithmetic (value : String → Int) (text : List Char) : Option Int := do
  let signs ← signsOf value (text.length + 1) text
  if signs.isEmpty then return 0
  match ← evalTier (16 * signs.length + 16) tiers signs with
  | (result, []) => return result
  | _ => none

end DexGraft.Script
