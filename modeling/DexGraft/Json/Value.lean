/-!
Structured data as spec files hold it. Whole numbers are kept apart from
decimal ones, and an object keeps all its members in order.
-/
namespace DexGraft

inductive Json
  | null
  | boolean (value : Bool)
  | integer (value : Int)
  /-- `digits` times ten to the power `exponent`. -/
  | decimal (negative : Bool) (digits : Nat) (exponent : Int)
  | infinite (negative : Bool)
  | notNumber
  | string (value : String)
  | list (items : List Json)
  | object (members : List (String × Json))

namespace Json

/-- Of members with one key the last counts. -/
def member? : Json → String → Option Json
  | .object members, key => (members.reverse.find? fun member => member.1 == key).map (·.2)
  | _, _ => none

def isObject : Json → Bool
  | .object _ => true
  | _ => false

end Json
end DexGraft
