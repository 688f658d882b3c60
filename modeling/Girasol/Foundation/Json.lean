import Girasol.Foundation.Machine

/-!
# JSON values

The values `serde_json` parses, with the accessors the program uses.
-/

namespace Girasol.Foundation

/-- A parsed JSON value.  An integer literal in range is kept as one; `negInt n` is `-n`. -/
inductive Json where
  | null
  | bool (b : Bool)
  | posInt (n : Nat)
  | negInt (n : Nat)
  | float (x : ℚ)
  | string (s : String)
  | array (items : List Json)
  | object (fields : List (String × Json))

namespace Json

/-- `value.get(key)` of an object; anything else has no fields. -/
def get? (v : Json) (key : String) : Option Json :=
  match v with
  | .object fields => fields.lookup key
  | _ => none

def asArray : Json → Option (List Json)
  | .array items => some items
  | _ => none

def asStr : Json → Option String
  | .string s => some s
  | _ => none

def asBool : Json → Option Bool
  | .bool b => some b
  | _ => none

def asU64 : Json → Option Nat
  | .posInt n => some n
  | _ => none

def asF64 (r : Rounding) : Json → Option ℚ
  | .posInt n => some (r.ofU64 n)
  | .negInt n => some (-r.ofU64 n)
  | .float x => some x
  | _ => none

def isNull : Json → Bool
  | .null => true
  | _ => false

end Json

end Girasol.Foundation
