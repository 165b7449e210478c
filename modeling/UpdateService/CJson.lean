import UpdateService.StringUtils
import Mathlib.Data.Rat.Defs

/-!
# JSON documents and `UpdateServiceJsonUtils`

A `cJSON` node as the parser leaves it: `valuedouble` is a rational or an infinity, a member list may
hold a name twice. What is not under the source's control is in `JsonPlatform`: the parser, the
conversion of a number that its type cannot hold, and an `int32_t` nobody has initialised.
-/

namespace UpdateService

/-- A `double` that is not a NaN. -/
inductive Double
  | finite (q : Rat)
  | infinite (isNegative : Bool)
deriving DecidableEq, Repr

inductive Json
  | null
  | bool (value : Bool)
  | number (valuedouble : Double)
  | string (valuestring : String)
  | array (items : List Json)
  | object (members : List (String × Json))

inductive IntType
  | int32 | int64 | uint32 | uint64
deriving DecidableEq, Repr

namespace IntType

def min : IntType → Int
  | int32 => -2 ^ 31
  | int64 => -2 ^ 63
  | uint32 | uint64 => 0

def max : IntType → Int
  | int32 => 2 ^ 31 - 1
  | int64 => 2 ^ 63 - 1
  | uint32 => 2 ^ 32 - 1
  | uint64 => 2 ^ 64 - 1

/-- The largest value as a `double`, which for 64 bits is rounded up. -/
def maxAsDouble : IntType → Rat
  | int32 => 2 ^ 31 - 1
  | int64 => 2 ^ 63
  | uint32 => 2 ^ 32 - 1
  | uint64 => 2 ^ 64

end IntType

structure JsonPlatform where
  parse : String → Option Json
  convert : IntType → Rat → Int
  indeterminate : Int

namespace Json

def getObjectItem (key : String) : Json → Option Json
  | object members => (members.find? fun m => m.1 = key).map Prod.snd
  | _ => none

/-- The nodes that `cJSON_GetArraySize` counts and `cJSON_GetArrayItem` reaches. -/
def children : Json → List Json
  | array items => items
  | object members => members.map Prod.snd
  | _ => []

end Json

inductive JsonParseError
  | errOk | commomError | missingProp | typeError
deriving DecidableEq, Repr

def JsonParseError.toInt : JsonParseError → Int
  | errOk => 0
  | commomError => 1
  | missingProp => 2
  | typeError => 3

namespace UpdateServiceJsonUtils

/-- `CheckInteger`: whether the value is taken, and the value afterwards. -/
def checkInteger (p : JsonPlatform) (t : IntType) (jsonObj : Json) (value : Int) : Bool × Int :=
  match jsonObj with
  | .number (.finite q) =>
    if q.den ≠ 1 then (false, value)
    else if q < t.min ∨ t.maxAsDouble < q then (false, value)
    else (true, if q ≤ t.max then q.num else p.convert t q)
  | _ => (false, value)

/-- `CheckTypeAndAsign` to a `std::string`. -/
def checkString (jsonObj : Json) (value : String) : Bool × String :=
  match jsonObj with
  | .string s => (true, s)
  | _ => (false, value)

/-- `GetValueAndSetTo`: the error code and the value afterwards. -/
def getValueAndSetTo {α : Type*} (checkTypeAndAsign : Json → α → Bool × α) (jsonObject : Json) (key : String)
    (value : α) : Int × α :=
  if key = "" then (JsonParseError.missingProp.toInt, value)
  else
    match jsonObject.getObjectItem key with
    | none => (JsonParseError.missingProp.toInt, value)
    | some item =>
      match checkTypeAndAsign item value with
      | (false, value) => (JsonParseError.typeError.toInt, value)
      | (true, value) => (JsonParseError.errOk.toInt, value)

end UpdateServiceJsonUtils

end UpdateService
