import BulkDelivery.Json.Value
import BulkDelivery.Operation

/-!
# Operations as JSON

An operation is written as an object of its action, target, payload and retry count, in this
order and without blanks; a payload is a list of numbers.  Reading also takes the same four
values in an array, an action as an object of one null member, members in any order, unknown
members, and an object without a payload.

## Main definitions

* `Operation.toJson` — the JSON text of an operation.
* `Operation.ofJson?` — the operation that a JSON text describes.
-/

namespace BulkDelivery

namespace Action

/-- The name of an action in JSON. -/
def jsonName : Action → String
  | index => "Index"
  | create => "Create"
  | update => "Update"
  | delete => "Delete"

/-- The action with a name in JSON. -/
def ofJsonName? (s : String) : Option Action :=
  all.find? (·.jsonName == s)

end Action

namespace Operation

/-! ### Writing -/

/-- A payload as a list of numbers. -/
def payloadJson : Option Bytes → List Char
  | none => ['n', 'u', 'l', 'l']
  | some b => '[' :: (List.intercalate [','] (b.map fun x => Json.decimal x.toNat) ++ [']'])

/-- A member of an object. -/
def memberJson (name : String) (value : List Char) : List Char :=
  Json.quote name.toList ++ ':' :: value

/-- The JSON text of an operation, as characters. -/
def jsonChars (o : Operation) : List Char :=
  '\x7b' :: (List.intercalate [',']
    [ memberJson "kind" (Json.quote o.action.jsonName.toList),
      memberJson "target" (Json.quote o.target.toList),
      memberJson "payload" (payloadJson o.payload),
      memberJson "retry_on_conflict" (Json.integerText o.conflictRetries.toInt) ] ++ ['\x7d'])

/-- The JSON text of an operation. -/
def toJson (o : Operation) : String :=
  String.ofList o.jsonChars

/-! ### Reading -/

/-- An action: its name, or an object with its name and null. -/
def actionOfJson? : Json.Value → Option Action
  | .text (some s) => Action.ofJsonName? s
  | .object [(some s, .null)] => Action.ofJsonName? s
  | _ => none

/-- A text. -/
def textOfJson? : Json.Value → Option String
  | .text s? => s?
  | _ => none

/-- An octet. -/
def octetOfJson? : Json.Value → Option UInt8
  | .number (some n) => if 0 ≤ n ∧ n < 256 then some (UInt8.ofNat n.toNat) else none
  | _ => none

/-- A payload: null, or a list of octets. -/
def payloadOfJson? : Json.Value → Option (Option Bytes)
  | .null => some none
  | .array items => (items.mapM octetOfJson?).map some
  | _ => none

/-- A retry count. -/
def retriesOfJson? : Json.Value → Option Int32
  | .number (some n) => if -0x80000000 ≤ n ∧ n < 0x80000000 then some (Int32.ofInt n) else none
  | _ => none

/-- An operation from its four values. -/
def ofFields? (action target payload retries : Json.Value) : Option Operation := do
  return {
    action := ← actionOfJson? action
    target := ← textOfJson? target
    payload := ← payloadOfJson? payload
    conflictRetries := ← retriesOfJson? retries }

/-- The values under a name. -/
def valuesOf (name : String) (members : List (Option String × Json.Value)) : List Json.Value :=
  (members.filter (·.1 == some name)).map Prod.snd

/-- The value under a name that must be there exactly once. -/
def required? (name : String) (members : List (Option String × Json.Value)) : Option Json.Value :=
  match valuesOf name members with
  | [v] => some v
  | _ => none

/-- The value under a name that may be there once; null if it is not. -/
def optional? (name : String) (members : List (Option String × Json.Value)) : Option Json.Value :=
  match valuesOf name members with
  | [] => some .null
  | [v] => some v
  | _ => none

/-- The operation that a JSON value describes. -/
def ofJsonValue? : Json.Value → Option Operation
  | .object members =>
    if members.all (·.1.isSome) then do
      ofFields? (← required? "kind" members) (← required? "target" members)
        (← optional? "payload" members) (← required? "retry_on_conflict" members)
    else none
  | .array [action, target, payload, retries] => ofFields? action target payload retries
  | _ => none

/-- The operation that a JSON text describes. -/
def ofJson? (text : String) : Option Operation :=
  (Json.parse? text.toList).bind ofJsonValue?

end Operation

end BulkDelivery
