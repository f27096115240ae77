import BulkDelivery.Operation.Json
import BulkDelivery.Proofs.Json.Reading

/-!
# Operations are read back from JSON

The JSON form of an operation is read as an object of four values, and each of them is read back by
its own reader: the action from its name, the target as it is, the octets and the retry count
because they are within the bounds that are checked.

## Main definitions

* `Operation.jsonValue` — the value that the JSON form of an operation is read as.

## Main results

* `Operation.parse?_jsonChars` — what is written is read as that value.
* `Operation.ofJsonValue?_jsonValue` — that value describes the operation.
* `Operation.json_form_round_trip` — **an operation is read back from its JSON form, and no two
  operations share one.**
-/

namespace BulkDelivery

theorem Action.ofJsonName?_jsonName (a : Action) : ofJsonName? a.jsonName = some a := by
  cases a <;> decide

namespace Operation

open Json (ReadsAs)

/-! ### The value of an operation -/

/-- The number of an octet. -/
def octetValue (x : UInt8) : Json.Value :=
  .number (some (x.toNat : Int))

/-- The value of a payload. -/
def payloadValue : Option Bytes → Json.Value
  | none => .null
  | some b => .array (b.map octetValue)

/-- The members of an operation: names, what is written for them, and what that is read as. -/
def jsonMembers (o : Operation) : List (String × List Char × Json.Value) :=
  [ ("kind", Json.quote o.action.jsonName.toList, .text (some o.action.jsonName)),
    ("target", Json.quote o.target.toList, .text (some o.target)),
    ("payload", payloadJson o.payload, payloadValue o.payload),
    ("retry_on_conflict", Json.integerText o.conflictRetries.toInt,
      .number (some o.conflictRetries.toInt)) ]

/-- The value that the JSON form of an operation is read as. -/
def jsonValue (o : Operation) : Json.Value :=
  .object (o.jsonMembers.map fun m => (some m.1, m.2.2))

/-! ### What is written is read as that value -/

theorem readsAs_quote_toList (s : String) : ReadsAs (Json.quote s.toList) (.text (some s)) := by
  simpa using Json.readsAs_quote s.toList

theorem readsAs_payloadJson (payload : Option Bytes) :
    ReadsAs (payloadJson payload) (payloadValue payload) := by
  cases payload with
  | none => exact Json.readsAs_null
  | some b => exact Json.readsAs_array fun x _ => Json.readsAs_integerText (x.toNat : Int)

theorem readsAs_of_mem_jsonMembers {o : Operation} {m : String × List Char × Json.Value}
    (h : m ∈ o.jsonMembers) : ReadsAs m.2.1 m.2.2 := by
  simp only [jsonMembers, List.mem_cons, List.not_mem_nil, or_false] at h
  rcases h with rfl | rfl | rfl | rfl
  · exact readsAs_quote_toList _
  · exact readsAs_quote_toList _
  · exact readsAs_payloadJson _
  · exact Json.readsAs_integerText _

theorem parse?_jsonChars (o : Operation) : Json.parse? o.jsonChars = some o.jsonValue :=
  (Json.readsAs_object fun _ h => readsAs_of_mem_jsonMembers h).parse?_eq

/-! ### That value describes the operation -/

theorem octetOfJson?_octetValue (x : UInt8) : octetOfJson? (octetValue x) = some x := by
  have hbound : x.toNat < 256 := x.toNat_lt
  rw [octetValue, octetOfJson?, if_pos (by omega), Int.toNat_natCast, UInt8.ofNat_toNat]

theorem mapM_octetValue (b : Bytes) : (b.map octetValue).mapM octetOfJson? = some b := by
  induction b with
  | nil => rfl
  | cons x b ih =>
    rw [List.map_cons, List.mapM_cons, octetOfJson?_octetValue, ih]
    rfl

theorem payloadOfJson?_payloadValue (payload : Option Bytes) :
    payloadOfJson? (payloadValue payload) = some payload := by
  cases payload with
  | none => rfl
  | some b => rw [payloadValue, payloadOfJson?, mapM_octetValue, Option.map_some]

theorem retriesOfJson?_toInt (x : Int32) : retriesOfJson? (.number (some x.toInt)) = some x := by
  have hlower := x.le_toInt
  have hupper := x.toInt_lt
  rw [retriesOfJson?, if_pos ⟨hlower, hupper⟩, Int32.ofInt_toInt]

theorem ofJsonValue?_jsonValue (o : Operation) : ofJsonValue? o.jsonValue = some o := by
  have hfields : ofJsonValue? o.jsonValue =
      ofFields? (.text (some o.action.jsonName)) (.text (some o.target)) (payloadValue o.payload)
        (.number (some o.conflictRetries.toInt)) := by
    simp [jsonValue, jsonMembers, ofJsonValue?, required?, optional?, valuesOf]
  rw [hfields, ofFields?, actionOfJson?, Action.ofJsonName?_jsonName, textOfJson?,
    payloadOfJson?_payloadValue, retriesOfJson?_toInt]
  rfl

/-! ### The JSON form -/

theorem ofJson?_toJson (o : Operation) : ofJson? o.toJson = some o := by
  rw [ofJson?, toJson, String.toList_ofList, parse?_jsonChars, Option.bind_some,
    ofJsonValue?_jsonValue]

theorem toJson_injective : Function.Injective toJson := by
  intro o o' hform
  have hread := ofJson?_toJson o
  rw [hform, ofJson?_toJson, Option.some.injEq] at hread
  exact hread.symm

/-- **An operation is read back from its JSON form, and no two operations share one**, whatever its
target and payload and however often it may be retried. -/
theorem json_form_round_trip :
    (∀ o : Operation, ofJson? o.toJson = some o) ∧ Function.Injective toJson :=
  ⟨ofJson?_toJson, toJson_injective⟩

/-- Escapes of a letter, of four digits and of none, an octet list and a negative number. -/
example :
    toJson { action := .update, target := "\"\x01é𝄞", payload := some [0, 255],
             conflictRetries := -1 } =
      "\x7b\"kind\":\"Update\",\"target\":\"\\\"\\u0001é𝄞\",\"payload\":[0,255]," ++
        "\"retry_on_conflict\":-1\x7d" := by
  decide

end Operation

end BulkDelivery
