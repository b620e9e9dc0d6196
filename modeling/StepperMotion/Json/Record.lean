import StepperMotion.Json.Basic

/-!
# Reading records

A record with named fields is written as an object, or as an array of its fields in their order.
In an object every name has to be text, members that are no field are passed over whatever they
hold, and no field may be given twice. In an array fields may be missing at the end, and there
may be no more elements than fields. What a missing field means is up to the record.

A choice among names is written as the name, or as an object whose only member has that name and
the value null.
-/

namespace StepperMotion.Json

/-- The text, if the document is one. -/
def text? : Json → Option String
  | string s => s
  | _ => none

/-- The truth value, if the document is one. -/
def bool? : Json → Option Bool
  | bool b => some b
  | _ => none

/-- The integer, if the document is one between `lo` and `hi`. -/
def int? (lo hi : Int) : Json → Option Int
  | number n => n.toInt?.filter fun x => decide (lo ≤ x ∧ x ≤ hi)
  | _ => none

/-- The natural number, if the document is one up to `hi`. -/
def nat? (hi : Nat) (v : Json) : Option Nat := (v.int? 0 hi).map Int.toNat

/-- The elements, if the document is an array and every element can be read. -/
def list? {α : Type} (read : Json → Option α) : Json → Option (List α)
  | array vs => vs.mapM read
  | _ => none

/-- What `read` makes of the document, and `none` for null. -/
def optional? {α : Type} (read : Json → Option α) : Json → Option (Option α)
  | null => some none
  | v => (read v).map some

/-- The value that the document names. -/
def choice? {α : Type} (named : List (String × α)) : Json → Option α
  | string (some s) => named.lookup s
  | object [(some s, null)] => named.lookup s
  | _ => none

/-- The members of an object, if every name is text. -/
def namedMembers? : List (Option String × Json) → Option (List (String × Json)) :=
  List.mapM fun (k, v) => k.map (·, v)

/-- The fields of a record that are given, by name. -/
def fields? (names : List String) : Json → Option (List (String × Json))
  | array vs => if vs.length ≤ names.length then some (names.zip vs) else none
  | object ms => do
    let known := (← namedMembers? ms).filter fun m => names.contains m.1
    if (known.map Prod.fst).Nodup then some known else none
  | _ => none

/-- The value of a field that must be given. -/
def required? {α : Type} (fields : List (String × Json)) (name : String)
    (read : Json → Option α) : Option α :=
  (fields.lookup name).bind read

/-- The value of a field, or `missing` if it is not given. -/
def field? {α : Type} (fields : List (String × Json)) (name : String) (read : Json → Option α)
    (missing : α) : Option α :=
  match fields.lookup name with
  | some v => read v
  | none => some missing

end StepperMotion.Json
