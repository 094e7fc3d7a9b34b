/-!
# JSON values

The values that reports and dumped models are written in. An object keeps its fields in the order in
which it holds them; `Json.record` builds one with its fields in increasing order of their names,
which is how every object of this library is written.
-/

namespace SignatureLint

/-- A JSON value whose numbers are natural. -/
inductive Json where
  | null
  | bool (value : Bool)
  | number (value : Nat)
  | string (value : String)
  | array (items : List Json)
  | object (fields : List (String × Json))

namespace Json

/-- An object with its fields in increasing order of their names. -/
def record (fields : List (String × Json)) : Json :=
  .object (fields.mergeSort fun a b => decide (a.1 ≤ b.1))

/-- An array of strings. -/
def strings (texts : List String) : Json := .array (texts.map .string)

/-- The value, or null where there is none. -/
def orNull : Option Json → Json
  | none => .null
  | some value => value

/-- The string, or null where there is none. -/
def stringOrNull (text : Option String) : Json := orNull (text.map .string)

end Json

end SignatureLint
