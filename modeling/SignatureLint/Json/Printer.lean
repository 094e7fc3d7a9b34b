import SignatureLint.Json.Basic

/-!
# Printing JSON

Two printed forms. `compact` puts everything on one line without spaces. `pretty` gives every item of
a non-empty array and every field of a non-empty object a line of its own, two spaces deeper than its
brackets, and puts one space after a field's colon; an empty array or object stays `[]` or two braces.

Inside a string only the quote, the backslash and the control characters below the space are escaped;
all other characters, the non-ASCII ones too, are written as they are.
-/

namespace SignatureLint.Json

/-- One character inside a string. -/
def escapeChar (c : Char) : List Char :=
  if c = '"' || c = '\\' then ['\\', c]
  else if c = '\x08' then ['\\', 'b']
  else if c = '\t' then ['\\', 't']
  else if c = '\n' then ['\\', 'n']
  else if c = '\x0c' then ['\\', 'f']
  else if c = '\r' then ['\\', 'r']
  else if c.toNat < 0x10 then '\\' :: 'u' :: '0' :: '0' :: '0' :: Nat.toDigits 16 c.toNat
  else if c.toNat < 0x20 then '\\' :: 'u' :: '0' :: '0' :: Nat.toDigits 16 c.toNat
  else [c]

/-- A string with its quotes. -/
def quoted (text : String) : String := String.ofList ('"' :: text.toList.flatMap escapeChar ++ ['"'])

mutual
/-- A value on one line, without spaces. -/
def compact : Json → String
  | .null => "null"
  | .bool value => if value then "true" else "false"
  | .number value => toString value
  | .string value => quoted value
  | .array items => "[" ++ ",".intercalate (compactItems items) ++ "]"
  | .object fields => "\x7b" ++ ",".intercalate (compactFields fields) ++ "\x7d"
/-- Each item of an array. -/
def compactItems : List Json → List String
  | [] => []
  | item :: items => compact item :: compactItems items
/-- Each field of an object. -/
def compactFields : List (String × Json) → List String
  | [] => []
  | (name, value) :: fields => (quoted name ++ ":" ++ compact value) :: compactFields fields
end

/-- Bracketed parts: each on a line of its own at `depth + 1`, the closing bracket at `depth`. -/
def spread (opening closing : String) (depth : Nat) : List String → String
  | [] => opening ++ closing
  | parts =>
    let indent (n : Nat) : String := "\n" ++ String.ofList (List.replicate (2 * n) ' ')
    opening ++ ",".intercalate (parts.map (indent (depth + 1) ++ ·)) ++ indent depth ++ closing

mutual
/-- A value spread over lines, starting at an indentation of `depth` steps. -/
def prettyAt (depth : Nat) : Json → String
  | .null => "null"
  | .bool value => if value then "true" else "false"
  | .number value => toString value
  | .string value => quoted value
  | .array items => spread "[" "]" depth (prettyItems (depth + 1) items)
  | .object fields => spread "\x7b" "\x7d" depth (prettyFields (depth + 1) fields)
/-- Each item of an array. -/
def prettyItems (depth : Nat) : List Json → List String
  | [] => []
  | item :: items => prettyAt depth item :: prettyItems depth items
/-- Each field of an object. -/
def prettyFields (depth : Nat) : List (String × Json) → List String
  | [] => []
  | (name, value) :: fields => (quoted name ++ ": " ++ prettyAt depth value) :: prettyFields depth fields
end

/-- A value spread over lines. -/
def pretty (value : Json) : String := prettyAt 0 value

end SignatureLint.Json
