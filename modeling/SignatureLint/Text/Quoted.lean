import SignatureLint.Text.Printable
import SignatureLint.Text.Grapheme

/-!
# Quoted display

Messages show a text between double quotes, on one line and with nothing invisible in it. A quote
and a backslash get a backslash; NUL, tab, line feed and carriage return have short names; any other
character that is not printable, or that would join the character before it, is written as its code
point in lower-case hexadecimal between braces. A list of texts stands in square brackets.
-/

namespace SignatureLint.Text

/-- One character as it stands inside the quotes. -/
def escapeChar (c : Char) : List Char :=
  if c = '\x00' then ['\\', '0']
  else if c = '\t' then ['\\', 't']
  else if c = '\n' then ['\\', 'n']
  else if c = '\r' then ['\\', 'r']
  else if c = '"' || c = '\\' then ['\\', c]
  else if isPrintable c && !extendsGrapheme c then [c]
  else '\\' :: 'u' :: '{' :: Nat.toDigits 16 c.toNat ++ ['}']

/-- A text between double quotes. -/
def quoted (text : String) : String := String.ofList ('"' :: text.toList.flatMap escapeChar ++ ['"'])

/-- A list of texts, each between double quotes. -/
def quotedList (texts : List String) : String := "[" ++ ", ".intercalate (texts.map quoted) ++ "]"

end SignatureLint.Text
