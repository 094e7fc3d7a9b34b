/-!
# Lines of a text

A line feed ends a line, and a single carriage return directly before it belongs to that end. No
other character ends a line. A text that ends in a line feed has no further, empty line after it; a
carriage return at the very end of a text, with no line feed behind it, stays in its line.
-/

namespace SignatureLint.Text

/-- The line without the carriage return that belonged to its end. -/
def dropReturn (line : List Char) : List Char :=
  if line.getLast? = some '\r' then line.dropLast else line

/-- The lines of the pieces between the line feeds of a text: all pieces but the last were ended by a
line feed, and the last is a line unless it is empty. -/
def linesOfPieces : List (List Char) → List (List Char)
  | [] => []
  | [last] => if last = [] then [] else [last]
  | piece :: pieces => dropReturn piece :: linesOfPieces pieces

/-- The lines of a text, without their ends. -/
def lines (text : String) : List String :=
  (linesOfPieces (text.toList.splitOn '\n')).map String.ofList

end SignatureLint.Text
