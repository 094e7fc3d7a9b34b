import SignatureLint.Declaration.Basic

/-!
# Lines of a dump

A line of a dump is its number and its text without the blanks that end it. If the text starts with a
blame, `commit (<author>when) `, the blame is split off and the text is what follows it. `Line.shape`
tells by indentation and first word what the rest of the dump makes of the line: packages stand at the
margin, class headers are two spaces in and end in a brace, members are four spaces in.
-/

namespace SignatureLint

/-- A line of a dump. -/
structure Line where
  /-- Counted from 1. -/
  number : Nat
  text : List Char
  blame : Option Blame
deriving DecidableEq

/-- What a line is to the dump it stands in. -/
inductive Line.Shape where
  | package
  | header
  | method
  | field
  /-- The end of a class. -/
  | close
  | other
deriving DecidableEq, Repr

namespace Blame

/-- Whether a text can be an abbreviated commit: seven or more digits and lower-case letters. -/
def isCommit (text : List Char) : Bool := 7 ≤ text.length && text.all fun c => c.isLower || c.isDigit

/-- The text after the first closing bracket that has a space behind it. -/
def afterBracket : List Char → Option (List Char)
  | ')' :: ' ' :: rest => some rest
  | _ :: rest => afterBracket rest
  | [] => none

/-- Splits the blame off a text. The author is not empty; an ASCII character follows the author's
closing mark, and the text after the blame is not empty. -/
def split? (text : List Char) : Option (Blame × List Char) :=
  let commit := text.takeWhile (· != ' ')
  match text.dropWhile (· != ' ') with
  | ' ' :: '(' :: '<' :: rest =>
    let author := rest.takeWhile (· != '>')
    match rest.dropWhile (· != '>') with
    | '>' :: first :: rest =>
      match afterBracket rest with
      | some (c :: rest) =>
        if isCommit commit && author != [] && first.toNat < 0x80 then
          some (⟨String.ofList commit, String.ofList author⟩, c :: rest)
        else none
      | _ => none
    | _ => none
  | _ => none

end Blame

namespace Line

/-- The line of a number, cut out of a dump. -/
def ofText (number : Nat) (text : String) : Line :=
  let text := Text.trimEnd text.toList
  match Blame.split? text with
  | some (blame, text) => { number, text, blame := some blame }
  | none => { number, text, blame := none }

def startsWith (line : Line) (start : String) : Bool := start.toList.isPrefixOf line.text

/-- What the lines of constructors and methods start with. -/
def methodStarts : List String := ["    ctor", "    method"]

/-- What the lines of fields start with. -/
def fieldStarts : List String := ["    field", "    property", "    enum_constant"]

def shape (line : Line) : Shape :=
  if line.startsWith "package" then .package
  else if line.startsWith "  " && !line.startsWith "    " && line.text.getLast? = some '{' then .header
  else if methodStarts.any line.startsWith then .method
  else if fieldStarts.any line.startsWith then .field
  else if line.startsWith "  \x7d" then .close
  else .other

/-- What stands before the version in the line that names a dump's format. -/
def formatStart : String := "// Signature format: "

/-- The version that the first line of a dump names. -/
def version? (line : Line) : Option (List Char) :=
  if line.number = 1 && line.startsWith formatStart then some (line.text.drop formatStart.length) else none

/-- What stands around the text of a declaration. -/
def isEdge (c : Char) : Bool := c = ' ' || c = '{' || c = ';'

/-- The origin of what the line declares. -/
def origin (line : Line) : Origin :=
  { line := line.number, raw := String.ofList (Text.trimBy isEdge line.text), blame := line.blame }

end Line

end SignatureLint
