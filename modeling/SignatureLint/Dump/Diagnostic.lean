import SignatureLint.Declaration.Error
import SignatureLint.Json.Basic
import SignatureLint.Text.Blank

/-!
# Diagnostics

What is wrong with a line of a dump, and where. No diagnostic stops the reading of a dump.
-/

namespace SignatureLint

/-- What can be wrong with a line. -/
inductive Problem where
  | declaration (error : DeclarationError)
  /-- A member stands in no class. -/
  | outsideClass
  /-- A class stands in no package. -/
  | outsidePackage
  /-- The class has no end. -/
  | unclosedClass (fullname : String)
  /-- The first line names a format that is not known. -/
  | unknownFormat (version : String)
deriving DecidableEq, Repr

/-- Whether a line has no tokens or makes no declaration. -/
inductive DiagnosticKind where
  | lex
  | parse
deriving DecidableEq, Repr

namespace DiagnosticKind

def label : DiagnosticKind → String
  | .lex => "lex"
  | .parse => "parse"

end DiagnosticKind

namespace Problem

def kind : Problem → DiagnosticKind
  | .declaration (.lexical _) => .lex
  | _ => .parse

def message : Problem → String
  | .declaration error => error.message
  | .outsideClass => "member declared outside of a class"
  | .outsidePackage => "class declared outside of a package"
  | .unclosedClass fullname => "class `" ++ fullname ++ "` is never closed; its declaration is dropped"
  | .unknownFormat version => "unknown signature format `" ++ version ++ "`"

end Problem

/-- A problem in a line of a file, with the text of the line. -/
structure Diagnostic where
  file : String
  line : Nat
  problem : Problem
  raw : String
deriving DecidableEq, Repr

namespace Diagnostic

/-- A problem with a text, shown without blanks around it. -/
def ofText (file : String) (line : Nat) (problem : Problem) (text : List Char) : Diagnostic :=
  { file, line, problem, raw := String.ofList (Text.trim text) }

def message (d : Diagnostic) : String := d.problem.message

/-- A diagnostic on one line: where it is and what it says. -/
def display (d : Diagnostic) : String := d.file ++ ":" ++ toString d.line ++ ": " ++ d.message

def toJson (d : Diagnostic) : Json :=
  .record [("file", .string d.file), ("kind", .string d.problem.kind.label), ("line", .number d.line),
    ("message", .string d.message), ("raw", .string d.raw)]

end Diagnostic

end SignatureLint
