import SignatureLint.Declaration.Json

/-!
# Violations

A violation says that a class, or a member of it, breaks a rule. Its signature joins the class, the
member, the rule and the message, and leaves out all white space and where the declaration stood: two
violations with one signature are the same finding, in two dumps as well as in one.
-/

namespace SignatureLint

/-- How grave a violation is. -/
inductive Severity where
  | error
  | warning
deriving DecidableEq, Repr

namespace Severity

def label : Severity → String
  | .error => "Error"
  | .warning => "Warning"

end Severity

/-- The class, the member, the rule and the message, joined by colons and without white space. -/
def violationSignature (className : String) (member : Option String) (rule message : String) : String :=
  String.ofList <|
    (":".intercalate [className, member.getD "", rule, message]).toList.filter fun c => !Text.isBlank c

/-- A broken rule. -/
structure Violation where
  rule : String
  severity : Severity
  message : String
  /-- The full name of the class. -/
  className : String
  /-- The identity of the member; none if the class itself breaks the rule. -/
  member : Option String
  /-- Where the member stood, or the class. -/
  origin : Origin
  signature : String := violationSignature className member rule message
  signature_eq : signature = violationSignature className member rule message := by rfl
deriving DecidableEq

namespace Violation

def isError (v : Violation) : Bool := v.severity = .error

/-- A violation on three lines: what is broken, the declaration, and where it stood. -/
def display (v : Violation) : String :=
  v.severity.label ++ " " ++ v.rule ++ ": " ++ v.message ++ "\n    " ++ v.origin.raw ++ "\n    in " ++ v.className ++
    " (line " ++ toString v.origin.line ++ ")" ++
    match v.origin.blame with
    | none => ""
    | some blame => " [" ++ blame.commit ++ " " ++ blame.author ++ "]"

def toJson (v : Violation) : Json :=
  .record (v.origin.jsonFields ++
    [("rule", .string v.rule), ("severity", .string v.severity.label), ("message", .string v.message),
      ("class", .string v.className), ("member", .stringOrNull v.member), ("signature", .string v.signature)])

end Violation

end SignatureLint
