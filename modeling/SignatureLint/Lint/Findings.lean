import SignatureLint.Lint.Config
import SignatureLint.Lint.Report

/-!
# Findings

A rule answers findings; an examination records them one after the other. A finding of a rule that is
off is dropped, and so is one whose signature was recorded before. What is recorded stands under the
origin of the member, or of the class where no member is named.
-/

namespace SignatureLint

/-- A member that a finding points at. -/
inductive Member where
  | method (method : Method)
  | field (field : Field)
deriving DecidableEq

namespace Member

def ident : Member → String
  | .method m => m.ident
  | .field f => f.ident

def origin : Member → Origin
  | .method m => m.origin
  | .field f => f.origin

end Member

/-- What a rule says about a class or a member of it. -/
structure Finding where
  severity : Severity
  subject : Class
  member : Option Member
  rule : String
  message : String
deriving DecidableEq

namespace Finding

/-- The violation that records a finding. -/
def violation (f : Finding) : Violation :=
  { rule := f.rule
    severity := f.severity
    message := f.message
    className := f.subject.fullname
    member := f.member.map Member.ident
    origin := (f.member.map Member.origin).getD f.subject.origin }

end Finding

/-- The violations recorded so far, in order. -/
structure Findings where
  violations : List Violation
deriving DecidableEq

namespace Findings

def empty : Findings := ⟨[]⟩

/-- Whether a signature was recorded. -/
def hasSeen (fs : Findings) (signature : String) : Bool := fs.violations.any fun v => v.signature == signature

/-- Records a finding. -/
def record (config : Config) (fs : Findings) (f : Finding) : Findings :=
  if config.enables f.rule && !fs.hasSeen f.violation.signature then ⟨fs.violations ++ [f.violation]⟩ else fs

/-- Records findings one after the other. -/
def recordAll (config : Config) (fs : Findings) (findings : List Finding) : Findings :=
  findings.foldl (record config) fs

/-- What is recorded, by rule. -/
def report (fs : Findings) : Report := fs.violations.foldl Report.push .empty

end Findings

end SignatureLint
