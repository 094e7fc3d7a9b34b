import SignatureLint.Lint.Findings
import SignatureLint.Pairing.Visit

/-!
# Rules

A rule checks one class at a time and answers its findings. The findings name the class itself; the
members that they point at may be those of its counterpart.
-/

namespace SignatureLint

/-- A guideline that classes are checked against. -/
structure Rule where
  /-- The names that its findings are reported under. -/
  ids : List String
  description : String
  check : ClassView → List Finding

namespace Rule

/-- Whether a finding of the rule can be recorded. -/
def isEnabled (config : Config) (r : Rule) : Bool := r.ids.any config.enables

end Rule

namespace ClassView

/-- A finding about the class or a member of it. -/
def finding (v : ClassView) (severity : Severity) (member : Option Member) (rule message : String) : Finding :=
  { severity, subject := v.own, member, rule, message }

end ClassView

end SignatureLint
