import SignatureLint.Lint.Rule

/-!
# Thrown types

Methods and constructors throw types that say what went wrong, none of the three that stand for
anything that can be thrown.
-/

namespace SignatureLint.Rules

/-- The types that say nothing of what went wrong. -/
def genericExceptions : List String := ["java.lang.Exception", "java.lang.Throwable", "java.lang.Error"]

def throwsGeneric (m : Method) : Bool := m.throws.any (genericExceptions.contains ·)

def exceptions : Rule where
  ids := ["S1"]
  description := "Methods throw specific exception types"
  check v := (v.methods.filter throwsGeneric).map fun m =>
    v.finding .error (some (.method m)) "S1" "Methods must not throw generic exceptions"

end SignatureLint.Rules
