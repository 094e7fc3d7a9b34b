import SignatureLint.Lint.Rule

/-!
# Equality

A class that overrides one of `equals(Object)` and `hashCode()` overrides the other as well. Static
methods and methods of other parameters or results override neither.
-/

namespace SignatureLint.Rules

/-- Whether the class has a method of this shape that is not static. -/
def overrides (v : ClassView) (type name : String) (parameterTypes : List String) : Bool :=
  v.plainMethods.any fun m => !m.modifiers.has "static" && m.hasShape type name parameterTypes

def equality : Rule where
  ids := ["M8"]
  description := "equals(Object) and hashCode() are overridden together"
  check v :=
    if overrides v "boolean" "equals" ["java.lang.Object"] = overrides v "int" "hashCode" [] then []
    else [v.finding .error none "M8" "Must override both equals and hashCode; missing one"]

end SignatureLint.Rules
