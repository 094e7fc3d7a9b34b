import SignatureLint.Lint.Rule

/-!
# Constants

A constant is a field that is static and final. Its name is upper-case words joined by underscores,
and a constant of a simple type or a string has a value in the dump. A constant that starts with
`MIN_` or `MAX_` and is no string had better be a method. Resource classes keep names of their own,
and two platform classes are left out.
-/

namespace SignatureLint.Rules

/-- The types whose constants have a value. -/
def valuedTypes : List String := [
  "java.lang.String", "byte", "short", "int", "long", "float", "double", "boolean", "char"]

/-- Whether a name is made of upper-case letters, digits and underscores. -/
def isConstantName (name : String) : Bool :=
  name != "" && name.toList.all fun c => c.isUpper || c.isDigit || c = '_'

/-- Whether a full name is that of a resource class: `android.R.` and a lower-case letter. -/
def isResourceClass (fullname : String) : Bool :=
  "android.R.".toList.isPrefixOf fullname.toList && (fullname.toList.drop 10).head?.any Char.isLower

/-- Whether the constants of a class are not checked. -/
def keepsOwnConstants (fullname : String) : Bool :=
  isResourceClass fullname || "android.os.Build".toList.isPrefixOf fullname.toList ||
    fullname = "android.system.OsConstants"

def isConstant (f : Field) : Bool := f.modifiers.has "static" && f.modifiers.has "final"

/-- Whether a field's name says that it is a limit. -/
def namesLimit (name : String) : Bool := "MIN_".toList.isPrefixOf name.toList || "MAX_".toList.isPrefixOf name.toList

/-- The findings on one constant. -/
def checkConstant (v : ClassView) (f : Field) : List Finding :=
  (if isConstantName f.name then []
    else [v.finding .error (some (.field f)) "C2" "Constant field names must be FOO_NAME"]) ++
  (if f.type != "java.lang.String" && namesLimit f.name then
    [v.finding .warning (some (.field f)) "C8" "If min/max could change in future, make them dynamic methods"]
    else []) ++
  (if f.type ∈ valuedTypes && f.value.isNone then
    [v.finding .error (some (.field f)) "C2" "All constants must be defined at compile time"]
    else [])

def constants : Rule where
  ids := ["C2", "C8"]
  description := "Constants are named FOO_NAME and defined at compile time"
  check v := if keepsOwnConstants v.own.fullname then [] else (v.fields.filter isConstant).flatMap (checkConstant v)

end SignatureLint.Rules
