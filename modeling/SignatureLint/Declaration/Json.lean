import SignatureLint.Declaration.Basic
import SignatureLint.Json.Basic

/-!
# Declarations as JSON

How a dumped model writes its declarations. What the library derives is written out: a class has its
full name, its simple name and its first supertypes beside the lists they come from. The modifiers of
a package are not written.
-/

namespace SignatureLint

namespace Blame

def toJson (b : Blame) : Json := .record [("commit", .string b.commit), ("author", .string b.author)]

end Blame

namespace Origin

/-- The fields that every declaration has. -/
def jsonFields (o : Origin) : List (String × Json) :=
  [("line", .number o.line), ("raw", .string o.raw), ("blame", .orNull (o.blame.map Blame.toJson))]

end Origin

namespace ClassName

def toJson (n : ClassName) : Json := .record [("package", .string n.package), ("fullname", .string n.fullname)]

end ClassName

namespace Package

def toJson (p : Package) : Json := .record (("name", .string p.name) :: p.origin.jsonFields)

end Package

namespace Parameter

def toJson (p : Parameter) : Json :=
  .record [("typ", .string p.type), ("name", .stringOrNull p.name), ("annotations", .strings p.annotations),
    ("default", .stringOrNull p.value)]

end Parameter

namespace Method

def jsonFields (m : Method) : List (String × Json) :=
  m.origin.jsonFields ++
    [("owner", .string m.owner), ("kind", .string m.kind.keyword), ("modifiers", .strings m.modifiers.items),
      ("annotations", .strings m.annotations), ("typ", .string m.type), ("name", .string m.name),
      ("parameters", .array (m.parameters.map Parameter.toJson)), ("throws", .strings m.throws),
      ("default_value", .stringOrNull m.value)]

def toJson (m : Method) : Json := .record m.jsonFields

end Method

namespace Field

def jsonFields (f : Field) : List (String × Json) :=
  f.origin.jsonFields ++
    [("owner", .string f.owner), ("modifiers", .strings f.modifiers.items), ("annotations", .strings f.annotations),
      ("typ", .string f.type), ("name", .string f.name), ("value", .stringOrNull f.value)]

def toJson (f : Field) : Json := .record f.jsonFields

end Field

namespace Class

/-- The fields of a class, its members left to the caller. -/
def jsonFields (c : Class) : List (String × Json) :=
  c.origin.jsonFields ++
    [("package", .string c.package), ("format", .string c.format.label), ("modifiers", .strings c.modifiers.items),
      ("annotations", .strings c.annotations), ("fullname", .string c.fullname), ("name", .string c.name),
      ("extends", .stringOrNull c.superclass), ("extends_all", .strings c.superclasses),
      ("implements", .stringOrNull c.leadInterface), ("implements_all", .strings c.interfaces)]

def toJson (c : Class) : Json :=
  .record (("methods", .array (c.methods.map Method.toJson)) :: ("fields", .array (c.fields.map Field.toJson)) ::
    c.jsonFields)

end Class

end SignatureLint
