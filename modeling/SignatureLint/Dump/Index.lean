import SignatureLint.Declaration.Json
import SignatureLint.Dump.Stream

/-!
# A dump by name

An index holds the packages and classes of a dump in increasing order of their names. Where a name is
declared twice the first declaration stays, and the later ones are left out.
-/

namespace SignatureLint

/-- The declarations of a dump by name. -/
structure Index where
  format : Format
  packages : SortedBy Package.name
  classes : SortedBy Class.fullname
  diagnostics : List Diagnostic
deriving DecidableEq

/-- The index of what a dump declares. -/
def Contents.index (c : Contents) : Index :=
  { format := c.format
    packages := .ofListNew c.packages
    classes := .ofListNew c.classes
    diagnostics := c.diagnostics }

namespace Index

def class? (i : Index) (fullname : String) : Option Class := i.classes.find? fullname

def package? (i : Index) (name : String) : Option Package := i.packages.find? name

/-- The package that a class stands in. -/
def packageOf? (i : Index) (c : Class) : Option Package := i.package? c.package

/-- The classes of a package by full name. -/
def classesIn (i : Index) (package : String) : List Class := i.classes.items.filter (·.package = package)

def toJson (i : Index) : Json :=
  .record [("format", .number i.format.number), ("packages", .array (i.packages.items.map Package.toJson)),
    ("classes", .array (i.classes.items.map Class.toJson)),
    ("diagnostics", .array (i.diagnostics.map Diagnostic.toJson))]

end Index

end SignatureLint
