import SignatureLint.Dump.Index
import SignatureLint.Lint.Examination

/-!
# Listings

What the commands print as text: the violations of a report, the classes that were noticed, the
classes of an index by package, and the rules.
-/

namespace SignatureLint

/-- Each text on a line of its own. -/
def printLines (texts : List String) : String := String.join (texts.map (· ++ "\n"))

namespace Report

/-- The violations, an empty line after each, and a line that counts them. -/
def display (r : Report) : String :=
  printLines (r.violations.map fun v => v.display ++ "\n") ++
    printLines [toString r.violationCount ++ " violation(s), " ++ toString r.errorCount ++ " error(s), " ++
      toString r.diagnostics.length ++ " diagnostic(s)"]

/-- The names of the classes that were noticed. -/
def displayNoticed (r : Report) : String := printLines (r.noticed.items.map Prod.fst)

end Report

namespace Class

/-- A class on one line: its kind, its full name and how many members it has. -/
def display (c : Class) : String :=
  "  " ++ c.kind.keyword ++ " " ++ c.fullname ++ " (" ++ toString c.methods.length ++ " methods, " ++
    toString c.fields.length ++ " fields)"

end Class

namespace Index

/-- The packages by name, each with its classes by full name. -/
def listing (i : Index) : List (Package × List Class) :=
  i.packages.items.map fun p => (p, i.classesIn p.name)

/-- The format on the first line, then each package with its classes under it. -/
def display (i : Index) : String :=
  printLines (("Signature format " ++ toString i.format.number) ::
    i.listing.flatMap fun (p, classes) => ("package " ++ p.name) :: classes.map Class.display)

end Index

namespace Rule

/-- A rule on one line: its names in a column of eight characters, and its description. -/
def display (r : Rule) : String :=
  let ids := ",".intercalate r.ids
  ids ++ String.ofList (List.replicate (8 - ids.length) ' ') ++ " " ++ r.description

def toJson (r : Rule) : Json := .record [("ids", .strings r.ids), ("description", .string r.description)]

end Rule

end SignatureLint
