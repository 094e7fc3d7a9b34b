import SignatureLint.Declaration.Basic

/-!
# The order of classes

A dump lists packages by name and the classes of a package by name. Classes are compared in that
order: by package first, by full name inside a package.
-/

namespace SignatureLint

namespace ClassName

/-- Package first, then full name. -/
def compare (a b : ClassName) : Ordering :=
  (Ord.compare a.package b.package).then (Ord.compare a.fullname b.fullname)

/-- The names in order; names that compare equal keep their places. -/
def sort (names : List ClassName) : List ClassName := names.mergeSort fun a b => compare a b != .gt

end ClassName

/-- What is named like a class. -/
class Named (α : Type) where
  className : α → ClassName

export Named (className)

instance : Named ClassName := ⟨id⟩

instance : Named Class := ⟨Class.className⟩

end SignatureLint
