import SignatureLint.SortedBy
import SignatureLint.Text.Blank

/-!
# Declarations

What a signature dump declares: packages, classes, and the constructors, methods and fields of a
class. A declaration holds what its line says and, in its `Origin`, where it stood. A class is named
by its package and the name it was declared with; its full name and its simple name follow from the
two (`ClassName.fullname`, `Class.name`), and so are not held.

Members own no link to their class but its full name.
-/

namespace SignatureLint

/-- The layout of a dump: format 1 is positional, format 2 has annotations and type arguments inline. -/
inductive Format where
  | v1
  | v2
deriving DecidableEq, Repr

namespace Format

def number : Format → Nat
  | .v1 => 1
  | .v2 => 2

def label : Format → String
  | .v1 => "V1"
  | .v2 => "V2"

/-- The format that the version in a dump's header line stands for; versions 2.0 and 3.0 are laid out alike. -/
def ofHeaderVersion? (version : List Char) : Option Format :=
  let version := String.ofList (Text.trim version)
  if version = "2.0" || version = "3.0" then some .v2 else none

end Format

/-- Who last changed a line: an abbreviated commit and its author. -/
structure Blame where
  commit : String
  author : String
deriving DecidableEq, Repr

/-- Where a declaration stood: its line number from 1, its text without indentation and end mark, and
the blame its line carried. -/
structure Origin where
  line : Nat
  raw : String
  blame : Option Blame
deriving DecidableEq, Repr

/-- A set of words: modifiers, the word of the declaration's kind, and `deprecated` where an
annotation says so. -/
abbrev Modifiers := WordSet

/-- A package. -/
structure Package where
  name : String
  origin : Origin
  modifiers : Modifiers
deriving DecidableEq

/-- A parameter. Its type has a suffix for each array dimension, and three dots if it takes any
number of arguments. -/
structure Parameter where
  type : String
  name : Option String
  annotations : List String
  value : Option String
deriving DecidableEq, Repr

/-- Whether a method makes an object of its class. -/
inductive MethodKind where
  | constructor
  | method
deriving DecidableEq, Repr

namespace MethodKind

/-- The word that a declaration of this kind starts with. -/
def keyword : MethodKind → String
  | .constructor => "ctor"
  | .method => "method"

def all : List MethodKind := [.constructor, .method]

end MethodKind

/-- What the line of a constructor or method says. -/
structure MethodSignature where
  kind : MethodKind
  modifiers : Modifiers
  annotations : List String
  /-- The type of the result; the keyword for a constructor. -/
  type : String
  name : String
  parameters : List Parameter
  throws : List String
  /-- What an element of an annotation type is if it is left out. -/
  value : Option String
deriving DecidableEq

/-- A constructor or method of the class with the full name `owner`. -/
structure Method extends MethodSignature where
  owner : String
  origin : Origin
deriving DecidableEq

namespace MethodSignature

def parameterTypes (m : MethodSignature) : List String := m.parameters.map (·.type)

/-- The identity of a method within its class: type, name and parameter types joined by hyphens. -/
def ident (m : MethodSignature) : String := "-".intercalate (m.type :: m.name :: m.parameterTypes)

/-- Whether the method has just this type, name and parameter types. -/
def hasShape (m : MethodSignature) (type name : String) (parameterTypes : List String) : Bool :=
  m.type = type && m.name = name && m.parameterTypes = parameterTypes

end MethodSignature

/-- The kinds of fields, which differ in their keywords only. -/
inductive FieldKind where
  | field
  | property
  | enumConstant
deriving DecidableEq, Repr

namespace FieldKind

/-- The word that a declaration of this kind starts with. -/
def keyword : FieldKind → String
  | .field => "field"
  | .property => "property"
  | .enumConstant => "enum_constant"

def all : List FieldKind := [.field, .property, .enumConstant]

end FieldKind

/-- What the line of a field says. The value of a field is the text of its tokens, one space between
two of them; a literal keeps its quotes. -/
structure FieldSignature where
  modifiers : Modifiers
  annotations : List String
  type : String
  name : String
  value : Option String
deriving DecidableEq

/-- A field of the class with the full name `owner`. -/
structure Field extends FieldSignature where
  owner : String
  origin : Origin
deriving DecidableEq

/-- A value without the quotes around it, if both are there. -/
def unquote (value : String) : String :=
  match value.toList with
  | '"' :: c :: rest => if (c :: rest).getLast? = some '"' then String.ofList (c :: rest).dropLast else value
  | _ => value

namespace FieldSignature

/-- The identity of a field within its class: type, name and value joined by hyphens. -/
def ident (f : FieldSignature) : String := "-".intercalate [f.type, f.name, f.value.getD ""]

/-- The value without quotes around it. -/
def unquotedValue (f : FieldSignature) : Option String := f.value.map unquote

end FieldSignature

/-- The kinds of classes. -/
inductive ClassKind where
  | ordinary
  | interface
  | annotationType
  | enum
deriving DecidableEq, Repr

namespace ClassKind

def keyword : ClassKind → String
  | .ordinary => "class"
  | .interface => "interface"
  | .annotationType => "@interface"
  | .enum => "enum"

def all : List ClassKind := [.ordinary, .interface, .annotationType, .enum]

end ClassKind

/-- Names a class: the package it stands in and the name it was declared with, which is dotted for a
class inside a class. -/
structure ClassName where
  package : String
  declared : String
deriving DecidableEq, Repr

namespace ClassName

def fullname (n : ClassName) : String := n.package ++ "." ++ n.declared

end ClassName

/-- What the header line of a class says. -/
structure ClassHeader where
  modifiers : Modifiers
  annotations : List String
  declared : String
  /-- What the class extends, in order. -/
  superclasses : List String
  /-- What the class implements, in order. -/
  interfaces : List String
deriving DecidableEq

/-- A class with its members, each kind in the order of declaration. -/
structure Class extends ClassHeader where
  package : String
  origin : Origin
  format : Format
  methods : List Method
  fields : List Field
deriving DecidableEq

namespace ClassHeader

/-- The kind whose keyword is among the modifiers; a header that was read has just one there. -/
def kind (h : ClassHeader) : ClassKind := (ClassKind.all.find? fun k => h.modifiers.has k.keyword).getD .ordinary

def isInterface (h : ClassHeader) : Bool := h.modifiers.has ClassKind.interface.keyword

def isAnnotationType (h : ClassHeader) : Bool := h.modifiers.has ClassKind.annotationType.keyword

end ClassHeader

namespace Class

def className (c : Class) : ClassName := ⟨c.package, c.declared⟩

def fullname (c : Class) : String := c.className.fullname

/-- The part of the full name after its last dot. -/
def name (c : Class) : String := String.ofList (c.fullname.toList.reverse.takeWhile (· != '.')).reverse

/-- The class it extends; of several the first. -/
def superclass (c : Class) : Option String := c.superclasses.head?

/-- The interface that stands for all that the class implements: the first. -/
def leadInterface (c : Class) : Option String := c.interfaces.head?

def constructors (c : Class) : List Method := c.methods.filter (·.kind = .constructor)

/-- The methods that are no constructors. -/
def plainMethods (c : Class) : List Method := c.methods.filter (·.kind = .method)

end Class

end SignatureLint
