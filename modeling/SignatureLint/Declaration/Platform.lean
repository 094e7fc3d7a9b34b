import SignatureLint.Table

/-!
# Names from the language package

A dump writes the types of the package `java.lang` without it. `qualify` puts the package back; every
other name stays as it is, so a name is never qualified twice (`qualify_qualify`).
-/

namespace SignatureLint

/-- The types that a dump writes without their package, in increasing order. -/
def platformTypes : List String := [
  "AbstractMethodError", "AbstractStringBuilder", "Appendable", "ArithmeticException",
  "ArrayIndexOutOfBoundsException", "ArrayStoreException", "AssertionError", "AutoCloseable", "Boolean",
  "BootstrapMethodError", "Byte", "CharSequence", "Character", "Class", "ClassCastException",
  "ClassCircularityError", "ClassFormatError", "ClassLoader", "ClassNotFoundException",
  "CloneNotSupportedException", "Cloneable", "Comparable", "Compiler", "Deprecated", "Double", "Enum",
  "EnumConstantNotPresentException", "Error", "Exception", "ExceptionInInitializerError", "Float",
  "FunctionalInterface", "IllegalAccessError", "IllegalAccessException", "IllegalArgumentException",
  "IllegalMonitorStateException", "IllegalStateException", "IllegalThreadStateException",
  "IncompatibleClassChangeError", "IndexOutOfBoundsException", "InheritableThreadLocal", "InstantiationError",
  "InstantiationException", "Integer", "InternalError", "InterruptedException", "Iterable", "LinkageError",
  "Long", "Math", "NegativeArraySizeException", "NoClassDefFoundError", "NoSuchFieldError",
  "NoSuchFieldException", "NoSuchMethodError", "NoSuchMethodException", "NullPointerException", "Number",
  "NumberFormatException", "Object", "OutOfMemoryError", "Override", "Package", "Process", "ProcessBuilder",
  "Readable", "ReflectiveOperationException", "Runnable", "Runtime", "RuntimeException", "RuntimePermission",
  "SafeVarargs", "SecurityException", "SecurityManager", "Short", "StackOverflowError", "StackTraceElement",
  "StrictMath", "String", "StringBuffer", "StringBuilder", "StringIndexOutOfBoundsException",
  "SuppressWarnings", "System", "Thread", "ThreadDeath", "ThreadGroup", "ThreadLocal", "Throwable",
  "TypeNotPresentException", "UnknownError", "UnsatisfiedLinkError", "UnsupportedClassVersionError",
  "UnsupportedOperationException", "VerifyError", "VirtualMachineError", "Void"
]

/-- The types that a dump writes without their package, for look-ups. -/
def platformTable : Table := .ofList platformTypes (by decide +kernel)

/-- A name with the package that a dump leaves out. -/
def qualify (name : String) : String := if platformTable.has name then "java.lang." ++ name else name

theorem qualify_of_mem {name : String} (bare : name ∈ platformTypes) : qualify name = "java.lang." ++ name :=
  if_pos (Table.has_ofList_iff.mpr bare)

theorem qualify_of_not_mem {name : String} (other : name ∉ platformTypes) : qualify name = name :=
  if_neg fun found => other (Table.has_ofList_iff.mp found)

theorem platformTypes_undotted : ∀ name ∈ platformTypes, '.' ∉ name.toList := by decide +kernel

/-- A qualified name is none of the bare ones. -/
theorem qualify_not_mem (name : String) : qualify name ∉ platformTypes := by
  by_cases bare : name ∈ platformTypes
  · rw [qualify_of_mem bare]
    intro mem
    exact platformTypes_undotted _ mem (by simp)
  · rw [qualify_of_not_mem bare]
    exact bare

theorem qualify_qualify (name : String) : qualify (qualify name) = qualify name :=
  qualify_of_not_mem (qualify_not_mem name)

end SignatureLint
