import SignatureLint.Lint.Rule

/-!
# Parcelable classes

A class whose lead interface is `android.os.Parcelable` has a field `CREATOR` and the methods
`writeToParcel` and `describeContents`, is final, and has no constructor that takes a single parcel.
Members of the counterpart count like its own.
-/

namespace SignatureLint.Rules

/-- Whether what makes a class a parcelable one is all there. -/
def hasParcelableMembers (v : ClassView) : Bool :=
  v.fields.any (·.name = "CREATOR") && v.plainMethods.any (·.name = "writeToParcel") &&
    v.plainMethods.any (·.name = "describeContents")

/-- The constructors that take a single parcel. -/
def parcelConstructors (v : ClassView) : List Method :=
  v.constructors.filter (·.parameterTypes = ["android.os.Parcel"])

def parcelable : Rule where
  ids := ["FW3", "FW8"]
  description := "Parcelable classes are final and expose CREATOR, writeToParcel and describeContents"
  check v :=
    if v.own.leadInterface = some "android.os.Parcelable" then
      (if hasParcelableMembers v then []
        else [v.finding .error none "FW3"
          "Parcelable requires CREATOR, writeToParcel, and describeContents; missing one"]) ++
      (if v.own.modifiers.has "final" then []
        else [v.finding .error none "FW8" "Parcelable classes must be final"]) ++
      (parcelConstructors v).map fun m =>
        v.finding .error (some (.method m)) "FW3"
          "Parcelable inflation is exposed through CREATOR, not raw constructors"
    else []

end SignatureLint.Rules
