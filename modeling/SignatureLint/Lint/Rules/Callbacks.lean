import SignatureLint.Lint.Rule

/-!
# Callback names

A class that is called back is named for one callback: `FooCallback`, neither `FooCallbacks` nor
`FooObserver`. One platform class keeps its name.
-/

namespace SignatureLint.Rules

private def endsWith (name ending : String) : Bool := ending.toList.isSuffixOf name.toList

def callbacks : Rule where
  ids := ["L1"]
  description := "Callback classes are named FooCallback"
  check v :=
    if v.own.fullname = "android.speech.tts.SynthesisCallback" then []
    else
      (if endsWith v.own.name "Callbacks" then
        [v.finding .error none "L1" "Callback class names should be singular"]
        else []) ++
      (if endsWith v.own.name "Observer" then [v.finding .warning none "L1" "Class should be named FooCallback"]
        else [])

end SignatureLint.Rules
