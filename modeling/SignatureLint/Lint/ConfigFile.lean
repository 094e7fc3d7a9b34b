import SignatureLint.Lint.Config
import SignatureLint.Toml.Lists

/-!
# Configuration files

A configuration file binds `disabled_rules` and `ignored_packages`, each to a list of strings, and
nothing else. What it does not bind stays as it is without a file.

The reader is one that the executable brings along, for the part of TOML that a list of strings needs; what a check
does is said for every reader of configurations.
-/

namespace SignatureLint.Config

/-- The configuration that a file's text describes. -/
def ofToml? (text : String) : Option Config := do
  let bound ← Toml.lists? text
  if bound.all fun binding => ["disabled_rules", "ignored_packages"].contains binding.1 then
    some {
      disabledRules := .ofList ((bound.lookup "disabled_rules").getD [])
      ignoredPackages := (bound.lookup "ignored_packages").getD defaultIgnoredPackages }
  else none

end SignatureLint.Config
