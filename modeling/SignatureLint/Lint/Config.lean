import SignatureLint.SortedBy

/-!
# Configuration

Which rules are off, and which packages are not examined. A package is not examined if its name
starts with one of the listed texts; the match is on characters, so `java` covers `javax` too.
-/

namespace SignatureLint

/-- The packages that are not examined unless a configuration says otherwise: surfaces of third
parties, which follow guidelines of their own. -/
def defaultIgnoredPackages : List String := [
  "java", "javax", "junit", "org.apache", "org.json", "org.w3c", "org.xml", "android.icu."]

/-- What an examination leaves out. -/
structure Config where
  disabledRules : WordSet := .empty
  ignoredPackages : List String := defaultIgnoredPackages
deriving DecidableEq

namespace Config

def enables (config : Config) (rule : String) : Bool := !config.disabledRules.has rule

def ignores (config : Config) (package : String) : Bool :=
  config.ignoredPackages.any fun start => start.toList.isPrefixOf package.toList

end Config

end SignatureLint
