import SignatureLint.Declaration.Basic
import SignatureLint.Hash.Sha256

/-!
# Fingerprints

The fingerprint of a class is the hash of its declaration and those of its members, methods first,
each on a line of its own. It does not depend on where the class stood.
-/

namespace SignatureLint.Class

/-- The text that a class's fingerprint hashes. -/
def fingerprintText (c : Class) : String :=
  "\n".intercalate (c.origin.raw :: c.methods.map (·.origin.raw) ++ c.fields.map (·.origin.raw))

def fingerprint (c : Class) : String := Sha256.hexDigest c.fingerprintText

end SignatureLint.Class
