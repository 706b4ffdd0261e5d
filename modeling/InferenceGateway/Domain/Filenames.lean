import InferenceGateway.Domain.Types

/-!
# Artifact filename validation
-/

namespace InferenceGateway

/-- The character class `[A-Za-z0-9._-]`. -/
def safeChar (c : Char) : Bool :=
  ('A' ≤ c && c ≤ 'Z') || ('a' ≤ c && c ≤ 'z') || ('0' ≤ c && c ≤ '9') ||
    c == '.' || c == '_' || c == '-'

/-- `isSafeFilename` on a string.  A string of safe characters has as many
UTF-16 units as characters, so the length bound is the same in both. -/
def isSafeFilename (value : String) : Bool :=
  value.toList.length > 0 && value.toList.length ≤ 255 &&
    value.toList.all safeChar && !value.toList.all (· == '.')

end InferenceGateway
