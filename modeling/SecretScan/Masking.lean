import SecretScan.Sha256
import SecretScan.Text.Occurrence
import SecretScan.Text.Utf8

/-!
# Masking

What is shown of a credential: a preview that keeps its last four characters, the line around it
with the preview in its place, and a digest by which the same credential is known again.
-/

namespace SecretScan

/-- What stands for the hidden part. -/
def maskText : List Char :=
  ['*', '*', '*', '*']

/-- The preview of a credential. -/
def mask (secret : List Char) : List Char :=
  maskText ++ secret.drop (secret.length - 4)

/-- A line with every occurrence of a credential replaced by its preview. -/
def maskInContext (line secret preview : List Char) : List Char :=
  if secret.isEmpty then line else Text.replace secret preview line

/-- The digest of a credential, with the name of the algorithm. -/
def secretDigest (secret : List Char) : String :=
  "sha256:" ++ Sha256.hexDigest (Text.Utf8.encode (String.ofList secret))

/-- A preview shows at most four characters of the credential. -/
theorem length_mask_le (secret : List Char) : (mask secret).length ≤ 8 := by
  simp only [mask, maskText, List.length_append, List.length_drop, List.length_cons,
    List.length_nil]
  omega

end SecretScan
