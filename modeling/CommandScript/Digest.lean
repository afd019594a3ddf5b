import CommandScript.Digest.Md5
import CommandScript.Digest.Sha1
import CommandScript.Digest.Sha256
import CommandScript.Failure

/-!
# Digests by name

## Main definitions

* `CommandScript.Digest.Algorithm` — the digests that are known.
* `CommandScript.Digest.Algorithm.hex` — the digest of a message.
* `CommandScript.Digest.digest` — the same, for a digest given by name.
-/

namespace CommandScript.Digest

/-- The digests that are known. -/
inductive Algorithm where
  | md5
  | sha1
  | sha256
deriving DecidableEq, Repr

/-- The digest of a message, as hexadecimal digits. -/
def Algorithm.hex : Algorithm → ByteArray → String
  | md5 => Digest.md5
  | sha1 => Digest.sha1
  | sha256 => Digest.sha256

/-- The digest with a name, in upper case. -/
def Algorithm.ofName? : String → Option Algorithm
  | "MD5" => some md5
  | "SHA1" | "SHA-1" => some sha1
  | "SHA256" | "SHA-256" => some sha256
  | _ => none

/-- The digest of a message, for a digest given by name in upper or lower case. -/
def digest (name : String) (message : ByteArray) : Except Cause String :=
  let name := name.map Char.toUpper
  match Algorithm.ofName? name with
  | some a => .ok (a.hex message)
  | none => .error (.noDigest name)

end CommandScript.Digest
