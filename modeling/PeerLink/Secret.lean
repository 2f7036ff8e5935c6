import PeerLink.Entropy
import PeerLink.Stream.Pipe

/-!
# The secret of a node

The secret key of a node is derived from the entropy in a file and a password. This is the way up to
the derivation: the file is read, and its text must be entropy. The derivation itself, a slow hash
of the password, is left out.
-/

namespace PeerLink

/-- Why a node has no secret. -/
inductive SecretError where
  /-- The file of the entropy cannot be read, or is not text. -/
  | unreadable (path : String) (cause : IoError)
  /-- The text of the file is not entropy. -/
  | malformed (path : String) (cause : HexError)
  /-- No password is given and nobody can be asked for it. -/
  | noPassword
  deriving DecidableEq, Repr

/-- The text of an error, with the one of its cause if the cause lies in the text of the file. -/
def SecretError.message : SecretError → String
  | unreadable path _ => "Cannot open the entropy file " ++ path
  | malformed path cause => "Cannot parse the entropy file: " ++ path ++ ": " ++ cause.message
  | noPassword => "Cannot retrieve the entropy password"

/-- The entropy in the file at a path, with what the file is. -/
def Entropy.ofFile (path : String) (file : Except IoError Bytes) : Except SecretError Entropy :=
  match file with
  | .error cause => .error (.unreadable path cause)
  | .ok bytes =>
    match Utf8.decode? bytes with
    | none => .error (.unreadable path (.invalidData "stream did not contain valid UTF-8"))
    | some text =>
      match Entropy.parse (String.ofList text) with
      | .error cause => .error (.malformed path cause)
      | .ok entropy => .ok entropy

end PeerLink
