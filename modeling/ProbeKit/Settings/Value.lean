import ProbeKit.Number.Binary64
import ProbeKit.Text.Digit

/-!
# Values of settings

A settings file is a document in a language of its own, and what reads that language is not part of
the program: a `Reader` gives the value of a text, or says how it fails.  A text that is no document
is one thing; a reader can also fail on a text that is one, with an error of any kind.

A value is what the settings look at of a document.  They look at the members of the root and of
two mappings in it, and at the items of lists, and no deeper.
-/

namespace ProbeKit

open Number

/-- A value in a settings file. -/
inductive Setting where
  /-- Nothing. -/
  | null
  /-- A truth value. -/
  | bool (b : Bool)
  /-- An integer. -/
  | int (n : Int)
  /-- A floating-point number. -/
  | float (x : Binary64)
  /-- A text. -/
  | text (s : String)
  /-- Bytes. -/
  | bytes (bytes : List Nat)
  /-- A list. -/
  | items (values : List Setting)
  /-- A mapping. -/
  | members (values : List (Setting × Setting))
  /-- A value of any other kind. -/
  | other
  deriving Inhabited

/-- How a reader fails. -/
inductive Setting.Failure where
  /-- The text is no document. -/
  | malformed
  /-- Something else goes wrong: the kind of error, and its message. -/
  | mishap (kind message : String)
  deriving DecidableEq

/-- What reads settings files. -/
abbrev Setting.Reader : Type := String → Except Setting.Failure Setting

namespace Setting

/-- Whether a value is a certain text. -/
def isText (s : String) : Setting → Bool
  | .text t => t == s
  | _ => false

/-- The value of the last member with a key. -/
def member? (key : String) : Setting → Option Setting
  | .members values => (values.reverse.find? fun m => m.1.isText key).map (·.2)
  | _ => none

/-- Whether a value is a mapping with members. -/
def hasMembers : Setting → Bool
  | .members values => !values.isEmpty
  | _ => false

/-- The member with a key, if it is a mapping with members. -/
def mapping? (key : String) (v : Setting) : Option Setting := (v.member? key).filter hasMembers

end Setting

end ProbeKit
