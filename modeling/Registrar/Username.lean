import Registrar.Failure
import Registrar.Text.Lowercase

/-!
# User names

User names are compared without the blanks around them and in small letters.  A valid name starts
with a letter and goes on with letters, digits, underscores, points and hyphens, sixty-four
characters in all at most, so that it never reads as a number or as a comparison.
-/

namespace Registrar

open Registrar.Text

/-- A small ASCII letter. -/
def isSmallLetter (c : Char) : Bool :=
  'a' ≤ c && c ≤ 'z'

/-- A character that may go on with a user name. -/
def isUsernameChar (c : Char) : Bool :=
  isSmallLetter c || isDigit c || c == '_' || c == '.' || c == '-'

/-- Whether some characters make up a user name. -/
def isUsernameChars : List Char → Bool
  | [] => false
  | c :: cs => isSmallLetter c && cs.length ≤ 63 && cs.all isUsernameChar

/-- Whether a text is a user name in its normal form. -/
def isUsername (name : String) : Bool :=
  isUsernameChars name.toList

/-- The normal form of a user name; what is no user name is refused. -/
def normalizeUsername (name : String) : Except Failure String :=
  let normal := lower (trim name)
  if isUsername normal then .ok normal else .error (.rejected (.username normal))

end Registrar
