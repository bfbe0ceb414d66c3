import Herald.Text.Ascii
import Herald.Text.Digits
/-!
# Schemes

The scheme of an address says how the rest of it is laid out. For a few
schemes this is fixed: they have a host and a path, a backslash is as good as
a slash, and the port has a usual value. Files have a host or none.
-/

namespace Herald

/-- How the addresses of a scheme are laid out. -/
inductive Layout where
  /-- Host and path, with a usual port. -/
  | network (port : Nat)
  /-- Paths of files. -/
  | file
  /-- The scheme says nothing. -/
  | free
  deriving DecidableEq, Repr

namespace Layout

/-- The layout of a scheme. -/
def ofScheme (scheme : List Char) : Layout :=
  if scheme = "http".toList ∨ scheme = "ws".toList then .network 80
  else if scheme = "https".toList ∨ scheme = "wss".toList then .network 443
  else if scheme = "ftp".toList then .network 21
  else if scheme = "file".toList then .file
  else .free

/-- Whether the scheme says what the parts mean. -/
def isKnown : Layout → Bool
  | .free => false
  | _ => true

/-- The port that goes without saying. -/
def usualPort? : Layout → Option Nat
  | .network port => some port
  | _ => none

/-- Whether a character is a slash. -/
def isSlash (l : Layout) (c : Char) : Bool := c == '/' || (c == '\x5c' && l.isKnown)

/-- Whether a character starts a query or a fragment. -/
def endsPath (c : Char) : Bool := c == '?' || c == '#'

end Layout

namespace Scheme

/-- Whether a character may stand in a scheme behind the first. -/
def isPart (c : Char) : Bool :=
  Ascii.isLetter c || Digits.isDecimal c || c == '+' || c == '-' || c == '.'

/-- **The scheme at the head of an address**, in lower case, and what follows
its colon. -/
def split? (cs : List Char) : Option (List Char × List Char) :=
  match cs.takeWhile isPart, cs.dropWhile isPart with
  | c :: s, ':' :: rest =>
    if Ascii.isLetter c then some ((c :: s).map Ascii.lower, rest) else none
  | _, _ => none

end Scheme

end Herald
