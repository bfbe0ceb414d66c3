import Herald.Host.Basic
import Herald.Url.Escape
import Herald.Url.Scheme
/-!
# Who is asked

The part of an address between its double slash and its path: a host, perhaps
credentials in front of it, and perhaps a port behind it. The last at sign
ends the credentials.
-/

namespace Herald

/-- Name and password, as they are written in an address. -/
structure Credentials where
  user : List Char
  password : Option (List Char)
  deriving DecidableEq, Repr

namespace Credentials

/-- None at all. -/
def none : Credentials := ⟨[], .none⟩

/-- Whether there are any. -/
def isNone (c : Credentials) : Bool := c.user.isEmpty && c.password.isNone

/-- The text of credentials, with the at sign that ends them. -/
def text (c : Credentials) : List Char :=
  if c.isNone then [] else c.user ++ c.password.elim [] (':' :: ·) ++ ['@']

/-- The credentials of a text. An empty password is none. -/
def ofText (cs : List Char) : Credentials :=
  let password := (cs.dropWhile (· ≠ ':')).drop 1
  ⟨Percent.escape Escape.userSet (cs.takeWhile (· ≠ ':')),
    if password = [] then .none else some (Percent.escape Escape.userSet password)⟩

/-- Whether credentials can be taken out of an address: there are some, and
their escapes stand for text. A password does not count if its escapes do
not. -/
def isUsable (c : Credentials) : Bool :=
  (Percent.undo? c.user).isSome
    && (!c.user.isEmpty || c.password.any fun p => (Percent.undo? p).isSome)

end Credentials

/-- Credentials, host and port. -/
structure Authority where
  credentials : Credentials
  host : Option Host
  port : Option Nat
  deriving DecidableEq, Repr

namespace Authority

/-- Nobody in particular. -/
def nobody : Authority := ⟨.none, none, none⟩

/-- The text of host and port. -/
def hostText (a : Authority) : List Char :=
  a.host.elim [] Host.text ++ a.port.elim [] fun n => ':' :: Digits.decimal n

/-- **The text of an authority.** -/
def text (a : Authority) : List Char := a.credentials.text ++ a.hostText

/-- Whether a character ends an authority. -/
def isEnd (l : Layout) (c : Char) : Bool := l.isSlash c || Layout.endsPath c

/-- Credentials at the head of a text, and what follows them. A lone at sign
is no credentials, and needs a host behind it unless nothing follows. -/
def readCredentials (l : Layout) (cs : List Char) : Option (Credentials × List Char) :=
  let whole := cs.takeWhile (!isEnd l ·)
  if '@' ∈ whole then
    let host := (whole.reverse.takeWhile (· ≠ '@')).reverse
    let before := whole.take (whole.length - host.length - 1)
    let rest := cs.drop (before.length + 1)
    if before = [] ∧ rest.head?.any (isEnd l) then none else some (.ofText before, rest)
  else some (.none, cs)

/-- The text of a host, which ends at a colon outside of brackets, and what
follows it. -/
def splitHost (l : Layout) (isInside : Bool) : List Char → List Char × List Char
  | [] => ([], [])
  | c :: rest =>
    if isEnd l c ∨ (c = ':' ∧ !isInside) then ([], c :: rest)
    else
      let (host, rest') := splitHost l (c == '[' || (isInside && c != ']')) rest
      (c :: host, rest')

/-- The port behind a colon, and what follows it. A port that goes without
saying is none. -/
def readPort (l : Layout) (cs : List Char) : Option (Option Nat × List Char) :=
  let ds := cs.takeWhile Digits.isDecimal
  let rest := cs.dropWhile Digits.isDecimal
  let n := Digits.read 10 ds
  if 65535 < n ∨ rest.head?.any fun c => !(isEnd l c || c == '\x5c') then none
  else some (if ds = [] ∨ l.usualPort? = some n then none else some n, rest)

/-- **The authority at the head of a text**, and what follows it. A known
layout needs a host, and so do credentials and a port. -/
def read (l : Layout) (cs : List Char) : Option (Authority × List Char) := do
  let (credentials, cs) ← readCredentials l cs
  let (text, rest) := splitHost l false cs
  if text = [] ∧ (l.isKnown ∨ !credentials.isNone ∨ rest.head? = some ':') then none
  else
    let host ← if text = [] then some none else (Host.ofText? l.isKnown text).map some
    match rest with
    | ':' :: rest =>
      let (port, rest) ← readPort l rest
      some (⟨credentials, host, port⟩, rest)
    | _ => some (⟨credentials, host, none⟩, rest)

end Authority

end Herald
