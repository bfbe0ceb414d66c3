import Herald.Url.Authority
import Herald.Url.Path
/-!
# Addresses of resources

An address names a resource by a scheme, an authority, a path, a query and a
fragment. Read from a text it is in normal form: scheme and host in lower
case, a port that goes without saying left out, no dot segments in the path,
and what may not stand as it is escaped. Blanks and controls around an address
and line breaks in it do not count.
-/

namespace Herald

/-- An address in normal form. -/
structure Url where
  scheme : List Char
  /-- What stands behind a double slash, if there is one. -/
  authority : Option Authority
  path : List Char
  query : Option (List Char)
  fragment : Option (List Char)
  deriving DecidableEq, Repr

namespace Url

/-- What follows an authority: the path, query and fragment. -/
def tail (u : Url) : List Char :=
  u.path ++ u.query.elim [] ('?' :: ·) ++ u.fragment.elim [] ('#' :: ·)

/-- **The text of an address.** Without an authority, a path must not look
like one. -/
def text (u : Url) : List Char :=
  u.scheme ++ ':' ::
    match u.authority with
    | some a => '/' :: '/' :: a.text ++ u.tail
    | none => if u.path.take 2 = ['/', '/'] then '/' :: '.' :: u.tail else u.tail

/-- The text of an address. -/
def render (u : Url) : String := String.ofList u.text

/-- The host of an address, if it has one. -/
def host? (u : Url) : Option Host := u.authority.bind (·.host)

/-- An address without its credentials, if they can be used otherwise. -/
def withoutCredentials (u : Url) : Url :=
  { u with authority := u.authority.map fun a =>
      if a.credentials.isUsable then { a with credentials := .none } else a }

/-! ## Reading -/

/-- Text without the blanks and controls around it. -/
def trimmed (cs : List Char) : List Char :=
  let isBlank (c : Char) : Bool := decide (c.toNat ≤ 0x20)
  (((cs.dropWhile isBlank).reverse).dropWhile isBlank).reverse

/-- Query and fragment of what follows a path. -/
def readEnd (isKnown : Bool) (cs : List Char) : Option (List Char) × Option (List Char) :=
  let query := cs.takeWhile (· ≠ '#')
  let fragment := (cs.dropWhile (· ≠ '#')).drop 1
  (if query.head? = some '?' then some (Percent.escape (Escape.querySet isKnown) (query.drop 1))
    else none,
    if '#' ∈ cs then some (Percent.escape Escape.fragmentSet fragment) else none)

/-- An address of a path, and of what follows it. -/
def build (l : Layout) (scheme : List Char) (authority : Option Authority)
    (path rest : List Char) : Url :=
  let (query, fragment) := readEnd l.isKnown rest
  ⟨scheme, authority, path, query, fragment⟩

/-- The part of a text that is a path, and what follows it. -/
def splitPath (cs : List Char) : List Char × List Char :=
  (cs.takeWhile (!Layout.endsPath ·), cs.dropWhile (!Layout.endsPath ·))

/-- The path behind an authority. Only where the scheme says nothing there can
be none. -/
def pathAfter (l : Layout) : List Char → List Char
  | [] => if l.isKnown then ['/'] else []
  | c :: cs => (UrlPath.resolve l (if l.isSlash c then cs else c :: cs)).text

/-- Reads what follows a double slash. -/
def readAuthority (l : Layout) (scheme cs : List Char) : Option Url := do
  let (a, cs) ← Authority.read l cs
  let (path, rest) := splitPath cs
  return build l scheme (some a) (pathAfter l path) rest

/-- Reads what follows a scheme that says nothing. Without a slash in front,
the path is no list of segments. -/
def readFree (scheme cs : List Char) : Option Url :=
  let (path, rest) := splitPath cs
  match cs with
  | '/' :: '/' :: cs => readAuthority .free scheme cs
  | '/' :: _ =>
    some (build .free scheme none (UrlPath.resolve .free (path.drop 1)).text rest)
  | _ => some (build .free scheme none (Percent.escape [] path) rest)

/-- The next character that counts, and what follows it. -/
def next? (cs : List Char) : Option (Char × List Char) :=
  match cs.dropWhile UrlPath.isIgnored with
  | c :: rest => some (c, rest)
  | [] => none

/-- What follows a slash, if there is one next. -/
def afterSlash? (cs : List Char) : Option (List Char) :=
  match next? cs with
  | some (c, rest) => if Layout.file.isSlash c then some rest else none
  | none => none

/-- The address of a file on a host, or of one on none in particular. A path
that starts with a drive has no host. -/
def fileAt (host : Option Host) (cs : List Char) : Url :=
  let (path, rest) := splitPath cs
  let t := UrlPath.resolve .file path
  build .file "file".toList
    (some { Authority.nobody with host := if t.hasDrive then none else host })
    (UrlPath.fileText t) (UrlPath.counted rest)

/-- Reads what follows the scheme of files. Behind two slashes there is a
host, unless it is the letter of a drive; the host `localhost` is none. -/
def readFile (cs : List Char) : Option Url :=
  match afterSlash? cs with
  | none => some (fileAt none cs)
  | some one =>
    match afterSlash? one with
    | none => some (fileAt none one)
    | some two =>
      let text := two.takeWhile (!Authority.isEnd .file ·)
      let rest := two.drop text.length
      let name := UrlPath.counted text
      if UrlPath.isDrive name then some (fileAt none two)
      else if name = [] then some (fileAt none rest)
      else do
        let host ← Host.ofText? true name
        if host = .name "localhost".toList then some (fileAt none rest)
        else some (fileAt (some host) ((afterSlash? rest).getD rest))

/-- **The address a text stands for.** -/
def ofText? (cs : List Char) : Option Url := do
  let cs := trimmed cs
  let (scheme, rest) ← Scheme.split? (UrlPath.counted cs)
  match Layout.ofScheme scheme with
  | .file => readFile ((cs.dropWhile (· ≠ ':')).drop 1)
  | .network port =>
    readAuthority (.network port) scheme (rest.dropWhile (Layout.network port).isSlash)
  | .free => readFree scheme rest

end Url

end Herald
