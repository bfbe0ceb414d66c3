import Herald.Host.Name
import Herald.Host.Numeric
import Herald.Text.Percent
/-!
# Hosts

A host is an address or a name. Where the scheme of an address says what its
host means, escapes in it are undone and the name is read for what it means;
elsewhere any text that cannot be mistaken for something else is a name.
-/

namespace Herald

/-- A host. -/
inductive Host where
  | name (text : List Char)
  | address (a : Address)
  deriving DecidableEq, Repr

namespace Host

/-- **The text of a host.** Version 6 stands in brackets, without a dotted
end. -/
def text : Host → List Char
  | .name cs => cs
  | .address (.v4 a b c d) => Address.dotted a b c d
  | .address (.v6 groups) => '[' :: Address.compressed groups.toList ++ [']']

/-- What the name of a host of no known meaning may not hold. -/
def isForbidden (c : Char) : Bool :=
  c ∈ ['\x00', '\t', '\n', '\r', ' ', '#', '/', ':', '<', '>', '?', '@', '[', '\x5c', ']', '^', '|']

/-- The host in brackets, less the bracket that opens them. -/
def bracketed? (cs : List Char) : Option Host :=
  if cs.getLast? = some ']' then
    match Address.readV6 cs.dropLast with
    | some (a, []) => some (.address a)
    | _ => none
  else none

/-- A host that has a meaning: its escapes are undone. -/
def known? (cs : List Char) : Option Host := do
  let name ← HostName.ofText? (← Percent.undo? cs)
  if name = [] then none
  else match NumericHost.parts? name with
    | some parts => (NumericHost.address? parts).map .address
    | none => some (.name name)

/-- A host of no known meaning. -/
def plain? (cs : List Char) : Option Host :=
  if cs.any isForbidden then none else some (.name (Percent.escape [] cs))

/-- **The host a text stands for.** -/
def ofText? (isKnown : Bool) : List Char → Option Host
  | '[' :: cs => bracketed? cs
  | cs => if isKnown then known? cs else plain? cs

end Host

end Herald
