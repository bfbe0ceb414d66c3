import Herald.Host.Label
import Herald.Text.Parts
/-!
# Names of hosts

A name is read character by character for what it means, put into composed
form, and cut into labels at its dots. Where a letter or digit from right to
left occurs anywhere in it, all of its labels have to be in order.
-/

namespace Herald

namespace HostName

/-- The labels of a name. -/
def labels? (cs : List Char) : Option (List Label) := do
  let texts ← cs.mapM Folding.text?
  (partsAt '.' (Composed.compose texts.flatten)).mapM Label.ofText?

/-- Whether labels can stand together in a name. -/
def areSound (ls : List Label) : Bool :=
  ls.all Label.isSound
    && (!(ls.any fun l => l.shown.any Direction.isRightward)
      || ls.all fun l => Direction.fits l.shown)

/-- **The name a text stands for**, in ASCII. -/
def ofText? (cs : List Char) : Option (List Char) := do
  let ls ← labels? cs
  if areSound ls then some (joinWith '.' (ls.map Label.written)) else none

end HostName

end Herald
