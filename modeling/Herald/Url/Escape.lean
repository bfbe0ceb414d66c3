/-!
# What is escaped where

The characters that have a meaning of their own in a part of an address, or
cannot stand in it, and are escaped where they do not mean it.
-/

namespace Herald

namespace Escape

/-- What is escaped in a fragment. -/
def fragmentSet : List Char := [' ', '\x22', '<', '>', '\x60']

/-- What is escaped in a path. -/
def pathSet : List Char := fragmentSet ++ ['#', '?', '\x7b', '\x7d']

/-- What is escaped in a name or password. -/
def userSet : List Char :=
  pathSet ++ ['/', ':', ';', '=', '@', '[', '\x5c', ']', '^', '|']

/-- What is escaped in a query: the single quote only where schemes say what
the parts of an address mean. -/
def querySet (isKnown : Bool) : List Char :=
  [' ', '\x22', '#', '<', '>'] ++ (if isKnown then ['\x27'] else [])

end Escape

end Herald
