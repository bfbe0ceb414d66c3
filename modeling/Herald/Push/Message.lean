import Herald.Notice.Basic
import Herald.Settings.Basic
/-!
# Push messages

One message as it goes to the push service: its fields in order, and the
message made of a notice under some settings. A priority of zero and an empty
sound are left out.
-/

namespace Herald

/-- A message for the push service. -/
structure PushMessage where
  token : String
  user : String
  title : String
  body : String
  priority : Int32
  sound : String
  deriving DecidableEq, Repr

namespace PushMessage

/-- **The fields of a message**, by name, in order. -/
def fields (m : PushMessage) : List (String × String) :=
  [("token", m.token), ("user", m.user), ("title", m.title), ("message", m.body)]
    ++ (if m.priority = 0 then []
        else [("priority", String.ofList (Digits.signedDecimal m.priority.toInt))])
    ++ (if m.sound = "" then [] else [("sound", m.sound)])

/-- The message about a notice, under a product's name. -/
def ofNotice (s : Settings) (product : String) (n : Notice) : PushMessage where
  token := s.appToken
  user := s.userKey
  title := n.title product
  body := n.body
  priority := s.priority
  sound := s.sound

end PushMessage

end Herald
