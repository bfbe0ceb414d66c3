import Herald.Push.Form
import Herald.Push.Message
/-!
# Reading messages

The message a posted body stands for. Its fields are found by their names, a
missing priority is zero, and a missing sound is empty.
-/

namespace Herald

namespace PushMessage

/-- The priority a text stands for, if it is a number a priority can be. -/
def readPriority? (text : String) : Option Int32 := do
  let n ← Digits.readSigned? text.toList
  if (Int32.ofInt n).toInt = n then some (.ofInt n) else none

/-- **The message some fields stand for.** -/
def ofFields? (fs : List (String × String)) : Option PushMessage := do
  let token ← fs.lookup "token"
  let user ← fs.lookup "user"
  let title ← fs.lookup "title"
  let body ← fs.lookup "message"
  let priority ← match fs.lookup "priority" with
    | some text => readPriority? text
    | none => some 0
  return { token, user, title, body, priority, sound := (fs.lookup "sound").getD "" }

/-- The message a posted body stands for. -/
def ofBody? (body : String) : Option PushMessage := do
  let fs ← Form.decode body
  ofFields? fs

end PushMessage

end Herald
