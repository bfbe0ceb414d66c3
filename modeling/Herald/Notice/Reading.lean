import Herald.Notice.Address
import Herald.Notice.Timestamp
import Herald.Text.Parts
/-!
# Reading notices

The second a text of a timestamp stands for. The sign of the year comes off
first, since the date is cut at dashes. A second 60 is the leap second behind
second 59. A message has the time on its last line, and what tells the client
has the address at its end, in brackets behind a name.
-/

namespace Herald

namespace Timestamp

/-- The sign at the head of a text, and the rest. -/
def readSign : List Char → Int × List Char
  | '-' :: cs => (-1, cs)
  | '+' :: cs => (1, cs)
  | cs => (1, cs)

/-- The numbers between the occurrences of a character. -/
def readNumbers? (sep : Char) (cs : List Char) : Option (List Nat) :=
  (partsAt sep cs).mapM Digits.readDecimal?

/-- **The second a text stands for**, and whether it is a leap second. -/
def read? (cs : List Char) : Option (Int × Bool) :=
  let (sign, cs) := readSign cs
  match partsAt 'T' cs with
  | [date, time] =>
    match readNumbers? '-' date, time.getLast?, readNumbers? ':' time.dropLast with
    | some [year, month, day], some 'Z', some [hour, minute, second] =>
      some ((Date.mk (sign * year) month day).toDays * 86400
        + (hour * 3600 + minute * 60 + min second 59 : Nat), decide (second = 60))
    | _, _, _ => none
  | _ => none

/-- The second a message tells on its last line. -/
def readMessage? (message : List Char) : Option (Int × Bool) :=
  let line := afterLast '\n' message
  if "Time: ".toList.isPrefixOf line then read? (line.drop "Time: ".length) else none

end Timestamp

namespace Address

/-- The address in what tells a client: what stands in the last brackets, or all
of it if there are none at its end. -/
def ofClient (client : List Char) : List Char :=
  if client.getLast? = some ')' then afterLast '(' client.dropLast else client

end Address

end Herald
