import Herald.Number.Binary64
import Herald.Text.Digits
/-!
# Counters

What has happened so far, in 64-bit counters that wrap around: the answers of
the checks, the ends of the sends, and the windows that were pruned. The
total of the checks saturates. The share of denied checks is a quotient of
two doubles; the sum it starts from does not wrap, and its overflow is an
error.
-/

namespace Herald

/-- The counters of a dispatcher. -/
structure Counters where
  admitted : UInt64
  blockedByGlobal : UInt64
  blockedByDomain : UInt64
  sent : UInt64
  failed : UInt64
  cancelled : UInt64
  windowsPruned : UInt64
  deriving DecidableEq, Repr

/-- Why there is no share of denied checks. -/
inductive CountError where
  /-- The number of denied checks does not fit a counter. -/
  | overflow
  deriving DecidableEq, Repr

/-- The text of a count error. -/
def CountError.message : CountError → String
  | .overflow => "attempt to add with overflow"

namespace Counters

/-- All counters at zero. -/
def zero : Counters := ⟨0, 0, 0, 0, 0, 0, 0⟩

/-- Sends that have ended one way or another. -/
def completed (c : Counters) : UInt64 := c.sent + c.failed + c.cancelled

/-- The sum of two counters, or the largest one if that is too small. -/
def saturatingAdd (a b : UInt64) : UInt64 :=
  if a.toNat + b.toNat < 0x1_0000_0000_0000_0000 then a + b else 0xffff_ffff_ffff_ffff

/-- All checks made, up to the largest counter. -/
def checks (c : Counters) : UInt64 :=
  saturatingAdd (saturatingAdd c.admitted c.blockedByGlobal) c.blockedByDomain

/-- **The share of denied checks**: none if there was no check. -/
def blockRate (c : Counters) : Except CountError Binary64 :=
  if c.checks = 0 then .ok (.ofNat 0)
  else
    let denied := c.blockedByGlobal.toNat + c.blockedByDomain.toNat
    if denied < 0x1_0000_0000_0000_0000 then
      .ok ((Binary64.ofNat denied).div (.ofNat c.checks.toNat))
    else .error .overflow

/-- One field of the printed form. -/
def describeField (name : String) (n : UInt64) : String :=
  name ++ ": " ++ String.ofList (Digits.decimal n.toNat)

/-- The printed form, under the name of the record that holds them. -/
def describeAs (title : String) (c : Counters) : String :=
  title ++ " \x7b " ++ ", ".intercalate
    [describeField "admitted" c.admitted,
     describeField "blocked_by_global" c.blockedByGlobal,
     describeField "blocked_by_domain" c.blockedByDomain,
     describeField "sent" c.sent,
     describeField "failed" c.failed,
     describeField "cancelled" c.cancelled,
     describeField "windows_pruned" c.windowsPruned] ++ " \x7d"

/-- The printed form of a snapshot. -/
def describe (c : Counters) : String := c.describeAs "MetricsSnapshot"

/-- A sum that does not overflow is the sum. -/
theorem toNat_saturatingAdd (a b : UInt64) :
    (saturatingAdd a b).toNat = min (a.toNat + b.toNat) 0xffff_ffff_ffff_ffff := by
  have ha := a.toNat_lt
  have hb := b.toNat_lt
  simp only [saturatingAdd]
  split
  · next h => rw [UInt64.toNat_add, Nat.mod_eq_of_lt h]; omega
  · next h =>
    have hm : (0xffff_ffff_ffff_ffff : UInt64).toNat = 0xffff_ffff_ffff_ffff := rfl
    omega

/-- **The checks are the sum of the three answers**, up to the largest
counter. -/
theorem toNat_checks (c : Counters) :
    c.checks.toNat
      = min (c.admitted.toNat + c.blockedByGlobal.toNat + c.blockedByDomain.toNat)
          0xffff_ffff_ffff_ffff := by
  simp only [checks, toNat_saturatingAdd]
  omega

end Counters

end Herald
