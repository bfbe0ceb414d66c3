import Herald.Notice.Address
import Herald.Notice.Timestamp
/-!
# Notices

A notice is one match of a filter rule that somebody is told about: the
domain, the rule, why the filter decided as it did, the client and the time.
Its text has a line for the domain, the client and the time.
-/

namespace Herald

/-- Why the filter decided as it did. -/
inductive Reason where
  /-- No rule matched. -/
  | notFilteredNotFound
  /-- A rule of an allow list matched. -/
  | notFilteredAllowList
  /-- Filtering failed. -/
  | notFilteredError
  /-- A rule of a block list matched. -/
  | filteredBlockList
  /-- The safe-browsing service flagged the host. -/
  | filteredSafeBrowsing
  /-- The parental-control service flagged the host. -/
  | filteredParental
  /-- The query was malformed. -/
  | filteredInvalid
  /-- Safe search changed the query. -/
  | filteredSafeSearch
  /-- The host belongs to a blocked service. -/
  | filteredBlockedService
  /-- A configured change of the answer matched. -/
  | rewritten
  /-- The answer came from the hosts file. -/
  | rewrittenAutoHosts
  /-- A rule that changes the answer matched. -/
  | rewrittenRule
  deriving DecidableEq, Repr

namespace Reason

/-- Every reason. -/
def all : List Reason :=
  [.notFilteredNotFound, .notFilteredAllowList, .notFilteredError, .filteredBlockList,
   .filteredSafeBrowsing, .filteredParental, .filteredInvalid, .filteredSafeSearch,
   .filteredBlockedService, .rewritten, .rewrittenAutoHosts, .rewrittenRule]

/-- The word for a reason in log fields. -/
def label : Reason → String
  | .notFilteredNotFound => "not_filtered_not_found"
  | .notFilteredAllowList => "not_filtered_allowlist"
  | .notFilteredError => "not_filtered_error"
  | .filteredBlockList => "filtered_blocklist"
  | .filteredSafeBrowsing => "filtered_safebrowsing"
  | .filteredParental => "filtered_parental"
  | .filteredInvalid => "filtered_invalid"
  | .filteredSafeSearch => "filtered_safesearch"
  | .filteredBlockedService => "filtered_blocked_service"
  | .rewritten => "rewritten"
  | .rewrittenAutoHosts => "rewritten_autohosts"
  | .rewrittenRule => "rewritten_rule"

/-- The name of a reason. -/
def name : Reason → String
  | .notFilteredNotFound => "NotFilteredNotFound"
  | .notFilteredAllowList => "NotFilteredAllowList"
  | .notFilteredError => "NotFilteredError"
  | .filteredBlockList => "FilteredBlockList"
  | .filteredSafeBrowsing => "FilteredSafeBrowsing"
  | .filteredParental => "FilteredParental"
  | .filteredInvalid => "FilteredInvalid"
  | .filteredSafeSearch => "FilteredSafeSearch"
  | .filteredBlockedService => "FilteredBlockedService"
  | .rewritten => "Rewritten"
  | .rewrittenAutoHosts => "RewrittenAutoHosts"
  | .rewrittenRule => "RewrittenRule"

/-- The reason of a name. -/
def ofName? (s : String) : Option Reason := all.find? fun r => r.name == s

/-- What the title of a notification says of the reason. -/
def headline : Reason → String
  | .filteredBlockList => "Domain Blocked"
  | .notFilteredAllowList => "Domain Allowed"
  | .rewritten => "Domain Rewritten"
  | .rewrittenRule => "Domain Rewritten"
  | _ => "Custom Rule Match"

end Reason

/-- One rule match to tell about. -/
structure Notice where
  domain : String
  ruleText : String
  reason : Reason
  clientAddress : Address
  clientName : Option String
  time : Timestamp
  deriving DecidableEq, Repr

namespace Notice

/-- The client, by name and address. An empty name counts as none. -/
def clientText (n : Notice) : List Char :=
  match n.clientName with
  | some name =>
    if name = "" then n.clientAddress.text
    else name.toList ++ ' ' :: '(' :: n.clientAddress.text ++ [')']
  | none => n.clientAddress.text

/-- The client, as a string. -/
def client (n : Notice) : String := String.ofList n.clientText

/-- The title, under a product's name. -/
def title (n : Notice) (product : String) : String := product ++ ": " ++ n.reason.headline

/-- The lines of the message. -/
def bodyText (n : Notice) : List Char :=
  "Domain: ".toList ++ n.domain.toList ++ "\nClient: ".toList ++ n.clientText
    ++ "\nTime: ".toList ++ n.time.text

/-- **The message.** -/
def body (n : Notice) : String := String.ofList n.bodyText

end Notice

end Herald
