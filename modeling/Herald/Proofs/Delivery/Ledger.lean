import Herald.Proofs.Delivery.Sends
import Herald.Proofs.Delivery.Standing
/-!
# The ledger of a run

The ledger of a run has an entry for every notice handed over, in order. It is
kept from outside: a new entry is open if the service has taken the notice in
as pending, an outcome is written to the entry it comes in for, and an entry
whose send is no longer pending is closed, with the ending whose counter has
just moved. Nothing says so far that the right counter moves, or only then;
that is what accounting proves.
-/

namespace Herald

/-- One notice handed over, and what has become of it. -/
structure Entry where
  notice : Notice
  token : Option String
  /-- The number of its background send; one that is waited for has none. -/
  number : Option Nat
  answer : Option Outcome
  /-- How it ended, if it has. -/
  ending : Option Ending
  deriving DecidableEq, Repr

/-- The ending that was counted between two states, by the counter that has
moved. -/
def Service.moved (s s' : Service) : Option Ending :=
  [Ending.sent, .failed, .cancelled].find? fun x => s'.tally x ≠ s.tally x

namespace Entry

/-- Whether an entry has not ended. -/
def isOpen (e : Entry) : Bool := e.ending.isNone

/-- The entry of a pending send. -/
def ofSend (p : Send) : Entry := ⟨p.notice, p.token, some p.number, p.stage.answer?, none⟩

/-- The entry of a notice that has just been handed over. -/
def enter (s s' : Service) (h : HandOver) : Entry :=
  if s.handedOver < s'.handedOver then ⟨h.notice, h.token, some s.handedOver, h.outcome, none⟩
  else ⟨h.notice, h.token, none, h.outcome, s.moved s'⟩

/-- **An entry from one state to the next.** One that has ended stays as it
is; an open one gets the outcome that comes in for it, and ends when its send
is no longer pending. -/
def follow (s s' : Service) (c : Command) (e : Entry) : Entry :=
  match e.ending, e.number with
  | none, some k =>
    { e with
      answer := (s.arrival c k).or e.answer
      ending := if (s'.pending? k).isSome then none else s.moved s' }
  | _, _ => e

/-- An entry followed through a run. -/
def followAll (s : Service) (e : Entry) : List Command → Entry
  | [] => e
  | c :: cs => (e.follow s (s.step c).2 c).followAll (s.step c).2 cs

end Entry

namespace Service

/-- The ledger one command on. -/
def book (s : Service) (c : Command) (l : List Entry) : List Entry :=
  l.map (.follow s (s.step c).2 c)
    ++ ((HandOver.of? c (s.step c).1).map (.enter s (s.step c).2)).toList

/-- A ledger kept on through a run. -/
def bookAll (s : Service) (l : List Entry) : List Command → List Entry
  | [] => l
  | c :: cs => (s.step c).2.bookAll (s.book c l) cs

/-- **The ledger of a run.** -/
def ledger (s : Service) (cs : List Command) : List Entry := s.bookAll [] cs

/-- What a run hands over, in order. -/
def handOvers (s : Service) : List Command → List HandOver
  | [] => []
  | c :: cs => (HandOver.of? c (s.step c).1).toList ++ (s.step c).2.handOvers cs

variable {s : Service}

theorem bookAll_append (s : Service) (l : List Entry) (cs ds : List Command) :
    s.bookAll l (cs ++ ds) = (s.after cs).bookAll (s.bookAll l cs) ds := by
  induction cs generalizing s l with
  | nil => rfl
  | cons c cs ih => simp only [List.cons_append, bookAll, after_cons, ih]

/-- **Booking follows every entry** and puts the new ones behind them. -/
theorem bookAll_eq (s : Service) (l : List Entry) (cs : List Command) :
    s.bookAll l cs = l.map (fun e => e.followAll s cs) ++ s.ledger cs := by
  induction cs generalizing s l with
  | nil => simp [bookAll, ledger, Entry.followAll]
  | cons c cs ih =>
    have hnew : s.ledger (c :: cs) = _ := ih (s.step c).2 (s.book c [])
    rw [bookAll, ih, hnew]
    simp [book, Entry.followAll]

/-- The last command of a run is booked last. -/
theorem ledger_concat (s : Service) (cs : List Command) (c : Command) :
    s.ledger (cs ++ [c]) = (s.after cs).book c (s.ledger cs) :=
  s.bookAll_append [] cs [c]

end Service

namespace Entry

variable {s s' : Service} {c : Command} {e : Entry}

/-- Following an entry does not change which it is. -/
@[simp] theorem notice_follow : (e.follow s s' c).notice = e.notice := by
  simp only [follow]
  split <;> rfl

@[simp] theorem token_follow : (e.follow s s' c).token = e.token := by
  simp only [follow]
  split <;> rfl

@[simp] theorem number_follow : (e.follow s s' c).number = e.number := by
  simp only [follow]
  split <;> rfl

/-- A new entry is about the notice that was handed over. -/
@[simp] theorem notice_enter {h : HandOver} : (enter s s' h).notice = h.notice := by
  simp only [enter]
  split <;> rfl

@[simp] theorem token_enter {h : HandOver} : (enter s s' h).token = h.token := by
  simp only [enter]
  split <;> rfl

/-- What becomes of the entry of a pending send. -/
theorem follow_ofSend (p : Send) : (ofSend p).follow s s' c =
    { ofSend p with
      answer := (s.arrival c p.number).or p.stage.answer?
      ending := if (s'.pending? p.number).isSome then none else s.moved s' } := rfl

/-- **What has ended has ended.** -/
theorem follow_of_ended (h : e.ending ≠ none) : e.follow s s' c = e := by
  simp only [follow]
  split
  · next h' _ => exact absurd h' h
  · rfl

/-- An entry is continued by another: it is about the same notice, and where
it has ended nothing changes any more. -/
structure Continues (e e' : Entry) : Prop where
  notice : e'.notice = e.notice
  token : e'.token = e.token
  number : e'.number = e.number
  ended : e.ending ≠ none → e' = e

/-- Following continues an entry. -/
theorem continues_follow (s s' : Service) (c : Command) (e : Entry) :
    e.Continues (e.follow s s' c) where
  notice := notice_follow
  token := token_follow
  number := number_follow
  ended := follow_of_ended

/-- What has ended stays so through any run. -/
theorem followAll_of_ended (h : e.ending ≠ none) (s : Service) (cs : List Command) :
    e.followAll s cs = e := by
  induction cs generalizing s with
  | nil => rfl
  | cons c cs ih => rw [followAll, follow_of_ended h, ih]

theorem Continues.refl (e : Entry) : e.Continues e := ⟨rfl, rfl, rfl, fun _ => rfl⟩

theorem Continues.trans {e' e'' : Entry} (h : e.Continues e') (h' : e'.Continues e'') :
    e.Continues e'' where
  notice := h'.notice.trans h.notice
  token := h'.token.trans h.token
  number := h'.number.trans h.number
  ended he := by
    obtain rfl := h.ended he
    exact h'.ended he

/-- An entry that is followed through a run continues as what it was. -/
theorem continues_followAll (s : Service) (e : Entry) (cs : List Command) :
    e.Continues (e.followAll s cs) := by
  induction cs generalizing s e with
  | nil => exact .refl e
  | cons c cs ih => exact (e.continues_follow s _ c).trans (ih _ _)

end Entry

namespace Service

variable {s : Service} {l : List Entry}

/-- An entry keeps its place. -/
theorem getElem?_bookAll (s : Service) (cs : List Command) {i : Nat} {e : Entry}
    (he : l[i]? = some e) : (s.bookAll l cs)[i]? = some (e.followAll s cs) := by
  have hlt : i < l.length := (List.getElem?_eq_some_iff.1 he).1
  rw [bookAll_eq, List.getElem?_append_left (by simpa using hlt), List.getElem?_map, he]
  rfl

/-- **Booking goes on with every entry** and takes none away. -/
theorem continues_bookAll (cs : List Command) {i : Nat} {e : Entry} (he : l[i]? = some e) :
    ∃ e', (s.bookAll l cs)[i]? = some e' ∧ e.Continues e' :=
  ⟨_, s.getElem?_bookAll cs he, e.continues_followAll s cs⟩

/-- **Every notice handed over has one entry**, in order. -/
theorem map_bookAll (s : Service) (l : List Entry) (cs : List Command) :
    (s.bookAll l cs).map (fun e => (e.notice, e.token))
      = l.map (fun e => (e.notice, e.token))
        ++ (s.handOvers cs).map fun h => (h.notice, h.token) := by
  induction cs generalizing s l with
  | nil => simp [bookAll, handOvers]
  | cons c cs ih =>
    rw [bookAll, ih, book, handOvers]
    cases HandOver.of? c (s.step c).1 with
    | none => simp
    | some h => simp

end Service

end Herald
