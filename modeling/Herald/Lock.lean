/-!
# Values behind locks

Whoever holds a lock works on the value behind it. One who fails there lets go of the
lock with the value as it stands, and the lock is poisoned from then on: taking it
says so, and hands the value out all the same (`take`). Those who go on with that
value are answered as if nobody had failed (`hold_heal`).
-/

namespace Herald

/-- A value behind a lock, and whether somebody has failed while holding it. -/
structure Lock (α : Type) where
  value : α
  isPoisoned : Bool
  deriving DecidableEq, Repr

namespace Lock

variable {α β ε σ : Type}

/-- A lock that nobody has held. -/
def free (a : α) : Lock α := ⟨a, false⟩

/-- **Taking a lock.** A poisoned one says that it is, and hands its value out all the
same. -/
def take (l : Lock α) : Except α α := if l.isPoisoned then .error l.value else .ok l.value

/-- The value handed out, whatever was said about it. -/
def given : Except α α → α
  | .ok a => a
  | .error a => a

/-- A look at the value. -/
def get (l : Lock α) : α := given l.take

/-- **What is done while holding a lock.** `act` finds the value and makes another of
it, and something else next to the lock. It may fail at any point: what it has made of
the value by then is what the lock keeps, poisoned. -/
def hold (l : Lock α) (x : σ) (act : α → σ → Except ε β × α × σ) : Except ε β × Lock α × σ :=
  match act (given l.take) x with
  | (.ok b, a, x') => (.ok b, { l with value := a }, x')
  | (.error e, a, x') => (.error e, { value := a, isPoisoned := true }, x')

/-- The lock with another value. -/
def set (l : Lock α) (a : α) : Lock α := { l with value := a }

/-- The lock after somebody has failed and changed nothing. -/
def poison (l : Lock α) : Lock α := { l with isPoisoned := true }

/-- The lock as if nobody had ever failed. -/
def heal (l : Lock α) : Lock α := { l with isPoisoned := false }

/-- **A look shows the value**, poisoned or not. -/
@[simp] theorem get_eq (l : Lock α) : l.get = l.value := by
  cases h : l.isPoisoned <;> simp [get, take, given, h]

@[simp] theorem value_set (l : Lock α) (a : α) : (l.set a).value = a := rfl

@[simp] theorem value_poison (l : Lock α) : l.poison.value = l.value := rfl

@[simp] theorem value_heal (l : Lock α) : l.heal.value = l.value := rfl

@[simp] theorem set_value (l : Lock α) : l.set l.value = l := rfl

@[simp] theorem heal_poison (l : Lock α) : l.poison.heal = l.heal := rfl

@[simp] theorem heal_heal (l : Lock α) : l.heal.heal = l.heal := rfl

variable {l : Lock α} {x x' : σ} {act : α → σ → Except ε β × α × σ} {a : α}

/-- One who gets to the end leaves the lock with the new value and as poisoned as it
was. -/
theorem hold_of_ok {b : β} (h : act l.value x = (.ok b, a, x')) :
    l.hold x act = (.ok b, l.set a, x') := by
  rw [← get_eq, get] at h
  simp only [hold, h, set]

/-- One who fails leaves it poisoned, with what became of the value. -/
theorem hold_of_error {e : ε} (h : act l.value x = (.error e, a, x')) :
    l.hold x act = (.error e, (l.set a).poison, x') := by
  rw [← get_eq, get] at h
  simp only [hold, h, set, poison]

/-- **Those who come after a failure** do as they would have done without it. -/
theorem hold_heal (l : Lock α) (x : σ) (act : α → σ → Except ε β × α × σ) :
    (l.heal.hold x act).1 = (l.hold x act).1
      ∧ (l.heal.hold x act).2.1.heal = (l.hold x act).2.1.heal
      ∧ (l.heal.hold x act).2.2 = (l.hold x act).2.2 := by
  rcases h : act l.value x with ⟨e | b, a, x'⟩
  · rw [hold_of_error h, hold_of_error (l := l.heal) h]
    exact ⟨rfl, rfl, rfl⟩
  · rw [hold_of_ok h, hold_of_ok (l := l.heal) h]
    exact ⟨rfl, rfl, rfl⟩

end Lock

end Herald
