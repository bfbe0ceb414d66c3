import Herald.Rate.DomainGate
import Herald.Rate.GlobalGate
/-!
# Gates on their own

A gate is called at moments: it answers a call and is changed by it. Calls in a
row, each at its moment, make a run. Where the moments come from a clock, the
gate stands together with it and reads it in the course of a call, and a step is
a move of the clock or a call.
-/

namespace Herald

/-- **A gate**: what it makes of a call at a moment. -/
class Gate (γ : Type) (ι α : outParam Type) where
  call : γ → Moment → ι → α × γ

namespace Gate

variable {γ ι α : Type} [Gate γ ι α]

/-- The gate as calls in a row leave it. -/
def after (g : γ) : List (Moment × ι) → γ
  | [] => g
  | (now, i) :: calls => after (call g now i).2 calls

/-- What calls in a row are answered. -/
def answers (g : γ) : List (Moment × ι) → List α
  | [] => []
  | (now, i) :: calls => (call g now i).1 :: answers (call g now i).2 calls

end Gate

/-! ## The two gates -/

/-- A call of the domain gate. -/
inductive DomainCall where
  /-- A check of a domain. -/
  | check (domain : String)
  /-- A prune. -/
  | prune
  deriving DecidableEq, Repr

/-- Its answer. -/
inductive DomainAnswer where
  /-- Whether the domain was admitted. -/
  | checked (admitted : Bool)
  /-- How many windows were removed. -/
  | pruned (removed : Nat)
  deriving DecidableEq, Repr

/-- Whether a call is a check. -/
def DomainCall.isCheck : DomainCall → Bool
  | .check _ => true
  | .prune => false

/-- Whether an answer is that of a check. -/
def DomainAnswer.isChecked : DomainAnswer → Bool
  | .checked _ => true
  | .pruned _ => false

@[simp] theorem DomainCall.isCheck_check (x : String) : (DomainCall.check x).isCheck = true := rfl

@[simp] theorem DomainCall.isCheck_prune : DomainCall.prune.isCheck = false := rfl

@[simp] theorem DomainAnswer.isChecked_checked (b : Bool) :
    (DomainAnswer.checked b).isChecked = true := rfl

@[simp] theorem DomainAnswer.isChecked_pruned (n : Nat) :
    (DomainAnswer.pruned n).isChecked = false := rfl

/-- The domain gate is asked about a domain, or to prune. -/
instance : Gate DomainGate DomainCall DomainAnswer where
  call g now
    | .check domain => (.checked (g.check domain now).1, (g.check domain now).2)
    | .prune => (.pruned (g.prune now).1, (g.prune now).2)

@[simp] theorem DomainGate.after_check (g : DomainGate) (now : Moment) (x : String)
    (calls : List (Moment × DomainCall)) :
    Gate.after g ((now, .check x) :: calls) = Gate.after (g.check x now).2 calls := rfl

@[simp] theorem DomainGate.answers_check (g : DomainGate) (now : Moment) (x : String)
    (calls : List (Moment × DomainCall)) :
    Gate.answers g ((now, .check x) :: calls)
      = .checked (g.check x now).1 :: Gate.answers (g.check x now).2 calls := rfl

@[simp] theorem DomainGate.after_prune (g : DomainGate) (now : Moment)
    (calls : List (Moment × DomainCall)) :
    Gate.after g ((now, .prune) :: calls) = Gate.after (g.prune now).2 calls := rfl

@[simp] theorem DomainGate.answers_prune (g : DomainGate) (now : Moment)
    (calls : List (Moment × DomainCall)) :
    Gate.answers g ((now, .prune) :: calls)
      = .pruned (g.prune now).1 :: Gate.answers (g.prune now).2 calls := rfl

/-- The global gate is asked one thing only. -/
instance : Gate GlobalGate Unit Bool where
  call g now _ := g.check now

/-! ## Gates with a clock -/

/-- **A gate that reads a clock**, at some point of a call: what it makes of a call by
the clock, which may end with the clock's fault. -/
class ClockGate (γ : Type) (ι α : outParam Type) extends Gate γ ι α where
  callBy : γ → ι → Clock → Except ClockFault α × γ × Clock

/-- The domain gate reads it while it looks at an entry, and before a prune. -/
instance : ClockGate DomainGate DomainCall DomainAnswer where
  callBy g
    | .check domain, c =>
      match g.checkBy domain c with
      | (.ok b, g', c') => (.ok (.checked b), g', c')
      | (.error f, g', c') => (.error f, g', c')
    | .prune, c =>
      match g.pruneBy c with
      | (.ok n, g', c') => (.ok (.pruned n), g', c')
      | (.error f, g', c') => (.error f, g', c')

/-- The global gate reads it while it holds its lock. -/
instance : ClockGate GlobalGate Unit Bool where
  callBy g _ c := g.checkBy c

/-- A gate and the clock it reads. -/
structure Clocked (γ : Type) where
  gate : γ
  clock : Clock

/-- One step of a gate with its clock. -/
inductive ClockedCommand (ι : Type) where
  /-- The clock moves forward. -/
  | advance (d : Span)
  /-- The clock moves to an offset from its start. -/
  | setOffset (d : Span)
  /-- The next reading of the clock fails. -/
  | failNext
  /-- The gate is called. -/
  | call (i : ι)
  deriving DecidableEq, Repr

/-- The answer to a step. -/
inductive ClockedAnswer (α : Type) where
  | done
  | fault (f : ClockFault)
  | answer (a : α)
  deriving DecidableEq, Repr

namespace Clocked

variable {γ ι α : Type}

/-- A move of the clock. -/
def move (s : Clocked γ) (r : Except ClockFault Unit × Clock) : ClockedAnswer α × Clocked γ :=
  match r with
  | (.ok (), c) => (.done, { s with clock := c })
  | (.error f, c) => (.fault f, { s with clock := c })

variable [ClockGate γ ι α]

/-- **One step.** A call is made by the clock. -/
def step (s : Clocked γ) : ClockedCommand ι → ClockedAnswer α × Clocked γ
  | .advance d => s.move (s.clock.advance d)
  | .setOffset d => s.move (s.clock.setOffset d)
  | .failNext => (.done, { s with clock := s.clock.failNext })
  | .call i =>
    match ClockGate.callBy s.gate i s.clock with
    | (.ok a, g, c) => (.answer a, ⟨g, c⟩)
    | (.error f, g, c) => (.fault f, ⟨g, c⟩)

/-- The gate and its clock as steps in a row leave them. -/
def after (s : Clocked γ) : List (ClockedCommand ι) → Clocked γ
  | [] => s
  | c :: cs => (s.step c).2.after cs

/-- What steps in a row are answered. -/
def answers (s : Clocked γ) : List (ClockedCommand ι) → List (ClockedAnswer α)
  | [] => []
  | c :: cs => (s.step c).1 :: (s.step c).2.answers cs

@[simp] theorem after_nil (s : Clocked γ) : s.after ([] : List (ClockedCommand ι)) = s := rfl

@[simp] theorem after_cons (s : Clocked γ) (c : ClockedCommand ι) (cs : List (ClockedCommand ι)) :
    s.after (c :: cs) = (s.step c).2.after cs := rfl

@[simp] theorem answers_nil (s : Clocked γ) : s.answers ([] : List (ClockedCommand ι)) = [] := rfl

@[simp] theorem answers_cons (s : Clocked γ) (c : ClockedCommand ι)
    (cs : List (ClockedCommand ι)) :
    s.answers (c :: cs) = (s.step c).1 :: (s.step c).2.answers cs := rfl

end Clocked

end Herald
