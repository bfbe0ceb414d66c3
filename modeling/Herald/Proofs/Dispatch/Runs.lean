import Herald.Dispatch.Service
import Mathlib.Data.List.Induction
/-!
# Runs of the service

What a run leaves behind and what it answers, with the equations both are
read off: a run is its first command and then the rest, or everything up to
its last command and then that one. `invariant_after` is the induction over
runs: what holds at the start and is kept by every step holds at every point.
-/

namespace Herald

namespace Service

variable {s : Service}

/-- A service at its beginning: a dispatcher and a clock, and nothing done
yet. -/
def begin (d : Dispatcher) (c : Clock) : Service := { ofDispatcher d with clock := c }

/-- The service as a run leaves it. -/
def after (s : Service) (cs : List Command) : Service := (s.run cs).2

/-- What a run answers. -/
def answers (s : Service) (cs : List Command) : List Answer := (s.run cs).1

/-- **The clock only moves forward in a run**: no step shows an earlier moment
than the one before it. -/
def MovesForward (s : Service) : List Command → Prop
  | [] => True
  | c :: cs => s.clock.time.toNanos ≤ (s.step c).2.clock.time.toNanos
      ∧ (s.step c).2.MovesForward cs

/-- Whether it does can be found out by running. -/
instance decidableMovesForward : (s : Service) → (cs : List Command) →
    Decidable (s.MovesForward cs)
  | _, [] => .isTrue trivial
  | s, c :: cs =>
    haveI := decidableMovesForward (s.step c).2 cs
    inferInstanceAs (Decidable (_ ∧ _))

@[simp] theorem after_nil (s : Service) : s.after [] = s := rfl

@[simp] theorem after_cons (s : Service) (c : Command) (cs : List Command) :
    s.after (c :: cs) = (s.step c).2.after cs := rfl

@[simp] theorem answers_nil (s : Service) : s.answers [] = [] := rfl

@[simp] theorem answers_cons (s : Service) (c : Command) (cs : List Command) :
    s.answers (c :: cs) = (s.step c).1 :: (s.step c).2.answers cs := rfl

/-- Two runs in a row are one run. -/
theorem after_append (s : Service) (cs ds : List Command) :
    s.after (cs ++ ds) = (s.after cs).after ds := by
  induction cs generalizing s with
  | nil => rfl
  | cons c cs ih => simp only [List.cons_append, after_cons, ih]

/-- The last step of a run. -/
@[simp] theorem after_concat (s : Service) (cs : List Command) (c : Command) :
    s.after (cs ++ [c]) = ((s.after cs).step c).2 := by
  rw [after_append]
  rfl

/-- **Induction over runs, with the run in hand.** What holds of the empty run
and is kept when a command is added holds of every run. -/
theorem invariant_run {P : List Command → Service → Prop} (start : P [] s)
    (step : ∀ cs c, P cs (s.after cs) → P (cs ++ [c]) ((s.after cs).step c).2)
    (cs : List Command) : P cs (s.after cs) := by
  induction cs using List.reverseRecOn with
  | nil => exact start
  | append_singleton cs c ih =>
    rw [after_concat]
    exact step cs c ih

/-- **Induction over runs.** What holds at the start and is kept by every step
holds after every run. -/
theorem invariant_after {P : Service → Prop} (start : P s)
    (step : ∀ s c, P s → P (s.step c).2) (cs : List Command) : P (s.after cs) :=
  invariant_run (P := fun _ s => P s) start (fun cs c => step (s.after cs) c) cs

end Service

end Herald
