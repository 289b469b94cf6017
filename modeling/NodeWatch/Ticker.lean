/-
NodeWatch.Ticker — ticks at even distances, and what happens to late
ones.

A ticker has a deadline, and it ticks when it is asked at the deadline or
later.  A tick that is hardly late leaves the grid of deadlines alone.
After one that is later than that, the ticks in between are missed for
good, and the deadlines go on in one of two ways: on the old grid, or on
a new one that begins with the late tick.

Instants are in milliseconds, and there is one for every number.  A clock
has a last instant; a period that leads beyond it from now ends whoever
starts a ticker with it, which is left out here.
-/

namespace NodeWatch

/-- The deadlines after a late tick. -/
inductive Lateness where
  /-- They stay on the old grid. -/
  | skip
  /-- They begin a new grid, a period after the late tick. -/
  | delay
  deriving DecidableEq, Repr

/-- A row of deadlines. -/
structure Ticker where
  period : Nat
  /-- The next deadline. -/
  deadline : Nat
  deriving DecidableEq, Repr

namespace Ticker

/-- The first tick is a period after `now`, which must be an instant of the
clock. -/
def start (now period : Nat) : Ticker := ⟨period, now + period⟩

/-- Whether the next tick is due. -/
def isDue (t : Ticker) (now : Nat) : Bool :=
  decide (t.deadline ≤ now)

/-- By how much a tick may come after its deadline and not be late. -/
def grace : Nat := 5

/-- The next deadline, after a tick at `now`. -/
def tick (t : Ticker) (lateness : Lateness) (now : Nat) : Ticker where
  period := t.period
  deadline :=
    if now ≤ t.deadline + grace then t.deadline + t.period
    else match lateness with
      | .skip => now + t.period - (now - t.deadline) % t.period
      | .delay => now + t.period

end Ticker

end NodeWatch
