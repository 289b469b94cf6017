/-
NodeWatch.Snapshot.Report — how a flush went.
-/

namespace NodeWatch

/-- How a flush went. -/
structure Report where
  /-- The nodes that were tracked when the snapshot was taken. -/
  tracked : Nat
  written : Nat
  failed : Nat
  deriving DecidableEq, Repr

namespace Report

/-- A flush of `tracked` nodes that has written nothing yet. -/
def begin (tracked : Nat) : Report := ⟨tracked, 0, 0⟩

/-- With one more entry written. -/
def wrote (r : Report) : Report := { r with written := r.written + 1 }

/-- With one more entry lost. -/
def missed (r : Report) : Report := { r with failed := r.failed + 1 }

end Report

end NodeWatch
