/-
NodeWatch.Store.Error — why a store refuses a call.
-/
import NodeWatch.Store.Record
import NodeWatch.Text.Numeral

namespace NodeWatch

/-- Why a store refuses a call. -/
inductive StoreError where
  /-- The database says why. -/
  | database (reason : String)
  /-- There is no record with this id. -/
  | notFound (id : DurableId)
  deriving DecidableEq, Repr

namespace StoreError

/-- The text under which an error is reported. -/
def message : StoreError → String
  | .database reason => "Database error: " ++ reason
  | .notFound id => "Node record " ++ Text.ofInt id.toInt ++ " not found"

/-- A number that a signed column cannot hold. -/
def numberTooLarge : StoreError :=
  .database "number too large to fit in target type"

/-- A row that names a node without a record. -/
def foreignKey : StoreError :=
  .database "FOREIGN KEY constraint failed"

/-- A column of a row that must not be empty. -/
def notNull (column : String) : StoreError :=
  .database ("NOT NULL constraint failed: " ++ column)

/-- No more row numbers. -/
def full : StoreError :=
  .database "database or disk is full"

end StoreError

end NodeWatch
