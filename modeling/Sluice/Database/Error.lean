import Sluice.Text.Quoted

/-!
# Faults of a database

Why a database does not answer as expected. Of what a database itself reports, only the kind and the
names of the constraint and the table matter to clients. To the maintainers an error is shown with all
its parts; those of a fault that comes from elsewhere are known as a text only.
-/

namespace Sluice.Database

/-- What kind of fault a database reports. -/
inductive FaultKind where
  | uniqueViolation
  | foreignKeyViolation
  | notNullViolation
  | checkViolation
  | other
  deriving Repr, DecidableEq

/-- A fault that a database reports. -/
structure Fault where
  kind : FaultKind
  message : String
  constraint : Option String
  table : Option String
  /-- The form in which all its parts are shown. -/
  inspected : String
  deriving Repr, DecidableEq

/-- A fault of something that a database is reached through. -/
structure Cause where
  message : String
  /-- The form in which all its parts are shown. -/
  inspected : String
  deriving Repr, DecidableEq

/-- A column that may not be `NULL` is. -/
def Cause.unexpectedNull : Cause :=
  ⟨"unexpected null; try decoding as an `Option`", "UnexpectedNullError"⟩

/-- Why a database cannot be asked, or did not answer as expected. -/
inductive Error where
  | rowNotFound
  | poolTimedOut
  | poolClosed
  | workerCrashed
  | columnNotFound (name : String)
  /-- A value that cannot be read; the column is shown as it was asked for. -/
  | columnDecode (column : String) (cause : Cause)
  | protocol (message : String)
  | communication (cause : Cause)
  | reported (fault : Fault)
  /-- Any other fault on this side of the connection. -/
  | other (cause : Cause)
  deriving Repr, DecidableEq

namespace Error

/-- The wording of an error. -/
def message : Error → String
  | .rowNotFound => "no rows returned by a query that expected to return at least one row"
  | .poolTimedOut => "pool timed out while waiting for an open connection"
  | .poolClosed => "attempted to acquire a connection on a closed pool"
  | .workerCrashed => "attempted to communicate with a crashed background worker"
  | .columnNotFound name => "no column found for name: " ++ name
  | .columnDecode column cause =>
    "error occurred while decoding column " ++ column ++ ": " ++ cause.message
  | .protocol message => "encountered unexpected or invalid data: " ++ message
  | .communication cause => "error communicating with database: " ++ cause.message
  | .reported fault => "error returned from database: " ++ fault.message
  | .other cause => cause.message

/-- An error with all its parts. -/
def inspected : Error → String
  | .rowNotFound => "RowNotFound"
  | .poolTimedOut => "PoolTimedOut"
  | .poolClosed => "PoolClosed"
  | .workerCrashed => "WorkerCrashed"
  | .columnNotFound name => "ColumnNotFound(" ++ Text.Quoted.quote name ++ ")"
  | .columnDecode column cause =>
    "ColumnDecode \x7b index: " ++ Text.Quoted.quote column ++ ", source: " ++ cause.inspected ++
      " \x7d"
  | .protocol message => "Protocol(" ++ Text.Quoted.quote message ++ ")"
  | .communication cause => "Io(" ++ cause.inspected ++ ")"
  | .reported fault => "Database(" ++ fault.inspected ++ ")"
  | .other cause => cause.inspected

end Error

end Sluice.Database
