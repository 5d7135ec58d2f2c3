import Sluice.Database.Error

/-!
# Sessions with a database

Statements go to the database with texts for their parameters and come back with rows, with the
number of rows that they changed, or with a fault, unless the answer is lost on the way. Nothing is known
here of what statements mean: how the database answers is given, one answer after another, and the
statements that it was asked are kept in order. A database that has no further answer finds nothing and
changes nothing.
-/

namespace Sluice.Database

/-- A statement with what is bound to its parameters; an absent text is `NULL`. The statement stands on
one line, with single blanks for the white space between its words. -/
structure Statement where
  sql : String
  parameters : List (Option String)
  deriving Repr, DecidableEq

/-- A row of texts; an absent one is `NULL`. -/
abbrev Row := List (Option String)

/-- How the database answers a statement. -/
inductive Answer where
  | rows (rows : List Row)
  /-- The number of rows that the statement changed. -/
  | changed (count : Nat)
  | fault (fault : Fault)
  /-- No answer: something went wrong on this side of the connection. -/
  | lost (error : Error)
  deriving Repr, DecidableEq

/-- A session with a database. -/
structure Session where
  /-- The answers to the statements that are still to come. -/
  answers : List Answer
  /-- The statements so far. -/
  asked : List Statement
  /-- Whether no connection is handed out any more. -/
  closed : Bool
  deriving Repr, DecidableEq

namespace Session

/-- A session in which nothing has been asked. -/
def ofAnswers (answers : List Answer) : Session := ⟨answers, [], false⟩

/-- Asks the database. -/
def ask (session : Session) (statement : Statement) : Answer × Session :=
  let answer := session.answers.headD (.rows [])
  (answer,
    { session with
      answers := session.answers.tail
      asked := session.asked ++ [statement] })

/-- The rows that a statement finds. -/
def select (session : Session) (statement : Statement) : Except Error (List Row) × Session :=
  match session.ask statement with
  | (.rows rows, session) => (.ok rows, session)
  | (.changed _, session) => (.ok [], session)
  | (.fault fault, session) => (.error (.reported fault), session)
  | (.lost error, session) => (.error error, session)

/-- The number of rows that a statement concerns. -/
def execute (session : Session) (statement : Statement) : Except Error Nat × Session :=
  match session.ask statement with
  | (.rows rows, session) => (.ok rows.length, session)
  | (.changed count, session) => (.ok count, session)
  | (.fault fault, session) => (.error (.reported fault), session)
  | (.lost error, session) => (.error error, session)

/-- Hands out a connection. -/
def acquire (session : Session) : Except Error Unit :=
  if session.closed then .error .poolClosed else .ok ()

/-- The statement with which the database is checked. -/
def checkStatement : Statement := ⟨"SELECT 1", []⟩

/-- Checks the database. -/
def check (session : Session) : Except Error Unit × Session :=
  match session.acquire with
  | .error error => (.error error, session)
  | .ok _ =>
    let (outcome, session) := session.execute checkStatement
    (outcome.map fun _ => (), session)

end Session

/-- The text in a column that may not be `NULL`; `column` names it in errors. -/
def textColumn (row : Row) (index : Nat) (column : String) : Except Error String :=
  match row[index]? with
  | some (some text) => .ok text
  | some none => .error (.columnDecode column .unexpectedNull)
  | none => .error (.columnNotFound column)

/-- The text in a column that may be `NULL`. -/
def optionalColumn (row : Row) (index : Nat) (column : String) : Except Error (Option String) :=
  match row[index]? with
  | some text => .ok text
  | none => .error (.columnNotFound column)

end Sluice.Database
