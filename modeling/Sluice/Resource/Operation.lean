import Sluice.Http.Method

/-!
# Operations

The five things that can be done with a resource. Reads are got, writes have a method each; three of
the five name a single item.
-/

namespace Sluice.Resource

/-- What can be done with a resource. -/
inductive Operation where
  | fetchOne
  | fetchAll
  | create
  | update
  | delete
  deriving Repr, DecidableEq

namespace Operation

/-- All operations in the order in which they are bound. -/
def all : List Operation := [.fetchAll, .fetchOne, .create, .update, .delete]

/-- The method of a request for the operation. -/
def method : Operation → Http.Method
  | .fetchOne | .fetchAll => .get
  | .create => .post
  | .update => .patch
  | .delete => .delete

/-- Whether the operation names a single item, and so an identifier. -/
def targetsItem : Operation → Bool
  | .fetchOne | .update | .delete => true
  | .fetchAll | .create => false

/-- Whether the operation leaves the resource as it is. -/
def isRead : Operation → Bool
  | .fetchOne | .fetchAll => true
  | .create | .update | .delete => false

/-- Whether the operation reads the body of the request. -/
def takesPayload : Operation → Bool
  | .create | .update => true
  | .fetchOne | .fetchAll | .delete => false

/-- The name of the operation in logs and answers. -/
def name : Operation → String
  | .fetchOne => "fetch-one"
  | .fetchAll => "fetch-all"
  | .create => "create"
  | .update => "update"
  | .delete => "delete"

/-- The name of the operation in diagnostics. -/
def label : Operation → String
  | .fetchOne => "FetchOne"
  | .fetchAll => "FetchAll"
  | .create => "Create"
  | .update => "Update"
  | .delete => "Delete"

/-- The operation of a name. -/
def ofName? (name : String) : Option Operation :=
  all.find? (·.name == name)

theorem mem_all (operation : Operation) : operation ∈ all := by
  cases operation <;> simp [all]

end Operation

end Sluice.Resource
