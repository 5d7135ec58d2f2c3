import Sluice.Category.Create
import Sluice.Category.Delete
import Sluice.Category.Find
import Sluice.Category.Listing
import Sluice.Server.Application

/-!
# The resource of location categories

Categories can be found, listed, created and deleted, but not changed. It is the one resource of the
server, and every connection to the database is leased for one request.
-/

namespace Sluice.Category

open Resource

/-- What the resource implements. -/
def handler : Handler Database.Session where
  fetchOne := some find
  fetchAll := some list
  create := some create
  delete := some delete

/-- The resources of the server under a policy. -/
def registry (policy : AccessPolicy) : Except StartError (Registry Database.Session) :=
  (Registry.empty.register template handler policy).map (·.1)

/-- Leases of connections to the database. -/
def source : Source Database.Session where
  acquire session :=
    match session.acquire with
    | .ok _ => .ok ()
    | .error error => .error (.database error)
  check shared :=
    let (outcome, session) := shared.store.check
    match outcome with
    | .ok _ => (.ok (), { shared with store := session })
    | .error error => (.error (.database error), { shared with store := session })

end Sluice.Category
