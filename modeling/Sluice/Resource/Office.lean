import Sluice.Text.Split
import Sluice.Text.Upper

/-!
# Offices

Every request is served for one office. The path under which the resources are mounted names it,
unless the deployment names one itself: `/spk-data` serves SPK, while a path that names no office or
the reserved name serves headquarters.
-/

namespace Sluice.Resource

/-- The office where the path names none. -/
def defaultOffice : String := "HQ"

/-- The name in paths that names no office. -/
def reservedName : String := "CWMS"

/-- The office that a path names: the capitals of its text before the first hyphen. -/
def officeOfPath (path : String) : String :=
  let unslashed := path.toList.dropWhile (· = '/')
  let office := Text.upperChars (unslashed.takeWhile (· ≠ '-'))
  if office.isEmpty || office == reservedName.toList then defaultOffice else String.ofList office

/-- How a deployment finds its office. -/
structure OfficeResolver where
  /-- The office that counts whatever the path says. -/
  override : Option String
  deriving Repr, DecidableEq

namespace OfficeResolver

/-- The path alone counts. -/
def derived : OfficeResolver := ⟨none⟩

/-- One office counts, in capitals. -/
def fixed (office : String) : OfficeResolver := ⟨some (Text.upper office)⟩

/-- The office of a deployment whose resources are mounted under a path. -/
def resolve (resolver : OfficeResolver) (path : String) : String :=
  match resolver.override with
  | some office => office
  | none => officeOfPath path

end OfficeResolver

end Sluice.Resource
