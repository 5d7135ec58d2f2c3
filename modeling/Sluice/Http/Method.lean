import Sluice.Http.Header

/-!
# Methods

The method of a request is a token; letter case matters.
-/

namespace Sluice.Http

/-- The method of a request. -/
structure Method where
  name : String
  deriving Repr, DecidableEq

namespace Method

def get : Method := ⟨"GET"⟩
def head : Method := ⟨"HEAD"⟩
def post : Method := ⟨"POST"⟩
def patch : Method := ⟨"PATCH"⟩
def delete : Method := ⟨"DELETE"⟩
def options : Method := ⟨"OPTIONS"⟩

/-- The method of a name, if the name is a token. -/
def ofName? (name : String) : Option Method :=
  if isToken name then some ⟨name⟩ else none

end Method

end Sluice.Http
