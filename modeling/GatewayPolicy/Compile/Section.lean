/-!
# Sections

The section methods of a policy class and the tags of the sections they compile
into. Backend policies go into an inbound section.
-/

namespace GatewayPolicy

/-- A section of a policy. -/
inductive Section where
  | inbound
  | outbound
  | backend
  | onError
  deriving DecidableEq, Repr, Inhabited

namespace Section

def all : List Section := [inbound, outbound, backend, onError]

/-- The name of the method that declares a section. -/
def methodName : Section → String
  | inbound => "Inbound"
  | outbound => "Outbound"
  | backend => "Backend"
  | onError => "OnError"

/-- The tag of the compiled section. -/
def tag : Section → String
  | inbound | backend => "inbound"
  | outbound => "outbound"
  | onError => "on-error"

/-- The section that a method of the given name declares. -/
def ofMethodName? (name : String) : Option Section := all.find? fun s => s.methodName == name

theorem ofMethodName?_methodName (s : Section) : ofMethodName? s.methodName = some s := by
  cases s <;> decide

theorem methodName_of_ofMethodName? {name : String} {s : Section} (h : ofMethodName? name = some s) :
    s.methodName = name := by
  simpa using List.find?_some h

end Section

end GatewayPolicy
