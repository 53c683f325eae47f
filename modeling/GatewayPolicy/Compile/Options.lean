/-!
# Compiler options
-/

namespace GatewayPolicy

/-- What becomes of a statement that no statement compiler takes. -/
inductive UnknownStatements where
  /-- It is left out. -/
  | skip
  /-- It is reported, and the section fails. -/
  | report
  deriving DecidableEq, Repr

namespace UnknownStatements

/-- Every choice, in the order in which messages list them. -/
def all : List UnknownStatements := [skip, report]

def name : UnknownStatements → String
  | skip => "skip"
  | report => "report"

end UnknownStatements

/-- The options of a compiler: the choice for unknown statements, the name of the request
context, and the member of the context that holds the named variables. -/
structure Options where
  unknownStatements : UnknownStatements := .skip
  contextParameter : String := "context"
  variablesMember : String := "Variables"
  deriving DecidableEq, Repr

end GatewayPolicy
