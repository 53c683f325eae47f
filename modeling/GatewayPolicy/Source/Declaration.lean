import GatewayPolicy.Source.Node
/-!
# Declarations

A policy is declared by a class: section methods, which return nothing, and
helper methods, which return a value.
-/

namespace GatewayPolicy

/-- A parameter of a method, with its type if one is written. -/
structure Parameter where
  name : String
  type : Option String
  deriving DecidableEq, Repr

/-- A method, with a block, an expression or nothing as its body. -/
structure Method where
  name : String
  returnType : String
  parameters : List Parameter
  body : Option Node
  expressionBody : Option Node
  deriving DecidableEq, Repr

/-- A class with its methods in source order. -/
structure Declaration where
  name : String
  methods : List Method
  deriving DecidableEq, Repr

/-- The return type of a method that returns nothing. -/
def voidType : String := "void"

namespace Method

/-- Whether a method returns nothing. -/
def isVoid (m : Method) : Bool := m.returnType == voidType

/-- The body that a method has, the block first when it has both. -/
def anyBody (m : Method) : Option Node := m.body <|> m.expressionBody

/-- The kind of the body of a method; a missing body counts as a block. -/
def bodyKind (m : Method) : Kind := (m.anyBody.map Node.kind).getD .block

/-- A method with one untyped parameter, `context`. -/
def onContext (name returnType : String) (body expressionBody : Option Node) : Method :=
  ⟨name, returnType, [⟨"context", none⟩], body, expressionBody⟩

/-- A section method with a block body. -/
def forSection (name : String) (body : Node) : Method := onContext name voidType (some body) none

/-- A method whose body is one expression. -/
def expressionBodied (name returnType : String) (e : Node) : Method := onContext name returnType none (some e)

/-- A method whose body is a block. -/
def blockBodied (name returnType : String) (b : Node) : Method := onContext name returnType (some b) none

end Method

/-- The first method of a declaration that has the given name. -/
def Declaration.method? (d : Declaration) (name : String) : Option Method :=
  d.methods.find? fun m => m.name == name

end GatewayPolicy
