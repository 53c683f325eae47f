import GatewayPolicy.Compile.Options
import GatewayPolicy.Source.Declaration
import GatewayPolicy.Yaml.Value
/-!
# The model from YAML

How declarations are read from a YAML value, and options from a YAML document. There
are no messages: a value either stands for a declaration or does not. Null stands for
an empty list and for whatever may be left out; no number stands for a string.
-/

namespace GatewayPolicy

namespace Yaml.Value

variable {α : Type}

def asString (v : Value) : Option String :=
  match v.untagged with
  | string s => some s
  | _ => none

/-- A list, or null for the empty one. -/
def asList (f : Value → Option α) (v : Value) : Option (List α) :=
  match v.untagged with
  | list vs => vs.mapM f
  | null => some []
  | _ => none

/-- A value, or null for none. -/
def asOptional (f : Value → Option α) : Value → Option (Option α)
  | null => some none
  | v => (f v).map some

/-- The fields of a record, all of whose keys are strings. -/
def asRecord (v : Value) : Option (List (String × Value)) :=
  match v.untagged with
  | map es => es.mapM fun e => e.1.asString.map fun k => (k, e.2)
  | _ => none

/-- A field, if it is there. It must not be there twice. -/
def field? (fields : List (String × Value)) (name : String) (f : Value → Option α) : Option (Option α) :=
  match fields.filter fun e => e.1 == name with
  | [] => some none
  | [(_, v)] => (f v).map some
  | _ => none

/-- Whether an entry of a mapping has the given name, whatever the tag of its key. -/
def isNamed (name : String) (e : Value × Value) : Bool := e.1.asString == some name

end Yaml.Value

open Yaml (Value)
open Yaml.Value

/-- A kind by its code, which may be a tag. -/
def Kind.fromYaml : Value → Option Kind
  | .string s => Kind.ofCode? s
  | .tagged tag .null => Kind.ofCode? (Yaml.Tag.bareName tag)
  | _ => none

namespace Node

mutual

/-- A node, with no children and an empty text unless they are given. -/
def fromYaml : Value → Option Node
  | .map es => do
    let fields ← (Value.map es).asRecord
    let children ← childrenEntry es
    let kind ← field? fields "kind" Kind.fromYaml
    let text ← field? fields "source_text" asString
    let token ← field? fields "token" (asOptional asString)
    return ⟨← kind, token.join, children, text.getD ""⟩
  | .tagged _ v => fromYaml v
  | _ => none

/-- The children of a node. -/
def childrenFromYaml : Value → Option (List Node)
  | .list vs => listFromYaml vs
  | .null => some []
  | .tagged _ v => childrenFromYaml v
  | _ => none

/-- Nodes, in order. -/
def listFromYaml : List Value → Option (List Node)
  | [] => some []
  | v :: vs => do
    let n ← fromYaml v
    return n :: (← listFromYaml vs)

/-- The children among the entries of a mapping; none if there is no such entry. There must not be
two of them. -/
def childrenEntry : List (Value × Value) → Option (List Node)
  | [] => some []
  | (k, v) :: es =>
    if isNamed "children" (k, v) then
      if es.any (isNamed "children") then none else childrenFromYaml v
    else childrenEntry es

end

end Node

/-- A parameter, without a type unless it is given. -/
def Parameter.fromYaml (v : Value) : Option Parameter := do
  let fields ← v.asRecord
  let name ← field? fields "name" asString
  let type ← field? fields "type" (asOptional asString)
  return ⟨← name, type.join⟩

/-- A method, which returns nothing and has neither parameters nor bodies unless they are given. -/
def Method.fromYaml (v : Value) : Option Method := do
  let fields ← v.asRecord
  let name ← field? fields "name" asString
  let returnType ← field? fields "return_type" asString
  let parameters ← field? fields "parameters" (asList Parameter.fromYaml)
  let body ← field? fields "body" (asOptional Node.fromYaml)
  let expressionBody ← field? fields "expression_body" (asOptional Node.fromYaml)
  return ⟨← name, returnType.getD voidType, parameters.getD [], body.join, expressionBody.join⟩

/-- A declaration, without methods unless they are given. -/
def Declaration.fromYaml (v : Value) : Option Declaration := do
  let fields ← v.asRecord
  let name ← field? fields "name" asString
  let methods ← field? fields "methods" (asList Method.fromYaml)
  return ⟨← name, methods.getD []⟩

/-! ## Options -/

namespace Options

/-- The text of a scalar, whatever it is spelled like. -/
def scalarText (n : Yaml.Node) : Follow String := do
  match ← target n with
  | .scalar _ _ text => return text
  | _ => failure

/-- The name of a choice that a scalar gives: its text, or the tag on a null. -/
def choiceName? (p : Yaml.Props) (plain : Bool) (text : String) : Option String :=
  match ownName? p.tag with
  | some name => if plain && (text = "" || isNull text) then some name else none
  | none => some text

/-- A choice for unknown statements by its name. -/
def unknownFromYaml (n : Yaml.Node) : Follow UnknownStatements := do
  match ← target n with
  | .scalar p plain text =>
    match (choiceName? p plain text).bind fun name => UnknownStatements.all.find? fun u => u.name == name with
    | some u => return u
    | none => failure
  | _ => failure

/-- The options as far as they are given. -/
structure Given where
  unknownStatements : Option UnknownStatements := none
  contextParameter : Option String := none
  variablesMember : Option String := none

/-- Takes one entry of the mapping of options. No option is given twice; other keys are left aside. -/
def takeEntry (g : Given) (e : Yaml.Node × Yaml.Node) : Follow Given := do
  match ← scalarText e.1 with
  | "unknown_statements" =>
    if g.unknownStatements.isSome then failure
    return { g with unknownStatements := some (← unknownFromYaml e.2) }
  | "context_parameter" =>
    if g.contextParameter.isSome then failure
    return { g with contextParameter := some (← scalarText e.2) }
  | "variables_member" =>
    if g.variablesMember.isSome then failure
    return { g with variablesMember := some (← scalarText e.2) }
  | _ => return g

/-- The options that a document holds. -/
def fromNode : Yaml.Node → Follow Options
  | .mapping _ es => do
    let g ← es.foldlM takeEntry {}
    let d : Options := {}
    return ⟨g.unknownStatements.getD d.unknownStatements, g.contextParameter.getD d.contextParameter,
      g.variablesMember.getD d.variablesMember⟩
  | .scalar _ true "" => return {}
  | _ => failure

/-- The options that a text holds; all of them have their defaults in an empty text. -/
def ofYamlText? (s : String) : Option Options := do
  match ← Yaml.document? s with
  | some root => following root (fromNode root)
  | none => some {}

end Options

end GatewayPolicy
