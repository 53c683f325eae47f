import GatewayPolicy.Compile.Options
import GatewayPolicy.Interchange.Decoder
import GatewayPolicy.Policy.Document
import GatewayPolicy.Policy.Leaf
import GatewayPolicy.Source.Declaration
/-!
# The model from JSON

How each type of the model is read from JSON. Members of no field are left aside.
-/

namespace GatewayPolicy

open Decoder

/-! ## Source trees -/

/-- A kind by its code. -/
def Kind.fromJson : Decoder Kind := plainVariant Kind.all Kind.code

namespace Node

def recordName : String := "struct SyntaxNode"

mutual

/-- A node, with no children and an empty text unless they are given. -/
def fromJson : Decoder Node
  | .object ms => do
    let children ← childrenMember ms
    let kind ← member? ms "kind" Kind.fromJson
    let text ← member? ms "source_text" string
    let token ← member? ms "token" (optional string)
    return ⟨← required "kind" kind, token.join, children.getD [], text.getD ""⟩
  | .array vs => do
    let kind ← item vs 0 (recordName ++ " with 4 elements") Kind.fromJson
    let token ← item? vs 1 (optional string)
    let children ← childrenItem vs
    let text ← item? vs 3 string
    atMost vs 4
    return ⟨kind, token.join, children.getD [], text.getD ""⟩
  | v => mismatch recordName v

/-- The children of a node. -/
def childrenFromJson : Decoder (List Node)
  | .array vs => listFromJson vs
  | v => mismatch "a sequence" v

/-- Nodes, in order. -/
def listFromJson : List Json → Except DecodeError (List Node)
  | [] => .ok []
  | v :: vs => do
    let n ← fromJson v
    return n :: (← listFromJson vs)

/-- The children among the members of an object. -/
def childrenMember : List (String × Json) → Except DecodeError (Option (List Node))
  | [] => .ok none
  | (name, v) :: ms => if name = "children" then some <$> childrenFromJson v else childrenMember ms

/-- The children among the fields of an array. -/
def childrenItem : List Json → Except DecodeError (Option (List Node))
  | _ :: _ :: v :: _ => some <$> childrenFromJson v
  | _ => .ok none

end

end Node

namespace Parameter

def recordName : String := "struct Parameter"

/-- A parameter, without a type unless it is given. -/
def fromJson : Decoder Parameter
  | .object ms => do
    let name ← member? ms "name" string
    let type ← member? ms "type" (optional string)
    return ⟨← required "name" name, type.join⟩
  | .array vs => do
    let name ← item vs 0 (recordName ++ " with 2 elements") string
    let type ← item? vs 1 (optional string)
    atMost vs 2
    return ⟨name, type.join⟩
  | v => mismatch recordName v

end Parameter

namespace Method

def recordName : String := "struct MethodDeclaration"

/-- A method, which returns nothing and has neither parameters nor bodies unless they are given. -/
def fromJson : Decoder Method
  | .object ms => do
    let body ← member? ms "body" (optional Node.fromJson)
    let expressionBody ← member? ms "expression_body" (optional Node.fromJson)
    let name ← member? ms "name" string
    let parameters ← member? ms "parameters" (list Parameter.fromJson)
    let returnType ← member? ms "return_type" string
    return ⟨← required "name" name, returnType.getD voidType, parameters.getD [], body.join, expressionBody.join⟩
  | .array vs => do
    let name ← item vs 0 (recordName ++ " with 5 elements") string
    let returnType ← item? vs 1 string
    let parameters ← item? vs 2 (list Parameter.fromJson)
    let body ← item? vs 3 (optional Node.fromJson)
    let expressionBody ← item? vs 4 (optional Node.fromJson)
    atMost vs 5
    return ⟨name, returnType.getD voidType, parameters.getD [], body.join, expressionBody.join⟩
  | v => mismatch recordName v

end Method

namespace Declaration

def recordName : String := "struct ClassDeclaration"

/-- A declaration, without methods unless they are given. -/
def fromJson : Decoder Declaration
  | .object ms => do
    let methods ← member? ms "methods" (list Method.fromJson)
    let name ← member? ms "name" string
    return ⟨← required "name" name, methods.getD []⟩
  | .array vs => do
    let name ← item vs 0 (recordName ++ " with 2 elements") string
    let methods ← item? vs 1 (list Method.fromJson)
    atMost vs 2
    return ⟨name, methods.getD []⟩
  | v => mismatch recordName v

end Declaration

/-! ## Documents -/

/-- Attribute values by name. -/
def Attributes.fromJson : Decoder Attributes
  | .object ms =>
    ms.foldlM (fun (a : Attributes) (name, v) => do return a.set name (← string v)) Attributes.empty
  | v => mismatch "a map" v

namespace Fragment

def recordName : String := "struct Fragment"

mutual

/-- A fragment, without attributes, text and children unless they are given. -/
def fromJson : Decoder Fragment
  | .object ms => do
    let attributes ← member? ms "attributes" Attributes.fromJson
    let children ← childrenMember ms
    let tag ← member? ms "tag" string
    let text ← member? ms "text" (optional string)
    return ⟨← required "tag" tag, attributes.getD .empty, text.join, children.getD []⟩
  | .array vs => do
    let tag ← item vs 0 (recordName ++ " with 4 elements") string
    let attributes ← item? vs 1 Attributes.fromJson
    let text ← item? vs 2 (optional string)
    let children ← childrenItem vs
    atMost vs 4
    return ⟨tag, attributes.getD .empty, text.join, children.getD []⟩
  | v => mismatch recordName v

/-- The children of a fragment. -/
def childrenFromJson : Decoder (List Fragment)
  | .array vs => listFromJson vs
  | v => mismatch "a sequence" v

/-- Fragments, in order. -/
def listFromJson : List Json → Except DecodeError (List Fragment)
  | [] => .ok []
  | v :: vs => do
    let f ← fromJson v
    return f :: (← listFromJson vs)

/-- The children among the members of an object. -/
def childrenMember : List (String × Json) → Except DecodeError (Option (List Fragment))
  | [] => .ok none
  | (name, v) :: ms => if name = "children" then some <$> childrenFromJson v else childrenMember ms

/-- The children among the fields of an array. -/
def childrenItem : List Json → Except DecodeError (Option (List Fragment))
  | _ :: _ :: _ :: v :: _ => some <$> childrenFromJson v
  | _ => .ok none

end

end Fragment

namespace Metadata

def recordName : String := "struct DocumentMetadata"

/-- Both fields are needed. -/
def fromJson : Decoder Metadata
  | .object ms => do
    let compilerVersion ← member? ms "compiler_version" string
    let sourceDeclaration ← member? ms "source_declaration" string
    return ⟨← required "source_declaration" sourceDeclaration, ← required "compiler_version" compilerVersion⟩
  | .array vs => do
    let expected := recordName ++ " with 2 elements"
    let sourceDeclaration ← item vs 0 expected string
    let compilerVersion ← item vs 1 expected string
    atMost vs 2
    return ⟨sourceDeclaration, compilerVersion⟩
  | v => mismatch recordName v

end Metadata

namespace Document

def recordName : String := "struct Document"

/-- Both fields are needed. -/
def fromJson : Decoder Document
  | .object ms => do
    let metadata ← member? ms "metadata" Metadata.fromJson
    let sections ← member? ms "sections" Fragment.childrenFromJson
    return ⟨← required "sections" sections, ← required "metadata" metadata⟩
  | .array vs => do
    let expected := recordName ++ " with 2 elements"
    let sections ← item vs 0 expected Fragment.childrenFromJson
    let metadata ← item vs 1 expected Metadata.fromJson
    atMost vs 2
    return ⟨sections, metadata⟩
  | v => mismatch recordName v

end Document

/-! ## Snippets -/

/-- The name of a result type. -/
def ResultType.name : ResultType → String
  | .value => "value"
  | .predicate => "predicate"

/-- A result type by its name. -/
def ResultType.fromJson : Decoder ResultType := plainVariant [.value, .predicate] ResultType.name

/-- A constant with its text, or code with its parameter list and its body. -/
def SnippetSource.fromJson (v : Json) : Except DecodeError SnippetSource := do
  let (name, value) ← variant v
  match name, value with
  | "literal", some w => SnippetSource.literal <$> string w
  | "literal", none => .error (.wrongType .unitVariant "newtype variant")
  | "code", some (.object ms) =>
    let body ← member? ms "body" string
    let parameter ← member? ms "parameter" string
    return .code (← required "parameter" parameter) (← required "body" body)
  | "code", some w => mismatch "struct variant" w
  | "code", none => .error (.wrongType .unitVariant "struct variant")
  | _, _ => .error (.unknownVariant name ["literal", "code"])

namespace Snippet

def recordName : String := "struct ExpressionSnippet"

/-- Both fields are needed. -/
def fromJson : Decoder Snippet
  | .object ms => do
    let resultType ← member? ms "result_type" ResultType.fromJson
    let source ← member? ms "source" SnippetSource.fromJson
    return ⟨← required "result_type" resultType, ← required "source" source⟩
  | .array vs => do
    let expected := recordName ++ " with 2 elements"
    let resultType ← item vs 0 expected ResultType.fromJson
    let source ← item vs 1 expected SnippetSource.fromJson
    atMost vs 2
    return ⟨resultType, source⟩
  | v => mismatch recordName v

end Snippet

/-- An action by its name. -/
def ExistsAction.fromJson : Decoder ExistsAction := plainVariant ExistsAction.all ExistsAction.name

/-! ## Options -/

/-- A choice by its name. -/
def UnknownStatements.fromJson : Decoder UnknownStatements := plainVariant UnknownStatements.all UnknownStatements.name

namespace Options

def recordName : String := "struct CompilerOptions"

/-- Options with the given values in the place of the defaults. -/
def ofFields (unknownStatements : Option UnknownStatements) (contextParameter variablesMember : Option String) :
    Options :=
  let d : Options := {}
  ⟨unknownStatements.getD d.unknownStatements, contextParameter.getD d.contextParameter,
    variablesMember.getD d.variablesMember⟩

/-- Options, each with its default unless it is given. -/
def fromJson : Decoder Options
  | .object ms => do
    let contextParameter ← member? ms "context_parameter" string
    let unknownStatements ← member? ms "unknown_statements" UnknownStatements.fromJson
    let variablesMember ← member? ms "variables_member" string
    return ofFields unknownStatements contextParameter variablesMember
  | .array vs => do
    let unknownStatements ← item? vs 0 UnknownStatements.fromJson
    let contextParameter ← item? vs 1 string
    let variablesMember ← item? vs 2 string
    atMost vs 3
    return ofFields unknownStatements contextParameter variablesMember
  | v => mismatch recordName v

end Options

end GatewayPolicy
