import GatewayPolicy.Interchange.FromJson
/-!
# The model as JSON

How each type of the model is written as JSON. A token, a body, attributes, a text
or children that are not there leave no member behind.
-/

namespace GatewayPolicy

/-- A member that is written only if there is a value. -/
def Json.memberIf (name : String) : Option Json → List (String × Json)
  | some v => [(name, v)]
  | none => []

/-- A list, unless it is empty. -/
def Json.arrayIf (vs : List Json) : Option Json := if vs.isEmpty then none else some (.array vs)

def Kind.toJson (k : Kind) : Json := .string k.code

mutual

/-- A node. Its source text is written even if it is empty. -/
def Node.toJson : Node → Json
  | ⟨k, t, cs, x⟩ =>
    .object (Json.memberIf "children" (Json.arrayIf (Node.listToJson cs)) ++
      [("kind", k.toJson), ("source_text", .string x)] ++ Json.memberIf "token" (t.map .string))

/-- Nodes, in order. -/
def Node.listToJson : List Node → List Json
  | [] => []
  | n :: ns => n.toJson :: Node.listToJson ns

end

/-- A parameter. -/
def Parameter.toJson (p : Parameter) : Json :=
  .object (("name", .string p.name) :: Json.memberIf "type" (p.type.map .string))

/-- A method. Its parameters are written even if there are none. -/
def Method.toJson (m : Method) : Json :=
  .object (Json.memberIf "body" (m.body.map Node.toJson) ++
    Json.memberIf "expression_body" (m.expressionBody.map Node.toJson) ++
    [("name", .string m.name), ("parameters", .array (m.parameters.map Parameter.toJson)),
      ("return_type", .string m.returnType)])

/-- A declaration. -/
def Declaration.toJson (d : Declaration) : Json :=
  .object [("methods", .array (d.methods.map Method.toJson)), ("name", .string d.name)]

/-- Attributes as the members of an object. -/
def Attributes.toJson (a : Attributes) : Json := .object (a.entries.map fun (name, v) => (name, .string v))

mutual

/-- A fragment. An empty text is written. -/
def Fragment.toJson : Fragment → Json
  | ⟨tag, attributes, text, cs⟩ =>
    .object (Json.memberIf "attributes" (if attributes.isEmpty then none else some attributes.toJson) ++
      Json.memberIf "children" (Json.arrayIf (Fragment.listToJson cs)) ++
      [("tag", .string tag)] ++ Json.memberIf "text" (text.map .string))

/-- Fragments, in order. -/
def Fragment.listToJson : List Fragment → List Json
  | [] => []
  | f :: fs => f.toJson :: Fragment.listToJson fs

end

/-- The metadata of a document. -/
def Metadata.toJson (m : Metadata) : Json :=
  .object [("compiler_version", .string m.compilerVersion), ("source_declaration", .string m.sourceDeclaration)]

/-- A document. -/
def Document.toJson (d : Document) : Json :=
  .object [("metadata", d.metadata.toJson), ("sections", .array (Fragment.listToJson d.sections))]

/-- The name of a form of source, with its parts. -/
def SnippetSource.toJson : SnippetSource → Json
  | .literal text => .object [("literal", .string text)]
  | .code parameter body => .object [("code", .object [("body", .string body), ("parameter", .string parameter)])]

/-- A snippet. -/
def Snippet.toJson (s : Snippet) : Json :=
  .object [("result_type", .string s.resultType.name), ("source", s.source.toJson)]

/-- Options, each of them in any case. -/
def Options.toJson (o : Options) : Json :=
  .object [("context_parameter", .string o.contextParameter),
    ("unknown_statements", .string o.unknownStatements.name), ("variables_member", .string o.variablesMember)]

end GatewayPolicy
