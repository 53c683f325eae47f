import GatewayPolicy.Interchange.FromJson
import GatewayPolicy.Interchange.FromYaml
import GatewayPolicy.Interchange.LoadError
import GatewayPolicy.Json.Reader
import GatewayPolicy.Source.Completion
/-!
# Loading declarations

A declaration is stored as JSON or YAML, by itself or under the key `declaration`. It
is decoded, its layout is checked, and its missing texts are filled in.
-/

namespace GatewayPolicy

namespace Declaration

/-- The key of a declaration that is not stored by itself. -/
def wrapperKey : String := "declaration"

/-- A checked and completed declaration. -/
def finish (d : Declaration) : Except LoadError Declaration := do
  d.check.mapError .invalidNode
  return d.complete

/-- The declaration that a JSON value holds. -/
def loadJsonValue (v : Json) : Except LoadError Declaration := do
  let v := (v.get? wrapperKey).getD v
  if (v.get? "name").isNone then throw .missingName
  let d ← (fromJson v).mapError .jsonShape
  d.finish

/-- The declaration that a YAML value holds. -/
def loadYamlValue (v : Yaml.Value) : Except LoadError Declaration := do
  let v := (v.get? wrapperKey).getD v
  if (v.get? "name").isNone then throw .missingName
  match fromYaml v with
  | some d => d.finish
  | none => throw .yaml

/-- The declaration that a JSON text holds. -/
def loadJson (text : String) : Except LoadError Declaration :=
  match Json.read? text with
  | some v => loadJsonValue v
  | none => .error .jsonText

/-- The declaration that a YAML text holds. -/
def loadYaml (text : String) : Except LoadError Declaration :=
  match Yaml.Value.read? text with
  | some v => loadYamlValue v
  | none => .error .yaml

/-- What follows the last point of a file name, unless that point is its first character. -/
def extension? (name : String) : Option String :=
  let cs := name.toList
  let back := cs.reverse.takeWhile (· ≠ '.')
  if name = ".." || back.length + 1 ≥ cs.length then none else some (String.ofList back.reverse)

/-- The declaration in a file with the given name and content, if there is one. -/
def loadFile (name : String) (content : Option ByteArray) : Except LoadError Declaration :=
  match content.bind String.fromUTF8? with
  | none => .error .unreadable
  | some text =>
    match extension? name with
    | some "yaml" | some "yml" => loadYaml text
    | some "json" => loadJson text
    | other => .error (.unsupportedFormat other)

end Declaration

end GatewayPolicy
