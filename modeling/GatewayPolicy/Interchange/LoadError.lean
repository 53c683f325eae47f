import GatewayPolicy.Interchange.Error
import GatewayPolicy.Source.WellFormed
/-!
# Loading errors

Why a text or a file does not hold a declaration.
-/

namespace GatewayPolicy

/-- Why no declaration can be loaded. -/
inductive LoadError where
  /-- The text is not YAML, or its value is no declaration. -/
  | yaml
  /-- The text is not JSON. -/
  | jsonText
  /-- The JSON value is no declaration. -/
  | jsonShape (error : DecodeError)
  /-- There is no such file, or it holds no text. -/
  | unreadable
  /-- The declaration has no name. -/
  | missingName
  /-- A source tree is not laid out as its kinds ask for. -/
  | invalidNode (error : InvalidNode)
  /-- The name of the file ends in another extension, or in none. -/
  | unsupportedFormat (extension : Option String)
  deriving Repr

/-- The message for a loading error, where it has one. -/
def LoadError.message? : LoadError → Option String
  | yaml | jsonText | unreadable => none
  | jsonShape e => some ("JSON parsing error: " ++ e.message)
  | missingName => some "Missing required field: name"
  | invalidNode e => some e.message
  | unsupportedFormat extension => some ("Unsupported source format: " ++ extension.getD "<none>")

end GatewayPolicy
