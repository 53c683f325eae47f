import GatewayPolicy.Policy.Fragment
import GatewayPolicy.Policy.Snippet
/-!
# Leaf policies

A leaf policy is one element without nested policies. A draft collects the fields
of such an element; building it checks the fields and gives the element.
-/

namespace GatewayPolicy

/-- Why no element can be built. -/
inductive BuildError where
  /-- A field that the policy needs is absent. -/
  | missingField (policy field : String)
  /-- A field has a value that the policy does not take. -/
  | invalidValue (policy field reason : String)
  /-- The document has no text. -/
  | render (reason : String)
  deriving DecidableEq, Repr

def BuildError.message : BuildError → String
  | missingField policy field => "Missing required field '" ++ field ++ "' for policy <" ++ policy ++ ">"
  | invalidValue policy field reason =>
    "Invalid value for field '" ++ field ++ "' of policy <" ++ policy ++ ">: " ++ reason
  | render reason => "Failed to render document: " ++ reason

/-- The value of a field, which must be there. -/
def requireField {α : Type} (policy field : String) : Option α → Except BuildError α
  | some a => .ok a
  | none => .error (.missingField policy field)

/-- The policies of the enclosing scope run here. -/
def basePolicy : Fragment := .empty "base"

/-! ## Headers -/

/-- What happens to a header that is already there. -/
inductive ExistsAction where
  | override
  | skip
  | append
  | delete
  deriving DecidableEq, Repr

namespace ExistsAction

/-- Every action, in the order in which messages list them. -/
def all : List ExistsAction := [override, skip, append, delete]

def name : ExistsAction → String
  | override => "override"
  | skip => "skip"
  | append => "append"
  | delete => "delete"

end ExistsAction

/-- The fields of `set-header`. -/
structure SetHeader where
  name : Option Snippet := none
  existsAction : Option ExistsAction := none
  values : List Snippet := []
  deriving Repr

namespace SetHeader

def tag : String := "set-header"

/-- Deleting a header takes no values, every other action takes at least one. -/
def build (d : SetHeader) : Except BuildError Fragment := do
  let name ← requireField tag "name" d.name
  if d.existsAction = some .delete then
    if !d.values.isEmpty then throw (.invalidValue tag "value" "a deleted header cannot carry values")
  else if d.values.isEmpty then throw (.missingField tag "value")
  return Fragment.empty tag
    |>.withAttribute "name" name.policyText
    |>.withAttribute? "exists-action" (d.existsAction.map ExistsAction.name)
    |>.withChildren (d.values.map fun v => (Fragment.empty "value").withText v.policyText)

end SetHeader

/-! ## Bodies -/

/-- The fields of `set-body`. -/
structure SetBody where
  body : Option Snippet := none
  template : Option String := none
  deriving Repr

namespace SetBody

def tag : String := "set-body"

/-- A template applies to a constant body only. -/
def build (d : SetBody) : Except BuildError Fragment := do
  let body ← requireField tag "body" d.body
  if d.template.isSome && body.isCode then
    throw (.invalidValue tag "template" "templates apply to literal bodies only")
  return Fragment.empty tag
    |>.withAttribute? "template" d.template
    |>.withText body.policyText

end SetBody

/-! ## Authentication -/

/-- The fields of `authentication-basic`. -/
structure AuthenticationBasic where
  username : Option Snippet := none
  password : Option Snippet := none
  deriving Repr

namespace AuthenticationBasic

def tag : String := "authentication-basic"

/-- Both fields are needed. -/
def build (d : AuthenticationBasic) : Except BuildError Fragment := do
  let username ← requireField tag "username" d.username
  let password ← requireField tag "password" d.password
  return Fragment.empty tag
    |>.withAttribute "username" username.policyText
    |>.withAttribute "password" password.policyText

end AuthenticationBasic

/-- The fields of `authentication-managed-identity`. -/
structure AuthenticationManagedIdentity where
  resource : Option Snippet := none
  clientId : Option Snippet := none
  outputTokenVariableName : Option String := none
  ignoreError : Option Bool := none
  deriving Repr

namespace AuthenticationManagedIdentity

def tag : String := "authentication-managed-identity"

/-- A variable that receives the token has a name that is not blank. -/
def build (d : AuthenticationManagedIdentity) : Except BuildError Fragment := do
  let resource ← requireField tag "resource" d.resource
  if let some name := d.outputTokenVariableName then
    if Text.trimmed name = "" then
      throw (.invalidValue tag "output-token-variable-name" "variable name is empty")
  return Fragment.empty tag
    |>.withAttribute "resource" resource.policyText
    |>.withAttribute? "client-id" (d.clientId.map Snippet.policyText)
    |>.withAttribute? "output-token-variable-name" d.outputTokenVariableName
    |>.withAttribute? "ignore-error" (d.ignoreError.map fun b => if b then "true" else "false")

end AuthenticationManagedIdentity

/-! ## Rate limits -/

/-- The fields of `rate-limit-by-key`. -/
structure RateLimitByKey where
  calls : Option UInt32 := none
  renewalPeriod : Option UInt32 := none
  counterKey : Option Snippet := none
  incrementCondition : Option Snippet := none
  incrementCount : Option UInt32 := none
  retryAfterHeaderName : Option String := none
  retryAfterVariableName : Option String := none
  remainingCallsHeaderName : Option String := none
  remainingCallsVariableName : Option String := none
  totalCallsHeaderName : Option String := none
  deriving Repr

namespace RateLimitByKey

def tag : String := "rate-limit-by-key"

/-- A count in decimal digits. -/
def countText (n : UInt32) : String := Nat.repr n.toNat

/-- The condition under which a request counts is a predicate. -/
def build (d : RateLimitByKey) : Except BuildError Fragment := do
  let calls ← requireField tag "calls" d.calls
  let renewalPeriod ← requireField tag "renewal-period" d.renewalPeriod
  let counterKey ← requireField tag "counter-key" d.counterKey
  if let some c := d.incrementCondition then
    if c.resultType ≠ .predicate then
      throw (.invalidValue tag "increment-condition" ("expected a predicate, got '" ++ c.sourceText ++ "'"))
  return Fragment.empty tag
    |>.withAttribute "calls" (countText calls)
    |>.withAttribute "renewal-period" (countText renewalPeriod)
    |>.withAttribute "counter-key" counterKey.policyText
    |>.withAttribute? "increment-condition" (d.incrementCondition.map Snippet.policyText)
    |>.withAttribute? "increment-count" (d.incrementCount.map countText)
    |>.withAttribute? "retry-after-header-name" d.retryAfterHeaderName
    |>.withAttribute? "retry-after-variable-name" d.retryAfterVariableName
    |>.withAttribute? "remaining-calls-header-name" d.remainingCallsHeaderName
    |>.withAttribute? "remaining-calls-variable-name" d.remainingCallsVariableName
    |>.withAttribute? "total-calls-header-name" d.totalCallsHeaderName

end RateLimitByKey

end GatewayPolicy
