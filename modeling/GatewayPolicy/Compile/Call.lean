import GatewayPolicy.Compile.Extract
/-!
# Policy calls

A statement `context.Policy(arguments)` gives one element. Each policy has a name, an
arity, and a reading of its arguments from left to right.
-/

namespace GatewayPolicy

/-- A policy that is called as a statement. -/
inductive PolicyCall where
  | base
  | setHeader
  | appendHeader
  | removeHeader
  | setBody
  | authenticationBasic
  | authenticationManagedIdentity
  | rateLimitByKey
  deriving DecidableEq, Repr

namespace PolicyCall

def all : List PolicyCall :=
  [base, setHeader, appendHeader, removeHeader, setBody, authenticationBasic, authenticationManagedIdentity,
    rateLimitByKey]

/-- The member of the request context that calls a policy. -/
def name : PolicyCall → String
  | base => "Base"
  | setHeader => "SetHeader"
  | appendHeader => "AppendHeader"
  | removeHeader => "RemoveHeader"
  | setBody => "SetBody"
  | authenticationBasic => "AuthenticationBasic"
  | authenticationManagedIdentity => "AuthenticationManagedIdentity"
  | rateLimitByKey => "RateLimitByKey"

/-- The numbers of arguments that a policy takes. -/
def arity : PolicyCall → Arity
  | base => ⟨0, some 0⟩
  | setHeader | appendHeader => ⟨2, none⟩
  | removeHeader | setBody => ⟨1, some 1⟩
  | authenticationBasic => ⟨2, some 2⟩
  | authenticationManagedIdentity => ⟨1, some 2⟩
  | rateLimitByKey => ⟨3, some 4⟩

def ofName? (s : String) : Option PolicyCall := all.find? fun p => p.name == s

end PolicyCall

/-! ## Arguments -/

/-- An element, unless its draft does not make one. -/
def built (r : Except BuildError Fragment) : Except Cause Fragment := r.mapError .build

/-- The count that a literal spells. -/
def readCountArgument (policy : PolicyCall) (field : String) (n : Node) : Except Cause UInt32 :=
  if n.kind ≠ .literal then .error (.arguments policy.name (.notLiteral field n.text))
  else
    match Text.readCount n.name with
    | some c => .ok c
    | none => .error (.arguments policy.name (.notCount field n.text))

/-- The element of a header with the given action. -/
def headerElement (env : Environment) (action : ExistsAction) (name : Node) (values : List Node) :
    Except Cause Fragment := do
  let name ← extractValue env name
  let values ← values.mapM (extractValue env)
  built (SetHeader.build ⟨some name, some action, values⟩)

/-- The element of a managed identity, whose token goes to the variable if there is one. -/
def managedIdentityElement (env : Environment) (resource : Node) (clientId : Option Node) (output : Option String) :
    Except Cause Fragment := do
  let resource ← extractValue env resource
  let clientId ← clientId.mapM (extractValue env)
  built (AuthenticationManagedIdentity.build ⟨some resource, clientId, output, none⟩)

/-- The element of a rate limit. -/
def rateLimitElement (env : Environment) (calls period key : Node) (condition : Option Node) :
    Except Cause Fragment := do
  let calls ← readCountArgument .rateLimitByKey "calls" calls
  let period ← readCountArgument .rateLimitByKey "renewal period" period
  let key ← extractValue env key
  let condition ← condition.mapM (extractPredicate env)
  built (RateLimitByKey.build
    { calls := some calls, renewalPeriod := some period, counterKey := some key, incrementCondition := condition })

/-! ## Calls -/

/-- The element that a call of a policy gives. The shape of the call is not looked at again. -/
def PolicyCall.element (env : Environment) (p : PolicyCall) (call : Node) : Except Cause Fragment :=
  match p, call.arguments with
  | .base, [] => .ok basePolicy
  | .setHeader, name :: v :: vs => headerElement env .override name (v :: vs)
  | .appendHeader, name :: v :: vs => headerElement env .append name (v :: vs)
  | .removeHeader, [name] => headerElement env .delete name []
  | .setBody, [body] => do
    let body ← extractValue env body
    built (SetBody.build ⟨some body, none⟩)
  | .authenticationBasic, [username, password] => do
    let username ← extractValue env username
    let password ← extractValue env password
    built (AuthenticationBasic.build ⟨some username, some password⟩)
  | .authenticationManagedIdentity, [resource] => managedIdentityElement env resource none none
  | .authenticationManagedIdentity, [resource, clientId] => managedIdentityElement env resource (some clientId) none
  | .rateLimitByKey, [calls, period, key] => rateLimitElement env calls period key none
  | .rateLimitByKey, [calls, period, key, condition] => rateLimitElement env calls period key (some condition)
  | p, args => .error (.arguments p.name (.number p.arity args.length))

/-- A policy whose result is bound to a variable. -/
inductive BoundCall where
  | authenticationManagedIdentity
  deriving DecidableEq, Repr

namespace BoundCall

def all : List BoundCall := [authenticationManagedIdentity]

/-- The policy as it is called for its effect alone. -/
def call : BoundCall → PolicyCall
  | authenticationManagedIdentity => .authenticationManagedIdentity

/-- The member of the request context that calls a policy. -/
def name (b : BoundCall) : String := b.call.name

/-- The element that a call of a policy gives whose result goes to the named variable. -/
def element (env : Environment) (b : BoundCall) (call : Node) (name : String) : Except Cause Fragment :=
  match b, call.arguments with
  | .authenticationManagedIdentity, [resource] => managedIdentityElement env resource none (some name)
  | .authenticationManagedIdentity, [resource, clientId] =>
    managedIdentityElement env resource (some clientId) (some name)
  | b, args => .error (.arguments b.name (.number b.call.arity args.length))

end BoundCall

/-- The member that a call on the request context names. -/
def calledPolicy (o : Options) (n : Node) : Except Cause String :=
  if n.kind ≠ .invocation then .error (.unsupported n.kind (.notPolicyCall n.text))
  else
    match n.target with
    | none => .error (.structural .memberAccess n.kind)
    | some t =>
      if t.kind ≠ .memberAccess then .error (.unsupported t.kind (.notOnContext n.text))
      else if t.expression.any fun r => r.kind = .identifier && r.name = o.contextParameter then .ok t.name
      else .error (.unsupported t.kind (.wrongReceiver n.text o.contextParameter))

end GatewayPolicy
