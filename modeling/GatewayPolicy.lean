import GatewayPolicy.Compile.Policy
import GatewayPolicy.Interchange.Load
import GatewayPolicy.Interchange.ToJson
import GatewayPolicy.Json.Printer
import GatewayPolicy.Proofs.Execution
import GatewayPolicy.Proofs.Reporting
import GatewayPolicy.Proofs.Layout
import GatewayPolicy.Proofs.Placement
import GatewayPolicy.Proofs.Inventory
import GatewayPolicy.Proofs.Schema
import GatewayPolicy.Proofs.Wording
import GatewayPolicy.Proofs.HelperCalls
import GatewayPolicy.Proofs.FirstFailure
import GatewayPolicy.Proofs.Drafts
import GatewayPolicy.Proofs.Escapes
import GatewayPolicy.Proofs.Interpolation
import GatewayPolicy.Proofs.Completion
import GatewayPolicy.Proofs.Storage
import GatewayPolicy.Proofs.DocumentStorage
import GatewayPolicy.Proofs.Rendering
import GatewayPolicy.Proofs.Chains
import GatewayPolicy.Proofs.Formats
import GatewayPolicy.Proofs.Vocabulary
import GatewayPolicy.Proofs.Strings
import GatewayPolicy.Proofs.Conformance
import GatewayPolicy.Proofs.Atomicity
import GatewayPolicy.Proofs.NestedBlocks
import GatewayPolicy.Proofs.Arguments
import GatewayPolicy.Proofs.WellFormedness
import GatewayPolicy.Proofs.LayoutErrors
import GatewayPolicy.Proofs.MissingTexts
import GatewayPolicy.Proofs.StatementTexts
import GatewayPolicy.Proofs.EscapeGrammar
import GatewayPolicy.Proofs.Literals
import GatewayPolicy.Proofs.Lambdas
import GatewayPolicy.Proofs.LambdaSource
import GatewayPolicy.Proofs.Forwarding
import GatewayPolicy.Proofs.Bindings
import GatewayPolicy.Proofs.Handlers
import GatewayPolicy.Proofs.Registries
import GatewayPolicy.Proofs.Concatenation
import GatewayPolicy.Proofs.MethodTables
