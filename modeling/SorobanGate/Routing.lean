import SorobanGate.Config
import SorobanGate.Library.JsonText

/-!
# Routing

Which pool serves a JSON-RPC method, and how the method is read off a body.
-/

namespace SorobanGate

/-- What the gateway takes from other crates to read and digest bodies. -/
structure Codec where
  /-- The tree that a body spells, if it is well-formed JSON. -/
  parse : Bytes → Option Json
  sha256 : Bytes → Bytes

/-- `serde_json::from_slice`: objects are kept as sorted maps. -/
def Codec.fromSlice (codec : Codec) (body : Bytes) : Option Json :=
  (codec.parse body).map Json.normalize

structure Router where
  rules : HashMap String String
  defaultPool : String

namespace Router

def new (config : RoutingConfig) : Router where
  rules := methodTable RoutingRule.methods RoutingRule.pool config.rules
  defaultPool := config.defaultPool

def route (router : Router) (method : String) : String :=
  (router.rules.lookup method).getD router.defaultPool

end Router

def extractJsonRpcMethod (codec : Codec) (body : Bytes) : Option String := do
  let value ← codec.fromSlice body
  let method ← value.get "method"
  method.asStr

end SorobanGate
