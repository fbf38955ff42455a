import SorobanGate.Basic
import SorobanGate.Library.JsonText

/-!
# Responses

Every error that the gateway answers on its own is a JSON-RPC error object
without an id.
-/

namespace SorobanGate

structure Response where
  status : StatusCode
  headers : HeaderMap
  body : Bytes
  deriving DecidableEq, Repr

/-- A JSON body with its content type. -/
def Response.json (status : StatusCode) (tree : Json) : Response where
  status := status
  headers := [("content-type", asBytes "application/json")]
  body := tree.toBytes

/-- The shape shared by all error responses; members are printed in name order. -/
def rpcErrorResponse (status : StatusCode) (code : Int) (message : String) : Response :=
  .json status <| .object
    [("error", .object [("code", .ofInt code), ("message", .string message)]),
      ("id", .null),
      ("jsonrpc", .string "2.0")]

def jsonErrorResponse (status : StatusCode) (code : Int) (message : String) : Response :=
  rpcErrorResponse status code message

def authErrorResponse (status : StatusCode) (code : Int) (message : String) : Response :=
  rpcErrorResponse status code message

def rateLimitResponse : Response := rpcErrorResponse 429 (-32005) "Rate limit exceeded"

end SorobanGate
