import Mathlib.Data.Nat.Notation

namespace Overfwd

inductive GatewayError
  | badRequest (message : String)
  | unauthorized (message : String)
  | payloadTooLarge (message : String)
  | authFailure (message : String)
  | hostUnreachable (message : String)
  | notFound (message : String)
  | tlsFailure (message : String)
  | autoconfigFailed (message : String)
  | notImplemented (message : String)
  deriving DecidableEq, Repr

def GatewayError.code : GatewayError → String
  | .badRequest _ => "bad_request"
  | .unauthorized _ => "unauthorized"
  | .payloadTooLarge _ => "payload_too_large"
  | .authFailure _ => "auth_failure"
  | .hostUnreachable _ => "host_unreachable"
  | .notFound _ => "not_found"
  | .tlsFailure _ => "tls_failure"
  | .autoconfigFailed _ => "autoconfig_failed"
  | .notImplemented _ => "not_implemented"

def GatewayError.status : GatewayError → ℕ
  | .badRequest _ => 400
  | .unauthorized _ => 401
  | .payloadTooLarge _ => 413
  | .authFailure _ => 502
  | .hostUnreachable _ => 502
  | .notFound _ => 404
  | .tlsFailure _ => 502
  | .autoconfigFailed _ => 502
  | .notImplemented _ => 501

def GatewayError.message : GatewayError → String
  | .badRequest m | .unauthorized m | .payloadTooLarge m | .authFailure m
  | .hostUnreachable m | .notFound m | .tlsFailure m | .autoconfigFailed m
  | .notImplemented m => m

end Overfwd
