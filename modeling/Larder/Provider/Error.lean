import Larder.Json.Decoder

namespace Larder

inductive TransportFault
  | unsendable
  | unreachable
  | noListener (url : String)
  | interrupted
  | timedOut
  | unreadable
deriving DecidableEq, Repr

inductive ProviderError
  | transport (fault : TransportFault)
  | undecodable (fault : DecodeError)
  | headerName
  | headerValue
  | configuration (message : String)
  | response (message : String)
  | status (code : Nat) (body : String)
deriving DecidableEq, Repr

/-- The error in words. What went wrong below the level of replies is not told apart, but for an
address that is known to have no listener. -/
def ProviderError.message : ProviderError → String
  | .transport (.noListener url) => "error sending request for url (" ++ url ++ ")"
  | .transport _ => "<http>"
  | .undecodable fault => fault.message
  | .headerName => "invalid HTTP header name"
  | .headerValue => "failed to parse header value"
  | .configuration message | .response message => message
  | .status code body => "Upstream returned status " ++ toString code ++ ": " ++ body

end Larder
