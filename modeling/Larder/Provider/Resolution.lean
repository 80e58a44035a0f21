import Larder.Config.Basic
import Larder.Provider.Exchange
import Larder.Wire.Dictionary

namespace Larder.Provider

def resolutionOfReply (reply : Reply) : Except ProviderError Resolution := do
  let body ← acceptedBody [200, 201] reply
  match Json.decodeBytes Resolution.decode body with
  | .ok resolution => return resolution
  | .error fault => throw (.undecodable fault)

def resolutionRequest (resolver : ResolverConfig) (name : String) : Except ProviderError Request := do
  let headers ← defaultHeaders resolver.defaultHeaders
  let url ← address resolver.apiBase resolver.path
  return post url headers (.object [("name", .text name)])

def resolve (resolver : ResolverConfig) (name : String) : Exchange Resolution :=
  match resolutionRequest resolver name with
  | .error fault => .done (.error fault)
  | .ok request => .ask request fun reply => .done (resolutionOfReply reply)

end Larder.Provider
