import BlockFeed.Http
import BlockFeed.Url

/-!
# Transports

A transport turns a request into calls on a wire: it combines its settings with
the options of the request, and refuses what cannot be sent at all.
-/

namespace BlockFeed
namespace Http

/-- Whether a character may stand in the name of a header. -/
def isTokenChar (character : Char) : Bool :=
  character.isAlphanum || "!#$%&'*+-.^_`|~".toList.contains character

/-- Whether a header can be sent: its name is a word, and its value holds no
control characters but tabs. -/
def isSendable (header : String × String) : Bool :=
  !header.1.isEmpty && header.1.toList.all isTokenChar &&
    header.2.toList.all fun character =>
      character == '\t' || (0x20 ≤ character.toNat && character.toNat != 0x7f)

/-- Whether an address can be reached over the web. -/
def isReachable (address : String) : Bool :=
  match Url.parse address with
  | .ok (.web _) => true
  | _ => false

/-- The wire that refuses, before anything is sent, what cannot be sent. -/
def guarded (wire : Wire) : Wire := fun count message =>
  if !isReachable message.address then .unsendable "address cannot be used"
  else if !message.headers.all isSendable then .unsendable "header cannot be sent"
  else wire count message

/-- The wire on which no server can be reached. -/
def unreachable : Wire := fun _ _ => .broken 0 "no connection"

/-- The call of a request with options over a wire. `abort` tells when the token
of the options fires, if it does. -/
def callOf
    (settings : TransportSettings)
    (wire : Wire)
    (options : RequestOptions)
    (abort : Option Instant)
    (method : Method)
    (address : String)
    (body : Option Json.Value) : Call where
  wire := guarded wire
  message := ⟨method, address, options.headers, body⟩
  policy := Retry.Policy.forRequest ⟨settings.retry, []⟩ options
  httpTimeout := options.httpTimeout.or settings.httpTimeout
  bodyTimeout := options.bodyTimeout.or settings.bodyTimeout
  abort := abort

/-- How long it takes to give up a request that fails at once each time. -/
def givingUp (policy : Retry.Policy) : Duration :=
  (List.range policy.backoff.maxRetries.toNat).foldl (fun elapsed index =>
    elapsed + (policy.delay? (index + 1).toUInt32).getD 0) 0

/-- The portal whose server cannot be reached. -/
def unreachablePortal (settings : TransportSettings) (options : RequestOptions) :
    Portal where
  height _ :=
    ⟨givingUp (Retry.Policy.forRequest ⟨settings.retry, []⟩ options),
      .failed (.http "no connection")⟩
  reply _ _ :=
    ⟨givingUp (Retry.Policy.forRequest ⟨settings.retry, []⟩ options),
      .failed (.http "no connection")⟩

end Http
end BlockFeed
