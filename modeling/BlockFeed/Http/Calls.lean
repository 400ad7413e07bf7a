import BlockFeed.Client
import BlockFeed.Http.Transport

/-!
# Calls of a client over a wire

Outside of feeds a client makes two calls over its transport: it asks for the finalized
height, with the options of the request, or it runs a query as a whole, with the options
that its settings hold.
-/

namespace BlockFeed
namespace Client

/-- The request for the finalized height. -/
def heightCall
    (client : Client)
    (wire : Http.Wire)
    (options : RequestOptions)
    (abort : Option Instant) : Http.Call :=
  Http.callOf client.settings.transport wire options abort .get client.heightAddress none

/-- Ask for the finalized height. `abort` tells when the token of the options fires, if it
does. -/
def heightOver
    (client : Client)
    (wire : Http.Wire)
    (options : RequestOptions)
    (abort : Option Instant)
    (journal : Http.Journal) : Http.Outcome UInt64 × Http.Journal :=
  let (outcome, last) := Http.getText (client.heightCall wire options abort) journal
  (outcome.map (·.bind Height.parse), last)

/-- The request that posts a query. -/
def queryCall
    (client : Client)
    (wire : Http.Wire)
    (abort : Option Instant)
    (query : Query) : Http.Call :=
  Http.callOf client.settings.transport wire client.settings.request abort .post
    client.streamAddress (some query.wire)

/-- Run a query as a whole. `abort` tells when the token of the client's request options
fires, if it does. -/
def queryOver
    (client : Client)
    (wire : Http.Wire)
    (abort : Option Instant)
    (query : Query)
    (journal : Http.Journal) : Http.Outcome (List Block) × Http.Journal :=
  let (outcome, last) := Http.postBuffered (client.queryCall wire abort query) journal
  (outcome.map (·.bind fun (status, body) => client.blocksOf status body), last)

end Client
end BlockFeed
