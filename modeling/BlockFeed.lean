import BlockFeed.Query.Document
import BlockFeed.Feed
import BlockFeed.Body
import BlockFeed.Height
import BlockFeed.Options
import BlockFeed.Buffer.Crowd
import BlockFeed.Client.Description
import BlockFeed.Http.Calls
import BlockFeed.Fleet.Schedule
import BlockFeed.Main
import BlockFeed.Proofs.Buffer.Operations
import BlockFeed.Proofs.Buffer.Session
import BlockFeed.Proofs.Buffer.Conservation
import BlockFeed.Proofs.Buffer.Wakefulness
import BlockFeed.Proofs.Buffer.Tally
import BlockFeed.Proofs.Buffer.Attunement
import BlockFeed.Proofs.Line
import BlockFeed.Proofs.Line.Framing
import BlockFeed.Proofs.Ndjson
import BlockFeed.Proofs.Feed.Log
import BlockFeed.Proofs.Feed.Steps
import BlockFeed.Proofs.Feed.Frames
import BlockFeed.Proofs.Feed.Dealings
import BlockFeed.Proofs.Query
import BlockFeed.Proofs.Fleet
import BlockFeed.Proofs.Feed.Delivery
import BlockFeed.Proofs.Json.Delimiting
import BlockFeed.Proofs.Json.Reach
import BlockFeed.Proofs.Json.Values
import BlockFeed.Proofs.Block
import BlockFeed.Proofs.Ndjson.Truncation
import BlockFeed.Proofs.Chain
import BlockFeed.Proofs.Feed.Resumption
import BlockFeed.Proofs.Feed.Replies
import BlockFeed.Proofs.Feed.Requests
import BlockFeed.Proofs.Feed.Ending
import BlockFeed.Proofs.Feed.Cancellation
import BlockFeed.Proofs.Feed.Failure
import BlockFeed.Proofs.Feed.Backpressure
import BlockFeed.Proofs.Buffer.Punctuality
import BlockFeed.Proofs.Http.Abort
import BlockFeed.Proofs.Buffer.Abandonment
import BlockFeed.Proofs.Buffer.Finality
import BlockFeed.Proofs.Feed.Spacing
import BlockFeed.Proofs.Feed.Head
import BlockFeed.Proofs.Feed.Ascent
import BlockFeed.Proofs.Fairness
import BlockFeed.Proofs.Feed.Termination
import BlockFeed.Proofs.Feed.Tips
import BlockFeed.Proofs.Http.Retries
import BlockFeed.Proofs.Feed.Draining
import BlockFeed.Proofs.Json.Members
import BlockFeed.Proofs.Json.Stopping
import BlockFeed.Proofs.Json.Writing
import BlockFeed.Proofs.Json.ReadingBack
import BlockFeed.Proofs.Json.RoundTrip
import BlockFeed.Proofs.Block.RoundTrip
import BlockFeed.Proofs.Ndjson.RoundTrip
import BlockFeed.Proofs.Query.Collecting
import BlockFeed.Proofs.Query.RoundTrip
import BlockFeed.Proofs.Feed.Tails
import BlockFeed.Proofs.Http.Limits
import BlockFeed.Proofs.Fleet.Chronicle
import BlockFeed.Proofs.Feed.Freshness
import BlockFeed.Proofs.Json.Agreement
import BlockFeed.Proofs.Json.Rereading
import BlockFeed.Proofs.Block.Fidelity
import BlockFeed.Proofs.Query.Merging
import BlockFeed.Proofs.Buffer.Readiness
import BlockFeed.Proofs.Fleet.Independence
import BlockFeed.Proofs.Bytes
import BlockFeed.Proofs.Line.Texts
import BlockFeed.Proofs.Height
import BlockFeed.Proofs.Retry
