import BlockFeed.Client

/-!
# Descriptions of clients

The description of a client lists the settings that it was made with, by the
names under which callers know them.
-/

namespace BlockFeed
namespace Description

/-- A record with named parts. -/
def record (name : String) (fields : List (String × String)) : String :=
  name ++ " \x7b " ++
    String.intercalate ", " (fields.map fun field => field.1 ++ ": " ++ field.2) ++ " \x7d"

/-- A record with named parts of which only some are shown. -/
def partialRecord (name : String) (fields : List (String × String)) : String :=
  name ++ " \x7b " ++
    String.intercalate ", " (fields.map fun field => field.1 ++ ": " ++ field.2) ++
    ", .. \x7d"

/-- Something that may be missing. -/
def option (describe : α -> String) : Option α -> String
  | some value => "Some(" ++ describe value ++ ")"
  | none => "None"

/-- A list. -/
def list (describe : α -> String) (values : List α) : String :=
  "[" ++ String.intercalate ", " (values.map describe) ++ "]"

/-- A truth value. -/
def bool (value : Bool) : String := if value then "true" else "false"

/-- A natural number. -/
def nat (value : Nat) : String := toString value

/-- A header. -/
def header (header : String × String) : String :=
  "(" ++ Text.quoted header.1 ++ ", " ++ Text.quoted header.2 ++ ")"

/-- The token of a request. -/
def token (tokens : Tokens) (token : Token) : String :=
  record "CancellationToken" [("is_cancelled", bool (tokens.isCancelled token))]

/-- Options of a request. -/
def request (tokens : Tokens) (options : RequestOptions) : String :=
  record "RequestOptions"
    [("headers", list header options.headers),
      ("retry_attempts", option (fun count => nat count.toNat) options.retryAttempts),
      ("retry_schedule", option (list Duration.describe) options.retrySchedule),
      ("http_timeout", option Duration.describe options.httpTimeout),
      ("body_timeout", option Duration.describe options.bodyTimeout),
      ("abort", option (token tokens) options.abort)]

/-- A backoff. -/
def backoff (backoff : Retry.Backoff) : String :=
  record "RetryConfig"
    [("max_retries", nat backoff.maxRetries.toNat),
      ("initial_backoff", Duration.describe backoff.initial),
      ("max_backoff", Duration.describe backoff.greatest),
      ("multiplier", Decimal.Layout.settings.render backoff.multiplier),
      ("jitter_fraction", Decimal.Layout.settings.render backoff.jitter)]

/-- The settings of a transport. -/
def transport (settings : TransportSettings) : String :=
  record "HttpTransportConfig"
    [("retry", backoff settings.retry),
      ("connect_timeout", Duration.describe settings.connectTimeout),
      ("http_timeout", option Duration.describe settings.httpTimeout),
      ("body_timeout", option Duration.describe settings.bodyTimeout)]

/-- Options of a stream. -/
def stream (tokens : Tokens) (options : StreamOptions) : String :=
  record "StreamOptions"
    [("min_bytes", nat options.minBytes),
      ("max_bytes", option nat options.maxBytes),
      ("max_idle_time", option Duration.describe options.maxIdle),
      ("max_wait_time", option Duration.describe options.maxWait),
      ("head_poll_interval", Duration.describe options.headPoll),
      ("stop_on_head", bool options.stopAtHead),
      ("request", option (request tokens) options.request)]

/-- The settings of a client. -/
def settings (tokens : Tokens) (settings : ClientSettings) : String :=
  record "PortalClientConfig"
    [("http", transport settings.transport),
      ("request", request tokens settings.request),
      ("stream", stream tokens settings.stream),
      ("tip_refresh_interval", Duration.describe settings.tipRefresh)]

end Description

/-- How a client is described to a reader. -/
def Client.describe (client : Client) (tokens : Tokens) : String :=
  Description.partialRecord "PortalClient"
    [("stream_url", Text.quoted client.streamAddress),
      ("config", Description.settings tokens client.settings)]

/-- How a feed is described to a reader. -/
def Feed.describe (cancelled : Bool) : String :=
  Description.partialRecord "PortalStream" [("cancelled", Description.bool cancelled)]

end BlockFeed
