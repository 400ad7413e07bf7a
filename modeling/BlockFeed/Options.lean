import BlockFeed.Buffer
import BlockFeed.Retry

/-!
# Settings

A stream is opened with options: when its buffer releases blocks, what happens
at the finalized head, and the options of its requests. A client has defaults
for them, and settings for the way in which requests are sent.
-/

namespace BlockFeed

/-- Options of one stream. A timer that is not given is off. -/
structure StreamOptions where
  /-- Size in octets from which on a batch is released. -/
  minBytes : Nat := 40 * 1024 * 1024
  /-- Size in octets from which on nothing more is read; by default and at least
  the size of a batch. -/
  maxBytes : Option Nat := none
  /-- Silence after which a smaller batch is released. -/
  maxIdle : Option Duration := some (Duration.ofMillis 300)
  /-- Time for which a consumer waits before a smaller batch is released. -/
  maxWait : Option Duration := some (Duration.ofSeconds 5)
  /-- Pause between requests while there is nothing behind the head. -/
  headPoll : Duration := Duration.ofSeconds 5
  /-- Whether the stream ends at the head. -/
  stopAtHead : Bool := false
  /-- Options of the stream's requests; by default those of the client. -/
  request : Option RequestOptions := none
  deriving DecidableEq, Repr

namespace StreamOptions

/-- The configuration of the stream's buffer. -/
def buffer (options : StreamOptions) : Buffer.Config :=
  .make options.minBytes options.maxBytes options.maxIdle options.maxWait

end StreamOptions

/-- How requests are sent. -/
structure TransportSettings where
  retry : Retry.Backoff := {}
  /-- Longest wait for a connection. -/
  connectTimeout : Duration := Duration.ofSeconds 10
  /-- Longest wait for the head of an answer. -/
  httpTimeout : Option Duration := some (Duration.ofSeconds 60)
  /-- Longest wait for each part of a body. -/
  bodyTimeout : Option Duration := some (Duration.ofSeconds 60)
  deriving DecidableEq

/-- The settings of a client. -/
structure ClientSettings where
  transport : TransportSettings := {}
  /-- Options of every request that brings none of its own. -/
  request : RequestOptions := {}
  stream : StreamOptions := {}
  /-- How long a fetched height is used. -/
  tipRefresh : Duration := Duration.ofSeconds 20
  deriving DecidableEq

end BlockFeed
