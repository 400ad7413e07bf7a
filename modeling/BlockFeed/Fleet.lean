import BlockFeed.Client

/-!
# Feeds that are open at the same time

Feeds share a clock and a registry of tokens. Each feed has a token of its own,
which calls it off; the token is a child of the one that the caller's options
carry, so that a caller can call off all feeds at once and a feed never calls
off another. A consumer who goes takes the feed's token along.
-/

namespace BlockFeed

/-- A feed that is open, with the options of its requests. -/
structure Fleet.Member where
  feed : Feed
  /-- The token that calls the feed off. -/
  token : Token
  request : RequestOptions

/-- Feeds that are open at the same time. -/
structure Fleet where
  tokens : Tokens
  now : Instant
  members : List Fleet.Member

namespace Fleet

/-- No feed is open, and only the registry's tokens exist. -/
def create (tokens : Tokens) : Fleet := ⟨tokens, 0, []⟩

/-- Something that can happen to feeds. -/
inductive Action
  /-- A client opens a feed. -/
  | opened (client : Client) (portal : Portal) (query : Query) (options : StreamOptions)
  /-- The loop of a feed takes a step, if it can. -/
  | proceed (index : Nat)
  /-- The consumer of a feed asks for the next batch, or goes on asking. -/
  | poll (index : Nat)
  /-- A feed is called off. -/
  | cancel (index : Nat)
  /-- A token is cancelled. -/
  | cancelToken (token : Token)
  /-- The consumer of a feed goes. -/
  | leave (index : Nat)
  /-- Time passes. -/
  | pass (duration : Duration)

/-- Whether a feed has been called off. -/
def isCancelled (fleet : Fleet) (member : Member) : Bool :=
  fleet.tokens.isCancelled member.token

/-- Open a feed. -/
def opened
    (fleet : Fleet)
    (client : Client)
    (portal : Portal)
    (query : Query)
    (options : StreamOptions) : Fleet :=
  let request := client.requestOf options
  let (token, tokens) := fleet.tokens.create request.abort
  { fleet with
    tokens := tokens
    members := fleet.members ++
      [⟨client.feed portal query options, token, request.withAbort token⟩] }

/-- The fleet with one feed changed. -/
def update (fleet : Fleet) (index : Nat) (change : Feed -> Feed) : Fleet :=
  { fleet with
    members := fleet.members.modify index fun member =>
      { member with feed := change member.feed } }

/-- The fleet after the loop of a feed has taken a step, unless it cannot. -/
def proceed? (fleet : Fleet) (index : Nat) : Option Fleet :=
  match fleet.members[index]? with
  | some member =>
      (member.feed.proceed? fleet.now (fleet.isCancelled member)).map fun feed =>
        fleet.update index fun _ => feed
  | none => none

/-- The consumer of a feed asks for the next batch, or goes on asking. -/
def poll (fleet : Fleet) (index : Nat) : Option Feed.Yield × Fleet :=
  match fleet.members[index]? with
  | some member =>
      let (result, feed) := member.feed.poll fleet.now
      (result, fleet.update index fun _ => feed)
  | none => (none, fleet)

/-- Call a feed off. -/
def cancel (fleet : Fleet) (index : Nat) : Fleet :=
  match fleet.members[index]? with
  | some member => { fleet with tokens := fleet.tokens.cancel member.token }
  | none => fleet

/-- The consumer of a feed goes. -/
def leave (fleet : Fleet) (index : Nat) : Fleet :=
  (fleet.cancel index).update index Feed.leave

/-- The fleet after something happened. -/
def act (fleet : Fleet) : Action -> Fleet
  | .opened client portal query options => fleet.opened client portal query options
  | .proceed index => (fleet.proceed? index).getD fleet
  | .poll index => (fleet.poll index).2
  | .cancel index => fleet.cancel index
  | .cancelToken token => { fleet with tokens := fleet.tokens.cancel token }
  | .leave index => fleet.leave index
  | .pass duration => { fleet with now := fleet.now + duration }

/-- The fleet after a list of actions. -/
def run (fleet : Fleet) (actions : List Action) : Fleet :=
  actions.foldl act fleet

@[simp] theorem run_nil (fleet : Fleet) : fleet.run [] = fleet := rfl

@[simp] theorem run_cons (fleet : Fleet) (action : Action) (rest : List Action) :
    fleet.run (action :: rest) = (fleet.act action).run rest := rfl

@[simp] theorem run_append (fleet : Fleet) (left right : List Action) :
    fleet.run (left ++ right) = (fleet.run left).run right := by
  simp [run]

end Fleet
end BlockFeed
