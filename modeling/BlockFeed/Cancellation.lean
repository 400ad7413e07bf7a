/-!
# Cancellation tokens

A token tells everyone who watches it that an activity is called off. Tokens
form a forest: a child is cancelled as soon as it or one of its ancestors is,
and cancelling a child never reaches its parent.
-/

namespace BlockFeed

/-- A cancellation token: its place in the registry that made it. -/
structure Token where
  index : Nat
  deriving DecidableEq, Repr

/-- What a registry knows about one token. -/
structure Tokens.Entry where
  /-- The token of which this one is a child. -/
  parent : Option Token
  /-- Whether the token itself was cancelled. -/
  cancelled : Bool
  deriving DecidableEq, Repr

/-- A registry of tokens in the order in which they were made, so that a parent
always stands before its children. -/
structure Tokens where
  entries : List Tokens.Entry
  deriving DecidableEq, Repr

namespace Tokens

/-- The registry without tokens. -/
def empty : Tokens := ⟨[]⟩

/-- Make a token; without a parent it is the root of a new tree. -/
def create (tokens : Tokens) (parent : Option Token) : Token × Tokens :=
  (⟨tokens.entries.length⟩, ⟨tokens.entries ++ [⟨parent, false⟩]⟩)

/-- Cancel a token. -/
def cancel (tokens : Tokens) (token : Token) : Tokens :=
  ⟨tokens.entries.modify token.index fun entry => ⟨entry.parent, true⟩⟩

/-- Whether a token or one of its next `reach` ancestors was cancelled. -/
def isCancelledWithin (tokens : Tokens) : Nat -> Token -> Bool
  | 0, _ => false
  | reach + 1, token =>
      match tokens.entries[token.index]? with
      | none => false
      | some entry =>
          entry.cancelled ||
            match entry.parent with
            | none => false
            | some parent => isCancelledWithin tokens reach parent

/-- Whether a token or one of its ancestors was cancelled. -/
def isCancelled (tokens : Tokens) (token : Token) : Bool :=
  isCancelledWithin tokens tokens.entries.length token

end Tokens
end BlockFeed
