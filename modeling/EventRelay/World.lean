import EventRelay.Breaker
import EventRelay.Backup.Record
import EventRelay.Event.Builders
import EventRelay.Store.Error

/-!
# What lies outside a publisher

A publisher draws fresh identifiers and clock readings, hands envelopes to a
transport, and gives what the transport refuses to a vault.  Here the outside
is a value: a supply of identifiers and readings in the order in which they
will be drawn, and the states of the transport, of the vault and of the
breaker.  A transport and a vault are functions on their states, so any
behaviour of theirs is a choice of such functions.
-/

namespace EventRelay

/--
Identifiers and clock readings in the order in which they are drawn, and how
many have been.
-/
structure Supply where
  identifiers : Nat → Identifier
  /-- Readings of the calendar clock. -/
  times : Nat → Timestamp
  /-- Readings in nanoseconds of the clock that never goes back. -/
  ticks : Nat → Nat
  minted : Nat
  timed : Nat
  ticked : Nat

namespace Supply

/-- The next fresh identifier. -/
def mint (supply : Supply) : Identifier × Supply :=
  (supply.identifiers supply.minted,
    { supply with minted := supply.minted + 1 })

/-- The next reading of the calendar clock. -/
def now (supply : Supply) : Timestamp × Supply :=
  (supply.times supply.timed, { supply with timed := supply.timed + 1 })

/-- The next reading of the clock that never goes back. -/
def tick (supply : Supply) : Nat × Supply :=
  (supply.ticks supply.ticked, { supply with ticked := supply.ticked + 1 })

end Supply

/-- Why an envelope was not sent or not kept. -/
inductive Cause where
  | transportUnavailable (topic : String)
  | vaultUnavailable (messageId : String)
  | rejected (breaker : String)
  | store (error : Store.Error)
  | other (reason : String)
  deriving DecidableEq

/-- The text of the cause. -/
def Cause.message : Cause → String
  | .transportUnavailable topic =>
      "transport unavailable for topic '" ++ topic ++ "'"
  | .vaultUnavailable messageId =>
      "backup store unavailable for message " ++ messageId
  | .rejected breaker => Breaker.rejection breaker
  | .store error => error.message
  | .other reason => reason

/-- Takes an envelope for a topic, or refuses it. -/
structure Transport (σ : Type) where
  deliver : String → Envelope → σ → Except Cause Unit × σ

/-- Keeps an envelope that could not be sent, or fails to. -/
structure Vault (ν : Type) where
  keep : EventType → Envelope → Timestamp → ν → Except Cause Unit × ν

/-- The outside of a publisher. -/
structure World (σ ν : Type) where
  supply : Supply
  transport : σ
  vault : ν
  breaker : Breaker.State

end EventRelay
