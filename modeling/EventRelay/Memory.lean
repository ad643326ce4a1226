import EventRelay.World

/-!
# A transport and a vault in memory

For trials, a transport can accept envelopes into a list and a vault can keep
records in one.  Each fails on demand: for the next so many calls, or until
told otherwise.  The clocks of a trial stand still.
-/

namespace EventRelay

/--
The supply whose clocks stand still at a moment and whose identifiers are
minted there.
-/
def Supply.still (moment : Timestamp) : Supply where
  identifiers := Identifier.timeOrdered moment.toMillis.toNat
  times _ := moment
  ticks _ := 0
  minted := 0
  timed := 0
  ticked := 0

namespace Memory

/-- Which coming calls fail. -/
inductive Outage where
  | next (calls : Nat)
  | always
  deriving DecidableEq

namespace Outage

/-- No call fails. -/
def none : Outage := .next 0

/-- The largest number of calls stands for all of them. -/
def ofNat (calls : Nat) : Outage :=
  if calls = UInt64.size - 1 then .always else .next calls

/-- Whether the next call fails, and which calls fail after it. -/
def strike : Outage → Bool × Outage
  | .always => (true, .always)
  | .next 0 => (false, .next 0)
  | .next (calls + 1) => (true, .next calls)

end Outage

/-- The state of a transport in memory. -/
structure Sender where
  /-- The accepted envelopes with their topics, in order. -/
  accepted : List (String × Envelope)
  /-- How many envelopes have been handed over. -/
  attempts : Nat
  outage : Outage

/-- A transport that has accepted nothing. -/
def Sender.initial (outage : Outage) : Sender := ⟨[], 0, outage⟩

/-- The transport that accepts envelopes into a list. -/
def transport : Transport Sender where
  deliver topic envelope state :=
    let (fails, outage) := state.outage.strike
    let state := { state with attempts := state.attempts + 1, outage := outage }
    if fails then (.error (.transportUnavailable topic), state)
    else
      (.ok (), { state with accepted := state.accepted ++ [(topic, envelope)] })

/-- The state of a vault in memory. -/
structure Keeper where
  /-- The records kept, in order. -/
  records : List BackupRecord
  /-- The envelopes they were made of, in order. -/
  envelopes : List Envelope
  /-- How many envelopes have been handed over. -/
  attempts : Nat
  outage : Outage

/-- A vault that keeps nothing yet. -/
def Keeper.initial (outage : Outage) : Keeper := ⟨[], [], 0, outage⟩

/-- The vault that keeps records in a list. -/
def vault : Vault Keeper where
  keep type envelope failedAt state :=
    let (fails, outage) := state.outage.strike
    let state := { state with attempts := state.attempts + 1, outage := outage }
    if fails then
      (.error (.vaultUnavailable envelope.header.messageId.toText), state)
    else
      (.ok (),
        { state with
          records := state.records ++ [.ofFailedSend type envelope failedAt]
          envelopes := state.envelopes ++ [envelope] })

end Memory

end EventRelay
