import ChatCore.Server.Steps

/-!
# `ChatCore.Server.Observers`: what a connection is told about a channel

The server with the messages that each step hands to registered connections. A client follows
who is in its channel by three of them: `ChannelJoinEvent` and `ChannelLeaveEvent` of the channel,
and `UserLogoutEvent`.
-/

set_option autoImplicit false

namespace ChatCore.Server

open ChatCore.Api
open ChatCore.Lib (Lts latest)

/-- A step of the server as the connections see it. -/
structure Observed where
  event : Event
  /-- The user of the connection whose message is handled, before the step. -/
  user : Option Nat
  /-- The messages that the calls of the step hand to registered connections. -/
  sent : List (Nat × Message)

namespace Observed

/-- User `u` joins channel `ch`. -/
def JoinedBy (x : Observed) (ch u : Nat) : Prop :=
  ∃ c, x.event.joins c = some ch ∧ x.user = some u

/-- The messages of the step to one connection. -/
def sentTo (x : Observed) (connectionId : Nat) : List Message :=
  (x.sent.filter (·.1 = connectionId)).map Prod.snd

end Observed

/-- User `u` has a session whose connection is assigned to channel `ch`. -/
def ServerState.Member (s : ServerState) (ch u : Nat) : Prop :=
  ∃ c, (c, u) ∈ s.users.userSessions ∧ (c, ch) ∈ s.channels.connectionChannelMap

/-- What a message says about user `u` in channel `ch`. -/
def presence (ch u : Nat) : Message → Option Bool
  | .channelJoinEvent m => if m.channelId = ch ∧ m.userId = u then some true else none
  | .channelLeaveEvent m => if m.channelId = ch ∧ m.userId = u then some false else none
  | .userLogoutEvent m => if m.userId = u then some false else none
  | _ => none

/-- The server with the history of what the connections were sent. -/
structure ObservedRun where
  run : ServerRun
  history : List Observed := []

namespace ObservedRun

/-- The user of the connection whose message the step handles. -/
def user (r : ObservedRun) : ServerOp → Option Nat
  | .handle connectionId _ => r.run.server.users.userSessions.findLeft connectionId
  | _ => none

/-- One step of the server. A disconnected connection is removed before the calls of
`OnDisconnected`, and no other step with calls changes the registered connections. -/
def step (r : ObservedRun) (op : ServerOp) : Option ObservedRun :=
  (r.run.step op).map fun run =>
    { run := run
      history := r.history ++ (run.trace.drop r.run.trace.length).map fun event =>
        { event := event
          user := r.user op
          sent := event.calls.flatMap (Call.deliveries run.server.connections) } }

/-- The messages that the connection was sent. -/
def sentTo (r : ObservedRun) (connectionId : Nat) : List Message :=
  r.history.flatMap (·.sentTo connectionId)

/-- No message of a connection is handled after its `OnDisconnected`. -/
def BeforeDisconnect (r : ObservedRun) : ServerOp → Prop
  | .handle connectionId _ => .disconnect connectionId ∉ r.run.trace.map Event.op
  | _ => True

instance : DecidableRel BeforeDisconnect := fun r op =>
  match op with
  | .handle connectionId _ =>
    inferInstanceAs (Decidable (.disconnect connectionId ∉ r.run.trace.map Event.op))
  | .connect | .disconnect _ | .persist => isTrue trivial

end ObservedRun

/-- Runs of the server with what the connections are sent, over any database. -/
def observedRuns : Lts ObservedRun ServerOp where
  start r := ∃ db, r = { run := { server := ServerState.begin db, start := db } }
  step := ObservedRun.step

end ChatCore.Server
