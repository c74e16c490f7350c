import Turnstile.Event.Payload

/-!
# The event channel

A bounded queue between the service and the consumer of accepted events.  When
the queue is full, a new event is dropped; when the consumer is gone, sending
fails.

Main definitions:

- `Channel.create`: a queue, as far as there are permits for it.
- `Channel.send`, `Channel.receive`: the two ends.
- `Channel.close`, `Channel.hangUp`: either end goes away.
-/

namespace Turnstile

/-- A bounded queue with two ends. -/
structure Channel where
  capacity : Nat
  queue : List AcceptedEvent
  /-- The receiving end is there. -/
  receiving : Bool
  /-- The sending end is there. -/
  sending : Bool
deriving DecidableEq, Repr

/-- Why an event could not be sent. -/
inductive ChannelError
  | closed
deriving DecidableEq, Repr

/-- The sentence for an error. -/
def ChannelError.message : ChannelError → String
  | .closed => "event consumer channel closed"

/-- What receiving comes to. -/
inductive Received
  | event (event : AcceptedEvent)
  | empty
  /-- The queue is empty and nobody can send any more. -/
  | closed
deriving DecidableEq, Repr

/-- The most permits of a semaphore, and with that the most events in a channel
and the most events that are forwarded at once. -/
def maxPermits : Nat := 0x1FFFFFFFFFFFFFFF

/-- Why something could not be set up. -/
inductive StartFault
  | tooManyPermits
deriving DecidableEq, Repr

/-- The sentence for a fault. -/
def StartFault.message : StartFault → String
  | .tooManyPermits =>
      "a semaphore may not have more than MAX_PERMITS permits (" ++ toString maxPermits ++ ")"

namespace Channel

/-- An empty queue; it has room for one event at least. -/
def new (capacity : Nat) : Channel where
  capacity := max capacity 1
  queue := []
  receiving := true
  sending := true

/-- An empty queue, unless it would have more room than there are permits. -/
def create (capacity : Nat) : Except StartFault Channel :=
  if maxPermits < capacity then .error .tooManyPermits else .ok (new capacity)

/-- Sends an event, or drops it when the queue is full. -/
def send (channel : Channel) (event : AcceptedEvent) : Except ChannelError Channel :=
  if !channel.receiving then .error .closed
  else if channel.queue.length < channel.capacity then
    .ok { channel with queue := channel.queue ++ [event] }
  else .ok channel

/-- Sends an event to whoever is there; without a receiver it is lost. -/
def offer (channel : Channel) (event : AcceptedEvent) : Channel :=
  match channel.send event with
  | .ok channel => channel
  | .error _ => channel

/-- Takes the event that was sent first. -/
def receive (channel : Channel) : Received × Channel :=
  match channel.queue with
  | event :: queue => (.event event, { channel with queue := queue })
  | [] => (if channel.sending then .empty else .closed, channel)

/-- Takes every event. -/
def drain (channel : Channel) : List AcceptedEvent × Channel :=
  (channel.queue, { channel with queue := [] })

/-- The sending end goes away. -/
def close (channel : Channel) : Channel :=
  { channel with sending := false }

/-- The receiving end goes away, and what it did not take is lost. -/
def hangUp (channel : Channel) : Channel :=
  { channel with receiving := false, queue := [] }

end Channel

end Turnstile
