import ShelterLine.Bus
import ShelterLine.Event

/-!
# The feed

A watcher gets a snapshot when it connects and every event from then on. One that falls behind
further than the bus keeps events gets a fresh snapshot in place of those that it missed, and goes
on with the oldest event that is left. What a watcher says back is passed over, a ping apart; it is
gone when it closes the connection or breaks its rules.
-/

namespace ShelterLine.Feed

/-- Lets a watcher in. -/
def connect (name : String) (snapshot : Event) (bus : Bus Event) : Event × Bus Event :=
  (snapshot, bus.subscribe name)

/-- The next frame for a watcher, if there is one. -/
def next (name : String) (snapshot : Event) (bus : Bus Event) : Option Event × Bus Event :=
  match bus.receive name with
  | (.event e, bus) => (some e, bus)
  | (.lagged _, bus) => (some snapshot, bus)
  | (.empty, bus) | (.noReader, bus) => (none, bus)

/-- The next frames for a watcher, at most so many. -/
def take (name : String) (snapshot : Event) : Nat → Bus Event → List Event × Bus Event
  | 0, bus => ([], bus)
  | n + 1, bus => match next name snapshot bus with
    | (none, bus) => ([], bus)
    | (some frame, bus) =>
      let (frames, bus) := take name snapshot n bus
      (frame :: frames, bus)

/-- All frames that wait for a watcher: the events that the bus keeps, and a snapshot
before them. -/
def drain (name : String) (snapshot : Event) (bus : Bus Event) : List Event × Bus Event :=
  take name snapshot (Bus.capacity + 1) bus

/-- What a watcher sends. -/
inductive Incoming where
  | ping (data : String)
  | text
  | binary
  | close
  | broken

/-- What comes of it. -/
inductive Answer where
  | pong (data : String)
  | passedOver
  | hungUp

/-- Answers what a watcher sends. -/
def receive (name : String) (bus : Bus Event) : Incoming → Answer × Bus Event
  | .ping data => (.pong data, bus)
  | .text | .binary => (.passedOver, bus)
  | .close | .broken => (.hungUp, bus.drop name)

end ShelterLine.Feed
