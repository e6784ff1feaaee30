/-!
# The event bus

Everyone who subscribed sees the events published since. The bus keeps the newest 256; a reader who
is further behind is told once how many events it missed and goes on with the oldest that is kept.
-/

namespace ShelterLine

/-- The number of events published, the newest of them, newest first, and for each reader the number
of the event it reads next. -/
structure Bus (α : Type) where
  published : Nat := 0
  kept : List α := []
  readers : List (String × Nat) := []

/-- What a reader gets. -/
inductive Delivery (α : Type) where
  | event (e : α)
  | lagged (missed : Nat)
  | empty
  | noReader

namespace Bus

variable {α : Type}

/-- How many events are kept. -/
def capacity : Nat := 256

/-- Publishes an event. -/
def publish (b : Bus α) (e : α) : Bus α :=
  { b with published := b.published + 1, kept := (e :: b.kept).take capacity }

/-- Forgets a reader. -/
def drop (b : Bus α) (name : String) : Bus α :=
  { b with readers := b.readers.filter (·.1 ≠ name) }

/-- Lets a reader in, who sees what is published from now on. -/
def subscribe (b : Bus α) (name : String) : Bus α :=
  { b.drop name with readers := (name, b.published) :: (b.drop name).readers }

/-- Whether a reader of this name is there. -/
def has (b : Bus α) (name : String) : Bool := b.readers.any (·.1 = name)

/-- Moves a reader to the event with a number. -/
def moveTo (b : Bus α) (name : String) (next : Nat) : Bus α :=
  { b with readers := b.readers.map fun r => if r.1 = name then (name, next) else r }

/-- The number of the oldest event that is kept. -/
def oldest (b : Bus α) : Nat := b.published - b.kept.length

/-- Hands a reader its next event: the oldest of those that it has not read. -/
def receive (b : Bus α) (name : String) : Delivery α × Bus α :=
  match b.readers.lookup name with
  | none => (.noReader, b)
  | some next =>
    if next < b.oldest then (.lagged (b.oldest - next), b.moveTo name b.oldest)
    else match (b.kept.take (b.published - next)).getLast? with
      | some e => (.event e, b.moveTo name (next + 1))
      | none => (.empty, b)

/-- Hands a reader what it has not read, at most so many deliveries: how many events it missed, and
the events. -/
def receiveMany (name : String) : Nat → Bus α → Nat × List α × Bus α
  | 0, b => (0, [], b)
  | n + 1, b => match b.receive name with
    | (.event e, b) =>
      let (missed, es, b) := receiveMany name n b
      (missed, e :: es, b)
    | (.lagged m, b) =>
      let (missed, es, b) := receiveMany name n b
      (m + missed, es, b)
    | (_, b) => (0, [], b)

/-- Hands a reader everything that it has not read. -/
def receiveAll (b : Bus α) (name : String) : Nat × List α × Bus α :=
  receiveMany name (capacity + 1) b

end Bus

end ShelterLine
