/-!
# Channels

A channel is a queue between tasks. A task that cannot put an item into a full channel, or take one
from an empty channel, waits in line. Whenever an item is put, the first of the takers in line is
woken, and whenever one is taken, the first of the putters.

* `Channel.put?` and `Channel.take?` move one item;
* `Channel.putAll` puts items as long as there is room.
-/

namespace DealWatch

/-- A task. -/
inductive TaskId where
  | ingestion
  | matching
  | notify
  | tick (number : Nat)
  deriving DecidableEq, Repr, Inhabited

/-- A queue with the tasks that wait for room and for items. -/
structure Channel (α : Type) where
  /-- The number of items that it holds; zero for no limit. -/
  capacity : Nat
  items : List α
  takers : List TaskId
  putters : List TaskId
  deriving Repr, Inhabited

namespace Channel

variable {α : Type}

/-- A channel without items. -/
def ofCapacity (capacity : Nat) : Channel α := ⟨capacity, [], [], []⟩

/-- Whether there is no room for another item. -/
def isFull (c : Channel α) : Bool := 0 < c.capacity && c.capacity ≤ c.items.length

/-- The channel with one more item, and the taker that is woken. -/
def push (c : Channel α) (a : α) : Channel α × Option TaskId :=
  ({ c with items := c.items ++ [a], takers := c.takers.drop 1 }, c.takers.head?)

/-- The channel with one more item, if there is room, and the taker that is woken. -/
def put? (c : Channel α) (a : α) : Option (Channel α × Option TaskId) :=
  if c.isFull then none else some (c.push a)

/-- The first item, if there is one, the channel without it, and the putter that is woken. -/
def take? (c : Channel α) : Option (α × Channel α × Option TaskId) :=
  match c.items with
  | [] => none
  | a :: rest => some (a, { c with items := rest, putters := c.putters.drop 1 }, c.putters.head?)

/-- Puts items as long as there is room: the channel, the takers that are woken, and the items that
are left. -/
def putAll (c : Channel α) : List α → Channel α × List TaskId × List α
  | [] => (c, [], [])
  | a :: rest =>
    match c.put? a with
    | none => (c, [], a :: rest)
    | some (c, woken) =>
      let (c, others, left) := putAll c rest
      (c, woken.toList ++ others, left)

/-- A task waits for room. -/
def awaitRoom (c : Channel α) (t : TaskId) : Channel α := { c with putters := c.putters ++ [t] }

/-- A task waits for an item. -/
def awaitItem (c : Channel α) (t : TaskId) : Channel α := { c with takers := c.takers ++ [t] }

end Channel

end DealWatch
