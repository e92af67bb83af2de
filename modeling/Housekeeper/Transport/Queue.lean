import Housekeeper.IdTable
import Housekeeper.Message.Command

/-!
# Message queues

All queues of a process are known to one hub, which numbers them from one upwards and routes
messages between them. A queue is first in, first out, and holds at most as many messages as its
depth. A message arrives with the id of the queue that sent it as its sender. `pending_of_send` and
`pending_receive` say what sending and receiving do to what waits in every queue.
-/

namespace Housekeeper

structure MessageQueue where
  depth : Nat
  pending : List CommandMessage

structure QueueHub where
  /-- How many queues were made so far, and so the id of the latest. -/
  created : UInt32
  queues : IdTable MessageQueue

namespace QueueHub

def empty : QueueHub := ⟨0, .empty⟩

/-- The id of a new queue, and the hub with it. -/
def create (hub : QueueHub) (depth : Nat) : QueueId × QueueHub :=
  let id := hub.created + 1
  (id, ⟨id, hub.queues.put id ⟨depth, []⟩⟩)

/-- The queue is gone, with all that is in it. -/
def drop (hub : QueueHub) (id : QueueId) : QueueHub := ⟨hub.created, hub.queues.erase id⟩

def send (hub : QueueHub) (source destination : QueueId) (command : Command) :
    Except PoolError Unit × QueueHub :=
  if destination = noQueue then (.error .queueOrDestinationInvalid, hub)
  else
    match hub.queues.get? destination with
    | none => (.error .queueOrDestinationInvalid, hub)
    | some queue =>
      if queue.depth ≤ queue.pending.length then (.error .queueFull, hub)
      else
        (.ok (), ⟨hub.created,
          hub.queues.put destination ⟨queue.depth, queue.pending ++ [⟨source, command⟩]⟩⟩)

/-- The messages that wait in a queue, the oldest first. -/
def pending (hub : QueueHub) (id : QueueId) : List CommandMessage :=
  match hub.queues.get? id with
  | some queue => queue.pending
  | none => []

/-- Takes the oldest message out of a queue. -/
def receive (hub : QueueHub) (id : QueueId) : Option CommandMessage × QueueHub :=
  match hub.queues.get? id with
  | some ⟨depth, message :: rest⟩ =>
    (some message, ⟨hub.created, hub.queues.put id ⟨depth, rest⟩⟩)
  | _ => (none, hub)

theorem pending_put (created : UInt32) (queues : IdTable MessageQueue) (own : QueueId)
    (queue : MessageQueue) (id : QueueId) :
    (QueueHub.mk created (queues.put own queue)).pending id =
      if id = own then queue.pending else (QueueHub.mk created queues).pending id := by
  by_cases same : id = own <;> simp [pending, IdTable.get?_put, same]

theorem pending_of_send {hub : QueueHub} {source destination : QueueId} {command : Command}
    (h : (hub.send source destination command).1 = .ok ()) (id : QueueId) :
    (hub.send source destination command).2.pending id =
      if id = destination then hub.pending id ++ [⟨source, command⟩] else hub.pending id := by
  unfold send at h ⊢
  split at h
  · cases h
  next real =>
    split at h
    · cases h
    next queue found =>
      split at h
      · cases h
      next room =>
        simp only [real, room, if_false]
        rw [pending_put]
        split
        next same => rw [same, pending, found]
        next => rfl

theorem send_of_error {hub : QueueHub} {source destination : QueueId} {command : Command}
    {e : PoolError} (h : (hub.send source destination command).1 = .error e) :
    (hub.send source destination command).2 = hub := by
  unfold send at h ⊢
  repeat' split at h
  all_goals simp_all

theorem pending_receive (hub : QueueHub) (own id : QueueId) :
    (hub.receive own).2.pending id =
      if id = own then (hub.pending id).tail else hub.pending id := by
  unfold receive
  split
  next depth message rest found =>
    rw [pending_put]
    split
    next same => rw [same, pending, found, List.tail_cons]
    next => rfl
  next other =>
    split
    next same =>
      subst same
      rcases h : hub.queues.get? id with _ | ⟨depth, _ | ⟨message, rest⟩⟩
      · simp [pending, h]
      · simp [pending, h]
      · exact absurd h (other depth message rest)
    next => rfl

end QueueHub

end Housekeeper
