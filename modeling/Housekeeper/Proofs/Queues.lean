import Housekeeper.Transport.Queue

/-!
# All messages of a hub

`QueueHub.queued` is what waits in any queue. Sending puts one message there, receiving takes one
out (`queued_of_send`, `queued_of_receive`), and a new queue changes nothing as long as its id is
new (`queued_create`).
-/

namespace Housekeeper

namespace QueueHub

/-- What waits in any queue. -/
def queued (hub : QueueHub) : List CommandMessage :=
  hub.queues.rows.flatMap fun row => row.2.pending

/-- The messages of one queue among all of them. -/
theorem queued_put {hub : QueueHub} {id : QueueId} {queue : MessageQueue}
    (h : hub.queues.get? id = some queue) (created : UInt32) (changed : MessageQueue) :
    ∃ before after, hub.queued = before ++ queue.pending ++ after ∧
      (QueueHub.mk created (hub.queues.put id changed)).queued =
        before ++ changed.pending ++ after := by
  obtain ⟨before, after, hrows, hinsert⟩ :=
    IdTable.insertRow_of_lookup hub.queues.ascending h changed
  refine ⟨before.flatMap fun row => row.2.pending, after.flatMap fun row => row.2.pending, ?_, ?_⟩
  · rw [queued, hrows]; simp
  · show (IdTable.insertRow id changed hub.queues.rows).flatMap _ = _
    rw [hinsert]; simp

theorem queued_of_send {hub after : QueueHub} {source destination : QueueId} {command : Command}
    (h : hub.send source destination command = (.ok (), after)) :
    after.queued.Perm (⟨source, command⟩ :: hub.queued) := by
  unfold send at h
  split at h
  · cases h
  · split at h
    · cases h
    next queue hq =>
      split at h
      · cases h
      · cases h
        obtain ⟨before, rest, hqueued, hput⟩ := queued_put hq hub.created
          ⟨queue.depth, queue.pending ++ [⟨source, command⟩]⟩
        rw [hput, hqueued]
        have hmove : (queue.pending ++ [CommandMessage.mk source command]).Perm
            (⟨source, command⟩ :: queue.pending) := List.perm_append_singleton ..
        have hfront := (hmove.append_left before).trans List.perm_middle
        exact hfront.append_right rest

theorem queued_of_receive {hub after : QueueHub} {id : QueueId} {message : CommandMessage}
    (h : hub.receive id = (some message, after)) :
    hub.queued.Perm (message :: after.queued) := by
  unfold receive at h
  split at h
  next depth first rest hq =>
    cases h
    obtain ⟨before, last, hqueued, hput⟩ := queued_put hq hub.created ⟨depth, rest⟩
    rw [hput, hqueued]
    have hfront : (before ++ message :: rest).Perm (message :: (before ++ rest)) :=
      List.perm_middle
    exact hfront.append_right last
  next => cases h

/-- Nothing waits in a new queue. -/
theorem queued_create {hub : QueueHub} (hfresh : hub.queues.get? (hub.created + 1) = none)
    (depth : Nat) : (hub.create depth).2.queued = hub.queued := by
  obtain ⟨before, after, hrows, hinsert⟩ :=
    IdTable.insertRow_of_lookup_none hfresh (MessageQueue.mk depth [])
  show (IdTable.insertRow (hub.created + 1) ⟨depth, []⟩ hub.queues.rows).flatMap _ = _
  rw [hinsert, queued, hrows]
  simp

end QueueHub

end Housekeeper
