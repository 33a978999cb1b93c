/-
# What the executor is told

A task is handed to the executor as an order: what it is for, and how long to
wait before it starts. Nothing takes an order back or changes it: tasks are
started, cancelled and forgotten, but the list of orders only grows, and all
but two operations, one for each kind of task, leave it as it is.

Key definition: `Task.order`.
-/
import HostRotation.Proofs.Footprints

namespace HostRotation

variable {α σ : Type}

/-- What the executor is told of a task. -/
def Task.order (task : Task) : TaskKind × Duration := (task.kind, task.delay)

theorem Task.order_cancel (aborts : Bool) (task : Task) :
    (task.cancel aborts).order = task.order := by
  unfold Task.cancel
  split
  · rfl
  · rfl

/-- Where the orders are the same, the tasks are of the same kinds. -/
theorem kinds_of_orders {tasks tasks' : List Task}
    (h : tasks'.map Task.order = tasks.map Task.order) :
    tasks'.map Task.kind = tasks.map Task.kind := by
  have hkinds := congrArg (List.map Prod.fst) h
  rw [List.map_map, List.map_map] at hkinds
  exact hkinds

/-! ### Tasks that change -/

theorem orders_modify (tasks : List Task) (t : TaskId) {f : Task → Task}
    (hf : ∀ task, (f task).order = task.order) :
    (tasks.modify t f).map Task.order = tasks.map Task.order := by
  refine List.ext_getElem? fun i => ?_
  rw [List.getElem?_map, List.getElem?_map, List.getElem?_modify]
  cases tasks[i]? with
  | none => split <;> rfl
  | some task => split <;> simp [hf]

theorem orders_cancelIn (aborts : Bool) (tasks : List Task) (o : Option TaskId) :
    (cancelIn aborts tasks o).map Task.order = tasks.map Task.order := by
  cases o with
  | none => rfl
  | some t => exact orders_modify tasks t (Task.order_cancel aborts)

/-! ### Hosts that leave -/

theorem orders_cancelCheck (b : Balancer α σ) (h : HostId) :
    (b.cancelCheck h).tasks.map Task.order = b.tasks.map Task.order := by
  unfold Balancer.cancelCheck
  split
  · rw [Balancer.cancelIfAny_eq]
    exact orders_cancelIn _ _ _
  · rfl

theorem orders_closeHost (b : Balancer α σ) (h : HostId) :
    (b.closeHost h).1.tasks.map Task.order = b.tasks.map Task.order := by
  unfold Balancer.closeHost
  split
  · rfl
  · exact orders_cancelCheck _ h

theorem orders_closeHosts : ∀ (hs : List HostId) (b : Balancer α σ),
    (b.closeHosts hs).1.tasks.map Task.order = b.tasks.map Task.order
  | [], _ => rfl
  | h :: hs, b => (orders_closeHosts hs (b.closeHost h).1).trans (orders_closeHost b h)

theorem orders_closeRemoved (b : Balancer α σ) (h : HostId) :
    (b.closeRemoved h).tasks.map Task.order = b.tasks.map Task.order := by
  obtain ⟨_, hlater⟩ := (b.closeHost h).1.closeLater_footprint (b.closeHost h).2
  have hremoved : b.closeRemoved h = _ := hlater
  rw [hremoved]
  exact orders_closeHost b h

theorem orders_closeRemoveds : ∀ (hs : List HostId) (b : Balancer α σ),
    (hs.foldl Balancer.closeRemoved b).tasks.map Task.order = b.tasks.map Task.order
  | [], _ => rfl
  | h :: hs, b => (orders_closeRemoveds hs (b.closeRemoved h)).trans (orders_closeRemoved b h)

theorem orders_clearAll (b : Balancer α σ) :
    b.stopBackground.clearTable.1.tasks.map Task.order = b.tasks.map Task.order := by
  have hstop : b.stopBackground.tasks.map Task.order = b.tasks.map Task.order := by
    unfold Balancer.stopBackground
    rw [Balancer.cancelIfAny_eq]
    exact orders_cancelIn _ _ _
  exact (orders_closeHosts b.stopBackground.table { b.stopBackground with table := [] }).trans hstop

/-- Closing a balancer schedules nothing. -/
theorem orders_close (b : Balancer α σ) :
    b.close.tasks.map Task.order = b.tasks.map Task.order := by
  unfold Balancer.close
  split
  · rfl
  · obtain ⟨_, heq⟩ := Balancer.closeLinks_footprint b.stopBackground.clearTable.2
      b.stopBackground.clearTable.1
    dsimp only
    rw [heq]
    exact orders_clearAll b

theorem orders_drop (b : Balancer α σ) : b.drop.tasks.map Task.order = b.tasks.map Task.order := by
  unfold Balancer.drop
  split
  · rfl
  · obtain ⟨_, heq⟩ := Balancer.closeLater_footprint
      { b.stopBackground.clearTable.1 with lifecycle := .dropped } b.stopBackground.clearTable.2
    dsimp only
    rw [heq]
    exact orders_clearAll b

/-! ### Batches -/

section

variable [DecidableEq α]

theorem orders_applyEvent (s : Balancer α σ × List HostId) (event : HostEvent α) :
    (Balancer.applyEvent s event).1.tasks.map Task.order = s.1.tasks.map Task.order := by
  obtain ⟨b, removed⟩ := s
  unfold Balancer.applyEvent
  dsimp only
  split
  · rfl
  · rename_i h _ _
    unfold Balancer.activateHost
    split
    · rfl
    · dsimp only
      split
      · exact orders_cancelCheck _ h
      · rfl
  · rename_i h _ _
    have hexpire : (b.expireHost h).1.tasks.map Task.order = b.tasks.map Task.order := by
      unfold Balancer.expireHost
      split
      · rfl
      · exact orders_cancelCheck _ h
    split
    · exact hexpire
    · exact hexpire
  all_goals rfl

theorem orders_applyEvents : ∀ (events : Batch α) (s : Balancer α σ × List HostId),
    (events.foldl Balancer.applyEvent s).1.tasks.map Task.order = s.1.tasks.map Task.order
  | [], _ => rfl
  | event :: events, s =>
    (orders_applyEvents events (Balancer.applyEvent s event)).trans (orders_applyEvent s event)

end
end HostRotation
