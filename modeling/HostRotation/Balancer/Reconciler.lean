/-
# The reconciler

The reconciler subscribes to discovery when it first runs. From then on it
takes, one at a time, notices of the current subscription and commands. When
a subscription fails or ends it arms a resubscribe and listens to commands
alone until the resubscribe has gone through.
-/
import HostRotation.Balancer.Table

namespace HostRotation
namespace Balancer

variable {α σ : Type}

/-- Takes out a fresh subscription and listens to it. -/
def subscribe (b : Balancer α σ) : Balancer α σ :=
  { b with
    subscriptions := b.subscriptions ++ [b.setup.source.subscribe]
    reconciler := .listening }

/-- The reconciler runs for the first time. -/
def startReconciler (b : Balancer α σ) : Balancer α σ :=
  if b.reconciler = .unstarted then b.subscribe else b

/-- Discovery delivers a notice to the current subscription. -/
def deliver (b : Balancer α σ) (n : Notice α) : Balancer α σ :=
  { b with subscriptions :=
      b.subscriptions.modify (b.subscriptions.length - 1) (Subscription.deliver · n) }

/-- The subscription broke or ended. -/
def loseSubscription (b : Balancer α σ) : Balancer α σ :=
  { b with reconciler := .idle }.scheduleResubscribe

/-- The notice that the reconciler would take next. -/
def nextNotice? (b : Balancer α σ) : Option (Notice α) :=
  if b.reconciler = .listening then b.subscriptions.getLast? >>= Subscription.next? else none

/-- The command that the reconciler would take next. -/
def nextCommand? (b : Balancer α σ) : Option (Command α) :=
  if b.reconciler = .listening ∨ b.reconciler = .idle then b.commands.head? else none

/-- The reconciler takes a notice. -/
def takeNotice [DecidableEq α] (b : Balancer α σ) : Balancer α σ :=
  match b.nextNotice? with
  | none => b
  | some n =>
    let b := { b with subscriptions :=
      b.subscriptions.modify (b.subscriptions.length - 1) Subscription.take }
    match n with
    | .batch events => b.applyBatch events
    | .failed _ | .ended => b.loseSubscription

/-- A resubscribe goes through. -/
def resubscribe (b : Balancer α σ) : Balancer α σ :=
  { b with
    monitor := { b.monitor with pending := none }
    metrics := { b.metrics with resubscribes := b.metrics.resubscribes + 1 } }.subscribe

/-- The reconciler takes a command. -/
def takeCommand [DecidableEq α] (b : Balancer α σ) : Balancer α σ :=
  match b.nextCommand? with
  | none => b
  | some c =>
    let b := { b with commands := b.commands.tail }
    match c with
    | .resubscribe => b.resubscribe
    | .drained a => b.removeDrained a

end Balancer
end HostRotation
