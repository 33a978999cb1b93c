/-
# What the counters count

Four counters follow selections and connects: the selections begun, those that
ended in a rejection, the connections pooled by a selection or an attempt, and
the connects of selections that failed. No other operation touches them
(`counters_step`), whatever it does to the gauges, so it is enough to know what
a turn of a selection adds (`Turn.counters`).

A selection that was not refused at the door is under way, served or rejected,
and it is rejected in the same turn in which it is counted as a rejection. So
the counters split the selections begun among these three (`Counted`).
-/
import HostRotation.Proofs.Acceptances

namespace HostRotation

variable {α σ : Type}

/-- The counters that selections and connects drive. -/
structure Counters where
  selections : Nat
  rejections : Nat
  created : Nat
  connectFailures : Nat
deriving DecidableEq

def Metrics.counters (m : Metrics) : Counters :=
  ⟨m.selections, m.rejections, m.created, m.connectFailures⟩

/-- What has become of a selection. -/
inductive Standing
  /-- It failed, and not with a rejection. -/
  | refused
  | underWay
  | served
  | rejected
deriving DecidableEq

def Selection.standing (s : Selection α σ) : Standing :=
  match s.result? with
  | none => .underWay
  | some (.ok _) => .served
  | some (.error err) => if err.isRejection then .rejected else .refused

theorem Selection.standing_of_unfinished {s : Selection α σ} (hs : s.result? = none) :
    s.standing = .underWay := by
  unfold standing
  rw [hs]

theorem Selection.standing_finish (s : Selection α σ) (err : BalancerError)
    (he : err.isRejection = true) : (s.finish (.error err)).standing = .rejected := if_pos he

namespace Balancer

/-- How many selections have come to this. -/
def standings (b : Balancer α σ) (st : Standing) : Nat :=
  b.selections.countP fun s => s.standing = st

/-- A count over the steps of a run. -/
def tally [DecidableEq α] (f : Balancer α σ → Event α σ → Nat) (b : Balancer α σ) :
    List (Event α σ) → Nat
  | [] => 0
  | e :: es => f b e + (b.step e).tally f es

/-- Whether an event is a failed connect of a selection. -/
def fails (b : Balancer α σ) : Event α σ → Bool
  | .dialled i (.refused _) => (b.dialling? i).isSome
  | _ => false

/-! ### Operations -/

section

variable (b : Balancer α σ) (s : Selection α σ)

@[simp] theorem counters_scheduleResubscribe :
    b.scheduleResubscribe.metrics.counters = b.metrics.counters := by
  obtain ⟨_, _, _, heq⟩ := b.scheduleResubscribe_footprint
  rw [heq]

@[simp] theorem counters_observeTable :
    b.observeTable.metrics.counters = b.metrics.counters := by
  unfold observeTable
  dsimp only
  split
  · exact b.recordHosts.counters_scheduleResubscribe
  · rfl

/-- The end of a pass is a rejection. -/
theorem counters_endPass (pass : Pass) :
    (b.endPass s pass).1.metrics.counters =
        { b.metrics.counters with rejections := b.metrics.rejections + 1 } ∧
      (b.endPass s pass).2.standing = .rejected := by
  unfold endPass
  split
  · have hsame := b.counters_observeTable
    simp only [Metrics.counters, Counters.mk.injEq] at hsame
    obtain ⟨hselections, hrejections, hcreated, hfailures⟩ := hsame
    refine ⟨?_, s.standing_finish _ rfl⟩
    simp only [reject, Metrics.counters, hselections, hrejections, hcreated, hfailures]
  · exact ⟨rfl, s.standing_finish _ rfl⟩

theorem counters_connectFailed (h : HostId) :
    (b.connectFailed h).metrics.counters =
      { b.metrics.counters with connectFailures := b.metrics.connectFailures + 1 } := by
  unfold connectFailed
  dsimp only
  split
  · rfl
  · split
    · rename_i host _ _
      generalize hr : setHost _ h _ = b₁
      obtain ⟨_, _, _, hone⟩ := b₁.scheduleAttempt_footprint h
      rw [counters_observeTable, hone]
      subst hr
      rfl
    · rfl

/-- An offer creates a connection, and ends in a rejection unless the selector
accepts it. -/
theorem counters_offer (l : Link α) :
    (b.offer s l).1.metrics.counters = { b.metrics.counters with
        rejections :=
          b.metrics.rejections + (decide ((b.offer s l).2.standing = .rejected)).toNat
        created := b.metrics.created + 1 } ∧
      (b.offer s l).2.standing ≠ .refused := by
  unfold offer
  dsimp only
  split
  · exact ⟨rfl, by simp [Selection.standing, Selection.finish, Selection.result?]⟩
  · exact ⟨rfl, (Selection.standing_finish _ _ rfl).trans_ne (by simp)⟩

end

section

variable [DecidableEq α] (b : Balancer α σ)

@[simp] theorem counters_applyBatch (batch : Batch α) :
    (b.applyBatch batch).metrics.counters = b.metrics.counters := by
  unfold applyBatch
  dsimp only
  split
  · rfl
  · generalize hr : (lastEvents batch).foldl applyEvent (b, []) = r
    obtain ⟨_, _, _, happly⟩ := applyEvents_footprint (lastEvents batch) (b, [])
    rw [hr] at happly
    obtain ⟨_, _, _, hclose⟩ := closeRemoveds_footprint r.2 r.1
    rw [counters_observeTable, hclose, happly]

@[simp] theorem counters_removeDrained (a : α) :
    (b.removeDrained a).metrics.counters = b.metrics.counters := by
  unfold removeDrained
  dsimp only
  split
  · rfl
  · split
    · rfl
    · rename_i h _
      obtain ⟨_, _, _, hclose⟩ := (b.removeHost h).closeRemoved_footprint h
      rw [counters_observeTable, hclose]
      rfl

theorem counters_takeNotice : b.takeNotice.metrics.counters = b.metrics.counters := by
  unfold takeNotice
  split
  · rfl
  · dsimp only
    split
    · rw [counters_applyBatch]
    all_goals
      unfold loseSubscription
      rw [counters_scheduleResubscribe]

theorem counters_takeCommand : b.takeCommand.metrics.counters = b.metrics.counters := by
  unfold takeCommand
  split
  · rfl
  · dsimp only
    split
    · rfl
    · rw [counters_removeDrained]

/-- An attempt that reaches its host creates a connection, unless the host is
closed. -/
theorem counters_probeSucceeded (t : TaskId) {h : HostId} {host : Host α (Link α)} (l : Link α) :
    (b.probeSucceeded t h host l).metrics.counters = { b.metrics.counters with
      created := b.metrics.created + if host.status = .closed then 0 else 1 } := by
  by_cases hc : host.status = .closed
  · rw [probeSucceeded_of_closed hc, if_pos hc]
    rfl
  · have hsnd := host.snd_add l
    rw [if_neg hc]
    unfold probeSucceeded
    dsimp only
    split
    · rename_i host' _
      obtain ⟨_, hclear⟩ := (b.setHost h host').clearCheck_footprint h
      rw [hclear]
      rfl
    · rename_i host' _
      obtain ⟨_, hclear⟩ := (b.setHost h host').clearCheck_footprint h
      rw [hclear]
      rfl
    · rename_i hadd
      rw [hadd] at hsnd
      cases hs : host.status <;> simp [hs] at hsnd hc

/-- An attempt counts nothing but a connection that it creates. -/
theorem counters_probed (t : TaskId) (outcome : DialOutcome) : ∃ created,
    (b.probed t outcome).metrics.counters = { b.metrics.counters with created } := by
  have hp := b.probe_probed t outcome
  generalize b.probed t outcome = b' at hp ⊢
  cases hp with
  | idle => exact ⟨_, rfl⟩
  | reached =>
    rw [counters_probeSucceeded]
    exact ⟨_, rfl⟩
  | @missed h =>
    obtain ⟨_, _, _, heq⟩ := scheduleAttempt_footprint (b.modifyTask t (·.start .finished)) h
    rw [heq]
    exact ⟨_, rfl⟩

/-- What is about no selection and no attempt counts nothing. -/
theorem counters_outside {e : Event α σ} (he : ¬ e.Selects)
    (hp : ∀ t outcome, e ≠ .probed t outcome) :
    (b.step e).metrics.counters = b.metrics.counters := by
  by_cases hends : e.Ends
  · obtain ⟨-, heq⟩ | ⟨_, _, _, _, _, heq, -⟩ := b.ends_footprint hends
    · rw [heq]
    · rw [heq]
  cases e with
  | select | dialled | discarded => exact absurd trivial he
  | close | drop => exact absurd trivial hends
  | probed t outcome => exact absurd rfl (hp t outcome)
  | takeNotice => exact b.counters_takeNotice
  | takeCommand => exact b.counters_takeCommand
  | startReconciler =>
    simp only [step, startReconciler]
    split
    · rfl
    · rfl
  | startTask t =>
    obtain ⟨_, _, _, heq⟩ := b.startTask_footprint t
    exact congrArg (fun b => b.metrics.counters) heq
  | runClosing k =>
    obtain ⟨_, _, heq⟩ := b.runClosing_footprint k
    exact congrArg (fun b => b.metrics.counters) heq
  | closeSettled =>
    simp only [step, closeSettled]
    split
    · rfl
    · rfl
  | deliver | probeDiscarded | peerCloses | closeWillFail | callersChange => rfl

/-- What is about no selection counts nothing but connections. -/
theorem counters_step {e : Event α σ} (he : ¬ e.Selects) : ∃ created,
    (b.step e).metrics.counters = { b.metrics.counters with created } := by
  by_cases hp : ∃ t outcome, e = .probed t outcome
  · obtain ⟨t, outcome, rfl⟩ := hp
    exact b.counters_probed t outcome
  · rw [b.counters_outside he fun t outcome heq => hp ⟨t, outcome, heq⟩]
    exact ⟨_, rfl⟩

end

end Balancer

/-! ### Turns -/

section

variable {b : Balancer α σ} {s : Selection α σ} {r : Balancer α σ × Selection α σ}

/-- How a pass goes on is a rejection, or counts nothing. -/
theorem Passage.counters {pass : Pass} {rest : List HostId} (hp : Passage b s pass rest r) :
    r.1.metrics.counters = { b.metrics.counters with
        rejections := b.metrics.rejections + (decide (r.2.standing = .rejected)).toNat } ∧
      r.2.standing ≠ .refused := by
  cases hp with
  | @exhausted b' shown hb _ =>
    obtain ⟨hcounters, hstanding⟩ := b'.counters_endPass (s.noteShown shown) pass
    rw [hcounters, hstanding, hb.rest]
    exact ⟨rfl, by simp⟩
  | found hb =>
    rw [hb.rest]
    exact ⟨rfl, by simp [Selection.standing, Selection.finish, Selection.result?]⟩
  | @dials b' _ _ _ _ _ hb =>
    have hmetrics : b'.metrics = b.metrics := by rw [hb.rest]
    refine ⟨?_, by simp [Balancer.beginDial, Selection.standing, Selection.result?]⟩
    simp [Balancer.beginDial, Selection.standing, Selection.result?, hmetrics, Metrics.counters]

variable [DecidableEq α]

/-- A connection that is pooled is created; one that comes too late for its
host is not. -/
theorem counters_poolAndOffer {h : HostId} {host : Host α (Link α)} (hh : b.hosts[h]? = some host)
    (s : Selection α σ) (l : Link α) :
    (b.poolAndOffer s h l).1.metrics.counters = { b.metrics.counters with
        rejections :=
          b.metrics.rejections + (decide ((b.poolAndOffer s h l).2.standing = .rejected)).toNat
        created := b.metrics.created + if host.status = .closed then 0 else 1 } ∧
      (b.poolAndOffer s h l).2.standing ≠ .refused := by
  by_cases hc : host.status = .closed
  · rw [Balancer.poolAndOffer_of_closed hh s l hc, if_pos hc]
    exact ⟨rfl, by simp [Selection.standing, Selection.result?]⟩
  · rw [if_neg hc]
    by_cases hu : host.status = .unhealthy
    · rw [Balancer.poolAndOffer_of_unhealthy hh s l hu]
      exact Balancer.counters_offer _ s l
    · rw [Balancer.poolAndOffer_of_ne hh s l hc hu]
      exact Balancer.counters_offer _ s l

/-- **What a turn counts**: a selection that begins, a rejection if it ends in
one, and a connect that failed. Nothing is counted of a selection that a closed
balancer refuses. -/
theorem Turn.counters {e : Event α σ} {i : SelectionId} (ht : Turn b e i s r) :
    (r.1 = b ∧ i = b.selections.length ∧ b.fails e = false ∧ b.isClosed = true ∧
        r.2.result? = some (.error (.closed b.setup.target))) ∨
      r.2.standing ≠ .refused ∧ ∃ created, r.1.metrics.counters = {
        selections := b.metrics.selections + (b.selections[i]?).isNone.toNat
        rejections := b.metrics.rejections + (decide (r.2.standing = .rejected)).toNat
        created
        connectFailures := b.metrics.connectFailures + (b.fails e).toNat } := by
  cases ht with
  | refused hc => exact .inl ⟨rfl, rfl, rfl, hc, rfl⟩
  | @hostless accepts _ _ =>
    rw [List.getElem?_eq_none (Nat.le_refl _)]
    exact .inr ⟨(Selection.standing_finish _ _ rfl).trans_ne (by simp), _, rfl⟩
  | begins _ _ hp =>
    obtain ⟨hcounters, hstanding⟩ := hp.counters
    rw [hcounters, List.getElem?_eq_none (Nat.le_refl _)]
    exact .inr ⟨hstanding, _, rfl⟩
  | @connected _ outcome _ h pass rest host b' l hi hphase hh ho =>
    have hmetrics : b'.metrics = b.metrics := by
      obtain ⟨_, rfl⟩ := Balancer.connections_of_obtain ho
      rfl
    have hfails : b.fails (.dialled i outcome) = false := by
      cases outcome with
      | refused reason => simp [Balancer.obtain] at ho
      | opened | reopened => rfl
    obtain ⟨hcounters, hstanding⟩ :=
      counters_poolAndOffer ((Balancer.obtain_ok ho).1 ▸ hh) s l
    rw [hcounters, hmetrics, hi, hfails]
    exact .inr ⟨hstanding, _, rfl⟩
  | @failed _ reason _ h pass rest host r hi hphase hh hp _ =>
    obtain ⟨hcounters, hstanding⟩ := hp.counters
    have hfails : b.fails (.dialled i (.refused reason)) = true := by
      simp [Balancer.fails, Balancer.dialling?, hi, hphase]
    have hfailed := b.counters_connectFailed h
    simp only [Metrics.counters, Counters.mk.injEq] at hfailed
    obtain ⟨hselections, hrejections, -, hfailures⟩ := hfailed
    refine .inr ⟨hstanding, (b.connectFailed h).metrics.created, ?_⟩
    rw [hcounters, hi, hfails, hrejections]
    simp only [Metrics.counters, hselections, hfailures]
    rfl
  | late hi _ =>
    rw [hi]
    exact .inr ⟨(Selection.standing_finish _ _ rfl).trans_ne (by simp), _, rfl⟩

/-! ### The selections begun -/

/-- The counters agree with what has become of the selections. -/
structure Counted (b : Balancer α σ) : Prop where
  rejections : b.metrics.rejections = b.standings .rejected
  selections : b.metrics.selections =
    b.standings .served + b.standings .rejected + b.standings .underWay

/-- A selection that begins comes to something, and one that goes on comes to
something else. -/
theorem standings_step {e : Event α σ} {i : SelectionId} (ht : Turn b e i s r)
    (hs : ∀ s', b.selections[i]? = some s' → s' = s)
    (hr : ∀ j, (b.step e).selections[j]? = if j = i then some r.2 else b.selections[j]?)
    (st : Standing) :
    (b.step e).standings st + ((b.selections[i]?).isSome && decide (Standing.underWay = st)).toNat =
      b.standings st + (decide (r.2.standing = st)).toNat := by
  have hcount := countP_of_getElem?_eq (p := fun s : Selection α σ => decide (s.standing = st)) hr
  have hold : (b.selections[i]?).any (fun s => decide (s.standing = st)) =
      ((b.selections[i]?).isSome && decide (Standing.underWay = st)) := by
    cases hi : b.selections[i]? with
    | none => rfl
    | some s' =>
      obtain rfl := hs s' hi
      rw [Option.any_some, Selection.standing_of_unfinished ht.unfinished, Option.isSome_some,
        Bool.true_and]
  rwa [hold] at hcount

omit [DecidableEq α] in
/-- Nothing is counted, and what may be counted stands as it did. -/
theorem Counted.same {b' : Balancer α σ} (hb : Counted b)
    (hr : b'.metrics.rejections = b.metrics.rejections)
    (hm : b'.metrics.selections = b.metrics.selections)
    (hs : ∀ st, st ≠ .refused → b'.standings st = b.standings st) : Counted b' where
  rejections := by
    rw [hr, hs _ (by simp)]
    exact hb.rejections
  selections := by
    rw [hm, hs _ (by simp), hs _ (by simp), hs _ (by simp)]
    exact hb.selections

theorem Turn.counted {e : Event α σ} {i : SelectionId} (ht : Turn b e i s r)
    (hstep : b.step e = { r.1 with selections := (b.step e).selections })
    (hs : ∀ s', b.selections[i]? = some s' → s' = s)
    (hr : ∀ j, (b.step e).selections[j]? = if j = i then some r.2 else b.selections[j]?)
    (hb : Counted b) : Counted (b.step e) := by
  have hmetrics : (b.step e).metrics = r.1.metrics := by rw [hstep]
  have hstandings := standings_step ht hs hr
  obtain ⟨heq, rfl, -, -, herr⟩ | ⟨hstanding, created, hcounters⟩ := ht.counters
  · -- Nothing is counted of a selection that is refused.
    have hrefused : r.2.standing = .refused := by
      unfold Selection.standing
      rw [herr]
      rfl
    rw [heq] at hmetrics
    refine hb.same (by rw [hmetrics]) (by rw [hmetrics]) fun st hst => ?_
    have hone := hstandings st
    rw [hrefused, decide_eq_false (Ne.symm hst), List.getElem?_eq_none (Nat.le_refl _)] at hone
    exact hone
  · simp only [Metrics.counters, Counters.mk.injEq] at hcounters
    obtain ⟨hselections, hrejections, -, -⟩ := hcounters
    have hserved := hstandings .served
    have hrejected := hstandings .rejected
    have hunderWay := hstandings .underWay
    simp only [reduceCtorEq, decide_false, Bool.and_false, Bool.toNat_false, Nat.add_zero,
      decide_true, Bool.and_true] at hserved hrejected hunderWay
    have hone : (decide (r.2.standing = .served)).toNat +
        (decide (r.2.standing = .rejected)).toNat +
        (decide (r.2.standing = .underWay)).toNat = 1 := by
      cases hst : r.2.standing with
      | refused => exact absurd hst hstanding
      | underWay | served | rejected => rfl
    have hbegun : (b.selections[i]?).isSome.toNat + (b.selections[i]?).isNone.toNat = 1 := by
      cases b.selections[i]? <;> rfl
    have h₁ := hb.rejections
    have h₂ := hb.selections
    constructor
    · rw [hmetrics, hrejections, hrejected, h₁]
    · rw [hmetrics, hselections]
      omega

theorem counted_step (hb : Counted b) (e : Event α σ) : Counted (b.step e) := by
  by_cases he : e.Selects
  · obtain heq | ⟨i, s, r, ht, hstep, hs, hr⟩ := turn_step (b := b) he
    · rwa [heq]
    · exact ht.counted hstep hs hr hb
  · obtain ⟨created, hcounters⟩ := b.counters_step he
    simp only [Metrics.counters, Counters.mk.injEq] at hcounters
    obtain ⟨hselections, hrejections, -, -⟩ := hcounters
    exact hb.same hrejections hselections fun st _ =>
      congrArg (List.countP _) (b.selections_step he)

end

end HostRotation
