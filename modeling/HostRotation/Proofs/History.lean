/-
# What discovery said, and runs

The discovery history of a run is every batch that the run applied to the
table, in order (`Balancer.history`). What matters of it is what it says last
of an address (`lastStatus`): passing over all but the last event of each
address of a batch makes no difference to that (`lastStatus_lastEvents`), so
a table kept up batch by batch can be compared with the whole history.

What every move of a run keeps holds after the run (`run_keeps`).
-/
import HostRotation.Proofs.StepMoves

namespace HostRotation

variable {α σ : Type}

section

variable [DecidableEq α]

/-! ### The last word on an address -/

theorem lastStatus_append (xs ys : Batch α) (a : α) :
    lastStatus (xs ++ ys) a = (lastStatus ys a).or (lastStatus xs a) := by
  simp only [lastStatus, List.reverse_append, List.find?_append]
  cases ys.reverse.find? fun e => decide (e.address = a) <;> rfl

theorem lastStatus_singleton (e : HostEvent α) (a : α) :
    lastStatus [e] a = if e.address = a then some e.status else none := by
  by_cases h : e.address = a <;> simp [lastStatus, h]

theorem lastStatus_cons (e : HostEvent α) (es : Batch α) (a : α) :
    lastStatus (e :: es) a =
      (lastStatus es a).or (if e.address = a then some e.status else none) := by
  rw [← List.singleton_append, lastStatus_append, lastStatus_singleton]

theorem lastStatus_concat (es : Batch α) (e : HostEvent α) (a : α) :
    lastStatus (es ++ [e]) a = if e.address = a then some e.status else lastStatus es a := by
  rw [lastStatus_append, lastStatus_singleton]
  split <;> rfl

theorem isSome_lastStatus {es : Batch α} {a : α} (h : ∃ e ∈ es, e.address = a) :
    ∃ s, lastStatus es a = some s := by
  obtain ⟨e, he, rfl⟩ := h
  have hsome : (es.reverse.find? fun e' => decide (e'.address = e.address)).isSome :=
    List.find?_isSome.mpr ⟨e, List.mem_reverse.mpr he, by simp⟩
  obtain ⟨e', he'⟩ := Option.isSome_iff_exists.mp hsome
  exact ⟨e'.status, by simp [lastStatus, he']⟩

/-- Only the last event of an address counts. -/
theorem lastStatus_lastEvents (a : α) : ∀ es : Batch α,
    lastStatus (lastEvents es) a = lastStatus es a
  | [] => rfl
  | e :: es => by
    have ih := lastStatus_lastEvents a es
    unfold lastEvents
    split
    · -- The event is passed over, and a later one names its address.
      rename_i hlater
      obtain ⟨e', he', haddr⟩ := List.any_eq_true.mp hlater
      rw [ih, lastStatus_cons]
      by_cases ha : e.address = a
      · obtain ⟨s, hs⟩ := isSome_lastStatus ⟨e', he', (of_decide_eq_true haddr).trans ha⟩
        simp [hs]
      · simp [ha]
    · rw [lastStatus_cons, lastStatus_cons, ih]

/-! ### Runs -/

theorem setup_move {e : Event α σ} {m m' : Moment α σ} (hmove : Move e m m') :
    m'.setup = m.setup := by
  cases hmove <;> rfl

/-- A balancer that was closed or dropped never runs again. -/
theorem ended_move {e : Event α σ} {m m' : Moment α σ} (hmove : Move e m m')
    (hl : m.lifecycle ≠ .running) : m'.lifecycle ≠ .running := by
  cases hmove with
  | shut _ _ hl' => exact hl'
  | settle => simp
  | _ => exact hl

namespace Balancer

theorem run_append (b : Balancer α σ) (es es' : List (Event α σ)) :
    b.run (es ++ es') = (b.run es).run es' := List.foldl_append

theorem run_concat (b : Balancer α σ) (es : List (Event α σ)) (e : Event α σ) :
    b.run (es ++ [e]) = (b.run es).step e := by
  rw [run_append]
  rfl

theorem run_take_succ (b : Balancer α σ) {es : List (Event α σ)} {n : Nat} {e : Event α σ}
    (he : es[n]? = some e) : b.run (es.take (n + 1)) = (b.run (es.take n)).step e := by
  rw [List.take_add_one, he, run_append]
  rfl

/-- Every batch applied along a run, one after the other. -/
def history (b : Balancer α σ) : List (Event α σ) → Batch α
  | [] => []
  | e :: es => b.announced e ++ (b.step e).history es

/-- The events of a run that changed the table: of each batch, the last one
of every address. -/
def heeded (b : Balancer α σ) : List (Event α σ) → Batch α
  | [] => []
  | e :: es => lastEvents (b.announced e) ++ (b.step e).heeded es

theorem lastStatus_heeded (a : α) : ∀ (es : List (Event α σ)) (b : Balancer α σ),
    lastStatus (b.heeded es) a = lastStatus (b.history es) a
  | [], _ => rfl
  | e :: es, b => by
    simp only [heeded, history, lastStatus_append, lastStatus_lastEvents,
      lastStatus_heeded a es (b.step e)]

/-- What every move of a run keeps holds after it. -/
theorem run_keeps {I : Moment α σ → Prop} : ∀ (es : List (Event α σ)),
    (∀ e ∈ es, ∀ m m', Move e m m' → I m → I m') →
    ∀ (b : Balancer α σ) (pruned : List (Link α)) (applied : Batch α),
      I ⟨b, [], [], pruned, applied⟩ →
      ∃ pruned', I ⟨b.run es, [], [], pruned', applied ++ b.heeded es⟩
  | [], _, b, pruned, applied, hb => ⟨pruned, by simpa [run, heeded] using hb⟩
  | e :: es, hI, b, pruned, applied, hb => by
    obtain ⟨p, hmoves⟩ := moves_step b e pruned applied
    have hstep := Moves.keeps (hI e List.mem_cons_self) hmoves hb
    obtain ⟨q, hq⟩ := run_keeps es (fun e' he' => hI e' (List.mem_cons_of_mem _ he'))
      (b.step e) p (applied ++ lastEvents (b.announced e)) hstep
    exact ⟨q, by simpa [run, heeded] using hq⟩

theorem setup_run (b : Balancer α σ) (es : List (Event α σ)) : (b.run es).setup = b.setup := by
  obtain ⟨_, hs⟩ := run_keeps (I := fun m => m.setup = b.setup) es
    (fun _ _ _ _ hmove hs => (setup_move hmove).trans hs) b [] [] rfl
  exact hs

theorem ended_run {b : Balancer α σ} (hl : b.lifecycle ≠ .running) (es : List (Event α σ)) :
    (b.run es).lifecycle ≠ .running := by
  obtain ⟨_, hr⟩ := run_keeps (I := fun m => m.lifecycle ≠ .running) es
    (fun _ _ _ _ hmove => ended_move hmove) b [] [] hl
  exact hr

end Balancer
end

/-! ### A balancer for examples -/

/-- A second. -/
def oneSecond : Duration := ⟨1, 0, by decide, by decide⟩

/-- One failed connect makes a host unhealthy, and no delay is random. -/
def plainSetup (aborts : Bool) : Setup Nat where
  linearSpace := 16
  health := some ⟨⟨oneSecond, oneSecond, by decide, by decide, by decide⟩, 1⟩
  resubscribe := ⟨oneSecond, oneSecond, by decide, by decide, by decide⟩
  target := "service"
  source := .live
  describe := toString
  aborts

/-- A balancer that was just started. -/
def freshBalancer (aborts : Bool) : Balancer Nat Unit := .start (plainSetup aborts) (.ofSeed 0) ()

/-- A host becomes unhealthy and an attempt at it hangs in its connect;
discovery announces the host again, and it becomes unhealthy again. -/
def twoBadTimes : List (Event Nat Unit) :=
  [.startReconciler, .deliver (.batch [⟨1, .available⟩]), .takeNotice,
    .select (.pure fun _ => true), .dialled 0 (.refused "down"), .startTask 0,
    .deliver (.batch [⟨1, .available⟩]), .takeNotice,
    .select (.pure fun _ => true), .dialled 1 (.refused "down")]

end HostRotation
