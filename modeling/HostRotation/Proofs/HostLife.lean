/-
# The life of a host

A host begins active and is closed for good. In between, six operations change its
status, its count of failed connects and its pool. What they make of the status is a
relation with one case for each way to change (`Shift`). The count tells how many
connects failed since something made the host as good as new (`tally`): a threshold
keeps it within bounds (`Host.Paced`), and without one it stops at `maxFailures`.
Every operation keeps all this (`Host.Lived`).

Key theorem: `host_life`.
-/
import HostRotation.Host
import Mathlib.Data.List.DropRight

namespace HostRotation

variable {α κ : Type}

/-- An operation on a host. -/
inductive HostOp (κ : Type)
  | add (c : κ)
  | remove (c : κ)
  | fail
  | activate
  | expire
  | close

/-- The changes of status there are. -/
inductive Shift : HostStatus → HostOp κ → HostStatus → Prop
  | closes {s : HostStatus} (hs : s ≠ .closed) : Shift s .close .closed
  | fails : Shift .active .fail .unhealthy
  | restored (c : κ) : Shift .unhealthy (.add c) .active
  | recovers : Shift .unhealthy .activate .active
  | returns : Shift .expired .activate .active
  | retires : Shift .active .expire .expired
  | dropped : Shift .unhealthy .expire .expired

/-- Nothing leads out of the end. -/
theorem Shift.ne_closed {s s' : HostStatus} {op : HostOp κ} (h : Shift s op s') :
    s ≠ .closed := by
  cases h with
  | closes hs => exact hs
  | fails | restored | recovers | returns | retires | dropped => simp

theorem Shift.of_closed {s : HostStatus} {op : HostOp κ} (h : Shift s op .closed) :
    op = .close := by
  cases h with
  | closes => rfl

theorem Shift.of_unhealthy {s : HostStatus} {op : HostOp κ} (h : Shift s op .unhealthy) :
    s = .active ∧ op = .fail := by
  cases h with
  | fails => exact ⟨rfl, rfl⟩

/-- Whether an operation makes a host of some status as good as new. -/
def resets : HostStatus → HostOp κ → Bool
  | s, .add _ => s ≠ .closed
  | s, .activate => s = .expired || s = .unhealthy
  | _, _ => false

/-- Whether an operation is a failed connect that counts. -/
def fails : HostStatus → HostOp κ → Bool
  | s, .fail => s = .active
  | _, _ => false

theorem active_of_fails {s : HostStatus} {op : HostOp κ} (h : fails s op = true) :
    s = .active := by
  cases op with
  | fail => simpa [fails] using h
  | add | remove | activate | expire | close => simp [fails] at h

/-- The failures of a story since the host was as good as new. A story tells the
status that each operation met. -/
def tally (story : List (HostStatus × HostOp κ)) : Nat :=
  (story.rtakeWhile fun p => !resets p.1 p.2).countP fun p => fails p.1 p.2

theorem tally_concat (story : List (HostStatus × HostOp κ)) (s : HostStatus) (op : HostOp κ) :
    tally (story ++ [(s, op)]) =
      if resets s op then 0 else tally story + if fails s op then 1 else 0 := by
  unfold tally
  rw [List.rtakeWhile_concat]
  cases resets s op with
  | true => rfl
  | false => simp [List.countP_append, List.countP_singleton]

namespace Host

/-! ### One operation -/

section

variable [BEq κ]

/-- Performs an operation. -/
def perform (threshold : Option Nat) (h : Host α κ) : HostOp κ → Host α κ
  | .add c => (h.add c).1
  | .remove c => (h.remove c).1
  | .fail => (h.recordFailure threshold).1
  | .activate => h.activate
  | .expire => h.expire
  | .close => h.close.1

variable {threshold : Option Nat} {h : Host α κ} {op : HostOp κ} {s : HostStatus}

/-- The status changes in one of the ways there are, or not at all. -/
theorem shift_perform (threshold : Option Nat) (h : Host α κ) (op : HostOp κ) :
    (h.perform threshold op).status = h.status ∨
      Shift h.status op (h.perform threshold op).status := by
  cases op with
  | add c =>
    rw [perform, status_add]
    split
    · rename_i hs
      exact .inr (hs ▸ .restored c)
    · exact .inl rfl
  | remove c => exact .inl (h.status_remove c)
  | fail =>
    rw [perform, status_recordFailure]
    split
    · rename_i hf
      exact .inr (active_of_recordFailure hf ▸ .fails)
    · exact .inl rfl
  | activate =>
    rw [perform, activate]
    split
    · exact .inl rfl
    · exact .inl rfl
    · rename_i hs
      exact .inr (hs ▸ .returns)
    · rename_i hs
      exact .inr (hs ▸ .recovers)
  | expire =>
    rw [perform, expire]
    split
    · exact .inl rfl
    · exact .inl rfl
    · rename_i hs
      exact .inr (hs ▸ .retires)
    · rename_i hs
      exact .inr (hs ▸ .dropped)
  | close =>
    rw [perform, status_close]
    by_cases hs : h.status = .closed
    · exact .inl hs.symm
    · exact .inr (.closes hs)

/-- Where there is a way to change, it is taken; a failed connect depends on the count. -/
theorem perform_of_shift (hs : Shift h.status op s) (hf : op ≠ .fail) :
    (h.perform threshold op).status = s := by
  generalize hstatus : h.status = s₀ at hs
  cases hs with
  | closes _ => exact h.status_close
  | fails => exact absurd rfl hf
  | restored c => rw [perform, status_add, if_pos hstatus]
  | recovers => simp [perform, Host.activate, hstatus]
  | returns => simp [perform, Host.activate, hstatus]
  | retires => simp [perform, Host.expire, hstatus]
  | dropped => simp [perform, Host.expire, hstatus]

/-- A closed host without connections stays as it is. -/
theorem perform_of_closed (hs : h.status = .closed) (hp : h.pool = []) :
    h.perform threshold op = h := by
  cases op with
  | add c => rw [perform, add, if_pos hs]
  | remove c => simp [perform, remove, hp]
  | fail => rw [perform, recordFailure_of_ne h threshold (by simp [hs])]
  | activate => simp [perform, Host.activate, hs]
  | expire => simp [perform, Host.expire, hs]
  | close => rw [perform, close, if_pos hs]

/-- What an operation makes of the count. -/
theorem failures_perform (hs : h.status ≠ .closed) : (h.perform threshold op).failures =
    if resets h.status op then 0
    else if fails h.status op then min (h.failures + 1) maxFailures else h.failures := by
  cases op with
  | add c =>
    have hr : resets h.status (.add c) = true := by simpa [resets] using hs
    rw [hr, perform, add, if_neg hs]
    dsimp only
    split <;> rfl
  | remove c =>
    rw [perform, remove]
    split <;> rfl
  | fail =>
    by_cases ha : h.status = .active
    · simp [perform, recordFailure_of_active h threshold ha, resets, fails, ha]
    · simp [perform, recordFailure_of_ne h threshold ha, resets, fails, ha]
  | activate =>
    rw [perform, activate]
    split <;> rename_i hstatus <;> simp [resets, fails, hstatus]
  | expire =>
    rw [perform, expire]
    split <;> rfl
  | close =>
    rw [perform, close]
    split <;> rfl

/-- An operation adds a connection to the pool or takes some out. -/
theorem pool_perform (threshold : Option Nat) (h : Host α κ) (op : HostOp κ) :
    (h.perform threshold op).pool.Sublist h.pool ∨
      ∃ c, op = .add c ∧ h.pool.contains c = false ∧
        (h.perform threshold op).pool = h.pool ++ [c] := by
  cases op with
  | add c =>
    rw [perform, add]
    split
    · exact .inl (.refl _)
    · by_cases hc : h.pool.contains c = true
      · rw [if_pos hc]
        split <;> exact .inl (.refl _)
      · rw [if_neg hc]
        refine .inr ⟨c, rfl, Bool.eq_false_iff.mpr hc, ?_⟩
        split <;> rfl
  | remove c =>
    rw [perform, remove]
    split
    · exact .inl List.erase_sublist
    · exact .inl (.refl _)
  | fail => exact .inl (h.pool_recordFailure threshold ▸ .refl _)
  | activate => exact .inl (h.pool_activate ▸ .refl _)
  | expire => exact .inl (h.pool_expire ▸ .refl _)
  | close =>
    rw [perform, close]
    split
    · exact .inl (.refl _)
    · exact .inl (List.nil_sublist _)

/-- A host that is not closed was not closed before. -/
theorem ne_closed_of_perform (hn : (h.perform threshold op).status ≠ .closed) :
    h.status ≠ .closed := by
  intro hs
  rcases shift_perform threshold h op with heq | hshift
  · exact hn (heq.trans hs)
  · exact hshift.ne_closed hs

/-- Only closing closes a host. -/
theorem becomes_closed_iff (hs : h.status ≠ .closed) :
    (h.perform threshold op).status = .closed ↔ op = .close := by
  constructor
  · intro hn
    rcases shift_perform threshold h op with heq | hshift
    · exact absurd (heq.symm.trans hn) hs
    · rw [hn] at hshift
      exact hshift.of_closed
  · rintro rfl
    exact h.status_close

/-- A failed connect below the threshold is counted; the host is unhealthy if that
reaches it. -/
theorem perform_fail {t : Nat} (ha : h.status = .active) (hlt : h.failures < t)
    (hmax : t ≤ maxFailures) : h.perform (some t) .fail = { h with
      failures := h.failures + 1
      status := if h.failures + 1 = t then .unhealthy else .active } := by
  have hmin : min (h.failures + 1) maxFailures = h.failures + 1 := by omega
  have hreached : t ≤ h.failures + 1 ↔ h.failures + 1 = t := by omega
  rw [perform, recordFailure_of_active h (some t) ha]
  simp only [hmin, Option.any_some, hreached, decide_eq_true_eq]

/-! ### What is kept -/

/-- The count of a host of some status, if `t` failures make a host unhealthy. -/
def Paced (t : Nat) : HostStatus → Nat → Prop
  | .active, n => n < t
  | .unhealthy, n => n = t
  | .expired, n => n ≤ t
  | .closed, _ => True

/-- What holds of a host after its story. -/
structure Lived (threshold : Option Nat) (h : Host α κ) (story : List (HostStatus × HostOp κ)) :
    Prop where
  emptied : h.status = .closed → h.pool = []
  distinct : h.pool.Pairwise fun c d => (c == d) = false
  counted : h.status ≠ .closed → h.failures = min (tally story) maxFailures
  healthy : threshold = none → h.status ≠ .unhealthy
  paced : ∀ t, threshold = some t → 0 < t → t ≤ maxFailures → Paced t h.status h.failures
  exactly : ∀ t, threshold = some t → 0 < t → t ≤ maxFailures → h.status ≠ .closed →
    h.failures = tally story

theorem paced_perform {t : Nat} (ht : 0 < t) (hmax : t ≤ maxFailures)
    (hp : Paced t h.status h.failures) (op : HostOp κ) :
    Paced t (h.perform (some t) op).status (h.perform (some t) op).failures := by
  by_cases hc : h.status = .closed
  · have hclosed : (h.perform (some t) op).status = .closed :=
      by_contra fun hn => ne_closed_of_perform hn hc
    rw [hclosed]
    trivial
  cases op with
  | add c =>
    have hzero : (h.perform (some t) (.add c)).failures = 0 := by
      rw [failures_perform hc]
      simp [resets, hc]
    rw [hzero, perform, status_add]
    cases hs : h.status with
    | active => exact ht
    | expired => exact Nat.zero_le t
    | unhealthy => exact ht
    | closed => exact absurd hs hc
  | remove c =>
    rw [failures_perform hc, perform, status_remove]
    exact hp
  | fail =>
    by_cases ha : h.status = .active
    · have hlt : h.failures < t := by
        rw [ha] at hp
        exact hp
      rw [perform_fail ha hlt hmax]
      dsimp only
      split
      · assumption
      · exact Nat.lt_of_le_of_ne hlt (by assumption)
    · rw [perform, recordFailure_of_ne h (some t) ha]
      exact hp
  | activate =>
    cases hs : h.status with
    | active =>
      simp only [perform, Host.activate, hs]
      rwa [hs] at hp
    | expired | unhealthy =>
      simp only [perform, Host.activate, hs]
      exact ht
    | closed => exact absurd hs hc
  | expire =>
    cases hs : h.status with
    | active =>
      simp only [perform, Host.expire, hs]
      rw [hs] at hp
      exact Nat.le_of_lt hp
    | expired =>
      simp only [perform, Host.expire, hs]
      rwa [hs] at hp
    | unhealthy =>
      simp only [perform, Host.expire, hs]
      rw [hs] at hp
      exact Nat.le_of_eq hp
    | closed => exact absurd hs hc
  | close =>
    rw [perform, status_close]
    trivial

theorem Lived.perform [PartialEquivBEq κ] {story : List (HostStatus × HostOp κ)}
    (hl : Lived threshold h story) (op : HostOp κ) :
    Lived threshold (h.perform threshold op) (story ++ [(h.status, op)]) where
  emptied := by
    intro hs
    by_cases hc : h.status = .closed
    · rw [perform_of_closed hc (hl.emptied hc)]
      exact hl.emptied hc
    · rw [(becomes_closed_iff hc).mp hs, Host.perform, close, if_neg hc]
  distinct := by
    rcases pool_perform threshold h op with hsub | ⟨c, -, hnew, hpool⟩
    · exact hl.distinct.sublist hsub
    · rw [hpool]
      refine List.pairwise_append.mpr
        ⟨hl.distinct, List.pairwise_singleton _ _, fun d hd c' hc' => ?_⟩
      obtain rfl := List.mem_singleton.mp hc'
      rw [List.contains_eq_any_beq] at hnew
      rw [BEq.comm]
      simpa using List.any_eq_false.mp hnew d hd
  counted := by
    intro hs
    have hc := ne_closed_of_perform hs
    have hcount := hl.counted hc
    rw [failures_perform hc, tally_concat]
    split
    · simp
    · split
      · omega
      · exact hcount
  healthy := by
    rintro rfl hs
    rcases shift_perform none h op with heq | hshift
    · exact hl.healthy rfl (heq.symm.trans hs)
    · rw [hs] at hshift
      obtain ⟨ha, rfl⟩ := hshift.of_unhealthy
      simp [Host.perform, recordFailure_of_active h none ha] at hs
  paced := by
    rintro t rfl ht hmax
    exact paced_perform ht hmax (hl.paced t rfl ht hmax) op
  exactly := by
    rintro t rfl ht hmax hs
    have hc := ne_closed_of_perform hs
    have hexact := hl.exactly t rfl ht hmax hc
    have hpaced := hl.paced t rfl ht hmax
    rw [failures_perform hc, tally_concat]
    split
    · rfl
    · split
      · rename_i hf
        rw [active_of_fails hf] at hpaced
        have hlt : h.failures < t := hpaced
        omega
      · exact hexact

/-- A host becomes unhealthy when so many connects in a row have failed, and not sooner. -/
theorem Lived.becomes_unhealthy_iff {t : Nat} {story : List (HostStatus × HostOp κ)}
    (hl : Lived (some t) h story) (ht : 0 < t) (hmax : t ≤ maxFailures) (op : HostOp κ) :
    h.status ≠ .unhealthy ∧ (h.perform (some t) op).status = .unhealthy ↔
      h.status = .active ∧ op = .fail ∧ tally story + 1 = t := by
  have hfail (ha : h.status = .active) : (h.perform (some t) .fail).status =
      if tally story + 1 = t then .unhealthy else .active := by
    have hlt : h.failures < t := by
      have hpaced := hl.paced t rfl ht hmax
      rwa [ha] at hpaced
    rw [perform_fail ha hlt hmax, hl.exactly t rfl ht hmax (by simp [ha])]
  constructor
  · rintro ⟨hs, hn⟩
    rcases shift_perform (some t) h op with heq | hshift
    · exact absurd (heq.symm.trans hn) hs
    · rw [hn] at hshift
      obtain ⟨ha, rfl⟩ := hshift.of_unhealthy
      refine ⟨ha, rfl, by_contra fun hne => ?_⟩
      rw [hfail ha, if_neg hne] at hn
      exact HostStatus.noConfusion hn
  · rintro ⟨ha, rfl, hreached⟩
    exact ⟨by simp [ha], by rw [hfail ha, if_pos hreached]⟩

/-! ### Any number of operations -/

/-- Performs some operations, one after the other. -/
def performs (threshold : Option Nat) (h : Host α κ) (ops : List (HostOp κ)) : Host α κ :=
  ops.foldl (Host.perform threshold) h

theorem performs_concat (threshold : Option Nat) (h : Host α κ) (ops : List (HostOp κ))
    (op : HostOp κ) : h.performs threshold (ops ++ [op]) =
      (h.performs threshold ops).perform threshold op := List.foldl_concat ..

/-- Operations, with the statuses that they meet. -/
def story (threshold : Option Nat) (h : Host α κ) : List (HostOp κ) → List (HostStatus × HostOp κ)
  | [] => []
  | op :: ops => (h.status, op) :: (h.perform threshold op).story threshold ops

theorem story_concat (threshold : Option Nat) (op : HostOp κ) :
    ∀ (ops : List (HostOp κ)) (h : Host α κ), h.story threshold (ops ++ [op]) =
      h.story threshold ops ++ [((h.performs threshold ops).status, op)]
  | [], _ => rfl
  | op' :: ops, h => by
    have ih := story_concat threshold op ops (h.perform threshold op')
    rw [List.cons_append, story, ih, story]
    rfl

/-- A new host lives as it should, whatever is done to it. -/
theorem lived [PartialEquivBEq κ] (threshold : Option Nat) (a : α) (ops : List (HostOp κ)) :
    let new : Host α κ := { address := a }
    Lived threshold (new.performs threshold ops) (new.story threshold ops) := by
  intro new
  induction ops using List.reverseRecOn with
  | nil =>
    exact ⟨fun _ => rfl, .nil, fun _ => rfl, fun _ => by simp [performs, new],
      fun t _ ht _ => ht, fun _ _ _ _ _ => rfl⟩
  | append_singleton ops op ih =>
    rw [performs_concat, story_concat]
    exact ih.perform op

end

end Host

/-- **The life of a host.** After any operations on a new host, and in one more. -/
theorem host_life [BEq κ] [EquivBEq κ] (threshold : Option Nat) (a : α)
    (ops : List (HostOp κ)) (op : HostOp κ) :
    let new : Host α κ := { address := a }
    let host := new.performs threshold ops
    let next := host.perform threshold op
    let failed := tally (new.story threshold ops)
    -- Its status changes in the ways there are, and takes all but one of them at once.
    (next.status = host.status ∨ Shift host.status op next.status) ∧
      (∀ s, Shift host.status op s → op ≠ .fail → next.status = s) ∧
      (host.status ≠ .closed → (next.status = .closed ↔ op = .close)) ∧
      (host.status = .closed → next = host ∧ host.pool = []) ∧
      -- With a threshold that the count can reach, it goes up to that.
      (∀ t, threshold = some t → 1 ≤ t → t ≤ maxFailures →
        (host.status = .active → host.failures < t) ∧
        (host.status = .unhealthy → host.failures = t) ∧
        (host.status = .expired → host.failures ≤ t) ∧
        (host.status ≠ .closed → host.failures = failed) ∧
        (host.status ≠ .unhealthy ∧ next.status = .unhealthy ↔
          host.status = .active ∧ op = .fail ∧ failed + 1 = t)) ∧
      -- Without one, it stops at its largest value.
      (threshold = none → host.status ≠ .unhealthy ∧
        (host.status ≠ .closed → host.failures = min failed maxFailures)) ∧
      host.pool.Pairwise fun c d => (c == d) = false := by
  intro new host next failed
  have hl := Host.lived threshold a ops
  refine ⟨Host.shift_perform threshold host op, fun s => Host.perform_of_shift,
    Host.becomes_closed_iff,
    fun hc => ⟨Host.perform_of_closed hc (hl.emptied hc), hl.emptied hc⟩, ?_,
    fun hnone => ⟨hl.healthy hnone, hl.counted⟩, hl.distinct⟩
  rintro t rfl ht hmax
  have hpaced := hl.paced t rfl ht hmax
  refine ⟨fun hs => ?_, fun hs => ?_, fun hs => ?_, hl.exactly t rfl ht hmax,
    hl.becomes_unhealthy_iff ht hmax op⟩
  · rwa [hs] at hpaced
  · rwa [hs] at hpaced
  · rwa [hs] at hpaced

theorem host_life_twoFailures :
    let new : Host Nat Nat := { address := 1 }
    let ops : List (HostOp Nat) := [.fail, .add 7, .add 8, .fail, .remove 7, .add 8, .fail]
    let host := new.performs (some 2) ops
    let next := host.perform (some 2) .fail
    host.status = .active ∧ host.pool = [8] ∧ tally (new.story (some 2) ops) = 1 ∧
      host.failures = 1 ∧ next.status = .unhealthy := by
  intro new ops host next
  have ha : host.status = .active := by decide
  have htally : tally (new.story (some 2) ops) = 1 := by decide
  obtain ⟨-, -, -, -, hpaced, -, -⟩ := host_life (some 2) 1 ops .fail
  obtain ⟨-, -, -, hcount, hiff⟩ := hpaced 2 rfl (by decide) (by decide)
  exact ⟨ha, by decide, htally, (hcount (by decide)).trans htally,
    (hiff.mpr ⟨ha, rfl, by decide⟩).2⟩

end HostRotation
