/-
# What selectors are asked, and what they answer

A selector may change what it decides by, so what matters is not what it says
of a connection but what it says when it is asked. `Asked` is the record of
that: connections, one after the other, with the answers, and what the callers
know goes from each answer to the next question. `Verdict` says what the
answers come to: all are refusals, or the last one, and only the last one,
accepts.

A search asks about open connections of the pool, about none twice, and finds
what was accepted (`Inquiry`). A tour asks what its searches ask (`Tour.Asking`), and
a connect that succeeds has the selector asked about the new connection or
leaves the selection without an answer. So each turn of a selection adds to
what its selector was asked before, and returns what this comes to
(`Turn.asks`).
-/
import HostRotation.Proofs.Tours
import Mathlib.Data.List.Nodup

namespace HostRotation

variable {α σ κ : Type}

/-- A selector is asked about some connections, and gives some answers. -/
inductive Asked (accepts : Selector κ σ) : σ → List (κ × Bool) → σ → Prop
  | nil {s} : Asked accepts s [] s
  | cons {c s answer s' more s''} (ha : accepts c s = (answer, s'))
      (hm : Asked accepts s' more s'') : Asked accepts s ((c, answer) :: more) s''

/-- What the answers come to: the last one, and it alone, accepts what was
found; or all refuse, and nothing was. -/
def Verdict (found : Option κ) (shown : List (κ × Bool)) : Prop :=
  ∃ refused : List κ,
    shown = refused.map (fun c => (c, false)) ++ found.toList.map fun c => (c, true)

theorem Asked.append {accepts : Selector κ σ} {s s' s'' : σ} {xs ys : List (κ × Bool)}
    (ha : Asked accepts s xs s') (hb : Asked accepts s' ys s'') :
    Asked accepts s (xs ++ ys) s'' := by
  induction ha with
  | nil => exact hb
  | cons ha _ ih => exact .cons ha (ih hb)

theorem Asked.one {accepts : Selector κ σ} {c : κ} {s s' : σ} {answer : Bool}
    (ha : accepts c s = (answer, s')) : Asked accepts s [(c, answer)] s' :=
  .cons ha .nil

theorem Verdict.nil : Verdict (none : Option κ) [] := ⟨[], rfl⟩

theorem Verdict.accepted (c : κ) : Verdict (some c) [(c, true)] := ⟨[], rfl⟩

/-- More questions follow refusals. -/
theorem Verdict.append {found : Option κ} {xs ys : List (κ × Bool)} (hx : Verdict none xs)
    (hy : Verdict found ys) : Verdict found (xs ++ ys) := by
  obtain ⟨refused, rfl⟩ := hx
  obtain ⟨more, rfl⟩ := hy
  refine ⟨refused ++ more, ?_⟩
  rw [Option.toList_none, List.map_nil, List.append_nil, List.map_append, List.append_assoc]

theorem Verdict.cons {found : Option κ} {xs : List (κ × Bool)} (c : κ) (hx : Verdict found xs) :
    Verdict found ((c, false) :: xs) :=
  Verdict.append (⟨[c], rfl⟩ : Verdict none [(c, false)]) hx

/-! ### Scans -/

namespace Pool

variable {isClosed : κ → Bool} {accepts : Selector κ σ}

theorem scan_asked : ∀ (cs : List κ) (s : σ),
    Asked accepts s (scan isClosed accepts cs s).shown (scan isClosed accepts cs s).callers
  | [], _ => .nil
  | c :: cs, s => by
    unfold scan
    split
    · exact scan_asked cs s
    · split
      · rename_i ha
        exact .one ha
      · rename_i ha
        exact .cons ha (scan_asked cs _)

theorem scan_verdict : ∀ (cs : List κ) (s : σ),
    Verdict (scan isClosed accepts cs s).found (scan isClosed accepts cs s).shown
  | [], _ => .nil
  | c :: cs, s => by
    unfold scan
    split
    · exact scan_verdict cs s
    · split
      · exact .accepted c
      · exact (scan_verdict cs _).cons c

/-- A scan shows the open candidates, in order, up to some point. -/
theorem scan_shown : ∀ (cs : List κ) (s : σ),
    (scan isClosed accepts cs s).shown.map Prod.fst <+: cs.filter fun c => !isClosed c
  | [], _ => List.nil_prefix
  | c :: cs, s => by
    unfold scan
    split
    · rename_i hc
      rw [List.filter_cons_of_neg (by simp [hc])]
      exact scan_shown cs s
    · rename_i hc
      rw [List.filter_cons_of_pos (by simpa using hc)]
      split
      · exact List.prefix_cons_inj c |>.mpr List.nil_prefix
      · exact List.prefix_cons_inj c |>.mpr (scan_shown cs _)

/-- A draw without repeats has every connection tried once. -/
theorem nodup_candidates {β : Type} (f : κ → β) {linear : Nat} {drawn : List Nat} {pool : List κ}
    (hp : (pool.map f).Nodup) (hd : drawn.Nodup) :
    ((candidates linear drawn pool).map f).Nodup := by
  have hsplit : ((pool.take linear).map f ++ (pool.drop linear).map f).Nodup := by
    rwa [← List.map_append, List.take_append_drop]
  obtain ⟨hfirst, hrest, hapart⟩ := List.nodup_append.mp hsplit
  rw [candidates, List.map_append, List.map_filterMap]
  have hinj : ∀ (i j : Nat) y, y ∈ ((pool.drop linear)[i]?).map f →
      y ∈ ((pool.drop linear)[j]?).map f → i = j := by
    intro i j y hi hj
    rw [Option.mem_def, ← List.getElem?_map] at hi hj
    obtain ⟨hlt, -⟩ := List.getElem?_eq_some_iff.mp hi
    exact (List.getElem?_inj hlt hrest).mp (hi.trans hj.symm)
  refine List.nodup_append.mpr ⟨hfirst, List.Nodup.filterMap hinj hd, fun x hx y hy => ?_⟩
  obtain ⟨i, -, hi⟩ := List.mem_filterMap.mp hy
  rw [← List.getElem?_map] at hi
  exact hapart x hx y (List.mem_of_getElem? hi)

section

variable {linear : Nat} {drawn : List Nat} {pool : List κ} {s : σ}

/-- A search shows open connections of the pool. -/
theorem search_shown {x : κ × Bool}
    (hx : x ∈ (search linear drawn isClosed accepts pool s).shown) :
    x.1 ∈ pool ∧ isClosed x.1 = false := by
  have hmem := (scan_shown _ _).subset (List.mem_map_of_mem hx)
  obtain ⟨hm, hopen⟩ := List.mem_filter.mp hmem
  exact ⟨mem_of_mem_candidates hm, by simpa using hopen⟩

/-- A search shows nothing twice. -/
theorem nodup_search {β : Type} (f : κ → β) (hp : (pool.map f).Nodup) (hd : drawn.Nodup) :
    ((search linear drawn isClosed accepts pool s).shown.map fun x => f x.1).Nodup := by
  have hsub : ((search linear drawn isClosed accepts pool s).shown.map Prod.fst).Sublist
      (candidates linear drawn pool) := (scan_shown _ _).sublist.trans List.filter_sublist
  have hsub := hsub.map f
  rw [List.map_map] at hsub
  exact (nodup_candidates f hp hd).sublist hsub

end

end Pool

/-! ### Searches -/

/-- What was accepted in the end. -/
def Selection.granted (s : Selection α σ) : Option (Link α) :=
  match s.phase with
  | .done (.ok l) => some l
  | _ => none

theorem Selection.granted_eq_some {s : Selection α σ} {l : Link α} :
    s.granted = some l ↔ s.result? = some (.ok l) := by
  unfold Selection.granted Selection.result?
  cases s.phase with
  | done r =>
    cases r with
    | ok l' => simp
    | error err => simp
  | walking | connecting | discarding => simp

theorem Selection.granted_of_unfinished {s : Selection α σ} (hs : s.result? = none) :
    s.granted = none := by
  refine Option.eq_none_iff_forall_ne_some.mpr fun l hl => ?_
  rw [Selection.granted_eq_some, hs] at hl
  simp at hl

/-- What a search of a pool asks, and what it comes to. -/
structure Inquiry (b b' : Balancer α σ) (accepts : Selector (Link α) σ) (pool : List (Link α))
    (f : Pool.Finding (Link α) σ) : Prop where
  asked : Asked accepts b.callers f.shown b'.callers
  verdict : Verdict f.found f.shown
  pooled : ∀ x ∈ f.shown, x.1 ∈ pool ∧ b.linkClosed x.1 = false
  nodup : (pool.map Link.id).Nodup → (f.shown.map fun x => x.1.id).Nodup

section

variable [DecidableEq α] {b b' : Balancer α σ} {accepts : Selector (Link α) σ} {h : HostId}
  {pool : List (Link α)} {f : Pool.Finding (Link α) σ}

theorem inquiry_of_searchHost (hs : b.searchHost accepts h pool = (b', f)) :
    Inquiry b b' accepts pool f := by
  unfold Balancer.searchHost at hs
  dsimp only at hs
  obtain ⟨rfl, rfl⟩ := Prod.mk.inj hs
  refine ⟨?_, Pool.scan_verdict _ _, fun x hx => Pool.search_shown hx, fun hn => ?_⟩
  · rw [callers_prunes]
    exact Pool.scan_asked _ _
  · exact Pool.nodup_search Link.id hn (Tape.nodup_sample (Pool.probeBudget_le _))

/-! ### Tours -/

omit [DecidableEq α] in
theorem Browses.pools (hb : Browses b b') (j : HostId) :
    (poolAt b'.hosts j).Sublist (poolAt b.hosts j) := by
  cases hj : b.hosts[j]? with
  | none => simp [poolAt, hb.absent j hj]
  | some host =>
    obtain ⟨pool, hj', hsub, -⟩ := hb.host j host hj
    rwa [poolAt_of_getElem? hj, poolAt_of_getElem? hj']

/-- What the selector is asked on a tour, and where. -/
structure Tour.Asking (b : Balancer α σ) (s : Selection α σ) (visits : List (Visit α σ))
    (r : Balancer α σ × Selection α σ) : Prop where
  shown : r.2.shown = s.shown ++ visits.flatMap Visit.shown
  asked : Asked s.accepts b.callers (visits.flatMap Visit.shown) r.1.callers
  pooled : ∀ v ∈ visits, ∀ x ∈ v.shown, x.1 ∈ poolAt b.hosts v.host ∧ b.linkClosed x.1 = false
  nodup : (∀ j, ((poolAt b.hosts j).map Link.id).Nodup) →
    ∀ v ∈ visits, (v.shown.map fun x => x.1.id).Nodup
  pools : ∀ j, (poolAt r.1.hosts j).Sublist (poolAt b.hosts j)

namespace Tour

variable {pass : Pass} {s : Selection α σ} {rest : List HostId} {visits : List (Visit α σ)}
  {r : Balancer α σ × Selection α σ}

omit [DecidableEq α] in
theorem Asking.nil (hs : r.2.shown = s.shown) (hc : r.1.callers = b.callers)
    (hh : r.1.hosts = b.hosts) : Asking b s [] r where
  shown := by rw [hs, List.flatMap_nil, List.append_nil]
  asked := hc ▸ .nil
  pooled := by simp
  nodup := by simp
  pools := fun j => hh ▸ List.Sublist.refl _

omit [DecidableEq α] in
/-- Nothing was asked at the first host. -/
theorem Asking.passBy {v : Visit α σ} (ha : Asking b s visits r) (hv : v.shown = []) :
    Asking b s (v :: visits) r where
  shown := by rw [List.flatMap_cons, hv, List.nil_append, ha.shown]
  asked := by
    rw [List.flatMap_cons, hv, List.nil_append]
    exact ha.asked
  pooled := List.forall_mem_cons.mpr ⟨by simp [hv], ha.pooled⟩
  nodup := fun hn => List.forall_mem_cons.mpr ⟨by simp [hv], ha.nodup hn⟩
  pools := ha.pools

/-- The pool of the first host was searched. -/
theorem Asking.search {host : Host α (Link α)} (hh : b.hosts[h]? = some host)
    (hs : b.searchHost s.accepts h host.pool = (b', f))
    (ha : Asking b' (s.noteShown f.shown) visits r) :
    Asking b s ({ host := h, seen := some host, finding := some f } :: visits) r := by
  have hinquiry := inquiry_of_searchHost hs
  have hbrowse := browses_of_searchHost hs
  have hpool : poolAt b.hosts h = host.pool := poolAt_of_getElem? hh
  refine ⟨?_, ?_, ?_, fun hn => ?_, fun j => (ha.pools j).trans (hbrowse.pools j)⟩
  · rw [ha.shown, List.flatMap_cons, ← List.append_assoc]
    rfl
  · rw [List.flatMap_cons]
    exact hinquiry.asked.append ha.asked
  · refine List.forall_mem_cons.mpr ⟨fun x hx => ?_, fun v hv x hx => ?_⟩
    · obtain ⟨hmem, hopen⟩ := hinquiry.pooled x hx
      exact ⟨hpool ▸ hmem, hopen⟩
    · obtain ⟨hmem, hopen⟩ := ha.pooled v hv x hx
      exact ⟨(hbrowse.pools v.host).subset hmem, (hbrowse.linkClosed x.1).symm.trans hopen⟩
  · refine List.forall_mem_cons.mpr ⟨hinquiry.nodup (hpool ▸ hn h), ha.nodup fun j => ?_⟩
    exact (hn j).sublist ((hbrowse.pools j).map Link.id)

/-- **What is asked on a tour** is what its searches ask. -/
theorem asks (ht : Tour pass b s rest visits r) : Asking b s visits r := by
  induction ht with
  | @exhausted b s =>
    obtain ⟨err, hend⟩ := endPass_result b s pass
    obtain ⟨_, _, _, _, heq, -⟩ := b.endPass_footprint s pass
    refine .nil ?_ ?_ ?_
    · rw [hend]
      rfl
    · rw [heq]
    · rw [heq]
  | passesBy _ _ ih => exact ih.passBy rfl
  | searches hh _ hs _ _ ih => exact .search hh hs ih
  | finds hh _ hs _ => exact .search hh hs (.nil rfl rfl rfl)
  | dials hh _ hs _ => exact .search hh hs (.nil rfl rfl rfl)

/-- A tour that finds a connection ends with its acceptance. -/
theorem verdict (ht : Tour pass b s rest visits r) :
    Verdict r.2.granted (visits.flatMap Visit.shown) := by
  induction ht with
  | @exhausted b s =>
    obtain ⟨err, hend⟩ := endPass_result b s pass
    rw [hend]
    exact .nil
  | passesBy _ _ ih =>
    rw [List.flatMap_cons]
    exact Verdict.append .nil ih
  | searches _ _ hs hf _ ih =>
    have hnone := (inquiry_of_searchHost hs).verdict
    rw [hf] at hnone
    rw [List.flatMap_cons]
    exact hnone.append ih
  | finds _ _ hs hf =>
    have hsome := (inquiry_of_searchHost hs).verdict
    rw [hf] at hsome
    rw [List.flatMap_singleton]
    exact hsome
  | dials _ _ hs hf =>
    have hnone := (inquiry_of_searchHost hs).verdict
    rw [hf] at hnone
    rw [List.flatMap_singleton]
    exact hnone

end Tour

/-! ### Turns -/

/-- A connection just opened is the one that the selector is asked about,
unless its host was closed. -/
theorem poolAndOffer_asks {host : Host α (Link α)} (hh : b.hosts[h]? = some host)
    (s : Selection α σ) (l : Link α) : ∃ new, (new = [] ∨ ∃ answer, new = [(l, answer)]) ∧
      (b.poolAndOffer s h l).2.shown = s.shown ++ new ∧
      Asked s.accepts b.callers new (b.poolAndOffer s h l).1.callers ∧
      Verdict (b.poolAndOffer s h l).2.granted new := by
  have hoffer (b' : Balancer α σ) (hc : b'.callers = b.callers) :
      ∃ new, (new = [] ∨ ∃ answer, new = [(l, answer)]) ∧ (b'.offer s l).2.shown = s.shown ++ new ∧
        Asked s.accepts b.callers new (b'.offer s l).1.callers ∧
        Verdict (b'.offer s l).2.granted new := by
    unfold Balancer.offer
    dsimp only
    rw [hc]
    cases ha : s.accepts l b.callers with
    | mk answer callers =>
      refine ⟨[(l, answer)], .inr ⟨answer, rfl⟩, ?_⟩
      cases answer with
      | true =>
        simp only [ha, ↓reduceIte]
        exact ⟨rfl, .one ha, .accepted l⟩
      | false =>
        simp only [ha, Bool.false_eq_true, ↓reduceIte]
        exact ⟨rfl, .one ha, ⟨[l], rfl⟩⟩
  by_cases hc : host.status = .closed
  · rw [Balancer.poolAndOffer_of_closed hh s l hc]
    exact ⟨[], .inl rfl, (List.append_nil _).symm, .nil, .nil⟩
  · by_cases hu : host.status = .unhealthy
    · rw [Balancer.poolAndOffer_of_unhealthy hh s l hu]
      exact hoffer _ rfl
    · rw [Balancer.poolAndOffer_of_ne hh s l hc hu]
      exact hoffer _ rfl

/-- Connections that the selector of a selection may be asked about in the step
of an event: those that are pooled and seen to be open, and the one with which
its own connect ends. -/
def Balancer.Presents (b : Balancer α σ) (i : SelectionId) (e : Event α σ) (l : Link α) : Prop :=
  (∃ h, l ∈ poolAt b.hosts h ∧ b.linkClosed l = false) ∨
    ∃ outcome h, e = .dialled i outcome ∧ b.Arrives h l e

/-- A selection that takes a turn is there already, or begins. -/
theorem Turn.origin {e : Event α σ} {i : SelectionId} {s : Selection α σ}
    {r : Balancer α σ × Selection α σ} (ht : Turn b e i s r) :
    s ∈ b.selections ∨ ∃ accepts, e = .select accepts ∧ s = { accepts } := by
  cases ht with
  | refused | hostless | begins => exact .inr ⟨_, rfl, rfl⟩
  | connected hi | failed hi | late hi => exact .inl (List.mem_of_getElem? hi)

/-- What the selector of a selection is asked in a turn, and what this comes
to. -/
structure Turn.Asking (b : Balancer α σ) (e : Event α σ) (i : SelectionId) (s : Selection α σ)
    (r : Balancer α σ × Selection α σ) (new : List (Link α × Bool)) : Prop where
  shown : r.2.shown = s.shown ++ new
  asked : Asked s.accepts b.callers new r.1.callers
  verdict : Verdict r.2.granted new
  presents : ∀ x ∈ new, b.Presents i e x.1

/-- **What is asked in a turn.** -/
theorem Turn.asks {e : Event α σ} {i : SelectionId} {s : Selection α σ}
    {r : Balancer α σ × Selection α σ} (ht : Turn b e i s r) :
    ∃ new, Turn.Asking b e i s r new := by
  cases ht.errand with
  | fails metrics err _ hr =>
    subst hr
    exact ⟨[], (List.append_nil _).symm, .nil, .nil, by simp⟩
  | @arrives outcome h pass rest host b' l _ he hi hp hh ho hr =>
    subst hr
    have hh' : b'.hosts[h]? = some host := (Balancer.obtain_ok ho).1 ▸ hh
    have hcallers : b'.callers = b.callers := by
      obtain ⟨_, rfl⟩ := Balancer.connections_of_obtain ho
      rfl
    obtain ⟨new, honly, hshown, hasked, hverdict⟩ := poolAndOffer_asks hh' s l
    refine ⟨new, hshown, hcallers ▸ hasked, hverdict, fun x hx => .inr ⟨outcome, h, he, ?_⟩⟩
    have hx : x.1 = l := by
      rcases honly with rfl | ⟨answer, rfl⟩
      · simp at hx
      · rw [List.mem_singleton.mp hx]
    rw [hx, he]
    exact ⟨s, pass, rest, host, hi, hp, hh, by rw [ho]⟩
  | @tours b' pass rest htour hb hpools _ =>
    obtain ⟨_, _, _, _, _, _, hb⟩ := hb
    have hask := htour.asks
    have hcallers : b'.callers = b.callers := by rw [hb]
    have hclosed (l : Link α) : b'.linkClosed l = b.linkClosed l := by
      rw [hb]
      rfl
    refine ⟨_, hask.shown, hcallers ▸ hask.asked, htour.verdict, fun x hx => ?_⟩
    obtain ⟨v, hv, hx⟩ := List.mem_flatMap.mp hx
    obtain ⟨hmem, hopen⟩ := hask.pooled v hv x hx
    exact .inl ⟨v.host, hpools v.host ▸ hmem, (hclosed x.1).symm.trans hopen⟩

end
end HostRotation
