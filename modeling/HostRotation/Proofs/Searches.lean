/-
# What a search of a pool finds

A search follows a route through the pool: the positions of the linear part in
order, then the drawn ones (`Pool.route`). It visits the route up to the first
position whose connection is open and accepted (`Pool.visited`), finds that
connection, and reports the closed ones that it visited.

Among the drawn positions there is an acceptable one for every draw exactly
when the acceptable ones of the rest outnumber those that a draw leaves out
(`exists_drawn_iff`): a draw that misses them all has to fit among the others.
A small rest is drawn completely, so there a search without a result means that
there was nothing to find.
-/
import HostRotation.Proofs.FloatShare
import HostRotation.Tape
import Mathlib.Data.List.Perm.Subperm

namespace HostRotation

/-! ### Up to the first hit -/

section

variable {β γ : Type}

/-- A list up to and with its first entry that satisfies `q`. -/
def upTo (q : β → Bool) : List β → List β
  | [] => []
  | x :: xs => if q x then [x] else x :: upTo q xs

theorem upTo_begins (q : β → Bool) : ∀ l : List β, upTo q l <+: l
  | [] => List.nil_prefix
  | x :: xs => by
    unfold upTo
    split
    · exact List.prefix_cons_inj x |>.mpr List.nil_prefix
    · exact List.prefix_cons_inj x |>.mpr (upTo_begins q xs)

theorem upTo_filterMap (f : γ → Option β) (q : β → Bool) : ∀ l : List γ,
    upTo q (l.filterMap f) = (upTo (fun x => (f x).any q) l).filterMap f
  | [] => rfl
  | x :: xs => by
    have ih := upTo_filterMap f q xs
    cases hx : f x with
    | none => simp [upTo, hx, ih]
    | some y => by_cases hq : q y <;> simp [upTo, hx, hq, ih]

theorem filterMap_range_getElem? (l : List β) : ∀ n : Nat,
    (List.range n).filterMap (fun i => l[i]?) = l.take n
  | 0 => rfl
  | n + 1 => by
    rw [List.range_succ, List.filterMap_append, filterMap_range_getElem? l n, List.take_add_one]
    cases hn : l[n]? <;> simp [hn]

/-- The positions of a list that satisfy `q` are as many as its entries that do. -/
theorem countP_range_getElem? (l : List β) (q : β → Bool) :
    (List.range l.length).countP (fun i => l[i]?.any q) = l.countP q := by
  have hall : (List.range l.length).map (fun i => l[i]?) = l.map some := by
    refine List.ext_getElem (by simp) fun i hi _ => ?_
    simp at hi ⊢
  calc (List.range l.length).countP (fun i => l[i]?.any q)
      = ((List.range l.length).map fun i => l[i]?).countP (Option.any q) := by
        rw [List.countP_map]
        rfl
    _ = l.countP q := by
        rw [hall, List.countP_map]
        rfl

end

namespace Pool

variable {κ σ : Type} {isClosed : κ → Bool} {accepts : κ → Bool} {linear : Nat} {drawn : List Nat}
  {pool : List κ} {s : σ}

/-! ### Draws -/

/-- A draw of `budget` positions below `rest`, without repeats. -/
structure IsDraw (rest budget : Nat) (drawn : List Nat) : Prop where
  nodup : drawn.Nodup
  length_eq : drawn.length = budget
  lt : ∀ i ∈ drawn, i < rest

theorem isDraw_sample (t : Tape) (rest : Nat) :
    IsDraw rest (probeBudget rest) (t.sample rest (probeBudget rest)).1 where
  nodup := Tape.nodup_sample (probeBudget_le rest)
  length_eq := Tape.length_sample (probeBudget_le rest)
  lt := fun _ hi => Tape.lt_of_mem_sample (probeBudget_le rest) hi

/-- A draw of everything leaves nothing out. -/
theorem IsDraw.mem_of_full {rest i : Nat} (hd : IsDraw rest rest drawn) (hi : i < rest) :
    i ∈ drawn := by
  have hsub : drawn ⊆ List.range rest := fun j hj => List.mem_range.mpr (hd.lt j hj)
  have hperm : drawn.Perm (List.range rest) :=
    (List.subperm_of_subset hd.nodup hsub).perm_of_length_le (by simp [hd.length_eq])
  exact hperm.mem_iff.mpr (List.mem_range.mpr hi)

/-- Every draw of `budget` positions hits one with `q` exactly if those with `q`
are more than a draw leaves out. -/
theorem exists_drawn_iff {rest budget : Nat} (hle : budget ≤ rest) (q : Nat → Bool) :
    (∀ drawn, IsDraw rest budget drawn → ∃ i ∈ drawn, q i = true) ↔
      rest - budget < (List.range rest).countP q := by
  have hcount := List.length_eq_countP_add_countP (p := q) (l := List.range rest)
  rw [List.length_range] at hcount
  have hmisses : ((List.range rest).filter fun i => !q i).length =
      (List.range rest).countP fun i => ¬q i = true := by
    rw [← List.countP_eq_length_filter]
    exact List.countP_congr fun i _ => by simp
  constructor
  · intro hall
    by_contra hfew
    -- a draw from the positions without `q` alone
    have hd : IsDraw rest budget (((List.range rest).filter fun i => !q i).take budget) := by
      refine ⟨(List.nodup_range.filter _).sublist (List.take_sublist _ _), ?_, fun i hi => ?_⟩
      · rw [List.length_take]
        omega
      · exact List.mem_range.mp (List.mem_filter.mp (List.mem_of_mem_take hi)).1
    obtain ⟨i, hi, hq⟩ := hall _ hd
    have := (List.mem_filter.mp (List.mem_of_mem_take hi)).2
    simp [hq] at this
  · intro hmany drawn hd
    by_contra hnone
    push Not at hnone
    have hsub : drawn ⊆ (List.range rest).filter fun i => !q i := fun i hi =>
      List.mem_filter.mpr ⟨List.mem_range.mpr (hd.lt i hi), by simp [hnone i hi]⟩
    have := (List.subperm_of_subset hd.nodup hsub).length_le
    rw [hd.length_eq] at this
    omega

/-! ### Routes -/

/-- What a search of a pool of `n` draws from. -/
def rest (linear n : Nat) : Nat := n - min n linear

theorem rest_eq (linear n : Nat) : rest linear n = n - linear := by
  unfold rest
  omega

/-- The positions of a pool of `n` in the order in which a search comes to
them. -/
def route (linear n : Nat) (drawn : List Nat) : List Nat :=
  List.range (min n linear) ++ drawn.map (min n linear + ·)

/-- Open, and accepted. -/
def usable (isClosed accepts : κ → Bool) (c : κ) : Bool := !isClosed c && accepts c

/-- The positions that a search visits: none after that of the first open
connection that is accepted. -/
def visited (hit : κ → Bool) (linear : Nat) (drawn : List Nat) (pool : List κ) : List Nat :=
  upTo (fun i => pool[i]?.any hit) (route linear pool.length drawn)

/-- The connections that are tried in the order in which they were pooled. -/
def linearPart (linear : Nat) (pool : List κ) : List κ := pool.take (min pool.length linear)

/-- The connections that are left to the draw. -/
def restPart (linear : Nat) (pool : List κ) : List κ := pool.drop (min pool.length linear)

theorem linearPart_eq_take (linear : Nat) (pool : List κ) :
    linearPart linear pool = pool.take linear :=
  List.take_eq_take_iff.mpr (by omega)

theorem restPart_eq_drop (linear : Nat) (pool : List κ) :
    restPart linear pool = pool.drop linear := by
  unfold restPart
  by_cases hle : pool.length ≤ linear
  · rw [Nat.min_eq_left hle, List.drop_length, List.drop_eq_nil_of_le hle]
  · rw [Nat.min_eq_right (by omega)]

theorem linearPart_append_restPart (linear : Nat) (pool : List κ) :
    linearPart linear pool ++ restPart linear pool = pool :=
  List.take_append_drop _ _

theorem length_restPart (linear : Nat) (pool : List κ) :
    (restPart linear pool).length = rest linear pool.length :=
  List.length_drop

theorem candidates_eq_route (linear : Nat) (drawn : List Nat) (pool : List κ) :
    candidates linear drawn pool =
      (route linear pool.length drawn).filterMap fun i => pool[i]? := by
  rw [candidates, ← linearPart_eq_take, ← restPart_eq_drop, route, List.filterMap_append,
    filterMap_range_getElem?, List.filterMap_map]
  simp only [restPart, List.getElem?_drop]
  rfl

section

variable {n : Nat} (hd : IsDraw (rest linear n) (probeBudget (rest linear n)) drawn)

include hd

theorem nodup_route : (route linear n drawn).Nodup := by
  have hshifted : (drawn.map (min n linear + ·)).Nodup :=
    List.pairwise_map.mpr (hd.nodup.imp fun hne => by omega)
  refine List.nodup_append.mpr ⟨List.nodup_range, hshifted, fun i hi j hj => ?_⟩
  obtain ⟨k, -, rfl⟩ := List.mem_map.mp hj
  have := List.mem_range.mp hi
  omega

theorem lt_of_mem_route {i : Nat} (hi : i ∈ route linear n drawn) : i < n := by
  rcases List.mem_append.mp hi with hi | hi
  · have := List.mem_range.mp hi
    omega
  · obtain ⟨k, hk, rfl⟩ := List.mem_map.mp hi
    have := hd.lt k hk
    unfold rest at this
    omega

end

/-! ### Searches -/

theorem scan_pure (isClosed accepts : κ → Bool) : ∀ (cs : List κ) (s : σ),
    (scan isClosed (Selector.pure accepts) cs s).found = cs.find? (usable isClosed accepts) ∧
      (scan isClosed (Selector.pure accepts) cs s).closed =
        (upTo (usable isClosed accepts) cs).filter isClosed
  | [], _ => ⟨rfl, rfl⟩
  | c :: cs, s => by
    obtain ⟨hfound, hclosed⟩ := scan_pure isClosed accepts cs s
    cases hc : isClosed c <;> cases ha : accepts c <;>
      simp [scan, upTo, usable, Selector.pure, hc, ha, hfound, hclosed]

theorem callers_scan_pure (isClosed accepts : κ → Bool) : ∀ (cs : List κ) (s : σ),
    (scan isClosed (Selector.pure accepts) cs s).callers = s
  | [], _ => rfl
  | c :: cs, s => by
    have ih := callers_scan_pure isClosed accepts cs s
    cases hc : isClosed c <;> cases ha : accepts c <;> simp [scan, Selector.pure, hc, ha, ih]

/-- A search finds the first connection of the linear part that is open and
accepted, or else the first one in the order of the draw. -/
theorem search_pure_found (linear : Nat) (drawn : List Nat) (isClosed accepts : κ → Bool)
    (pool : List κ) (s : σ) :
    (search linear drawn isClosed (Selector.pure accepts) pool s).found =
      ((linearPart linear pool).find? (usable isClosed accepts)).or
        ((drawn.filterMap fun i => (restPart linear pool)[i]?).find?
          (usable isClosed accepts)) := by
  rw [search, (scan_pure isClosed accepts _ s).1, candidates, List.find?_append,
    linearPart_eq_take, restPart_eq_drop]

theorem search_pure_closed (linear : Nat) (drawn : List Nat) (isClosed accepts : κ → Bool)
    (pool : List κ) (s : σ) :
    (search linear drawn isClosed (Selector.pure accepts) pool s).closed =
      ((visited (usable isClosed accepts) linear drawn pool).filterMap fun i => pool[i]?).filter
        isClosed := by
  rw [search, (scan_pure isClosed accepts _ s).2, candidates_eq_route, upTo_filterMap]
  rfl

/-- Without a hit in the linear part a search succeeds exactly if the draw hits. -/
theorem isSome_search_pure_iff
    (hnone : ∀ c ∈ linearPart linear pool, usable isClosed accepts c = false)
    (drawn : List Nat) (s : σ) :
    (search linear drawn isClosed (Selector.pure accepts) pool s).found.isSome ↔
      ∃ i ∈ drawn, (restPart linear pool)[i]?.any (usable isClosed accepts) = true := by
  have hfirst : (linearPart linear pool).find? (usable isClosed accepts) = none :=
    List.find?_eq_none.mpr fun c hc => by simp [hnone c hc]
  rw [search_pure_found, hfirst, Option.none_or, List.find?_isSome]
  constructor
  · rintro ⟨c, hc, hu⟩
    obtain ⟨i, hi, hget⟩ := List.mem_filterMap.mp hc
    exact ⟨i, hi, by simpa [hget] using hu⟩
  · rintro ⟨i, hi, hu⟩
    obtain ⟨c, hget, hu⟩ := (Option.any_eq_true ..).mp hu
    exact ⟨c, List.mem_filterMap.mpr ⟨i, hi, hget⟩, hu⟩

/-- A search of a small rest misses nothing. -/
theorem usable_of_search_eq_none (hsmall : rest linear pool.length < fullDrawLimit)
    (hd : IsDraw (rest linear pool.length) (probeBudget (rest linear pool.length)) drawn)
    (h : (search linear drawn isClosed (Selector.pure accepts) pool s).found = none) {c : κ}
    (hc : c ∈ pool) : usable isClosed accepts c = false := by
  rw [search_pure_found, Option.or_eq_none_iff, List.find?_eq_none, List.find?_eq_none] at h
  rw [probeBudget, if_pos hsmall] at hd
  rw [← linearPart_append_restPart linear pool] at hc
  rcases List.mem_append.mp hc with hc | hc
  · simpa using h.1 c hc
  · obtain ⟨i, hi, rfl⟩ := List.getElem_of_mem hc
    have hdrawn : i ∈ drawn := hd.mem_of_full (by rwa [← length_restPart])
    simpa using h.2 _ (List.mem_filterMap.mpr ⟨i, hdrawn, List.getElem?_eq_getElem hi⟩)

/-- **A search of one pool.** Of the `r` connections after the linear part, `m`
are drawn: all of them below 64, else three quarters, which below `2 ^ 51` is
what multiplying by `0.75` in floating point comes to. For every draw the search
finds the first open accepted connection of the linear part, or else the first
one in the order of the draw; it visits no position twice and reports exactly
the closed connections it visits, in order. If the linear part has none to
offer, every draw succeeds if and only if the open accepted connections of the
rest outnumber the `r - m` that a draw leaves out; below 64 a search fails only
if the pool has none at all. -/
theorem search_pool (linear : Nat) (isClosed accepts : κ → Bool) (pool : List κ) (s : σ) :
    let r := rest linear pool.length
    let m := probeBudget r
    let searched := fun drawn => search linear drawn isClosed (Selector.pure accepts) pool s
    m = (if r < 64 then r else 3 * r / 4) ∧ m ≤ r ∧
      (∀ w : UInt64, w.toNat = r → 64 ≤ r → r < 2 ^ 51 → (w.toFloat * 0.75).toUInt64.toNat = m) ∧
      (∀ drawn, IsDraw r m drawn →
        (searched drawn).found =
            ((linearPart linear pool).find? (usable isClosed accepts)).or
              ((drawn.filterMap fun i => (restPart linear pool)[i]?).find?
                (usable isClosed accepts)) ∧
          (searched drawn).closed =
            ((visited (usable isClosed accepts) linear drawn pool).filterMap
              fun i => pool[i]?).filter isClosed ∧
          (visited (usable isClosed accepts) linear drawn pool).Nodup ∧
          (∀ i ∈ visited (usable isClosed accepts) linear drawn pool, i < pool.length) ∧
          (r < 64 → (searched drawn).found = none →
            ∀ c ∈ pool, usable isClosed accepts c = false)) ∧
      ((∀ c ∈ linearPart linear pool, usable isClosed accepts c = false) →
        ((∀ drawn, IsDraw r m drawn → (searched drawn).found.isSome) ↔
          r - m < (restPart linear pool).countP (usable isClosed accepts))) := by
  intro r m searched
  refine ⟨rfl, probeBudget_le r, fun w hw hlarge hlt => ?_, fun drawn hd => ?_, fun hnone => ?_⟩
  · rw [← hw] at hlarge hlt
    rw [toUInt64_three_quarters w hlarge hlt, hw]
  · have hbegins : visited (usable isClosed accepts) linear drawn pool <+:
        route linear pool.length drawn := upTo_begins _ _
    exact ⟨search_pure_found .., search_pure_closed .., (nodup_route hd).sublist hbegins.sublist,
      fun i hi => lt_of_mem_route hd (hbegins.subset hi),
      fun hsmall h c hc => usable_of_search_eq_none hsmall hd h hc⟩
  · have hcount := countP_range_getElem? (restPart linear pool) (usable isClosed accepts)
    rw [length_restPart] at hcount
    rw [← hcount, ← exists_drawn_iff (probeBudget_le r)]
    exact forall₂_congr fun drawn _ => isSome_search_pure_iff hnone drawn s

end Pool
end HostRotation
