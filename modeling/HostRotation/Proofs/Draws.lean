/-
# The draw favours no position

When the linear part of a pool has nothing to offer, a search ends at the first
usable position of its draw. There are finitely many draws of so many positions
(`Pool.draws`), and all of them are taken to be equally likely. Exchanging two
usable positions in every draw turns the draws that end at the one into those
that end at the other (`find?_exchange`), so both are as many, and a draw may
begin with any position, so there are some. No position is favoured
(`fallback_unbiased`).

Positions are what the statement is about: `Pool.foundAt` says where a search
ends, and what a search finds is the connection there.
-/
import HostRotation.Proofs.Searches

namespace HostRotation
namespace Pool

variable {κ σ : Type} {isClosed accepts hit : κ → Bool} {linear : Nat} {drawn : List Nat}
  {pool : List κ} {s : σ} {r m i j : Nat}

/-! ### All draws -/

/-- Every draw of `m` positions below `r`: so many of them, in every order. -/
def draws (r m : Nat) : Finset (List Nat) :=
  (((List.range r).sublistsLen m).flatMap List.permutations).toFinset

theorem mem_draws : drawn ∈ draws r m ↔ IsDraw r m drawn := by
  simp only [draws, List.mem_toFinset, List.mem_flatMap, List.mem_sublistsLen,
    List.mem_permutations]
  constructor
  · rintro ⟨chosen, ⟨hsub, hlength⟩, hperm⟩
    refine ⟨hperm.nodup_iff.mpr (List.nodup_range.sublist hsub), hperm.length_eq.trans hlength,
      fun i hi => ?_⟩
    exact List.mem_range.mp (hsub.subset (hperm.mem_iff.mp hi))
  · intro hd
    have hsubset : drawn ⊆ List.range r := fun i hi => List.mem_range.mpr (hd.lt i hi)
    obtain ⟨chosen, hperm, hsub⟩ := List.subperm_of_subset hd.nodup hsubset
    exact ⟨chosen, ⟨hsub, hperm.length_eq.trans hd.length_eq⟩, hperm.symm⟩

/-! ### Exchanging two positions -/

/-- Two positions change places in a draw. -/
def exchange (i j : Nat) (drawn : List Nat) : List Nat := drawn.map (Equiv.swap i j)

theorem exchange_exchange (i j : Nat) (drawn : List Nat) :
    exchange i j (exchange i j drawn) = drawn := by
  have hself : (Equiv.swap i j : Nat → Nat) ∘ Equiv.swap i j = id :=
    funext (Equiv.swap_apply_self i j)
  rw [exchange, exchange, List.map_map, hself, List.map_id]

theorem IsDraw.exchange (hd : IsDraw r m drawn) (hi : i < r) (hj : j < r) :
    IsDraw r m (exchange i j drawn) where
  nodup := hd.nodup.map (Equiv.swap i j).injective
  length_eq := List.length_map .. |>.trans hd.length_eq
  lt := by
    intro k hk
    obtain ⟨l, hl, rfl⟩ := List.mem_map.mp hk
    rw [Equiv.swap_apply_def]
    split_ifs
    · exact hj
    · exact hi
    · exact hd.lt l hl

/-- When two positions with `q` change places, so do the draws that come to the
one or the other first. -/
theorem find?_exchange {q : Nat → Bool} (hi : q i = true) (hj : q j = true) (drawn : List Nat) :
    (exchange i j drawn).find? q = (drawn.find? q).map (Equiv.swap i j) := by
  have hq : q ∘ Equiv.swap i j = q := by
    funext k
    rw [Function.comp_apply, Equiv.swap_apply_def]
    split_ifs with hki hkj
    · rw [hj, hki, hi]
    · rw [hi, hkj, hj]
    · rfl
  rw [exchange, List.find?_map, hq]

/-- The draws that come to position `i` first. -/
def leading (q : Nat → Bool) (r m i : Nat) : Finset (List Nat) :=
  (draws r m).filter fun drawn => drawn.find? q = some i

variable {q : Nat → Bool}

theorem exchange_mem_leading (hi : i < r) (hqi : q i = true) (hj : j < r) (hqj : q j = true)
    (hd : drawn ∈ leading q r m i) : exchange i j drawn ∈ leading q r m j := by
  obtain ⟨hd, hfirst⟩ := Finset.mem_filter.mp hd
  refine Finset.mem_filter.mpr ⟨mem_draws.mpr ((mem_draws.mp hd).exchange hi hj), ?_⟩
  rw [find?_exchange hqi hqj, hfirst, Option.map_some, Equiv.swap_apply_left]

/-- As many draws come to one position with `q` first as to another. -/
theorem card_leading_eq (hi : i < r) (hqi : q i = true) (hj : j < r) (hqj : q j = true) :
    (leading q r m i).card = (leading q r m j).card := by
  apply Finset.card_nbij' (exchange i j) (exchange j i)
  · exact fun drawn hd => exchange_mem_leading hi hqi hj hqj hd
  · exact fun drawn hd => exchange_mem_leading hj hqj hi hqi hd
  · intro drawn _
    rw [exchange, Equiv.swap_comm]
    exact exchange_exchange i j drawn
  · intro drawn _
    rw [exchange, Equiv.swap_comm]
    exact exchange_exchange j i drawn

/-- A draw may begin with any position. -/
theorem card_leading_pos (hm : 0 < m) (hle : m ≤ r) (hi : i < r) (hqi : q i = true) :
    0 < (leading q r m i).card := by
  have hnd : (i :: (List.range r).erase i).Nodup :=
    List.nodup_cons.mpr ⟨List.nodup_range.not_mem_erase, List.nodup_range.erase i⟩
  have hlength : (i :: (List.range r).erase i).length = r := by
    rw [List.length_cons, List.length_erase_of_mem (List.mem_range.mpr hi), List.length_range]
    omega
  have hd : IsDraw r m ((i :: (List.range r).erase i).take m) := by
    refine ⟨hnd.sublist (List.take_sublist _ _), ?_, fun k hk => ?_⟩
    · rw [List.length_take, hlength]
      omega
    · rcases List.mem_cons.mp (List.mem_of_mem_take hk) with rfl | hk
      · exact hi
      · exact List.mem_range.mp (List.mem_of_mem_erase hk)
  obtain ⟨n, rfl⟩ := Nat.exists_eq_succ_of_ne_zero hm.ne'
  refine Finset.card_pos.mpr ⟨_, Finset.mem_filter.mpr ⟨mem_draws.mpr hd, ?_⟩⟩
  rw [List.take_succ_cons, List.find?_cons_of_pos hqi]

theorem probeBudget_pos (hr : 0 < r) : 0 < probeBudget r := by
  unfold probeBudget fullDrawLimit
  split <;> omega

/-! ### Where a search ends -/

/-- The position at which a search ends: the first of its route with a hit. -/
def foundAt (hit : κ → Bool) (linear : Nat) (drawn : List Nat) (pool : List κ) : Option Nat :=
  (route linear pool.length drawn).find? fun i => pool[i]?.any hit

theorem exists_of_foundAt (hi : foundAt hit linear drawn pool = some i) :
    ∃ c, pool[i]? = some c ∧ hit c = true := by
  have hhit := List.find?_some hi
  exact (Option.any_eq_true ..).mp hhit

/-- A search finds the connection at the position at which it ends. -/
theorem search_pure_foundAt (linear : Nat) (drawn : List Nat) (isClosed accepts : κ → Bool)
    (pool : List κ) (s : σ) :
    (search linear drawn isClosed (Selector.pure accepts) pool s).found =
      (foundAt (usable isClosed accepts) linear drawn pool).bind fun i => pool[i]? := by
  rw [search, (scan_pure isClosed accepts _ s).1, candidates_eq_route, List.find?_filterMap]
  rfl

theorem search_pure_isSome (linear : Nat) (drawn : List Nat) (isClosed accepts : κ → Bool)
    (pool : List κ) (s : σ) :
    (search linear drawn isClosed (Selector.pure accepts) pool s).found.isSome =
      (foundAt (usable isClosed accepts) linear drawn pool).isSome := by
  rw [search_pure_foundAt]
  cases hi : foundAt (usable isClosed accepts) linear drawn pool with
  | none => rfl
  | some i =>
    obtain ⟨c, hc, -⟩ := exists_of_foundAt hi
    rw [Option.bind_some, hc]
    rfl

/-- In a pool without repeats the connection that a search finds tells where it
ended. -/
theorem search_pure_found_iff (hnd : pool.Nodup) {c : κ} (hc : pool[i]? = some c)
    (drawn : List Nat) (s : σ) :
    (search linear drawn isClosed (Selector.pure accepts) pool s).found = some c ↔
      foundAt (usable isClosed accepts) linear drawn pool = some i := by
  rw [search_pure_foundAt, Option.bind_eq_some_iff]
  constructor
  · rintro ⟨j, hj, hcj⟩
    have hlt : j < pool.length := (List.getElem?_eq_some_iff.mp hcj).1
    rw [hj, (List.getElem?_inj hlt hnd).mp (hcj.trans hc.symm)]
  · exact fun hi => ⟨i, hi, hc⟩

/-- The positions behind the linear part whose connections hit. -/
def eligible (hit : κ → Bool) (linear : Nat) (pool : List κ) : Finset Nat :=
  (Finset.range pool.length).filter fun i =>
    min pool.length linear ≤ i ∧ pool[i]?.any hit = true

/-- Whether a position of the rest hits, counted from the end of the linear part. -/
def hitsAt (hit : κ → Bool) (linear : Nat) (pool : List κ) (k : Nat) : Bool :=
  (restPart linear pool)[k]?.any hit

theorem mem_eligible : i ∈ eligible hit linear pool ↔ ∃ k < rest linear pool.length,
    hitsAt hit linear pool k = true ∧ min pool.length linear + k = i := by
  unfold eligible hitsAt restPart rest
  simp only [Finset.mem_filter, Finset.mem_range, List.getElem?_drop]
  constructor
  · rintro ⟨hlt, hle, hhit⟩
    refine ⟨i - min pool.length linear, by omega, ?_, by omega⟩
    rwa [Nat.add_sub_cancel' hle]
  · rintro ⟨k, hk, hhit, rfl⟩
    exact ⟨by omega, by omega, hhit⟩

/-- Without a linear part every hit is eligible. -/
theorem mem_eligible_zero {c : κ} (hc : pool[i]? = some c) (hhit : hit c = true) :
    i ∈ eligible hit 0 pool := by
  have hlt : i < pool.length := (List.getElem?_eq_some_iff.mp hc).1
  refine Finset.mem_filter.mpr ⟨Finset.mem_range.mpr hlt, by omega, ?_⟩
  rw [hc]
  exact hhit

/-- The draws, of all that a search may make, with which it ends at position
`i`. -/
def drawsEndingAt (hit : κ → Bool) (linear : Nat) (pool : List κ) (i : Nat) :
    Finset (List Nat) :=
  (draws (rest linear pool.length) (probeBudget (rest linear pool.length))).filter fun drawn =>
    foundAt hit linear drawn pool = some i

section

variable (hnone : ∀ c ∈ linearPart linear pool, hit c = false)

include hnone

/-- Without a hit in the linear part the draw decides. -/
theorem foundAt_of_none (drawn : List Nat) : foundAt hit linear drawn pool =
    (drawn.find? (hitsAt hit linear pool)).map (min pool.length linear + ·) := by
  have hfirst : (List.range (min pool.length linear)).find? (fun i => pool[i]?.any hit) = none := by
    refine List.find?_eq_none.mpr fun i hi hhit => ?_
    obtain ⟨c, hc, hhit⟩ := (Option.any_eq_true ..).mp hhit
    have hmem : c ∈ linearPart linear pool :=
      List.mem_of_getElem? ((List.getElem?_take_of_lt (List.mem_range.mp hi)).trans hc)
    rw [hnone c hmem] at hhit
    exact Bool.noConfusion hhit
  have hshift : (fun i => pool[i]?.any hit) ∘ (min pool.length linear + ·) =
      hitsAt hit linear pool := by
    funext k
    rw [hitsAt, restPart, List.getElem?_drop]
    rfl
  rw [foundAt, route, List.find?_append, hfirst, Option.none_or, List.find?_map, hshift]

theorem drawsEndingAt_eq_leading (k : Nat) :
    drawsEndingAt hit linear pool (min pool.length linear + k) =
      leading (hitsAt hit linear pool) (rest linear pool.length)
        (probeBudget (rest linear pool.length)) k := by
  refine Finset.filter_congr fun drawn _ => ?_
  rw [foundAt_of_none hnone, Option.map_eq_some_iff]
  constructor
  · rintro ⟨l, hl, heq⟩
    rwa [← Nat.add_left_cancel heq]
  · exact fun hk => ⟨k, hk, rfl⟩

theorem card_drawsEndingAt_eq (hi : i ∈ eligible hit linear pool)
    (hj : j ∈ eligible hit linear pool) :
    (drawsEndingAt hit linear pool i).card = (drawsEndingAt hit linear pool j).card := by
  obtain ⟨k, hk, hhit, rfl⟩ := mem_eligible.mp hi
  obtain ⟨l, hl, hhit', rfl⟩ := mem_eligible.mp hj
  rw [drawsEndingAt_eq_leading hnone, drawsEndingAt_eq_leading hnone]
  exact card_leading_eq hk hhit hl hhit'

theorem card_drawsEndingAt_pos (hi : i ∈ eligible hit linear pool) :
    0 < (drawsEndingAt hit linear pool i).card := by
  obtain ⟨k, hk, hhit, rfl⟩ := mem_eligible.mp hi
  rw [drawsEndingAt_eq_leading hnone]
  exact card_leading_pos (probeBudget_pos (by omega)) (probeBudget_le _) hk hhit

/-- A draw only leads to connections that hit. -/
theorem mem_eligible_of_foundAt (hd : IsDraw (rest linear pool.length) m drawn)
    (hi : foundAt hit linear drawn pool = some i) : i ∈ eligible hit linear pool := by
  rw [foundAt_of_none hnone, Option.map_eq_some_iff] at hi
  obtain ⟨k, hk, rfl⟩ := hi
  exact mem_eligible.mpr ⟨k, hd.lt k (List.mem_of_find?_eq_some hk), List.find?_some hk, rfl⟩

/-- The eligible positions share the draws that succeed evenly. -/
theorem share_drawsEndingAt (hi : i ∈ eligible hit linear pool) :
    (drawsEndingAt hit linear pool i).card * (eligible hit linear pool).card =
      ((draws (rest linear pool.length) (probeBudget (rest linear pool.length))).filter
        fun drawn => (foundAt hit linear drawn pool).isSome).card := by
  let ds := draws (rest linear pool.length) (probeBudget (rest linear pool.length))
  have hmaps : ∀ drawn ∈ ds.filter fun drawn => (foundAt hit linear drawn pool).isSome,
      (foundAt hit linear drawn pool).getD 0 ∈ eligible hit linear pool := by
    intro drawn hd
    obtain ⟨hd, hsome⟩ := Finset.mem_filter.mp hd
    obtain ⟨j, hj⟩ := Option.isSome_iff_exists.mp hsome
    rw [hj]
    exact mem_eligible_of_foundAt hnone (mem_draws.mp hd) hj
  have hfiber : ∀ j ∈ eligible hit linear pool,
      ((ds.filter fun drawn => (foundAt hit linear drawn pool).isSome).filter
        fun drawn => (foundAt hit linear drawn pool).getD 0 = j).card =
      (drawsEndingAt hit linear pool i).card := by
    intro j hj
    rw [card_drawsEndingAt_eq hnone hi hj, Finset.filter_filter]
    refine congrArg Finset.card (Finset.filter_congr fun drawn _ => ?_)
    cases foundAt hit linear drawn pool <;> simp
  calc (drawsEndingAt hit linear pool i).card * (eligible hit linear pool).card
      = ∑ _j ∈ eligible hit linear pool, (drawsEndingAt hit linear pool i).card := by
        rw [Finset.sum_const, smul_eq_mul, Nat.mul_comm]
    _ = (ds.filter fun drawn => (foundAt hit linear drawn pool).isSome).card := by
        rw [Finset.card_eq_sum_card_fiberwise hmaps]
        exact (Finset.sum_congr rfl hfiber).symm

end

/-- **The draw favours no position.** If no connection of the linear part is open
and accepted, then of all draws that a search may make the same number, and at
least one, leads to each position of the rest whose connection is open and
accepted, and none leads to any other position: so these positions share the
draws that succeed evenly. What a draw leads to is the position of the connection
that the search finds; in a pool without repeats the connection tells it. Without
a linear part no position of the pool is favoured. -/
theorem fallback_unbiased (linear : Nat) (isClosed accepts : κ → Bool) (pool : List κ) (s : σ)
    (hnone : ∀ c ∈ linearPart linear pool, usable isClosed accepts c = false) :
    let hit := usable isClosed accepts
    let r := rest linear pool.length
    let m := probeBudget r
    let found := fun drawn => (search linear drawn isClosed (Selector.pure accepts) pool s).found
    (∀ drawn, drawn ∈ draws r m ↔ IsDraw r m drawn) ∧
      (∀ drawn, found drawn = (foundAt hit linear drawn pool).bind fun i => pool[i]?) ∧
      (pool.Nodup → ∀ i c, pool[i]? = some c → ∀ drawn,
        found drawn = some c ↔ foundAt hit linear drawn pool = some i) ∧
      (∀ i ∈ eligible hit linear pool, ∀ j ∈ eligible hit linear pool,
        (drawsEndingAt hit linear pool i).card = (drawsEndingAt hit linear pool j).card) ∧
      (∀ i ∈ eligible hit linear pool, 0 < (drawsEndingAt hit linear pool i).card ∧
        (drawsEndingAt hit linear pool i).card * (eligible hit linear pool).card =
          ((draws r m).filter fun drawn => (found drawn).isSome).card) ∧
      (∀ i ∉ eligible hit linear pool, drawsEndingAt hit linear pool i = ∅) ∧
      (linear = 0 → ∀ i c, pool[i]? = some c → hit c = true → i ∈ eligible hit linear pool) := by
  intro hit r m found
  refine ⟨fun _ => mem_draws, fun drawn => search_pure_foundAt ..,
    fun hnd i c hc drawn => search_pure_found_iff hnd hc drawn s,
    fun i hi j hj => card_drawsEndingAt_eq hnone hi hj,
    fun i hi => ⟨card_drawsEndingAt_pos hnone hi, ?_⟩, fun i hi => ?_, ?_⟩
  · have hsame : ∀ drawn, (found drawn).isSome = (foundAt hit linear drawn pool).isSome :=
      fun drawn => search_pure_isSome ..
    simp only [hsame]
    exact share_drawsEndingAt hnone hi
  · refine Finset.filter_eq_empty_iff.mpr fun drawn hd heq => hi ?_
    exact mem_eligible_of_foundAt hnone (mem_draws.mp hd) heq
  · rintro rfl i c hc hhit
    exact mem_eligible_zero hc hhit

/-- One connection is in the linear part and closed, and one of the other four is
refused: the draw leads to each of the three that are left as often as to any
other. -/
theorem fallback_unbiased_threeLeft :
    (∀ c ∈ linearPart 1 [0, 1, 2, 3, 4], usable (· == 0) (· != 2) c = false) ∧
      (drawsEndingAt (usable (· == 0) (· != 2)) 1 [0, 1, 2, 3, 4] 1).card =
        (drawsEndingAt (usable (· == 0) (· != 2)) 1 [0, 1, 2, 3, 4] 4).card ∧
      0 < (drawsEndingAt (usable (· == 0) (· != 2)) 1 [0, 1, 2, 3, 4] 3).card ∧
      drawsEndingAt (usable (· == 0) (· != 2)) 1 [0, 1, 2, 3, 4] 2 = ∅ := by
  have hnone : ∀ c ∈ linearPart 1 [0, 1, 2, 3, 4], usable (· == 0) (· != 2) c = false := by decide
  obtain ⟨-, -, -, heven, hshare, hother, -⟩ :=
    fallback_unbiased 1 (· == 0) (· != 2) [0, 1, 2, 3, 4] () hnone
  exact ⟨hnone, heven 1 (by decide) 4 (by decide), (hshare 3 (by decide)).1,
    hother 2 (by decide)⟩

end Pool
end HostRotation
