/-
# Searching a pool

A pool is searched in two parts: its first connections in the order in which
they were pooled, then a random draw from the rest. Closed connections are
passed over and reported; the first open one that the selector accepts ends
the search. Both parts are one list of candidates (`candidates`), so the
search is one scan of it.

A small rest is drawn completely, of a larger one three quarters
(`probeBudget`).
-/

namespace HostRotation

/-- A caller's choice: whether it accepts a connection, given and changing
what the callers know. -/
abbrev Selector (κ σ : Type) := κ → σ → Bool × σ

/-- A selector that only looks at the connection. -/
def Selector.pure {κ σ : Type} (p : κ → Bool) : Selector κ σ := fun c s => (p c, s)

namespace Pool

/-- A rest below this size is drawn completely. -/
def fullDrawLimit : Nat := 64

/-- How many of `rest` connections are drawn at random. -/
def probeBudget (rest : Nat) : Nat := if rest < fullDrawLimit then rest else 3 * rest / 4

theorem probeBudget_le (rest : Nat) : probeBudget rest ≤ rest := by
  unfold probeBudget
  split <;> omega

/-- What a search found and what it came across. -/
structure Finding (κ σ : Type) where
  found : Option κ
  /-- The closed connections passed over, in order. -/
  closed : List κ := []
  /-- The connections shown to the selector and its answers, in order. -/
  shown : List (κ × Bool) := []
  /-- What the callers know afterwards. -/
  callers : σ

variable {κ σ : Type}

/-- Goes through candidates until the selector accepts an open one. -/
def scan (isClosed : κ → Bool) (accepts : Selector κ σ) : List κ → σ → Finding κ σ
  | [], s => { found := none, callers := s }
  | c :: cs, s =>
    if isClosed c then
      let r := scan isClosed accepts cs s
      { r with closed := c :: r.closed }
    else
      match accepts c s with
      | (true, s) => { found := some c, shown := [(c, true)], callers := s }
      | (false, s) =>
        let r := scan isClosed accepts cs s
        { r with shown := (c, false) :: r.shown }

/-- The candidates in the order in which they are tried: the first `linear`
connections, then the drawn ones, counted from the end of the first part. -/
def candidates (linear : Nat) (drawn : List Nat) (pool : List κ) : List κ :=
  pool.take linear ++ drawn.filterMap fun i => (pool.drop linear)[i]?

/-- Searches a pool, for the draw of its rest. -/
def search (linear : Nat) (drawn : List Nat) (isClosed : κ → Bool) (accepts : Selector κ σ)
    (pool : List κ) (s : σ) : Finding κ σ :=
  scan isClosed accepts (candidates linear drawn pool) s

/-- Only closed connections are reported closed. -/
theorem isClosed_of_mem_scan {isClosed : κ → Bool} {accepts : Selector κ σ} {c : κ} :
    ∀ {cs : List κ} {s : σ}, c ∈ (scan isClosed accepts cs s).closed → isClosed c = true
  | [], _, h => by simp [scan] at h
  | c' :: cs, s, h => by
    unfold scan at h
    split at h
    · rename_i hc
      rcases List.mem_cons.mp h with rfl | h
      · exact hc
      · exact isClosed_of_mem_scan h
    · split at h
      · simp at h
      · exact isClosed_of_mem_scan h

theorem isClosed_of_mem_search {linear : Nat} {drawn : List Nat} {isClosed : κ → Bool}
    {accepts : Selector κ σ} {pool : List κ} {s : σ} {c : κ}
    (h : c ∈ (search linear drawn isClosed accepts pool s).closed) : isClosed c = true :=
  isClosed_of_mem_scan h

end Pool
end HostRotation
