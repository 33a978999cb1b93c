/-
# Random words

Everything random is drawn from a tape: an endless row of 64-bit words and a
position. A draw reads the word at the position and moves on, so a run is
determined by its tape, and a statement about every tape is a statement about
every outcome of the draws.

Key definitions: `Tape.next`, `Tape.below` (an index), `Tape.sample`
(several distinct indices).
Key lemmas: `length_sample`, `nodup_sample`, `lt_of_mem_sample`.
-/

namespace HostRotation

/-- An endless row of words, read from a position on. -/
structure Tape where
  word : Nat → UInt64
  position : Nat := 0

namespace Tape

/-- The word at the position. -/
def next (t : Tape) : UInt64 × Tape :=
  (t.word t.position, { t with position := t.position + 1 })

/-- An index below `n`. -/
def below (t : Tape) (n : Nat) : Nat × Tape :=
  let (w, t) := t.next
  (w.toNat % n, t)

/-- Draws `m` entries of a list, one after the other, each from those that
are left. -/
def drawFrom (t : Tape) : Nat → List Nat → List Nat × Tape
  | 0, _ => ([], t)
  | m + 1, left =>
    if left.isEmpty then ([], t)
    else
      let (i, t) := t.below left.length
      let (drawn, t) := drawFrom t m (left.eraseIdx i)
      (left.getD i 0 :: drawn, t)

/-- Draws `m` distinct indices below `r`, in the order in which they come. -/
def sample (t : Tape) (r m : Nat) : List Nat × Tape := t.drawFrom m (List.range r)

private theorem not_mem_eraseIdx {l : List Nat} (hnd : l.Nodup) {i : Nat} (hi : i < l.length) :
    l[i] ∉ l.eraseIdx i := by
  rw [List.mem_eraseIdx_iff_getElem]
  rintro ⟨j, hj, hne, heq⟩
  have hpw := List.pairwise_iff_getElem.1 hnd
  rcases Nat.lt_or_gt_of_ne hne with h | h
  · exact hpw j i hj hi h heq
  · exact hpw i j hi hj h heq.symm

private theorem drawFrom_spec (m : Nat) : ∀ (t : Tape) (left : List Nat), left.Nodup →
    m ≤ left.length → (t.drawFrom m left).1.Nodup ∧ (t.drawFrom m left).1.length = m ∧
      ∀ i ∈ (t.drawFrom m left).1, i ∈ left := by
  induction m with
  | zero => intro t left _ _; simp [drawFrom]
  | succ m ih =>
    intro t left hnd hle
    have hne : left.isEmpty = false := by
      cases left with
      | nil => simp at hle
      | cons => rfl
    have hi : (t.below left.length).1 < left.length := by
      apply Nat.mod_lt
      omega
    have hget : left.getD (t.below left.length).1 0 = left[(t.below left.length).1] := by
      rw [List.getD_eq_getElem?_getD, List.getElem?_eq_getElem hi, Option.getD_some]
    obtain ⟨h1, h2, h3⟩ := ih (t.below left.length).2 (left.eraseIdx (t.below left.length).1)
      (hnd.eraseIdx _) (by rw [List.length_eraseIdx_of_lt hi]; omega)
    simp only [drawFrom, hne, Bool.false_eq_true, ↓reduceIte, List.nodup_cons, List.length_cons,
      List.mem_cons]
    refine ⟨⟨fun hmem => ?_, h1⟩, by rw [h2], ?_⟩
    · rw [hget] at hmem
      exact not_mem_eraseIdx hnd hi (h3 _ hmem)
    · rintro i (rfl | hmem)
      · rw [hget]; exact List.getElem_mem hi
      · exact List.mem_of_mem_eraseIdx (h3 i hmem)

theorem nodup_sample {t : Tape} {r m : Nat} (h : m ≤ r) : (t.sample r m).1.Nodup :=
  (drawFrom_spec m t _ List.nodup_range (by simpa using h)).1

theorem length_sample {t : Tape} {r m : Nat} (h : m ≤ r) : (t.sample r m).1.length = m :=
  (drawFrom_spec m t _ List.nodup_range (by simpa using h)).2.1

theorem lt_of_mem_sample {t : Tape} {r m i : Nat} (h : m ≤ r) (hi : i ∈ (t.sample r m).1) :
    i < r :=
  List.mem_range.1 ((drawFrom_spec m t _ List.nodup_range (by simpa using h)).2.2 i hi)

/-- A tape of well mixed words: word `i` is a fixed scrambling of the seed
advanced `i` times by an odd constant. -/
def ofSeed (seed : UInt64) : Tape where
  word i :=
    let z := seed + (UInt64.ofNat i + 1) * 0x9e3779b97f4a7c15
    let z := (z ^^^ (z >>> 30)) * 0xbf58476d1ce4e5b9
    let z := (z ^^^ (z >>> 27)) * 0x94d049bb133111eb
    z ^^^ (z >>> 31)

end Tape
end HostRotation
