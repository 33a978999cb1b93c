/-
# Which windows there are, and what is drawn from them

A window is built around any interval and any jitter, so its ends may borrow a
second, carry one, or leave the range of durations altogether, and 64 bits of
nanoseconds are used up long before that. Three conditions decide whether there
is a window (`exists_around_iff`), and the first of them that fails is the fault
(`around_eq_error_iff`).

A draw goes through 64-bit words on its way. For a window that exists nothing is
lost there: the delays that can be drawn are the nanoseconds of the window, all
of them (`exists_draw_iff`) and in any row (`exists_draws_iff`). Together that is
`window_exact`.
-/
import HostRotation.Proofs.Validation

namespace HostRotation
namespace JitterWindow

variable {w : JitterWindow} {interval jitter d : Duration}

/-! ### The conditions -/

theorem windowFaults_eq_nil_iff : windowFaults interval jitter = [] ↔
    0 < interval.total ∧ jitter.total < interval.total ∧
      interval.total + jitter.total ≤ UInt64.size - 1 := by
  simp only [windowFaults, List.append_eq_nil_iff, ite_eq_right_iff, reduceCtorEq, imp_false,
    UInt64.size]
  omega

/-- There is a window just when the interval is positive, longer than the jitter,
and their sum fits 64 bits of nanoseconds. -/
theorem exists_around_iff : (∃ w, around interval jitter = .ok w) ↔
    0 < interval.total ∧ jitter.total < interval.total ∧
      interval.total + jitter.total ≤ UInt64.size - 1 :=
  (reports_around interval jitter).ok_iff.trans windowFaults_eq_nil_iff

/-- The fault of a window that does not exist is the first condition that fails. -/
theorem around_eq_error_iff {fault : SettingsFault} : around interval jitter = .error fault ↔
    (fault = .zeroInterval interval ∧ ¬ 0 < interval.total) ∨
      (fault = .jitterTooLong interval jitter ∧
        0 < interval.total ∧ ¬ jitter.total < interval.total) ∨
      (fault = .windowTooLong interval jitter ∧
        0 < interval.total ∧ jitter.total < interval.total ∧
          ¬ interval.total + jitter.total ≤ UInt64.size - 1) := by
  have hsize : UInt64.size ≤ interval.total + jitter.total ↔
      ¬ interval.total + jitter.total ≤ UInt64.size - 1 := by
    simp only [UInt64.size]
    omega
  rw [reports_around interval jitter fault, windowFaults]
  simp only [hsize]
  -- The bound itself plays no part from here on, and it is large to compute with.
  generalize UInt64.size - 1 = longest
  rcases Nat.eq_zero_or_pos interval.total with hzero | hpos
  · simp [hzero, eq_comm]
  · have hzero : interval.total ≠ 0 := Nat.ne_of_gt hpos
    rcases Nat.lt_or_ge jitter.total interval.total with hshort | hlong
    · have hshort' : ¬ interval.total ≤ jitter.total := Nat.not_le.mpr hshort
      by_cases hfits : interval.total + jitter.total ≤ longest
      · simp [hzero, hshort', hfits]
      · simp [hzero, hpos, hshort, hshort', Nat.not_le.mp hfits, eq_comm]
    · simp [hzero, hpos, hlong, Nat.not_lt.mpr hlong, eq_comm]

/-! ### Draws -/

/-- A word stands for a delay of the window just when it lies between its ends. -/
theorem contains_ofWord_iff {word : UInt64} : w.contains (.ofWord word) = true ↔
    w.lower.toWord ≤ word ∧ word ≤ w.upper.toWord := by
  rw [contains_iff, UInt64.le_iff_toNat_le, UInt64.le_iff_toNat_le, toNat_lower, toNat_upper,
    Duration.total_ofWord]

/-- What lies in a window is what a word between its ends stands for. -/
theorem contains_iff_exists_word : w.contains d = true ↔
    ∃ word, w.lower.toWord ≤ word ∧ word ≤ w.upper.toWord ∧ d = .ofWord word := by
  constructor
  · intro hd
    have hfits : d.total < UInt64.size :=
      Nat.lt_of_le_of_lt (contains_iff.mp hd).2 w.upper_lt
    have hword : d = .ofWord d.toWord := by
      apply Duration.ext_total
      rw [Duration.total_ofWord, Duration.toNat_toWord hfits]
    rw [hword] at hd
    obtain ⟨hlower, hupper⟩ := contains_ofWord_iff.mp hd
    exact ⟨d.toWord, hlower, hupper, hword⟩
  · rintro ⟨word, hlower, hupper, rfl⟩
    exact contains_ofWord_iff.mpr ⟨hlower, hupper⟩

/-- A delay of a window is what its distance from the lower end stands for. -/
theorem delayOf_distance (hd : w.contains d = true) :
    w.delayOf (.ofNat (d.total - w.lower.total)) = d := by
  obtain ⟨hlower, hupper⟩ := contains_iff.mp hd
  have hlt := w.upper_lt
  have hword : (UInt64.ofNat (d.total - w.lower.total)).toNat = d.total - w.lower.total :=
    UInt64.toNat_ofNat_of_lt' (by omega)
  apply Duration.ext_total
  calc (w.delayOf (.ofNat (d.total - w.lower.total))).total
      = w.lower.total + (d.total - w.lower.total) % (w.upper.total - w.lower.total + 1) := by
        rw [total_delayOf, hword]
    _ = w.lower.total + (d.total - w.lower.total) := by
        rw [Nat.mod_eq_of_lt (by omega)]
    _ = d.total := Nat.add_sub_cancel' hlower

/-- What can be drawn from a window is what lies in it. -/
theorem exists_draw_iff : (∃ tape, (w.draw tape).1 = d) ↔ w.contains d = true := by
  constructor
  · rintro ⟨tape, rfl⟩
    exact w.contains_draw tape
  · intro hd
    exact ⟨⟨fun _ => .ofNat (d.total - w.lower.total), 0⟩, delayOf_distance hd⟩

/-- Draws in a row read one word each. -/
theorem draws_eq_map (w : JitterWindow) (word : Nat → UInt64) (n position : Nat) :
    w.draws n ⟨word, position⟩ =
      (List.range n).map fun i => w.delayOf (word (position + i)) := by
  induction n generalizing position with
  | zero => rfl
  | succ n ih =>
    show w.delayOf (word position) :: w.draws n ⟨word, position + 1⟩ = _
    rw [ih, List.range_succ_eq_map, List.map_cons, List.map_map]
    refine congrArg (_ :: ·) (List.map_congr_left fun i _ => ?_)
    show w.delayOf (word (position + 1 + i)) = w.delayOf (word (position + (i + 1)))
    rw [Nat.add_assoc, Nat.add_comm 1 i]

/-- No draw depends on the ones before: any row of delays that lie in the window
can be drawn. -/
theorem exists_draws_iff {ds : List Duration} :
    (∃ tape, w.draws ds.length tape = ds) ↔ ∀ d ∈ ds, w.contains d = true := by
  constructor
  · rintro ⟨⟨word, position⟩, htape⟩ d hd
    rw [← htape, draws_eq_map] at hd
    obtain ⟨i, -, rfl⟩ := List.mem_map.mp hd
    exact w.contains_delayOf _
  · intro hds
    let word (i : Nat) : UInt64 := .ofNat ((ds.getD i w.lower).total - w.lower.total)
    refine ⟨⟨word, 0⟩, ?_⟩
    rw [draws_eq_map]
    refine List.ext_getElem (by simp) fun i hi hi' => ?_
    have hget : ds.getD i w.lower = ds[i] := by
      rw [List.getD_eq_getElem?_getD, List.getElem?_eq_getElem hi', Option.getD_some]
    rw [List.getElem_map, List.getElem_range, Nat.zero_add]
    show w.delayOf (.ofNat ((ds.getD i w.lower).total - w.lower.total)) = ds[i]
    rw [hget]
    exact delayOf_distance (hds _ (List.getElem_mem hi'))

/-! ### The windows of derived jitters -/

/-- A derived jitter leaves something of every interval: only the sum can be too
long, and only when the jitter is the default one. -/
theorem exists_around_derived_iff : (∃ w, around interval (derivedJitter interval) = .ok w) ↔
    0 < interval.total ∧ (interval.total < 5 * Duration.perSecond ∨
      interval.total + 3 * Duration.perSecond ≤ UInt64.size - 1) := by
  have hinterval : defaultHealthInterval.total = 5 * Duration.perSecond := by decide
  have hjitter : defaultHealthJitter.total = 3 * Duration.perSecond := by decide
  rw [exists_around_iff, derivedJitter, hinterval]
  split
  · rw [Duration.total_half]
    simp only [Duration.perSecond, UInt64.size] at *
    omega
  · rw [hjitter]
    simp only [Duration.perSecond] at *
    omega

/-! ### Exact windows -/

/-- A window is exact for an interval and a jitter if its ends are, if 64-bit words
hold them, and if the delays drawn from it are those between the ends. -/
structure IsExact (w : JitterWindow) (interval jitter : Duration) : Prop where
  lower : w.lower.total = interval.total - jitter.total
  upper : w.upper.total = interval.total + jitter.total
  positive : 0 < w.lower.total
  ordered : w.lower.total ≤ w.upper.total
  lowerWord : w.lower.toWord.toNat = w.lower.total
  upperWord : w.upper.toWord.toNat = w.upper.total
  /-- There is a word to draw. -/
  words : w.lower.toWord ≤ w.upper.toWord
  /-- Of the words from the lower to the upper end, each can be drawn, and no other. -/
  drawn : ∀ d, (∃ tape, (w.draw tape).1 = d) ↔
    ∃ word, w.lower.toWord ≤ word ∧ word ≤ w.upper.toWord ∧ d = .ofWord word
  /-- That is every nanosecond from the lower to the upper end, and no other. -/
  delays : ∀ d, (∃ tape, (w.draw tape).1 = d) ↔
    w.lower.total ≤ d.total ∧ d.total ≤ w.upper.total
  rows : ∀ ds : List Duration, (∃ tape, w.draws ds.length tape = ds) ↔
    ∀ d ∈ ds, w.lower.total ≤ d.total ∧ d.total ≤ w.upper.total

theorem isExact_of_around (h : around interval jitter = .ok w) : w.IsExact interval jitter := by
  obtain ⟨hlower, hupper⟩ := total_of_around h
  exact {
    lower := by omega
    upper := hupper
    positive := w.lower_pos
    ordered := w.lower_le_upper
    lowerWord := w.toNat_lower
    upperWord := w.toNat_upper
    words := w.toWord_le
    drawn := fun _ => exists_draw_iff.trans contains_iff_exists_word
    delays := fun _ => exists_draw_iff.trans contains_iff
    rows := fun _ => exists_draws_iff.trans (forall₂_congr fun _ _ => contains_iff) }

/-- **Windows are exact and never overflow.** Around any interval and jitter there
is a window just when the interval is positive, the jitter is shorter, and their
sum is at most `2 ^ 64 - 1` nanoseconds; if there is none, the fault names the first
of these conditions that fails. The window goes from the interval less the jitter
to the interval plus the jitter, exactly. Both ends fit 64-bit words, the words
between them are those that are drawn, and the delays drawn are all nanoseconds
of the window and nothing else, also in a row. With the jitter that is derived
from an interval, there is a window just when the interval is positive and, from
five seconds on, three more seconds still fit. -/
theorem window_exact (interval jitter : Duration) :
    ((∃ w, around interval jitter = .ok w) ↔
      0 < interval.total ∧ jitter.total < interval.total ∧
        interval.total + jitter.total ≤ UInt64.size - 1) ∧
    (∀ fault, around interval jitter = .error fault ↔
      (fault = .zeroInterval interval ∧ ¬ 0 < interval.total) ∨
      (fault = .jitterTooLong interval jitter ∧
        0 < interval.total ∧ ¬ jitter.total < interval.total) ∨
      (fault = .windowTooLong interval jitter ∧
        0 < interval.total ∧ jitter.total < interval.total ∧
          ¬ interval.total + jitter.total ≤ UInt64.size - 1)) ∧
    (∀ w, around interval jitter = .ok w → w.IsExact interval jitter) ∧
    ((∃ w, around interval (derivedJitter interval) = .ok w) ↔
      0 < interval.total ∧ (interval.total < 5 * Duration.perSecond ∨
        interval.total + 3 * Duration.perSecond ≤ UInt64.size - 1)) :=
  ⟨exists_around_iff, fun _ => around_eq_error_iff, fun _ => isExact_of_around,
    exists_around_derived_iff⟩

/-- The widest window there is: it starts at one nanosecond, and its upper end is
the last one that fits. One nanosecond more, of the jitter or of the interval, and
there is none. -/
theorem window_exact_widest :
    (∃ w, around (.ofWord 0x8000000000000000) (.ofWord 0x7fffffffffffffff) = .ok w ∧
      w.IsExact (.ofWord 0x8000000000000000) (.ofWord 0x7fffffffffffffff) ∧
      ∃ tape, (w.draw tape).1 = .ofWord 0xffffffffffffffff) ∧
    around (.ofWord 0x8000000000000000) (.ofWord 0x8000000000000000) =
      .error (.jitterTooLong (.ofWord 0x8000000000000000) (.ofWord 0x8000000000000000)) ∧
    around (.ofWord 0x8000000000000001) (.ofWord 0x7fffffffffffffff) =
      .error (.windowTooLong (.ofWord 0x8000000000000001) (.ofWord 0x7fffffffffffffff)) := by
  refine ⟨?_, ?_, ?_⟩
  · obtain ⟨hexists, -, hexact, -⟩ :=
      window_exact (.ofWord 0x8000000000000000) (.ofWord 0x7fffffffffffffff)
    obtain ⟨w, hw⟩ := hexists.mpr (by simp [Duration.total_ofWord])
    have h := hexact w hw
    refine ⟨w, hw, h, (h.delays _).mpr ?_⟩
    rw [h.lower, h.upper]
    simp [Duration.total_ofWord]
  · refine ((window_exact _ _).2.1 _).mpr (.inr (.inl ⟨rfl, ?_⟩))
    simp [Duration.total_ofWord]
  · refine ((window_exact _ _).2.1 _).mpr (.inr (.inr ⟨rfl, ?_⟩))
    simp [Duration.total_ofWord]

end JitterWindow
end HostRotation
