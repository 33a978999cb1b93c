/-
# Durations

A span of time: whole seconds in a 64-bit word and a fraction below one second,
in nanoseconds. Sums and differences that leave this range do not exist, so
`add?` and `sub?` say so instead of wrapping.

Every duration is determined by its total number of nanoseconds
(`ext_total`), and every total below `limit` has a duration (`ofNanos?`). Sums,
differences and halves are formed of the seconds and the fractions, and are
exact in the totals (`add?_eq_some_iff`, `sub?_eq_some_iff`, `total_half`).
-/

namespace HostRotation

namespace Duration

/-- Nanoseconds in a microsecond. -/
def perMicro : Nat := 1000

/-- Nanoseconds in a millisecond. -/
def perMilli : Nat := 1000000

/-- Nanoseconds in a second. -/
def perSecond : Nat := 1000000000

end Duration

/-- A span of time, exact to the nanosecond. -/
structure Duration where
  seconds : Nat
  nanos : Nat
  seconds_lt : seconds < UInt64.size
  nanos_lt : nanos < Duration.perSecond
deriving DecidableEq

namespace Duration

/-- The first total, in nanoseconds, that is no duration any more. -/
def limit : Nat := UInt64.size * perSecond

/-- All of it, in nanoseconds. -/
def total (d : Duration) : Nat := d.seconds * perSecond + d.nanos

theorem total_lt (d : Duration) : d.total < limit := by
  have h1 := d.seconds_lt
  have h2 := d.nanos_lt
  simp only [total, limit, perSecond, UInt64.size] at *
  omega

/-- The duration of a total that is in range. -/
def ofNanos (n : Nat) (h : n < limit) : Duration where
  seconds := n / perSecond
  nanos := n % perSecond
  seconds_lt := by simp only [limit, perSecond, UInt64.size] at *; omega
  nanos_lt := Nat.mod_lt _ (by decide)

@[simp] theorem total_ofNanos (n : Nat) (h : n < limit) : (ofNanos n h).total = n := by
  simp only [total, ofNanos, perSecond]
  omega

/-- Two durations of one total are one duration. -/
theorem ext_total {a b : Duration} (h : a.total = b.total) : a = b := by
  obtain ⟨s, n, hs, hn⟩ := a
  obtain ⟨t, m, ht, hm⟩ := b
  simp only [mk.injEq]
  simp only [total, perSecond] at hn hm h
  omega

/-- The duration of a total, if it is in range. -/
def ofNanos? (n : Nat) : Option Duration :=
  if h : n < limit then some (ofNanos n h) else none

theorem ofNanos?_eq_none_iff {n : Nat} : ofNanos? n = none ↔ limit ≤ n := by
  simp [ofNanos?]

theorem ofNanos?_eq_some_iff {n : Nat} {d : Duration} : ofNanos? n = some d ↔ d.total = n := by
  unfold ofNanos?
  constructor
  · intro h
    split at h
    · obtain rfl := Option.some.inj h
      exact total_ofNanos _ _
    · simp at h
  · intro h
    have hlt : n < limit := h ▸ d.total_lt
    simp only [hlt, ↓reduceDIte, Option.some.injEq]
    exact ext_total (by rw [total_ofNanos, h])

/-- No time at all. -/
def zero : Duration := ofNanos 0 (by decide)

/-- The longest duration. -/
def max : Duration := ofNanos (limit - 1) (by decide)

/-- Whole milliseconds, counted in a 64-bit word. -/
def ofMillis (ms : UInt64) : Duration :=
  ofNanos (ms.toNat * perMilli)
    (by have := ms.toNat_lt; simp only [limit, perMilli, perSecond, UInt64.size]; omega)

@[simp] theorem total_ofMillis (ms : UInt64) : (ofMillis ms).total = ms.toNat * perMilli :=
  total_ofNanos _ _

/-- Nanoseconds, counted in a 64-bit word. -/
def ofWord (n : UInt64) : Duration :=
  ofNanos n.toNat (by have := n.toNat_lt; simp only [limit, perSecond, UInt64.size]; omega)

@[simp] theorem total_ofWord (n : UInt64) : (ofWord n).total = n.toNat := total_ofNanos _ _

/-- The nanoseconds as a 64-bit word. Exact if they fit
(`toNat_toWord`). -/
def toWord (d : Duration) : UInt64 := UInt64.ofNat d.total

theorem toNat_toWord {d : Duration} (h : d.total < UInt64.size) : d.toWord.toNat = d.total :=
  UInt64.toNat_ofNat_of_lt' h

/-- The duration of seconds and a fraction, if the seconds are in range. -/
def ofParts? (seconds nanos : Nat) (h : nanos < perSecond) : Option Duration :=
  if hs : seconds < UInt64.size then some ⟨seconds, nanos, hs, h⟩ else none

/-- Seconds and a fraction are in range just when their total is. -/
theorem ofParts?_eq {seconds nanos : Nat} (h : nanos < perSecond) :
    ofParts? seconds nanos h = ofNanos? (seconds * perSecond + nanos) := by
  have hlimit : seconds < UInt64.size ↔ seconds * perSecond + nanos < limit := by
    simp only [limit, perSecond, UInt64.size] at h ⊢
    omega
  unfold ofParts? ofNanos?
  by_cases hs : seconds < UInt64.size
  · rw [dif_pos hs, dif_pos (hlimit.mp hs), Option.some.injEq]
    apply ext_total
    rw [total_ofNanos, total]
  · rw [dif_neg hs, dif_neg (mt hlimit.mpr hs)]

/-- The sum, if it is in range. Fractions that make a second carry. -/
def add? (a b : Duration) : Option Duration :=
  if h : a.nanos + b.nanos < perSecond then
    ofParts? (a.seconds + b.seconds) (a.nanos + b.nanos) h
  else
    ofParts? (a.seconds + b.seconds + 1) (a.nanos + b.nanos - perSecond)
      (by have := a.nanos_lt; have := b.nanos_lt; omega)

/-- The difference, if the second is no longer than the first. A fraction that is
too small borrows a second. -/
def sub? (a b : Duration) : Option Duration :=
  if h : b.nanos ≤ a.nanos then
    if b.seconds ≤ a.seconds then
      some {
        seconds := a.seconds - b.seconds
        nanos := a.nanos - b.nanos
        seconds_lt := by have := a.seconds_lt; omega
        nanos_lt := by have := a.nanos_lt; omega }
    else none
  else if b.seconds < a.seconds then
    some {
      seconds := a.seconds - b.seconds - 1
      nanos := a.nanos + perSecond - b.nanos
      seconds_lt := by have := a.seconds_lt; omega
      nanos_lt := by have := b.nanos_lt; omega }
  else none

/-- Durations are in the order of their seconds, then of their fractions. -/
theorem total_le_iff {a b : Duration} : a.total ≤ b.total ↔
    a.seconds < b.seconds ∨ a.seconds = b.seconds ∧ a.nanos ≤ b.nanos := by
  have ha := a.nanos_lt
  have hb := b.nanos_lt
  simp only [total, perSecond] at *
  omega

/-- A carry changes the parts of a sum, not its total. -/
theorem add?_eq (a b : Duration) : a.add? b = ofNanos? (a.total + b.total) := by
  unfold add?
  split
  · rw [ofParts?_eq]
    refine congrArg ofNanos? ?_
    simp only [total, perSecond]
    omega
  · rename_i hcarry
    rw [ofParts?_eq]
    refine congrArg ofNanos? ?_
    simp only [total, perSecond] at *
    omega

theorem add?_eq_some_iff {a b c : Duration} : a.add? b = some c ↔ c.total = a.total + b.total := by
  rw [add?_eq]
  exact ofNanos?_eq_some_iff

theorem add?_eq_none_iff {a b : Duration} : a.add? b = none ↔ limit ≤ a.total + b.total := by
  rw [add?_eq]
  exact ofNanos?_eq_none_iff

theorem sub?_eq_none_iff {a b : Duration} : a.sub? b = none ↔ a.total < b.total := by
  rw [← Nat.not_le, total_le_iff]
  unfold sub?
  split <;> split <;> simp only [reduceCtorEq, true_iff, false_iff] <;> omega

/-- A difference that exists is exact. -/
theorem total_of_sub? {a b c : Duration} (h : a.sub? b = some c) :
    c.total + b.total = a.total := by
  have ha := a.nanos_lt
  have hb := b.nanos_lt
  unfold sub? at h
  split at h <;> split at h <;> cases h <;> simp only [total, perSecond] at * <;> omega

theorem sub?_eq_some_iff {a b c : Duration} :
    a.sub? b = some c ↔ b.total ≤ a.total ∧ c.total = a.total - b.total := by
  constructor
  · intro h
    have hexact := total_of_sub? h
    omega
  · rintro ⟨hle, htotal⟩
    cases hd : a.sub? b with
    | none => exact absurd (sub?_eq_none_iff.1 hd) (Nat.not_lt.2 hle)
    | some d =>
      have hexact := total_of_sub? hd
      rw [Option.some.injEq]
      exact ext_total (by omega)

/-- Half of it, rounded down to a nanosecond. An odd second leaves half a second. -/
def half (d : Duration) : Duration where
  seconds := d.seconds / 2
  nanos := d.nanos / 2 + (d.seconds % 2 * perSecond + d.nanos % 2) / 2
  seconds_lt := by have := d.seconds_lt; omega
  nanos_lt := by have := d.nanos_lt; simp only [perSecond] at *; omega

@[simp] theorem total_half (d : Duration) : d.half.total = d.total / 2 := by
  simp only [total, half, perSecond]
  omega

end Duration
end HostRotation
