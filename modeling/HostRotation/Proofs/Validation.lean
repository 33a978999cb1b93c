/-
# Two ways to validate one configuration

A record is checked when it is read (`Config.validate`), and its values are
checked again when settings are built from it (`Config.settings`). Neither calls
the other. What both are to report is said here once, apart from either: the
faults of a record in the order of the rules (`Config.faults`), of which the
first one counts.

Both report it (`reports_validate`, `reports_settings`), and the settings that
are built are those that carry the values of the record (`settings_eq_ok_iff`).
So a file is accepted just when settings can be built from what is written in it,
whatever reader finds that in its text (`ofFileWith_agrees`, `validation_agrees`).
-/
import HostRotation.Config.File
import HostRotation.Proofs.Windows

namespace HostRotation

/-! ### Reporting the first fault -/

section

variable {ε β γ : Type}

/-- A check fails just when there are faults, with the first of them. -/
def Reports (x : Except ε β) (faults : List ε) : Prop :=
  ∀ fault, x = .error fault ↔ faults.head? = some fault

theorem reports_ok (a : β) : Reports (.ok a : Except ε β) [] := by
  simp [Reports]

/-- Of two checks in a row, the second one counts if the first one succeeds. -/
theorem Reports.bind {x : Except ε β} {f : β → Except ε γ} {xs ys : List ε} (hx : Reports x xs)
    (hf : ∀ a, Reports (f a) ys) : Reports (x >>= f) (xs ++ ys) := by
  intro fault
  cases x with
  | error e =>
    have hhead : xs.head? = some e := (hx e).mp rfl
    rw [List.head?_append, hhead, Option.some_or, Option.some.injEq]
    exact Except.error.injEq e fault ▸ Iff.rfl
  | ok a =>
    have hnone : xs = [] := by
      cases xs with
      | nil => rfl
      | cons e es => exact absurd ((hx e).mpr rfl) (by simp)
    rw [hnone, List.nil_append]
    exact hf a fault

theorem Reports.ok_iff {x : Except ε β} {faults : List ε} (hx : Reports x faults) :
    (∃ a, x = .ok a) ↔ faults = [] := by
  cases x with
  | error e =>
    have hhead : faults.head? = some e := (hx e).mp rfl
    cases faults <;> simp at hhead ⊢
  | ok a =>
    cases faults with
    | nil => simp
    | cons e es => exact absurd ((hx e).mpr rfl) (by simp)

end

/-! ### The faults of a window -/

/-- What is wrong with an interval and its jitter, rule by rule. -/
def windowFaults (interval jitter : Duration) : List SettingsFault :=
  (if interval.total = 0 then [.zeroInterval interval] else []) ++
  (if interval.total ≤ jitter.total then [.jitterTooLong interval jitter] else []) ++
  (if UInt64.size ≤ interval.total + jitter.total then [.windowTooLong interval jitter] else [])

/-- A window is refused for the first of its faults. -/
theorem reports_around (interval jitter : Duration) :
    Reports (JitterWindow.around interval jitter) (windowFaults interval jitter) := by
  intro fault
  have hsize : UInt64.size ≤ Duration.limit := by decide
  -- One case for each way through the rules. The last two rules look at the ends
  -- of the window, which are sums and differences of totals.
  fun_cases JitterWindow.around interval jitter with
  | case1 hzero => simp [windowFaults, hzero]
  | case2 hpos hlower =>
    have hlong := Nat.le_of_lt (Duration.sub?_eq_none_iff.mp hlower)
    simp [windowFaults, hpos, hlong]
  | case3 hpos lower hlower hleft hupper =>
    obtain ⟨hle, hsub⟩ := Duration.sub?_eq_some_iff.mp hlower
    have hshort : ¬ interval.total ≤ jitter.total := by omega
    have hlong := Nat.le_trans hsize (Duration.add?_eq_none_iff.mp hupper)
    simp [windowFaults, hpos, hshort, hlong]
  | case4 hpos lower hlower hleft upper hupper hfits =>
    obtain ⟨hle, hsub⟩ := Duration.sub?_eq_some_iff.mp hlower
    have hshort : ¬ interval.total ≤ jitter.total := by omega
    have hfits' := Nat.not_le.mpr hfits
    rw [Duration.add?_eq_some_iff.mp hupper] at hfits'
    simp [windowFaults, hpos, hshort, hfits']
  | case5 hpos lower hlower hleft upper hupper hlong =>
    obtain ⟨hle, hsub⟩ := Duration.sub?_eq_some_iff.mp hlower
    have hshort : ¬ interval.total ≤ jitter.total := by omega
    have hlong' := Nat.not_lt.mp hlong
    rw [Duration.add?_eq_some_iff.mp hupper] at hlong'
    simp [windowFaults, hpos, hshort, hlong']
  | case6 hpos lower hlower hleft =>
    obtain ⟨hle, hsub⟩ := Duration.sub?_eq_some_iff.mp hlower
    have hlong : interval.total ≤ jitter.total := by omega
    simp [windowFaults, hpos, hlong]

/-! ### The faults of a record -/

def thresholdFaults (threshold : Int) : List SettingsFault :=
  if threshold = 0 then [.zeroThreshold] else []

theorem reports_checkThreshold (threshold : Int) :
    Reports (checkThreshold threshold) (thresholdFaults threshold) := by
  intro fault
  unfold checkThreshold thresholdFaults
  split <;> simp

namespace Config

variable {c : Config} {settings : Settings}

/-- What is wrong with the values of a record, rule by rule. -/
def faults (c : Config) : List SettingsFault :=
  thresholdFaults c.health.threshold ++
    (windowFaults c.health.interval c.health.jitter ++
      windowFaults c.resubscribe.interval c.resubscribe.jitter)

theorem reports_validate (c : Config) : Reports c.validate c.faults := by
  refine (reports_checkThreshold _).bind fun _ => (reports_around _ _).bind fun _ => ?_
  have hlast := (reports_around c.resubscribe.interval c.resubscribe.jitter).bind
    fun _ => reports_ok ()
  rwa [List.append_nil] at hlast

theorem reports_settings (c : Config) : Reports c.settings c.faults := by
  refine (reports_checkThreshold _).bind fun _ => (reports_around _ _).bind fun window => ?_
  have hlast := (reports_around c.resubscribe.interval c.resubscribe.jitter).bind
    fun resubscribe => reports_ok ({
      linearSpace := c.linearSpace
      health := if 0 ≤ c.health.threshold then some ⟨window, c.health.threshold.toNat⟩ else none
      resubscribe } : Settings)
  rwa [List.append_nil] at hlast

/-! ### What settings carry -/

/-- Settings have the values of a record, and its windows. -/
structure Carries (c : Config) (settings : Settings) : Prop where
  linearSpace : settings.linearSpace = c.linearSpace
  health : ∃ window, c.health.window = .ok window ∧
    ∀ plan, settings.health = some plan → plan.window = window
  enabled : settings.health.isSome ↔ 0 < c.health.threshold
  threshold : ∀ plan, settings.health = some plan → (plan.threshold : Int) = c.health.threshold
  resubscribe : c.resubscribe.window = .ok settings.resubscribe

/-- A record says all there is to its settings. -/
theorem Carries.unique {settings' : Settings} (hs : c.Carries settings)
    (hs' : c.Carries settings') : settings = settings' := by
  obtain ⟨window, hwindow, hplan⟩ := hs.health
  obtain ⟨window', hwindow', hplan'⟩ := hs'.health
  obtain rfl := Except.ok.inj (hwindow.symm.trans hwindow')
  have hlinear := hs.linearSpace.trans hs'.linearSpace.symm
  have hresubscribe := Except.ok.inj (hs.resubscribe.symm.trans hs'.resubscribe)
  have hhealth : settings.health = settings'.health := by
    have hsome := hs.enabled.trans hs'.enabled.symm
    cases hp : settings.health with
    | none =>
      rw [hp] at hsome
      cases hp' : settings'.health with
      | none => rfl
      | some plan' => simp [hp'] at hsome
    | some plan =>
      obtain ⟨plan', hp'⟩ := Option.isSome_iff_exists.mp (hsome.mp (by simp [hp]))
      have hthreshold : plan.threshold = plan'.threshold :=
        Int.ofNat.inj ((hs.threshold plan hp).trans (hs'.threshold plan' hp').symm)
      rw [hp', Option.some.injEq, HealthPlan.mk.injEq]
      exact ⟨(hplan plan hp).trans (hplan' plan' hp').symm, hthreshold⟩
  rw [Settings.mk.injEq]
  exact ⟨hlinear, hhealth, hresubscribe⟩

/-- Settings that are built carry the record: a threshold that was checked is not
zero, so it is positive unless it is negative. -/
theorem carries_settings (hs : c.settings = .ok settings) : c.Carries settings := by
  obtain ⟨_, hthreshold, hs⟩ := SettingsBuilder.of_bind_eq_ok hs
  obtain ⟨window, hwindow, hs⟩ := SettingsBuilder.of_bind_eq_ok hs
  obtain ⟨resubscribe, hresubscribe, hs⟩ := SettingsBuilder.of_bind_eq_ok hs
  obtain rfl := Except.ok.inj hs
  have hzero : c.health.threshold ≠ 0 := by
    have hnone := (reports_checkThreshold c.health.threshold).ok_iff.mp ⟨_, hthreshold⟩
    intro hzero
    simp [thresholdFaults, hzero] at hnone
  refine ⟨rfl, ⟨window, hwindow, fun plan hp => ?_⟩, ?_, fun plan hp => ?_, hresubscribe⟩
  · change (if 0 ≤ c.health.threshold then some _ else none) = some plan at hp
    split at hp
    · exact (Option.some.inj hp) ▸ rfl
    · cases hp
  · change (if 0 ≤ c.health.threshold then some _ else none).isSome ↔ 0 < c.health.threshold
    split
    · simp only [Option.isSome_some, true_iff]
      omega
    · simp only [Option.isSome_none, Bool.false_eq_true, false_iff]
      omega
  · change (if 0 ≤ c.health.threshold then some _ else none) = some plan at hp
    split at hp
    · rename_i hsign
      exact (Option.some.inj hp) ▸ Int.toNat_of_nonneg hsign
    · cases hp

/-- Settings are built from a record just when it has no faults, and they are
the ones that carry it. -/
theorem settings_eq_ok_iff : c.settings = .ok settings ↔ c.faults = [] ∧ c.Carries settings := by
  constructor
  · intro hs
    exact ⟨(reports_settings c).ok_iff.mp ⟨settings, hs⟩, carries_settings hs⟩
  · rintro ⟨hnone, hcarries⟩
    obtain ⟨settings', hs⟩ := (reports_settings c).ok_iff.mpr hnone
    rw [hs, (carries_settings hs).unique hcarries]

/-! ### Files -/

section

variable (reader : String → Except String Config)

/-- The record that is written in a file, for a reader, whatever its values. -/
def written? : Except UnreadableFile ByteArray → Option Config
  | .error _ => none
  | .ok bytes => String.fromUTF8? bytes >>= fun text => (reader text).toOption

/-- A text is accepted just when there is a record in it, and that is valid. -/
theorem readWith_eq_ok_iff {text : String} :
    readWith reader text = .ok c ↔ (reader text).toOption = some c ∧ c.validate = .ok () := by
  unfold readWith
  cases hr : reader text with
  | error detail => simp [Except.toOption]
  | ok c' =>
    cases hv : c'.validate with
    | error fault =>
      simp only [hv, reduceCtorEq, Except.toOption, Option.some.injEq, false_iff, not_and]
      rintro rfl
      simp [hv]
    | ok _ =>
      simp only [hv, Except.ok.injEq, Except.toOption, Option.some.injEq]
      exact ⟨fun h => ⟨h, h ▸ hv⟩, fun h => h.1⟩

theorem readWith_eq_settings_iff {text : String} {fault : SettingsFault} :
    readWith reader text = .error (.settings fault) ↔
      ∃ c, (reader text).toOption = some c ∧ c.validate = .error fault := by
  unfold readWith
  cases hr : reader text with
  | error detail => simp [Except.toOption]
  | ok c' => cases hv : c'.validate <;> simp [Except.toOption, hv]

variable {opened : Except UnreadableFile ByteArray}

theorem ofFileWith_eq_ok_iff : ofFileWith reader opened = .ok c ↔
    written? reader opened = some c ∧ c.validate = .ok () := by
  cases opened with
  | error => simp [ofFileWith, written?]
  | ok bytes =>
    cases ht : String.fromUTF8? bytes with
    | none => simp [ofFileWith, written?, ht]
    | some text =>
      simp only [ofFileWith, written?, ht]
      exact readWith_eq_ok_iff reader

theorem ofFileWith_eq_settings_iff {fault : SettingsFault} :
    ofFileWith reader opened = .error (.settings fault) ↔
      ∃ c, written? reader opened = some c ∧ c.validate = .error fault := by
  cases opened with
  | error => simp [ofFileWith, written?]
  | ok bytes =>
    cases ht : String.fromUTF8? bytes with
    | none => simp [ofFileWith, written?, ht]
    | some text =>
      simp only [ofFileWith, written?, ht]
      exact readWith_eq_settings_iff reader

end

/-! ### Agreement -/

theorem validate_eq_ok_iff : c.validate = .ok () ↔ c.faults = [] := by
  rw [← c.reports_validate.ok_iff]
  exact ⟨fun h => ⟨(), h⟩, fun ⟨_, h⟩ => h⟩

theorem exists_settings_iff : (∃ settings, c.settings = .ok settings) ↔ c.faults = [] :=
  c.reports_settings.ok_iff

theorem validate_eq_error_iff {fault : SettingsFault} :
    c.validate = .error fault ↔ c.settings = .error fault :=
  (c.reports_validate fault).trans (c.reports_settings fault).symm

/-- With any reader, a file is accepted with the record that is written in it just
when settings can be built from that, and is refused for its values just when they
cannot. -/
theorem ofFileWith_agrees (reader : String → Except String Config)
    (opened : Except UnreadableFile ByteArray) :
    (ofFileWith reader opened = .ok c ↔
      written? reader opened = some c ∧ ∃ settings, c.settings = .ok settings) ∧
    ∀ fault, ofFileWith reader opened = .error (.settings fault) ↔
      ∃ c', written? reader opened = some c' ∧ c'.settings = .error fault := by
  constructor
  · rw [ofFileWith_eq_ok_iff, validate_eq_ok_iff, exists_settings_iff]
  · intro fault
    rw [ofFileWith_eq_settings_iff]
    exact exists_congr fun c' => and_congr_right fun _ => validate_eq_error_iff

/-- **Validation and construction agree.** A record is valid just when settings can
be built from it, that is when it has no faults; and if it has some, both fail
with the first of them. The settings that are built are exactly those that carry
the record: its linear part, its two windows, and a health plan just when the
threshold is positive, with that threshold. So reading a file returns a record
just when that is written in it and settings can be built from it, and refuses
one for its values just when building settings from it fails, with the same
fault. That is so whichever reader finds the record in the text of the file, and
for YAML files among them. -/
theorem validation_agrees (c : Config) :
    ((c.validate = .ok () ↔ ∃ settings, c.settings = .ok settings) ∧
      ((∃ settings, c.settings = .ok settings) ↔ c.faults = [])) ∧
    (∀ fault, (c.validate = .error fault ↔ c.settings = .error fault) ∧
      (c.settings = .error fault ↔ c.faults.head? = some fault)) ∧
    (∀ settings, c.settings = .ok settings ↔ c.faults = [] ∧ c.Carries settings) ∧
    (∀ (reader : String → Except String Config) (opened : Except UnreadableFile ByteArray),
      (ofFileWith reader opened = .ok c ↔
        written? reader opened = some c ∧ ∃ settings, c.settings = .ok settings) ∧
      ∀ fault, ofFileWith reader opened = .error (.settings fault) ↔
        ∃ c', written? reader opened = some c' ∧ c'.settings = .error fault) ∧
    ∀ opened,
      (ofFile opened = .ok c ↔
        written? ofYaml opened = some c ∧ ∃ settings, c.settings = .ok settings) ∧
      ∀ fault, ofFile opened = .error (.settings fault) ↔
        ∃ c', written? ofYaml opened = some c' ∧ c'.settings = .error fault :=
  ⟨⟨validate_eq_ok_iff.trans exists_settings_iff.symm, exists_settings_iff⟩,
    fun fault => ⟨validate_eq_error_iff, c.reports_settings fault⟩, fun _ => settings_eq_ok_iff,
    ofFileWith_agrees, ofFileWith_agrees ofYaml⟩

/-- Of a threshold of zero and a jitter that is too long, the threshold is
reported. -/
example : ({ health := { jitterMs := some 5000, threshold := 0 } } : Config).faults.head? =
    some .zeroThreshold := by decide

end Config
end HostRotation
