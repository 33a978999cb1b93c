/-
# Settings

What every balancer of one kind shares: how much of a pool is searched in
order, when and how unhealthy hosts are checked, and how long a resubscribe
waits. A builder collects the values; `build` validates them all at once and
reports the first fault: the threshold, the health check window, the
resubscribe window.
-/
import HostRotation.JitterWindow

namespace HostRotation

/-- How unhealthy hosts are checked. -/
structure HealthPlan where
  window : JitterWindow
  /-- So many failed connects in a row make a host unhealthy. -/
  threshold : Nat
deriving DecidableEq

/-- Validated settings. Without a health plan, no host is ever unhealthy. -/
structure Settings where
  /-- How many connections of a pool are searched in order. -/
  linearSpace : Nat
  health : Option HealthPlan
  resubscribe : JitterWindow
deriving DecidableEq

/-- A threshold is any number but zero; a negative one turns health checks
off. -/
def checkThreshold (threshold : Int) : Except SettingsFault Unit :=
  if threshold = 0 then .error .zeroThreshold else .ok ()

/-- Settings before validation, with the values used when nothing is said. -/
structure SettingsBuilder where
  linearSpace : Nat := 16
  healthInterval : Duration := defaultHealthInterval
  healthJitter : Duration := defaultHealthJitter
  threshold : Int := 5
  resubscribeInterval : Duration := defaultResubscribeInterval
  resubscribeJitter : Duration := defaultResubscribeJitter
deriving DecidableEq

namespace SettingsBuilder

def withLinearSpace (b : SettingsBuilder) (n : Nat) : SettingsBuilder :=
  { b with linearSpace := n }

def withHealthInterval (b : SettingsBuilder) (interval jitter : Duration) : SettingsBuilder :=
  { b with healthInterval := interval, healthJitter := jitter }

/-- An interval whose jitter is derived from it. -/
def withDerivedJitter (b : SettingsBuilder) (interval : Duration) : SettingsBuilder :=
  b.withHealthInterval interval (derivedJitter interval)

def withThreshold (b : SettingsBuilder) (threshold : Int) : SettingsBuilder :=
  { b with threshold }

def withResubscribeInterval (b : SettingsBuilder) (interval jitter : Duration) :
    SettingsBuilder :=
  { b with resubscribeInterval := interval, resubscribeJitter := jitter }

/-- Validates the settings. -/
def build (b : SettingsBuilder) : Except SettingsFault Settings := do
  checkThreshold b.threshold
  let window ← JitterWindow.around b.healthInterval b.healthJitter
  let resubscribe ← JitterWindow.around b.resubscribeInterval b.resubscribeJitter
  return {
    linearSpace := b.linearSpace
    health := if 0 ≤ b.threshold then some ⟨window, b.threshold.toNat⟩ else none
    resubscribe }

theorem of_bind_eq_ok {ε β γ : Type} {x : Except ε β} {f : β → Except ε γ} {c : γ}
    (h : x >>= f = .ok c) : ∃ a, x = .ok a ∧ f a = .ok c := by
  cases x with
  | error fault => cases h
  | ok a => exact ⟨a, rfl, h⟩

/-- Health checks are off just when the threshold is negative. -/
theorem health_build {b : SettingsBuilder} {settings : Settings} (hb : b.build = .ok settings) :
    settings.health = none ↔ b.threshold < 0 := by
  obtain ⟨_, -, hb⟩ := of_bind_eq_ok hb
  obtain ⟨_, -, hb⟩ := of_bind_eq_ok hb
  obtain ⟨_, -, hb⟩ := of_bind_eq_ok hb
  obtain rfl := Except.ok.inj hb
  by_cases hneg : 0 ≤ b.threshold
  · simp [hneg]
  · simp [hneg, Int.not_le.mp hneg]

end SettingsBuilder
end HostRotation
