/-
# Configuration records

The configuration as a file holds it: intervals in whole milliseconds, the
hosts to resolve, and the address families to keep. `validate` accepts a
record exactly when settings can be built from it.
-/
import HostRotation.Settings
import HostRotation.Address.Family

namespace HostRotation

structure HealthConfig where
  intervalMs : UInt64 := 5000
  /-- Derived from the interval when absent. -/
  jitterMs : Option UInt64 := none
  /-- Negative turns health checks off, zero is refused. -/
  threshold : Int := 5
deriving DecidableEq

namespace HealthConfig

def interval (c : HealthConfig) : Duration := .ofMillis c.intervalMs

/-- The jitter given, or else the derived one. -/
def jitter (c : HealthConfig) : Duration :=
  match c.jitterMs with
  | some ms => .ofMillis ms
  | none => derivedJitter c.interval

def isEnabled (c : HealthConfig) : Bool := 0 < c.threshold

def window (c : HealthConfig) : Except SettingsFault JitterWindow :=
  JitterWindow.around c.interval c.jitter

end HealthConfig

structure ResubscribeConfig where
  intervalMs : UInt64 := 10000
  jitterMs : UInt64 := 3000
deriving DecidableEq

namespace ResubscribeConfig

def interval (c : ResubscribeConfig) : Duration := .ofMillis c.intervalMs

def jitter (c : ResubscribeConfig) : Duration := .ofMillis c.jitterMs

def window (c : ResubscribeConfig) : Except SettingsFault JitterWindow :=
  JitterWindow.around c.interval c.jitter

end ResubscribeConfig

structure Config where
  linearSpace : Nat := 16
  health : HealthConfig := {}
  resubscribe : ResubscribeConfig := {}
  /-- Entries `host:port`, resolved once. -/
  hosts : List String := []
  families : FamilyPolicy := .standard
deriving DecidableEq

namespace Config

/-- Checks the values of a record. -/
def validate (c : Config) : Except SettingsFault Unit := do
  checkThreshold c.health.threshold
  let _ ← c.health.window
  let _ ← c.resubscribe.window
  return ()

/-- The builder that holds the values of a record. -/
def builder (c : Config) : SettingsBuilder :=
  SettingsBuilder.withResubscribeInterval
    (SettingsBuilder.withThreshold
      (SettingsBuilder.withHealthInterval
        (SettingsBuilder.withLinearSpace {} c.linearSpace)
        c.health.interval c.health.jitter)
      c.health.threshold)
    c.resubscribe.interval c.resubscribe.jitter

/-- The settings of a record. -/
def settings (c : Config) : Except SettingsFault Settings := c.builder.build

end Config
end HostRotation
