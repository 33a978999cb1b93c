/-
# Errors

What can go wrong, by cause. Every error has one message, and the errors it
was caused by, from the nearest to the first (`sources`). A rejection is an
error that says that no host could serve a selection; the caller may try
again.
-/
import HostRotation.Duration.Text

namespace HostRotation

/-- Why settings are refused. -/
inductive SettingsFault
  /-- A threshold of zero failed connects. -/
  | zeroThreshold
  /-- An interval of no time at all. -/
  | zeroInterval (interval : Duration)
  /-- A jitter that leaves nothing of the interval. -/
  | jitterTooLong (interval jitter : Duration)
  /-- An interval and a jitter whose sum does not fit 64 bits of nanoseconds. -/
  | windowTooLong (interval jitter : Duration)
  /-- Any other words: whoever hands an error over may have built it. -/
  | other (reason : String)
deriving DecidableEq

/-- The words for a refusal of settings. -/
def SettingsFault.text : SettingsFault → String
  | zeroThreshold => "health check failed connections threshold should not be 0"
  | zeroInterval i => "interval (" ++ i.text ++ ") must be positive"
  | jitterTooLong i j =>
    "interval (" ++ i.text ++ ") minus jitter (" ++ j.text ++ ") must be greater than 0"
  | windowTooLong i j =>
    "interval (" ++ i.text ++ ") plus jitter (" ++ j.text ++ ") must not overflow"
  | other reason => reason

/-- Why a selection that reached an active host was rejected. -/
inductive RejectionReason
  /-- The host left the table during the connect. -/
  | hostRemoved
  /-- The selector did not accept the connection that was opened for it. -/
  | refusedBySelector
  /-- Every connect of the pass failed. -/
  | noConnection (active : Nat)
  /-- Any other words: whoever hands an error over may have built it. -/
  | other (reason : String)
deriving DecidableEq

/-- The words for a rejection. -/
def RejectionReason.text : RejectionReason → String
  | hostRemoved => "host was removed while connecting"
  | refusedBySelector => "newly created connection was rejected by the selector"
  | noConnection active =>
    "failed to open a connection to any of " ++ toString active ++ " active hosts"
  | other reason => reason

/-- The errors of a balancer and of what surrounds it. -/
inductive BalancerError
  /-- The table is empty. -/
  | noAvailableHost (target : String)
  /-- No host of the table is active and none had a usable connection. -/
  | noActiveHost (target : String) (hosts : Nat)
  | connectionRejected (target : String) (reason : RejectionReason)
      (source : Option BalancerError)
  | connectFailed (address : String) (source : BalancerError)
  | closed (target : String)
  | settings (fault : SettingsFault)
  | closeFailed (failed total : Nat)
  | io (reason : String)
  /-- A settings file that is not of the expected form. -/
  | malformed (detail : String)
  /-- An error handed over by whoever opens connections. -/
  | foreign (text : String)

namespace BalancerError

/-- The message of an error. -/
def message : BalancerError → String
  | noAvailableHost target => "No hosts available for " ++ target
  | noActiveHost target hosts =>
    "No active hosts for " ++ target ++ ": all " ++ toString hosts ++
      " known hosts are expired or unhealthy"
  | connectionRejected target reason _ =>
    "Connection rejected for " ++ target ++ ": " ++ reason.text
  | connectFailed address source => "Failed to connect to " ++ address ++ ": " ++ source.message
  | closed target => "Load balancer for " ++ target ++ " is closed"
  | settings fault => "Configuration error: " ++ fault.text
  | closeFailed failed total =>
    "Failed to close " ++ toString failed ++ " of " ++ toString total ++ " connections"
  | io reason => "IO error: " ++ reason
  | malformed detail => "Serialization error: " ++ detail
  | foreign text => text

/-- The messages of the errors behind an error, the nearest first. -/
def sources : BalancerError → List String
  | connectionRejected _ _ (some source) => source.message :: source.sources
  | connectFailed _ source => source.message :: source.sources
  | io reason => [reason]
  | malformed detail => [detail]
  | _ => []

/-- Whether the error says that no host could serve a selection. -/
def isRejection : BalancerError → Bool
  | noAvailableHost _ | noActiveHost _ _ | connectionRejected _ _ _ => true
  | _ => false

end BalancerError
end HostRotation
