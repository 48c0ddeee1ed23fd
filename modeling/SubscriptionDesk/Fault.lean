namespace SubscriptionDesk

inductive SubscriptionFault where
  | emptyName
  | areaNotFinite
  | areaInverted
  | noCycleHour
  | cycleHourOutOfRange
  | timeRangeInverted
  | periodInverted (field : String)
  | unknownPriority (text : String)
  deriving DecidableEq

def SubscriptionFault.message : SubscriptionFault → String
  | .emptyName => "subscription name must be non-empty"
  | .areaNotFinite => "invalid area: bounds must be finite"
  | .areaInverted => "invalid area: envelope is inverted"
  | .noCycleHour => "invalid time specification: at least one cycle hour is required"
  | .cycleHourOutOfRange => "invalid time specification: cycle hours must be between 0 and 23"
  | .timeRangeInverted => "invalid time specification: time range is inverted"
  | .periodInverted field => "invalid period: " ++ field ++ " starts after it ends"
  | .unknownPriority text => "invalid priority: " ++ text

structure RegistryFault where
  reason : String
  deriving DecidableEq

def RegistryFault.message (fault : RegistryFault) : String :=
  "registry handler error: " ++ fault.reason

structure BandwidthFault where
  reason : String
  deriving DecidableEq

def BandwidthFault.message (fault : BandwidthFault) : String :=
  "bandwidth service error: " ++ fault.reason

structure NoticeFault where
  reason : String
  deriving DecidableEq

def NoticeFault.message (fault : NoticeFault) : String :=
  "notification send failed: " ++ fault.reason

structure MetadataFault where
  reason : String
  deriving DecidableEq

def MetadataFault.message (fault : MetadataFault) : String :=
  "metadata query failed: " ++ fault.reason

/-- The one failure that ends an operation: the registry refused the change. -/
inductive ServiceFault where
  | registry (cause : RegistryFault)
  deriving DecidableEq

def ServiceFault.message : ServiceFault → String
  | .registry cause => "subscription registry failure: " ++ cause.message

theorem check_then_eq_ok_iff {φ α : Type} {first : Except φ Unit} {next : Except φ α} {a : α} :
    (do first; next) = .ok a ↔ first = .ok () ∧ next = .ok a := by
  cases first <;> simp [bind, Except.bind]

end SubscriptionDesk
