import SubscriptionDesk.Negotiation
import SubscriptionDesk.Text.Blank

namespace SubscriptionDesk

structure NegotiationSettings where
  defaultMaximumLatencyMinutes : UInt32
  promptTitle : String
  overlapTitle : String
  deriving DecidableEq

structure MetadataSettings where
  facetTimeoutMillis : UInt64
  deriving DecidableEq

structure NotificationSettings where
  logSink : Bool
  channelCapacity : UInt64
  dispatcher : String
  deriving DecidableEq

structure Settings where
  negotiation : NegotiationSettings
  metadata : MetadataSettings
  notifications : NotificationSettings
  deriving DecidableEq

inductive SettingsFault where
  | unreadable
  | malformed
  | invalid (reason : String)
  deriving DecidableEq

def SettingsFault.message : SettingsFault → String
  | .unreadable => "config io error"
  | .malformed => "config parse error"
  | .invalid reason => "invalid config: " ++ reason

def NegotiationSettings.standard : NegotiationSettings where
  defaultMaximumLatencyMinutes := DeskConfig.standard.defaultMaximumLatency
  promptTitle := DeskConfig.standard.promptTitle
  overlapTitle := DeskConfig.standard.overlapTitle

def MetadataSettings.standard : MetadataSettings := ⟨30000⟩

def NotificationSettings.standard : NotificationSettings := ⟨true, 256, "log"⟩

def Settings.standard : Settings := ⟨.standard, .standard, .standard⟩

def longestTitle : Nat := 128

def longestDispatcher : Nat := 64

def largestLatencyLimit : UInt32 := 7 * minutesPerDay

def largestChannelCapacity : UInt64 := 65536

def isBlankText (text : String) : Bool := (Text.trimmedChars text.toList).isEmpty

def shortestFacetTimeout : UInt64 := 100

def longestFacetTimeout : UInt64 := 300000

def outOfBounds (field low high : String) : SettingsFault :=
  .invalid (field ++ " must be between " ++ low ++ " and " ++ high)

def checkTitle (field title : String) : Except SettingsFault Unit :=
  if isBlankText title then .error (.invalid (field ++ " must be non-empty"))
  else if longestTitle < title.utf8ByteSize then
    .error (.invalid (field ++ " exceeds max length"))
  else .ok ()

def NegotiationSettings.check (settings : NegotiationSettings) : Except SettingsFault Unit := do
  if settings.defaultMaximumLatencyMinutes = 0 ∨
      largestLatencyLimit < settings.defaultMaximumLatencyMinutes then
    .error (outOfBounds "negotiation.default_maximum_latency_minutes" "1"
      (toString largestLatencyLimit))
  checkTitle "negotiation.prompt_title" settings.promptTitle
  checkTitle "negotiation.overlap_title" settings.overlapTitle

def MetadataSettings.check (settings : MetadataSettings) : Except SettingsFault Unit :=
  if settings.facetTimeoutMillis < shortestFacetTimeout ∨
      longestFacetTimeout < settings.facetTimeoutMillis then
    .error (outOfBounds "metadata.facet_timeout_ms" (toString shortestFacetTimeout)
      (toString longestFacetTimeout))
  else .ok ()

def isDispatcherChar (c : Char) : Bool := c.isAlphanum || c == '-' || c == '_'

/-- Blanks around a dispatcher's name are left out of account. -/
def checkDispatcher (dispatcher : String) : Except SettingsFault Unit :=
  let trimmed := Text.trimmed dispatcher
  if trimmed.isEmpty then .error (.invalid "notifications.dispatcher must be non-empty")
  else if longestDispatcher < trimmed.utf8ByteSize then
    .error (.invalid "notifications.dispatcher exceeds max length")
  else if !trimmed.toList.all isDispatcherChar then
    .error (.invalid "notifications.dispatcher must use ascii letters, digits, '-' or '_'")
  else .ok ()

def NotificationSettings.check (settings : NotificationSettings) : Except SettingsFault Unit := do
  if settings.channelCapacity = 0 ∨ largestChannelCapacity < settings.channelCapacity then
    .error (outOfBounds "notifications.channel_capacity" "1" (toString largestChannelCapacity))
  checkDispatcher settings.dispatcher

namespace Settings

def check (settings : Settings) : Except SettingsFault Unit := do
  settings.negotiation.check
  settings.metadata.check
  settings.notifications.check

def deskConfig (settings : Settings) : DeskConfig where
  promptTitle := settings.negotiation.promptTitle
  overlapTitle := settings.negotiation.overlapTitle
  defaultMaximumLatency := settings.negotiation.defaultMaximumLatencyMinutes

end Settings

end SubscriptionDesk
