import SubscriptionDesk.Settings
import SubscriptionDesk.Toml.Reader

namespace SubscriptionDesk

namespace Toml

mutual

/-- Whether a value can be passed over: its numbers must have a value that is not too large. -/
def isTolerable : Toml → Bool
  | .int value => value.any fun value => decide (-Int.pow 2 127 ≤ value ∧ value < Int.pow 2 128)
  | .real value => value.isSome
  | .array items => allTolerable items
  | .table _ entries => entriesTolerable entries
  | .tables items => tablesTolerable items
  | _ => true

def allTolerable : List Toml → Bool
  | [] => true
  | item :: rest => isTolerable item && allTolerable rest

def entriesTolerable : List (String × Toml) → Bool
  | [] => true
  | (_, value) :: rest => isTolerable value && entriesTolerable rest

def tablesTolerable : List (List (String × Toml)) → Bool
  | [] => true
  | entries :: rest => entriesTolerable entries && tablesTolerable rest

end

def text? : Toml → Option String
  | .text value => some value
  | _ => none

def bool? : Toml → Option Bool
  | .bool value => some value
  | _ => none

def natBelow? (bound : Nat) : Toml → Option Nat
  | .int (some value) => if 0 ≤ value ∧ value < bound then some value.toNat else none
  | _ => none

def uint32? (value : Toml) : Option UInt32 := (natBelow? UInt32.size value).map UInt32.ofNat

def uint64? (value : Toml) : Option UInt64 := (natBelow? UInt64.size value).map UInt64.ofNat

def select (keys : List String) (entries : Entries) : Option (List (Option Toml)) :=
  if entriesTolerable (entries.filter fun entry => !keys.contains entry.1) then
    some (keys.map fun key => lookup key entries)
  else none

def positional (keys : List String) (items : List Toml) : List (Option Toml) :=
  (List.range keys.length).map fun index => items[index]?

/-- The fields of a section: a table, or a list of the values in the order of the keys. A moment
has no fields at all. -/
def section? (keys : List String) : Toml → Option (List (Option Toml))
  | .table _ entries => select keys entries
  | .array items => some (positional keys items)
  | .tables items => some (positional keys (items.map (.table .header)))
  | .moment => some (keys.map fun _ => none)
  | _ => none

def orDefault {α : Type} (default : α) (read : Toml → Option α) : Option Toml → Option α
  | none => some default
  | some value => read value

end Toml

open Toml

def NegotiationSettings.ofToml? (value : Toml) : Option NegotiationSettings := do
  let standard := NegotiationSettings.standard
  match ← section? ["default_maximum_latency_minutes", "prompt_title", "overlap_title"] value with
  | [latency, prompt, overlap] =>
      return ⟨← orDefault standard.defaultMaximumLatencyMinutes uint32? latency,
        ← orDefault standard.promptTitle text? prompt,
        ← orDefault standard.overlapTitle text? overlap⟩
  | _ => none

def MetadataSettings.ofToml? (value : Toml) : Option MetadataSettings := do
  match ← section? ["facet_timeout_ms"] value with
  | [timeout] => return ⟨← orDefault MetadataSettings.standard.facetTimeoutMillis uint64? timeout⟩
  | _ => none

def NotificationSettings.ofToml? (value : Toml) : Option NotificationSettings := do
  let standard := NotificationSettings.standard
  match ← section? ["log_sink", "channel_capacity", "dispatcher"] value with
  | [logSink, capacity, dispatcher] =>
      return ⟨← orDefault standard.logSink bool? logSink,
        ← orDefault standard.channelCapacity uint64? capacity,
        ← orDefault standard.dispatcher text? dispatcher⟩
  | _ => none

namespace Settings

def ofEntries? (entries : Entries) : Option Settings := do
  match ← select ["negotiation", "metadata", "notifications"] entries with
  | [negotiation, metadata, notifications] =>
      return ⟨← orDefault .standard NegotiationSettings.ofToml? negotiation,
        ← orDefault .standard MetadataSettings.ofToml? metadata,
        ← orDefault .standard NotificationSettings.ofToml? notifications⟩
  | _ => none

def parse (text : String) : Except SettingsFault Settings :=
  match (Toml.parse? text).bind ofEntries? with
  | none => .error .malformed
  | some settings =>
      match settings.check with
      | .ok () => .ok settings
      | .error fault => .error fault

end Settings

end SubscriptionDesk
