import SubscriptionDesk.Notice
import SubscriptionDesk.Outcome
import SubscriptionDesk.Stored.Subscription

namespace SubscriptionDesk

open Stored

def OverlapKind.all : List OverlapKind := [.clear, .partlyCovered, .duplicate]

def NoticeKind.all : List NoticeKind :=
  [.created, .updated, .activated, .deactivated, .deleted, .unscheduled]

instance : Stored OverlapKind where
  toJson kind := .text kind.label
  ofJson? _ := ofLabel? OverlapKind.all OverlapKind.label

instance : Stored Decision where
  toJson decision := .text decision.label
  ofJson? _ := ofLabel? Decision.all Decision.label

instance : Stored NoticeKind where
  toJson kind := .text kind.label
  ofJson? _ := ofLabel? NoticeKind.all NoticeKind.label

instance : Stored Proposal where
  toJson proposal := .object [
    ("unscheduled_subscriptions", toJson proposal.unscheduled),
    ("required_latency", toJson proposal.requiredLatency),
    ("required_data_set_size", toJson proposal.allowedSize)]
  ofJson? room json := do
    match ← fields? ["unscheduled_subscriptions", "required_latency", "required_data_set_size"]
        json with
    | [unscheduled, requiredLatency, allowedSize] =>
        return ⟨← required? room unscheduled, ← required? room requiredLatency,
          ← required? room allowedSize⟩
    | _ => none

instance : Stored OverlapReport where
  toJson report :=
    .object [("kind", toJson report.kind), ("subscription_names", toJson report.names)]
  ofJson? room json := do
    match ← fields? ["kind", "subscription_names"] json with
    | [kind, names] => return ⟨← required? room kind, ← required? room names⟩
    | _ => none

instance : Stored PromptConfiguration where
  toJson configuration := .object [
    ("title", toJson configuration.title),
    ("message", toJson configuration.message),
    ("required_latency", toJson configuration.requiredLatency),
    ("maximum_latency", toJson configuration.maximumLatency),
    ("maximum_allowed_size", toJson configuration.maximumAllowedSize),
    ("subscription", toJson configuration.subject),
    ("would_be_unscheduled", toJson configuration.wouldBeUnscheduled)]
  ofJson? room json := do
    match ← fields? ["title", "message", "required_latency", "maximum_latency",
        "maximum_allowed_size", "subscription", "would_be_unscheduled"] json with
    | [title, message, requiredLatency, maximumLatency, maximumAllowedSize, subject,
        wouldBeUnscheduled] =>
        return {
          title := ← required? room title
          message := ← required? room message
          requiredLatency := ← optional? room requiredLatency
          maximumLatency := ← optional? room maximumLatency
          maximumAllowedSize := ← optional? room maximumAllowedSize
          subject := ← optional? room subject
          wouldBeUnscheduled := ← required? room wouldBeUnscheduled }
    | _ => none

instance : Stored StatusSummary where
  toJson summary := .object [
    ("start_millis", toJson summary.startMillis),
    ("end_millis", toJson summary.endMillis),
    ("latency_minutes", toJson summary.latencyMinutes),
    ("data_size_kb", toJson summary.dataSizeKb),
    ("estimated_completion_millis", toJson summary.estimatedCompletionMillis)]
  ofJson? room json := do
    match ← fields? ["start_millis", "end_millis", "latency_minutes", "data_size_kb",
        "estimated_completion_millis"] json with
    | [startMillis, endMillis, latencyMinutes, dataSizeKb, estimatedCompletionMillis] =>
        return {
          startMillis := ← optional? room startMillis
          endMillis := ← optional? room endMillis
          latencyMinutes := ← required? room latencyMinutes
          dataSizeKb := ← required? room dataSizeKb
          estimatedCompletionMillis := ← optional? room estimatedCompletionMillis }
    | _ => none

instance : Stored Reply where
  toJson reply := .object [
    ("message", toJson reply.message),
    ("allow_further_editing", toJson reply.allowFurtherEditing),
    ("status_summary", toJson reply.statusSummary)]
  ofJson? room json := do
    match ← fields? ["message", "allow_further_editing", "status_summary"] json with
    | [message, allowFurtherEditing, statusSummary] =>
        return ⟨← optional? room message, ← required? room allowFurtherEditing,
          ← optional? room statusSummary⟩
    | _ => none

instance : Stored Step where
  toJson
    | .rejected => withTag "step" "rejected" []
    | .overlapChecked kind => withTag "step" "overlap_checked" [("kind", toJson kind)]
    | .proposed unscheduled => withTag "step" "proposed" [("unscheduled", toJson unscheduled)]
    | .prompted decision => withTag "step" "prompted" [("response", toJson decision)]
    | .actionExecuted => withTag "step" "action_executed" []
    | .scheduled unscheduled => withTag "step" "scheduled" [("unscheduled", toJson unscheduled)]
    | .reinitialized => withTag "step" "reinitialized" []
    | .aborted => withTag "step" "aborted" []
  ofJson? room json := do
    match ← tagged? "step" room json with
    | ("rejected", rest) => bare? .rejected rest
    | ("overlap_checked", rest) =>
        match ← fields? ["kind"] rest with
        | [some kind] =>
            return .overlapChecked (← ofLabelBeside? OverlapKind.all OverlapKind.label kind)
        | _ => none
    | ("proposed", rest) =>
        match ← fields? ["unscheduled"] rest with
        | [unscheduled] => return .proposed (← required? room unscheduled)
        | _ => none
    | ("prompted", rest) =>
        match ← fields? ["response"] rest with
        | [some decision] =>
            return .prompted (← ofLabelBeside? Decision.all Decision.label decision)
        | _ => none
    | ("action_executed", rest) => bare? .actionExecuted rest
    | ("scheduled", rest) =>
        match ← fields? ["unscheduled"] rest with
        | [unscheduled] => return .scheduled (← required? room unscheduled)
        | _ => none
    | ("reinitialized", rest) => bare? .reinitialized rest
    | ("aborted", rest) => bare? .aborted rest
    | _ => none

/-- Reads the name beside the tag of a change. -/
def Change.nameBeside? (room : Nat) (rest : Json) : Option SubscriptionName := do
  match ← fields? ["name"] rest with
  | [name] => required? room name
  | _ => none

instance : Stored Change where
  toJson
    | .clearedUnscheduled name => withTag "change" "cleared_unscheduled" [("name", toJson name)]
    | .latencyChanged name before after =>
        withTag "change" "latency_changed"
          [("name", toJson name), ("from", toJson before), ("to", toJson after)]
    | .activated name => withTag "change" "activated" [("name", toJson name)]
    | .markedUnscheduled name => withTag "change" "marked_unscheduled" [("name", toJson name)]
    | .deactivated name => withTag "change" "deactivated" [("name", toJson name)]
  ofJson? room json := do
    match ← tagged? "change" room json with
    | ("cleared_unscheduled", rest) => return .clearedUnscheduled (← Change.nameBeside? room rest)
    | ("latency_changed", rest) =>
        match ← fields? ["name", "from", "to"] rest with
        | [name, before, after] =>
            return .latencyChanged (← required? room name) (← required? room before)
              (← required? room after)
        | _ => none
    | ("activated", rest) => return .activated (← Change.nameBeside? room rest)
    | ("marked_unscheduled", rest) => return .markedUnscheduled (← Change.nameBeside? room rest)
    | ("deactivated", rest) => return .deactivated (← Change.nameBeside? room rest)
    | _ => none

instance : Stored Record where
  toJson record := .object [
    ("steps", toJson record.steps),
    ("changes", toJson record.changes),
    ("warnings", toJson record.warnings),
    ("unscheduled_after_schedule", toJson record.unscheduledAfterSchedule)]
  ofJson? room json := do
    match ← fields? ["steps", "changes", "warnings", "unscheduled_after_schedule"] json with
    | [steps, changes, warnings, unscheduledAfterSchedule] =>
        return ⟨← required? room steps, ← required? room changes, ← required? room warnings,
          ← required? room unscheduledAfterSchedule⟩
    | _ => none

instance : Stored Notice where
  toJson notice := .object [
    ("kind", toJson notice.kind),
    ("user", toJson notice.user),
    ("subscription_name", toJson notice.subscription),
    ("message", toJson notice.message)]
  ofJson? room json := do
    match ← fields? ["kind", "user", "subscription_name", "message"] json with
    | [kind, user, subscription, message] =>
        return ⟨← required? room kind, ← required? room user, ← required? room subscription,
          ← required? room message⟩
    | _ => none

end SubscriptionDesk
