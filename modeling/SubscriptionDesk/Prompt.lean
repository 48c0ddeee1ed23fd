import SubscriptionDesk.Proposal
import SubscriptionDesk.Subscription

namespace SubscriptionDesk

inductive Decision where
  | cancel
  | increaseLatency
  | editSubscriptions
  | forceApplyDeactivated
  | forceApplyUnscheduled
  deriving DecidableEq

namespace Decision

def all : List Decision :=
  [.cancel, .increaseLatency, .editSubscriptions, .forceApplyDeactivated, .forceApplyUnscheduled]

def label : Decision → String
  | .cancel => "cancel"
  | .increaseLatency => "increase_latency"
  | .editSubscriptions => "edit_subscriptions"
  | .forceApplyDeactivated => "force_apply_deactivated"
  | .forceApplyUnscheduled => "force_apply_unscheduled"

end Decision

structure Offer where
  decision : Decision
  text : String
  deriving DecidableEq

def onlySubjectUnscheduled (subject : Option Subscription)
    (unscheduled : NameSet .subscription) : Bool :=
  match subject with
  | some subscription => unscheduled.size == 1 && decide (subscription.name ∈ unscheduled)
  | none => false

/-- The text for a decision, given the required latency, the subject and the unscheduled names.
A decision without a text is not offered. -/
abbrev Wording :=
  Decision → UInt32 → Option Subscription → NameSet .subscription → Option String

/-- Forcing or editing is of no use when the subject alone does not fit, and a higher latency is of
use only then. -/
def standardWording : Wording := fun decision requiredLatency subject unscheduled =>
  let onlySubject := onlySubjectUnscheduled subject unscheduled
  let noun := if unscheduled.size == 1 then "subscription" else "subscriptions"
  match decision with
  | .cancel => some "Cancel the change"
  | .increaseLatency =>
      match subject with
      | some subscription =>
          if onlySubject && subscription.latency < requiredLatency then
            some ("Increase the latency on " ++ subscription.name.text ++ " to " ++
              toString requiredLatency ++ " minutes")
          else none
      | none => none
  | .editSubscriptions =>
      if onlySubject then none else some ("Edit the unscheduled " ++ noun)
  | .forceApplyDeactivated =>
      if onlySubject then none
      else some ("Apply the change and deactivate the unscheduled " ++ noun)
  | .forceApplyUnscheduled =>
      if onlySubject then none
      else some ("Apply the change and leave the " ++ noun ++ " unscheduled")

structure PromptConfiguration where
  title : String
  message : String
  requiredLatency : Option UInt32
  maximumLatency : Option UInt32
  maximumAllowedSize : Option UInt64
  subject : Option Subscription
  wouldBeUnscheduled : NameSet .subscription
  deriving DecidableEq

namespace PromptConfiguration

def single (title message : String) (requiredLatency maximumLatency : UInt32)
    (maximumAllowedSize : UInt64) (subject : Subscription)
    (wouldBeUnscheduled : NameSet .subscription) : PromptConfiguration where
  title := title
  message := message
  requiredLatency := some requiredLatency
  maximumLatency := some maximumLatency
  maximumAllowedSize := some maximumAllowedSize
  subject := some subject
  wouldBeUnscheduled := wouldBeUnscheduled

def batch (title message : String) (wouldBeUnscheduled : NameSet .subscription) :
    PromptConfiguration where
  title := title
  message := message
  requiredLatency := none
  maximumLatency := none
  maximumAllowedSize := none
  subject := none
  wouldBeUnscheduled := wouldBeUnscheduled

def onlySubject (configuration : PromptConfiguration) : Bool :=
  onlySubjectUnscheduled configuration.subject configuration.wouldBeUnscheduled

def nameLines (names : NameSet .subscription) : String :=
  String.join (names.texts.map fun name => "\n  " ++ name)

def batchMessage (unscheduled : NameSet .subscription) : String :=
  "The following subscriptions would not be fully scheduled:" ++ nameLines unscheduled

def singleMessage (subject : Subscription) (proposal : Proposal) : String :=
  if onlySubjectUnscheduled (some subject) proposal.unscheduled then
    "Subscription " ++ subject.name.text ++ " cannot be fully scheduled with a latency of " ++
      toString subject.latency ++ " minutes." ++
      (if 0 < proposal.requiredLatency then
        " A latency of " ++ toString proposal.requiredLatency ++ " minutes is required."
      else "") ++
      (if 0 < proposal.allowedSize then
        " The data set must be reduced to " ++ toString proposal.allowedSize ++ " kB or less."
      else "")
  else
    "Applying subscription " ++ subject.name.text ++
      " would leave other subscriptions unscheduled.\n" ++ batchMessage proposal.unscheduled

def ofProposal (title : String) (subscriptions : List Subscription) (proposal : Proposal)
    (defaultMaximumLatency : UInt32) : PromptConfiguration :=
  match subscriptions with
  | [subject] =>
      single title (singleMessage subject proposal) proposal.requiredLatency
        (subject.maximumLatency defaultMaximumLatency) proposal.allowedSize subject
        proposal.unscheduled
  | _ => batch title (batchMessage proposal.unscheduled) proposal.unscheduled

def latencyInQuestion (configuration : PromptConfiguration) (proposal : Proposal) : UInt32 :=
  configuration.requiredLatency.getD proposal.requiredLatency

def offers (configuration : PromptConfiguration) (wording : Wording) (proposal : Proposal) :
    List Offer :=
  Decision.all.filterMap fun decision =>
    match wording decision (configuration.latencyInQuestion proposal) configuration.subject
        configuration.wouldBeUnscheduled with
    | some text => some ⟨decision, text⟩
    | none => if decision = .cancel then some ⟨.cancel, "Cancel"⟩ else none

end PromptConfiguration

end SubscriptionDesk
