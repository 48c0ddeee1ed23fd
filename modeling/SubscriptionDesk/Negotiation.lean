import SubscriptionDesk.Dialogue
import SubscriptionDesk.Resolution

namespace SubscriptionDesk

structure DeskConfig where
  promptTitle : String
  overlapTitle : String
  defaultMaximumLatency : UInt32
  deriving DecidableEq

def DeskConfig.standard : DeskConfig where
  promptTitle := "Unable to Schedule"
  overlapTitle := "Subscription Overlap"
  defaultMaximumLatency := minutesPerDay

def completionMessage (batch : List Subscription) (verb : String) : String :=
  match batch with
  | [subscription] => "Subscription " ++ subscription.name.text ++ " has been " ++ verb ++ "."
  | _ => toString batch.length ++ " subscriptions have been " ++ verb ++ "."

inductive Mutation where
  | create
  | createQuery
  | update
  | activate
  | given
  deriving DecidableEq

namespace Mutation

def storeEach (user : UserId) : List Subscription → Dialogue (Except RegistryFault Unit)
  | [] => pure (.ok ())
  | subscription :: rest => do
      match ← Dialogue.call (.registry (.store user subscription)) with
      | .ok () => storeEach user rest
      | .error fault => pure (.error fault)

def storedMessage (mutation : Mutation) (batch : List Subscription) : String :=
  let name := (batch.head?.map fun subscription => subscription.name.text).getD ""
  match mutation with
  | .createQuery => "The query " ++ name ++ " was successfully stored."
  | .activate => completionMessage batch "activated"
  | .update => completionMessage batch "updated"
  | _ => "Subscription " ++ name ++ " has been created."

def run (mutation : Mutation) (user : UserId) (batch : List Subscription) :
    Dialogue (Except RegistryFault String) :=
  match mutation with
  | .create => do
      return (← storeEach user batch).map fun _ => mutation.storedMessage batch
  | .createQuery => do
      return (← storeEach user batch).map fun _ => mutation.storedMessage batch
  | .update => do
      return (← Dialogue.call (.registry (.updateAll user batch))).map fun _ =>
        mutation.storedMessage batch
  | .activate => do
      return (← Dialogue.call (.registry (.updateAll user batch))).map fun _ =>
        mutation.storedMessage batch
  | .given => Dialogue.call (.carryOut batch)

end Mutation

namespace Outcome

def noSubscriptionsMessage : String := "No subscriptions submitted"

def noSubscriptions : Outcome where
  reply := .success noSubscriptionsMessage
  subscriptions := []
  record := Record.empty.push .rejected

def turnedDown (batch : List Subscription) (message : String) : Outcome where
  reply := .rejected message
  subscriptions := batch
  record := Record.empty.push .rejected

def aborted (reply : Reply) (batch : List Subscription) (record : Record) : Outcome where
  reply := reply
  subscriptions := batch
  record := record.push .aborted

end Outcome

namespace Negotiation

def resetManager (record : Record) : Dialogue Record := do
  let record := record.push .reinitialized
  match ← Dialogue.call .resetManager with
  | .ok () => pure record
  | .error fault => pure (record.warn ("reinitialize failed: " ++ fault.message))

def breakOff (batch : List Subscription) (record : Record) : Dialogue Outcome := do
  return .aborted .failure batch (← resetManager record)

def notify (notice : Notice) : Dialogue Unit := do
  -- whether it arrives makes no difference
  let _ ← Dialogue.call (.notify notice)

def notifyEach (notice : Subscription → Notice) : List Subscription → Dialogue Unit
  | [] => pure ()
  | subscription :: rest => do
      notify (notice subscription)
      notifyEach notice rest

def overlapMessage (names : NameSet .subscription) : String :=
  "The subscription overlaps with the following subscriptions: " ++ names.joined ++
    ". The overlapping data will be retrieved more than once."

def duplicateMessage (names : NameSet .subscription) : String :=
  "This subscription is completely fulfilled by " ++ names.joined

def passOverlap (config : DeskConfig) (batch : List Subscription) (record : Record) :
    Dialogue (Except Outcome Record) :=
  match batch.filter Subscription.isActive with
  | [] => pure (.ok record)
  | candidates => do
      match ← Dialogue.call (.checkOverlap candidates) with
      | .error _ => return .error (← breakOff batch record)
      | .ok report =>
          let record := record.push (.overlapChecked report.kind)
          match report.kind with
          | .clear => return .ok record
          | .partlyCovered =>
              Dialogue.call (.showMessage config.overlapTitle (overlapMessage report.names))
              return .ok record
          | .duplicate =>
              return .error (.aborted (.rejected (duplicateMessage report.names)) batch record)

def execute (mutation : Mutation) (user : UserId) (batch : List Subscription) (record : Record) :
    Dialogue (Except ServiceFault (String × Record)) := do
  match ← mutation.run user batch with
  | .ok message => pure (.ok (message, record.push .actionExecuted))
  | .error fault =>
      -- the bandwidth manager has to forget the proposal
      let _ ← resetManager record
      pure (.error (.registry fault))

def flagUnscheduled (user : UserId) (record : Record) (name : SubscriptionName) :
    Dialogue Record := do
  match ← Dialogue.call (.registry (.find name)) with
  | .error fault =>
      pure (record.warn ("unable to load subscription " ++ name.text ++ ": " ++ fault.message))
  | .ok none => pure (record.warn ("subscription " ++ name.text ++ " not found in registry"))
  | .ok (some subscription) =>
      match ← Dialogue.call (.registry (.update user (subscription.markUnscheduled true))) with
      | .ok () => pure record
      | .error fault =>
          pure (record.warn
            ("unable to flag subscription " ++ name.text ++ " unscheduled: " ++ fault.message))

def flagEach (user : UserId) : List SubscriptionName → Record → Dialogue Record
  | [], record => pure record
  | name :: rest, record => do
      let record ← flagUnscheduled user record name
      notify (.standard .unscheduled user name)
      flagEach user rest record

def unconfirmedMessage : String :=
  "The change was stored, but the resulting schedule could not be confirmed."

def unscheduledLines (names : NameSet .subscription) : String :=
  if names.isEmpty then ""
  else
    "\n\nThe following subscriptions are not fully scheduled:" ++
      PromptConfiguration.nameLines names

def settle (user : UserId) (batch : List Subscription) (message : String) (record : Record) :
    Dialogue (String × Record) := do
  match ← Dialogue.call (.schedule batch) with
  | .error fault =>
      let record ← resetManager (record.warn ("schedule not confirmed: " ++ fault.message))
      pure (message ++ "\n\n" ++ unconfirmedMessage, record)
  | .ok unscheduled =>
      let record := record.push (.scheduled (UInt64.ofNat unscheduled.size))
      let record ← flagEach user unscheduled.members record
      pure (message ++ unscheduledLines unscheduled,
        { record with unscheduledAfterSchedule := unscheduled })

def noteDecision (record : Record) (offers : List Offer) (decision : Decision) : Record :=
  let record := record.push (.prompted decision)
  if offers.any fun offer => decide (offer.decision = decision) then record
  else record.warn ("response " ++ decision.label ++ " was not offered")

def notifyLatency (user : UserId) (plan : Plan) : Dialogue Unit :=
  match plan.latencyChange? with
  | some (name, before, after) => notify (.latencyChanged user name before after)
  | none => pure ()

def force (user : UserId) (mutation : Mutation) (batch : List Subscription) (plan : Plan)
    (record : Record) : Dialogue (Except ServiceFault Outcome) := do
  let batch := plan.applyTo batch
  let record := record.note plan
  notifyLatency user plan
  match ← execute mutation user batch record with
  | .error fault => pure (.error fault)
  | .ok (message, record) =>
      let (message, record) ← settle user batch message record
      pure (.ok ⟨.success message, batch, record⟩)

def abandon (batch : List Subscription) (names : Option (NameSet .subscription))
    (record : Record) : Dialogue Outcome := do
  match names with
  | some names =>
      Dialogue.call (.openManager names)
      pure (.aborted .abortEditing batch record)
  | none => pure (.aborted .abortEditing batch record)

def settleWithUser (config : DeskConfig) (wording : Wording) (user : UserId) (mutation : Mutation)
    (batch : List Subscription) (proposal : Proposal) (record : Record) :
    Dialogue (Except ServiceFault Outcome) := do
  let configuration :=
    PromptConfiguration.ofProposal config.promptTitle batch proposal config.defaultMaximumLatency
  let offers := configuration.offers wording proposal
  let decision ← Dialogue.call (.prompt configuration offers)
  let record := noteDecision record offers decision
  match decision.resolve batch proposal configuration with
  | .abort names => return .ok (← abandon batch names record)
  | .apply plan => force user mutation batch plan record

def propose (config : DeskConfig) (wording : Wording) (user : UserId) (mutation : Mutation)
    (batch : List Subscription) (record : Record) : Dialogue (Except ServiceFault Outcome) := do
  match ← Dialogue.call (.propose batch) with
  | .error _ => return .ok (← breakOff batch record)
  | .ok proposal =>
      let record := record.push (.proposed (UInt64.ofNat proposal.unscheduled.size))
      if proposal.hasUnscheduled then
        settleWithUser config wording user mutation batch proposal record
      else
        match ← execute mutation user batch record with
        | .error fault => pure (.error fault)
        | .ok (message, record) => pure (.ok ⟨.success message, batch, record⟩)

def clearedMarks (submitted : List Subscription) : List Change :=
  (submitted.filter Subscription.unscheduled).map fun subscription =>
    .clearedUnscheduled subscription.name

/-- Negotiates a change to a batch: an overlap check, a proposal, the user's decision if something
does not fit, and the change itself. -/
def run (config : DeskConfig) (wording : Wording) (user : UserId) (mutation : Mutation)
    (submitted : List Subscription) : Dialogue (Except ServiceFault Outcome) :=
  if submitted.isEmpty then pure (.ok .noSubscriptions)
  else do
    let batch := submitted.map fun subscription => subscription.markUnscheduled false
    let record := { Record.empty with changes := clearedMarks submitted }
    match ← passOverlap config batch record with
    | .error outcome => pure (.ok outcome)
    | .ok record => propose config wording user mutation batch record

end Negotiation

end SubscriptionDesk
