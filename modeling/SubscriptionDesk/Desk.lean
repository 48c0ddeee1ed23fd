import SubscriptionDesk.Instant
import SubscriptionDesk.Negotiation

namespace SubscriptionDesk

inductive Operation where
  | store (subscription : Subscription)
  | storeAdhoc (subscription : Subscription)
  | update (subscription : Subscription)
  | updateAll (batch : List Subscription)
  | activate (batch : List Subscription)
  | deactivate (batch : List Subscription)
  | delete (batch : List Subscription)
  | perform (batch : List Subscription)
  deriving DecidableEq

namespace Desk

open Negotiation

def turnDownInvalid? (batch : List Subscription) : Option Outcome :=
  batch.findSome? fun subscription =>
    match subscription.check with
    | .ok () => none
    | .error fault =>
        some (.turnedDown batch
          ("Subscription " ++ subscription.name.text ++ " is invalid: " ++ fault.message))

def turnDownNew? (subscription : Subscription) : Dialogue (Option Outcome) :=
  match turnDownInvalid? [subscription] with
  | some outcome => pure (some outcome)
  | none => do
      match ← Dialogue.call (.registry (.find subscription.name)) with
      | .ok none => pure none
      | .ok (some _) =>
          pure (some (.turnedDown [subscription]
            ("A subscription named " ++ subscription.name.text ++ " already exists.")))
      | .error _ => return some (← breakOff [subscription] .empty)

def summarised (outcome : Outcome) (subscription : Subscription) : Dialogue Outcome := do
  match ← Dialogue.call (.statusSummary subscription) with
  | .ok summary => pure { outcome with reply := outcome.reply.withStatusSummary summary }
  | .error _ => pure outcome

def withEstimate (reply : Reply) (summary : StatusSummary) (millis : Int64) : Reply :=
  Reply.withStatusSummary
    { reply with
      message := reply.message.map fun message =>
        message ++ "\nEstimated completion time: " ++ Instant.text millis }
    { summary with estimatedCompletionMillis := some millis }

def estimated (outcome : Outcome) (query : Subscription) : Dialogue Outcome := do
  let summary := match ← Dialogue.call (.statusSummary query) with
    | .ok summary => summary
    | .error _ => .empty
  match ← Dialogue.call (.estimate query) with
  | .ok (some millis) => pure { outcome with reply := withEstimate outcome.reply summary millis }
  | _ => pure { outcome with reply := outcome.reply.withStatusSummary summary }

/-- Goes on after a negotiation only if the change was carried out. -/
def afterChange (result : Except ServiceFault Outcome) (next : Outcome → Dialogue Outcome) :
    Dialogue (Except ServiceFault Outcome) :=
  match result with
  | .error fault => pure (.error fault)
  | .ok outcome =>
      if outcome.record.actionExecuted then do return .ok (← next outcome)
      else pure (.ok outcome)

def storeNew (config : DeskConfig) (wording : Wording) (user : UserId) (mutation : Mutation)
    (subscription : Subscription) (report : Outcome → Subscription → Dialogue Outcome) :
    Dialogue (Except ServiceFault Outcome) := do
  match ← turnDownNew? subscription with
  | some outcome => pure (.ok outcome)
  | none =>
      afterChange (← Negotiation.run config wording user mutation [subscription]) fun outcome => do
        notifyEach (fun stored => .standard .created user stored.name) outcome.subscriptions
        match outcome.subscriptions with
        | stored :: _ => report outcome stored
        | [] => pure outcome

def changeAll (config : DeskConfig) (wording : Wording) (user : UserId) (mutation : Mutation)
    (batch : List Subscription) (kind : Subscription → NoticeKind) :
    Dialogue (Except ServiceFault Outcome) := do
  afterChange (← Negotiation.run config wording user mutation batch) fun outcome => do
    notifyEach (fun changed => .standard (kind changed) user changed.name) outcome.subscriptions
    pure outcome

def update (config : DeskConfig) (wording : Wording) (user : UserId)
    (batch : List Subscription) : Dialogue (Except ServiceFault Outcome) :=
  match turnDownInvalid? batch with
  | some outcome => pure (.ok outcome)
  | none => changeAll config wording user .update batch fun _ => .updated

def activate (config : DeskConfig) (wording : Wording) (user : UserId)
    (batch : List Subscription) : Dialogue (Except ServiceFault Outcome) :=
  match turnDownInvalid? batch with
  | some outcome => pure (.ok outcome)
  | none =>
      -- a subscription may be off again after the negotiation
      changeAll config wording user .activate (batch.map Subscription.activate) fun changed =>
        if changed.isActive then .activated else .deactivated

def concluded (user : UserId) (kind : NoticeKind) (batch : List Subscription)
    (changes : List Change) (answer : Except RegistryFault Unit) :
    Dialogue (Except ServiceFault Outcome) := do
  match answer with
  | .error fault => pure (.error (.registry fault))
  | .ok () =>
      notifyEach (fun changed => .standard kind user changed.name) batch
      pure (.ok {
        reply := .success (completionMessage batch kind.label)
        subscriptions := batch
        record := { Record.empty with steps := [.actionExecuted], changes := changes } })

def deactivate (user : UserId) (batch : List Subscription) :
    Dialogue (Except ServiceFault Outcome) :=
  if batch.isEmpty then pure (.ok .noSubscriptions)
  else do
    -- turning off frees bandwidth, so that there is nothing to negotiate
    let batch := batch.map Subscription.deactivate
    let answer ← Dialogue.call (.registry (.updateAll user batch))
    concluded user .deactivated batch (batch.map fun subscription => .deactivated subscription.name)
      answer

def delete (user : UserId) (batch : List Subscription) : Dialogue (Except ServiceFault Outcome) :=
  if batch.isEmpty then pure (.ok .noSubscriptions)
  else do
    let batch := batch.map Subscription.markDeleted
    let answer ← Dialogue.call (.registry (.delete user batch))
    concluded user .deleted batch [] answer

end Desk

def Operation.run (config : DeskConfig) (wording : Wording) (user : UserId) :
    Operation → Dialogue (Except ServiceFault Outcome)
  | .store subscription =>
      Desk.storeNew config wording user .create subscription Desk.summarised
  | .storeAdhoc subscription =>
      Desk.storeNew config wording user .createQuery subscription.asAdhoc Desk.estimated
  | .update subscription => Desk.update config wording user [subscription]
  | .updateAll batch => Desk.update config wording user batch
  | .activate batch => Desk.activate config wording user batch
  | .deactivate batch => Desk.deactivate user batch
  | .delete batch => Desk.delete user batch
  | .perform batch => Negotiation.run config wording user .given batch

end SubscriptionDesk
