import SubscriptionDesk.Name

namespace SubscriptionDesk

inductive NoticeKind where
  | created
  | updated
  | activated
  | deactivated
  | deleted
  | unscheduled
  deriving DecidableEq

def NoticeKind.label : NoticeKind → String
  | .created => "created"
  | .updated => "updated"
  | .activated => "activated"
  | .deactivated => "deactivated"
  | .deleted => "deleted"
  | .unscheduled => "unscheduled"

structure Notice where
  kind : NoticeKind
  user : UserId
  subscription : SubscriptionName
  message : String
  deriving DecidableEq

namespace Notice

def standard (kind : NoticeKind) (user : UserId) (subscription : SubscriptionName) : Notice where
  kind := kind
  user := user
  subscription := subscription
  message :=
    match kind with
    | .unscheduled => "Subscription " ++ subscription.text ++ " is unscheduled."
    | _ => "Subscription " ++ subscription.text ++ " " ++ kind.label ++ " by " ++ user.text ++ "."

def latencyChanged (user : UserId) (subscription : SubscriptionName) (before after : UInt32) :
    Notice where
  kind := .unscheduled
  user := user
  subscription := subscription
  message := "The latency of subscription " ++ subscription.text ++ " was changed from " ++
    toString before ++ " to " ++ toString after ++ " minutes so that it can be scheduled."

section Contents

variable {kind : NoticeKind} {user other : UserId} {subscription named : SubscriptionName}
  {before after : UInt32}

@[simp]
theorem kind_standard : (standard kind user subscription).kind = kind := rfl

@[simp]
theorem user_standard : (standard kind user subscription).user = user := rfl

@[simp]
theorem subscription_standard :
    (standard kind user subscription).subscription = subscription := rfl

theorem message_standard_of_ne (hkind : kind ≠ .unscheduled) :
    (standard kind user subscription).message =
      "Subscription " ++ subscription.text ++ " " ++ kind.label ++ " by " ++ user.text ++ "." := by
  cases kind with
  | unscheduled => contradiction
  | _ => rfl

@[simp]
theorem kind_latencyChanged :
    (latencyChanged user subscription before after).kind = .unscheduled := rfl

@[simp]
theorem user_latencyChanged : (latencyChanged user subscription before after).user = user := rfl

@[simp]
theorem subscription_latencyChanged :
    (latencyChanged user subscription before after).subscription = subscription := rfl

end Contents

end Notice

end SubscriptionDesk
