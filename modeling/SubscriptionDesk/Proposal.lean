import SubscriptionDesk.Name

namespace SubscriptionDesk

structure Proposal where
  unscheduled : NameSet .subscription
  requiredLatency : UInt32
  /-- The largest size in kB that would fit, or zero when size is no limit. -/
  allowedSize : UInt64
  deriving DecidableEq

def Proposal.fits : Proposal := ⟨.empty, 0, 0⟩

def Proposal.hasUnscheduled (proposal : Proposal) : Bool := !proposal.unscheduled.isEmpty

inductive OverlapKind where
  | clear
  | partlyCovered
  | duplicate
  deriving DecidableEq

def OverlapKind.label : OverlapKind → String
  | .clear => "none"
  | .partlyCovered => "partial"
  | .duplicate => "duplicate"

structure OverlapReport where
  kind : OverlapKind
  names : NameSet .subscription
  deriving DecidableEq

def OverlapReport.clear : OverlapReport := ⟨.clear, .empty⟩

end SubscriptionDesk
