import SubscriptionDesk.Notice

namespace SubscriptionDesk

inductive SinkFault where
  | deliveryFailed (reason : String)
  | logWriteFailed (reason : String)
  deriving DecidableEq

def SinkFault.message : SinkFault → String
  | .deliveryFailed reason => "sink delivery failed: " ++ reason
  | .logWriteFailed reason => "log write failed: " ++ reason

structure Receipt where
  dispatcher : String
  sequence : UInt64
  kind : NoticeKind
  subscription : SubscriptionName
  deriving DecidableEq

def Receipt.deliveryId (receipt : Receipt) : String :=
  receipt.dispatcher ++ "-" ++ toString receipt.sequence

/-- Numbers the receipts of a dispatcher from one. -/
structure ReceiptBook where
  dispatcher : String
  issued : UInt64
  deriving DecidableEq

namespace ReceiptBook

def fresh (dispatcher : String) : ReceiptBook := ⟨dispatcher, 0⟩

def receipt (book : ReceiptBook) (notice : Notice) : Receipt where
  dispatcher := book.dispatcher
  sequence := book.issued + 1
  kind := notice.kind
  subscription := notice.subscription

def advance (book : ReceiptBook) : ReceiptBook := { book with issued := book.issued + 1 }

end ReceiptBook

inductive Delivery where
  | delivered (receipt : Receipt)
  | failed (fault : SinkFault)
  | aborted
  deriving DecidableEq

end SubscriptionDesk
