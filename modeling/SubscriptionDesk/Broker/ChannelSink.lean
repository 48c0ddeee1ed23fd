import SubscriptionDesk.Broker.Receipt

namespace SubscriptionDesk

structure ChannelMessage where
  notice : Notice
  receipt : Receipt
  deriving DecidableEq

/-- Queues notices for a receiver, up to a capacity. A number is used up even when there is no
room. -/
structure ChannelSink where
  capacity : Nat
  waiting : List ChannelMessage
  closed : Bool
  book : ReceiptBook
  deriving DecidableEq

namespace ChannelSink

def bounded (capacity : Nat) (dispatcher : String) : ChannelSink where
  capacity := max capacity 1
  waiting := []
  closed := false
  book := .fresh dispatcher

def deliver (sink : ChannelSink) (notice : Notice) : Delivery × ChannelSink :=
  let receipt := sink.book.receipt notice
  let numbered := { sink with book := sink.book.advance }
  if sink.closed then (.failed (.deliveryFailed "channel closed"), numbered)
  else if sink.capacity ≤ sink.waiting.length then
    (.failed (.deliveryFailed "no available capacity"), numbered)
  else (.delivered receipt, { numbered with waiting := sink.waiting ++ [⟨notice, receipt⟩] })

def receive (sink : ChannelSink) : Option ChannelMessage × ChannelSink :=
  match sink.waiting with
  | [] => (none, sink)
  | message :: rest => (some message, { sink with waiting := rest })

def shut (sink : ChannelSink) : ChannelSink := { sink with closed := true }

def close (sink : ChannelSink) : ChannelSink := { sink with waiting := [], closed := true }

end ChannelSink

end SubscriptionDesk
