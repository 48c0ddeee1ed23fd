import SubscriptionDesk.Broker.Receipt

namespace SubscriptionDesk

/-- Hands notices to a listener, which refuses some as laid down and takes the rest. Only notices
that the listener took use up numbers. -/
structure CallbackSink where
  answers : List (Option SinkFault)
  book : ReceiptBook
  deriving DecidableEq

namespace CallbackSink

def fresh (answers : List (Option SinkFault)) (dispatcher : String) : CallbackSink where
  answers := answers
  book := .fresh dispatcher

def deliver (sink : CallbackSink) (notice : Notice) : Delivery × CallbackSink :=
  let called := { sink with answers := sink.answers.tail }
  match sink.answers with
  | some fault :: _ => (.failed fault, called)
  | _ => (.delivered (sink.book.receipt notice), { called with book := sink.book.advance })

end CallbackSink

end SubscriptionDesk
