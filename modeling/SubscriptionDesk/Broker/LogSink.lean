import SubscriptionDesk.Broker.Receipt
import SubscriptionDesk.Json
import SubscriptionDesk.Text.Utf8

namespace SubscriptionDesk

inductive WriteAnswer where
  | takesAll
  | takesAtMost (octets : Nat)
  | fails (reason : String)
  | interrupted
  | dies
  deriving DecidableEq

inductive WriteEnd where
  | complete
  | failed (reason : String)
  | died
  deriving DecidableEq

/-- A writer with what it took so far and with what it will do, which is to take all once nothing
else is laid down. -/
structure Writer where
  written : List UInt8
  flushes : Nat
  writes : List WriteAnswer
  flushFailures : List (Option String)
  dead : Bool
  deriving DecidableEq

namespace Writer

def fresh (writes : List WriteAnswer) (flushFailures : List (Option String)) : Writer where
  written := []
  flushes := 0
  writes := writes
  flushFailures := flushFailures
  dead := false

/-- Offers octets until all are taken: how that ends, what was taken, and what is still laid
down. -/
def offer : List WriteAnswer → List UInt8 → WriteEnd × List UInt8 × List WriteAnswer
  | [], octets => (.complete, octets, [])
  | answer :: answers, octets =>
      if octets.isEmpty then (.complete, [], answer :: answers)
      else
        match answer with
        | .takesAll => (.complete, octets, answers)
        | .takesAtMost limit =>
            if limit = 0 then (.failed "failed to write whole buffer", [], answers)
            else
              let (ending, taken, rest) := offer answers (octets.drop limit)
              (ending, octets.take limit ++ taken, rest)
        | .fails reason => (.failed reason, [], answers)
        | .interrupted => offer answers octets
        | .dies => (.died, [], answers)

def write (writer : Writer) (octets : List UInt8) : WriteEnd × Writer :=
  let (ending, taken, answers) := offer writer.writes octets
  (ending,
    { writer with
      written := writer.written ++ taken
      writes := answers
      dead := decide (ending = .died) })

def flush (writer : Writer) : Option String × Writer :=
  let flushed := { writer with flushes := writer.flushes + 1 }
  match writer.flushFailures with
  | [] => (none, flushed)
  | failure :: rest => (failure, { flushed with flushFailures := rest })

def text (writer : Writer) : String := Text.lossy writer.written

end Writer

def auditLine (notice : Notice) (receipt : Receipt) : String :=
  "\x7b\"delivery_id\":" ++ Json.quoted receipt.deliveryId ++
    ",\"dispatcher\":" ++ Json.quoted receipt.dispatcher ++
    ",\"sequence\":" ++ toString receipt.sequence ++
    ",\"kind\":" ++ Json.quoted notice.kind.label ++
    ",\"user\":" ++ Json.quoted notice.user.text ++
    ",\"subscription\":" ++ Json.quoted notice.subscription.text ++
    ",\"message\":" ++ Json.quoted notice.message ++ "\x7d"

/-- Writes an audit line for each notice. A number is used up even when the line is not written. -/
structure LogSink where
  writer : Writer
  book : ReceiptBook
  deriving DecidableEq

def LogSink.deliver (sink : LogSink) (notice : Notice) : Delivery × LogSink :=
  let receipt := sink.book.receipt notice
  let book := sink.book.advance
  if sink.writer.dead then
    (.failed (.logWriteFailed "log writer mutex poisoned"), ⟨sink.writer, book⟩)
  else
    match sink.writer.write (Text.octets (auditLine notice receipt ++ "\n")) with
    | (.died, writer) => (.aborted, ⟨writer, book⟩)
    | (.failed reason, writer) => (.failed (.logWriteFailed reason), ⟨writer, book⟩)
    | (.complete, writer) =>
        match writer.flush with
        | (some reason, writer) => (.failed (.logWriteFailed reason), ⟨writer, book⟩)
        | (none, writer) => (.delivered receipt, ⟨writer, book⟩)

end SubscriptionDesk
