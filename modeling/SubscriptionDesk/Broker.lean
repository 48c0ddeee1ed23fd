import SubscriptionDesk.Broker.CallbackSink
import SubscriptionDesk.Broker.ChannelSink
import SubscriptionDesk.Broker.LogSink
import SubscriptionDesk.Fault

namespace SubscriptionDesk

inductive Sink where
  | log (sink : LogSink)
  | channel (sink : ChannelSink)
  | callback (sink : CallbackSink)
  -- the sink with that number once more
  | other (number : Nat)
  deriving DecidableEq

namespace Sink

def logDispatcher : String := "log"

def channelDispatcher : String := "channel"

def callbackDispatcher : String := "callback"

def logged : Sink → String × Nat
  | .log sink => (sink.writer.text, sink.writer.flushes)
  | _ => ("", 0)

end Sink

namespace Broker

variable {m : Type → Type} [Monad m] {ι : Type}

def faults (deliver : ι → Notice → m (Except SinkFault Receipt)) (notice : Notice) :
    List ι → m (List SinkFault)
  | [] => pure []
  | sink :: rest => do
      match ← deliver sink notice with
      | .ok _ => faults deliver notice rest
      | .error fault => return fault :: (← faults deliver notice rest)

def verdict : List SinkFault → Except NoticeFault Unit
  | [] => .ok ()
  | fault :: rest => .error ⟨"; ".intercalate ((fault :: rest).map SinkFault.message)⟩

def send (deliver : ι → Notice → m (Except SinkFault Receipt)) (registered : List ι)
    (notice : Notice) : m (Except NoticeFault Unit) :=
  return verdict (← faults deliver notice registered)

end Broker

/-- A target died, and the call that it was in never returns. -/
inductive Abort where
  | abort
  deriving DecidableEq

/-- Sinks by number, those that are registered in order (one may be registered more than once), and
the calls of listeners in order. -/
structure Switchboard where
  sinks : List Sink
  registered : List Nat
  calls : List (Nat × SubscriptionName)
  deriving DecidableEq

inductive Reception (σ : Type) where
  | closed
  | empty
  | message (found : ChannelMessage) (after : σ)

namespace Switchboard

def empty : Switchboard := ⟨[], [], []⟩

def target (board : Switchboard) (number : Nat) : Nat :=
  match board.sinks[number]? with
  | some (.other number) => number
  | _ => number

def add (board : Switchboard) (sink : Sink) (registered : Bool) : Switchboard :=
  let number := match sink with
    | .other number => board.target number
    | _ => board.sinks.length
  let sink := match sink with
    | .other number => .other (board.target number)
    | sink => sink
  { board with
    sinks := board.sinks ++ [sink]
    registered := board.registered ++ if registered then [number] else [] }

def ofSettings (logged : Bool) (capacity : Nat) (dispatcher : String) (writer : Writer) :
    Switchboard where
  sinks :=
    .channel (.bounded capacity Sink.channelDispatcher) ::
      if logged then [.log ⟨writer, .fresh dispatcher⟩] else []
  -- the log gets each notice before the channel does
  registered := if logged then [1, 0] else [0]
  calls := []

def hasSink (board : Switchboard) : Bool := !board.registered.isEmpty

def deliverTo (board : Switchboard) (number : Nat) (notice : Notice) : Delivery × Switchboard :=
  match board.sinks[number]? with
  | some (.log sink) =>
      let (delivery, sink) := sink.deliver notice
      (delivery, { board with sinks := board.sinks.set number (.log sink) })
  | some (.channel sink) =>
      let (delivery, sink) := sink.deliver notice
      (delivery, { board with sinks := board.sinks.set number (.channel sink) })
  | some (.callback sink) =>
      let (delivery, sink) := sink.deliver notice
      (delivery, { board with
        sinks := board.sinks.set number (.callback sink)
        calls := board.calls ++ [(number, notice.subscription)] })
  | _ => (.aborted, board)

def deliver (number : Nat) (notice : Notice) :
    ExceptT Abort (StateM Switchboard) (Except SinkFault Receipt) := do
  let board ← get
  let (delivery, after) := board.deliverTo (board.target number) notice
  set after
  match delivery with
  | .delivered receipt => return .ok receipt
  | .failed fault => return .error fault
  | .aborted => throw .abort

def send (notice : Notice) : ExceptT Abort (StateM Switchboard) (Except NoticeFault Unit) := do
  Broker.send deliver (← get).registered notice

def log (board : Switchboard) (number : Nat) : String × Nat :=
  (board.sinks[number]?.map Sink.logged).getD ("", 0)

def logs (board : Switchboard) : List (String × Nat) := board.sinks.map Sink.logged

def channel? (board : Switchboard) (number : Nat) : Option ChannelSink :=
  match board.sinks[board.target number]? with
  | some (.channel sink) => some sink
  | _ => none

def setChannel (board : Switchboard) (number : Nat) (sink : ChannelSink) : Switchboard :=
  { board with sinks := board.sinks.set (board.target number) (.channel sink) }

def receive (board : Switchboard) (number : Nat) : Option (Reception Switchboard) := do
  let channel ← board.channel? number
  match channel.receive with
  | (some message, channel) => return .message message (board.setChannel number channel)
  | (none, channel) => return if channel.closed then .closed else .empty

def shut (board : Switchboard) (number : Nat) : Option Switchboard :=
  (board.channel? number).map fun channel => board.setChannel number channel.shut

def close (board : Switchboard) (number : Nat) : Option Switchboard :=
  (board.channel? number).map fun channel => board.setChannel number channel.close

end Switchboard

end SubscriptionDesk
