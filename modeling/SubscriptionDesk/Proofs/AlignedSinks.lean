import SubscriptionDesk.Proofs.SinkLaws

/-!
# A log and a channel number alike

A broker hands each notice to a log and then to a channel. Each of them counts for itself, and
either may lose a notice without the other knowing of it. They stay aligned because both use up a
number for a notice that they lose: the number of a notice is its place in the row of all sends, in
the log as well as in the channel. What becomes of a notice in one of them has no influence on the
other, and this is shown by following each of them alone.
-/

namespace SubscriptionDesk

inductive BrokerMove where
  | send (notice : Notice)
  | receive
  | shut
  | leave

def BrokerMove.notice? : BrokerMove → Option Notice
  | .send notice => some notice
  | _ => none

def noticesOf (moves : List BrokerMove) : List Notice := moves.filterMap BrokerMove.notice?

theorem noticesOf_append {first second : List BrokerMove} :
    noticesOf (first ++ second) = noticesOf first ++ noticesOf second :=
  List.filterMap_append

/-- A channel with the messages that were received from it, and those that were waiting when the
receiver went. -/
structure Outlet where
  channel : ChannelSink
  received : List ChannelMessage
  lost : List ChannelMessage

namespace Outlet

def opened (capacity : Nat) : Outlet := ⟨.bounded capacity Sink.channelDispatcher, [], []⟩

def step (outlet : Outlet) : BrokerMove → Outlet
  | .send notice => { outlet with channel := (outlet.channel.deliver notice).2 }
  | .receive =>
      match outlet.channel.receive with
      | (some message, channel) =>
          { outlet with channel := channel, received := outlet.received ++ [message] }
      | (none, _) => outlet
  | .shut => { outlet with channel := outlet.channel.shut }
  | .leave =>
      { outlet with
        channel := outlet.channel.close
        lost := outlet.lost ++ outlet.channel.waiting }

def after (outlet : Outlet) (moves : List BrokerMove) : Outlet := moves.foldl step outlet

def taken (outlet : Outlet) : List ChannelMessage :=
  outlet.received ++ outlet.channel.waiting ++ outlet.lost

def numbered (entry : Notice × Nat) : ChannelMessage :=
  ⟨entry.1, .numbered Sink.channelDispatcher entry.1 entry.2⟩

/-- What is known of a channel to which so many notices were sent. -/
structure Sound (capacity count : Nat) (outlet : Outlet) : Prop where
  book : outlet.channel.book = .used Sink.channelDispatcher count
  size : outlet.channel.capacity = max capacity 1
  room : outlet.channel.waiting.length ≤ max capacity 1
  /-- Messages are lost with the receiver only, and then there will be no more. -/
  lost : outlet.lost = [] ∨ outlet.channel.closed = true ∧ outlet.channel.waiting = []

def added (outlet : Outlet) (count : Nat) : BrokerMove → List (Notice × Nat)
  | .send notice => if outlet.channel.Refuses then [] else [(notice, count + 1)]
  | _ => []

variable {outlet : Outlet} {capacity count : Nat} {moves : List BrokerMove} {notice : Notice}

theorem Sound.send (hsound : outlet.Sound capacity count) (notice : Notice) :
    (outlet.step (.send notice)).Sound capacity (count + 1) ∧
      (outlet.step (.send notice)).taken =
        outlet.taken ++ (outlet.added count (.send notice)).map numbered := by
  obtain ⟨hbook, hsize, hroom, hlost⟩ := hsound
  have hnext : outlet.channel.book.advance = .used Sink.channelDispatcher (count + 1) := by
    rw [hbook, ReceiptBook.advance_used]
  by_cases hrefuses : outlet.channel.Refuses
  · have hstep : outlet.step (.send notice) =
        { outlet with channel := { outlet.channel with book := outlet.channel.book.advance } } := by
      rw [step, ChannelSink.deliver_of_refuses hrefuses]
    rw [hstep]
    refine ⟨⟨hnext, hsize, hroom, hlost⟩, ?_⟩
    simp [taken, added, hrefuses]
  · have hstep : outlet.step (.send notice) =
        { outlet with
          channel :=
            { outlet.channel with
              book := outlet.channel.book.advance
              waiting := outlet.channel.waiting ++
                [⟨notice, outlet.channel.book.receipt notice⟩] } } := by
      rw [step, ChannelSink.deliver_of_not_refuses hrefuses]
    obtain ⟨hopen, hfits⟩ := not_or.mp hrefuses
    have hnothing : outlet.lost = [] := hlost.resolve_right fun hgone => hopen hgone.1
    rw [hstep]
    refine ⟨⟨hnext, hsize, ?_, .inl hnothing⟩, ?_⟩
    · rw [hsize] at hfits
      rw [List.length_append]
      exact Nat.lt_of_not_le hfits
    · simp [taken, added, hrefuses, hnothing, hbook, ReceiptBook.receipt_used, numbered]

theorem Sound.receive (hsound : outlet.Sound capacity count) :
    (outlet.step .receive).Sound capacity count ∧
      (outlet.step .receive).taken = outlet.taken := by
  obtain ⟨hbook, hsize, hroom, hlost⟩ := hsound
  cases hwaiting : outlet.channel.waiting with
  | nil =>
      have hstep : outlet.step .receive = outlet := by simp [step, ChannelSink.receive, hwaiting]
      rw [hstep]
      exact ⟨⟨hbook, hsize, hroom, hlost⟩, rfl⟩
  | cons message rest =>
      have hstep : outlet.step .receive =
          { outlet with
            channel := { outlet.channel with waiting := rest }
            received := outlet.received ++ [message] } := by
        simp [step, ChannelSink.receive, hwaiting]
      have hnothing : outlet.lost = [] := hlost.resolve_right fun hgone => by simp_all
      rw [hwaiting] at hroom
      rw [hstep]
      refine ⟨⟨hbook, hsize, Nat.le_of_succ_le hroom, .inl hnothing⟩, ?_⟩
      simp [taken, hwaiting]

theorem Sound.step (hsound : outlet.Sound capacity count) (move : BrokerMove) :
    (outlet.step move).Sound capacity (count + (noticesOf [move]).length) ∧
      (outlet.step move).taken = outlet.taken ++ (outlet.added count move).map numbered := by
  cases move with
  | send notice => exact hsound.send notice
  | receive =>
      obtain ⟨hafter, htaken⟩ := hsound.receive
      exact ⟨hafter, htaken.trans (List.append_nil _).symm⟩
  | shut =>
      obtain ⟨hbook, hsize, hroom, hlost⟩ := hsound
      exact ⟨⟨hbook, hsize, hroom, hlost.imp_right fun hgone => ⟨rfl, hgone.2⟩⟩,
        (List.append_nil _).symm⟩
  | leave =>
      obtain ⟨hbook, hsize, -, hlost⟩ := hsound
      refine ⟨⟨hbook, hsize, Nat.zero_le _, .inr ⟨rfl, rfl⟩⟩, ?_⟩
      rcases hlost with hnothing | ⟨-, hempty⟩
      · simp [Outlet.step, taken, ChannelSink.close, added, hnothing]
      · simp [Outlet.step, taken, ChannelSink.close, added, hempty]

theorem added_sublist (outlet : Outlet) (count : Nat) (move : BrokerMove) :
    (outlet.added count move).Sublist ((noticesOf [move]).zipIdx (count + 1)) := by
  cases move with
  | send notice =>
      by_cases hrefuses : outlet.channel.Refuses
      · rw [added, if_pos hrefuses]
        exact List.nil_sublist _
      · rw [added, if_neg hrefuses]
        exact List.Sublist.refl _
  | _ => exact List.Sublist.refl _

/-- The messages that the channel takes are those of some of the notices, with their numbers. -/
theorem Sound.after (hsound : outlet.Sound capacity count) (moves : List BrokerMove) :
    (outlet.after moves).Sound capacity (count + (noticesOf moves).length) ∧
      ∃ entries : List (Notice × Nat),
        entries.Sublist ((noticesOf moves).zipIdx (count + 1)) ∧
          (outlet.after moves).taken = outlet.taken ++ entries.map numbered := by
  induction moves generalizing outlet count with
  | nil => exact ⟨hsound, [], .slnil, (List.append_nil _).symm⟩
  | cons move rest ih =>
      obtain ⟨hnext, htaken⟩ := hsound.step move
      obtain ⟨hafter, entries, hentries, hlater⟩ := ih hnext
      have hnotices : noticesOf ([move] ++ rest) = noticesOf [move] ++ noticesOf rest :=
        noticesOf_append
      change noticesOf (move :: rest) = _ at hnotices
      rw [hnotices, List.length_append, ← Nat.add_assoc, List.zipIdx_append]
      refine ⟨hafter, outlet.added count move ++ entries, ?_, ?_⟩
      · refine (outlet.added_sublist count move).append ?_
        rwa [Nat.add_right_comm] at hentries
      · change ((outlet.step move).after rest).taken = _
        rw [hlater, htaken, List.map_append, List.append_assoc]

/-! #### Numbers of messages -/

variable {entries : List (Notice × Nat)} {notices : List Notice} {start : Nat}
  {message : ChannelMessage}

end Outlet

/-! ### The broker -/

structure BrokerCourse where
  board : Switchboard
  received : List ChannelMessage
  lost : List ChannelMessage

namespace BrokerCourse

def opened (capacity : Nat) (dispatcher : String) (writer : Writer) : BrokerCourse :=
  ⟨.ofSettings true capacity dispatcher writer, [], []⟩

def step (course : BrokerCourse) : BrokerMove → BrokerCourse
  | .send notice => { course with board := ((Switchboard.send notice).run course.board).2 }
  | .receive =>
      match course.board.receive 0 with
      | some (.message message board) =>
          { course with board := board, received := course.received ++ [message] }
      | _ => course
  | .shut => { course with board := (course.board.shut 0).getD course.board }
  | .leave =>
      { course with
        board := (course.board.close 0).getD course.board
        lost := course.lost ++ (course.board.channel? 0).elim [] ChannelSink.waiting }

def after (course : BrokerCourse) (moves : List BrokerMove) : BrokerCourse :=
  moves.foldl step course

def channel? (course : BrokerCourse) : Option ChannelSink := course.board.channel? 0

def log? (course : BrokerCourse) : Option LogSink :=
  match course.board.sinks[(1 : Nat)]? with
  | some (.log sink) => some sink
  | _ => none

def written (course : BrokerCourse) : List UInt8 :=
  course.log?.elim [] fun log => log.writer.written

def taken (course : BrokerCourse) : List ChannelMessage :=
  course.received ++ course.channel?.elim [] ChannelSink.waiting ++ course.lost

def joined (outlet : Outlet) (log : LogSink) : BrokerCourse where
  board := ⟨[.channel outlet.channel, .log log], [1, 0], []⟩
  received := outlet.received
  lost := outlet.lost

variable {outlet : Outlet} {log : LogSink} {notice : Notice} {moves : List BrokerMove}

theorem step_send (halive : (log.deliver notice).1 ≠ .aborted) :
    (joined outlet log).step (.send notice) =
      joined (outlet.step (.send notice)) (log.deliver notice).2 := by
  have hlog : (joined outlet log).board.deliverTo 1 notice =
      ((log.deliver notice).1, (joined outlet (log.deliver notice).2).board) := rfl
  have hchannel : (joined outlet (log.deliver notice).2).board.deliverTo 0 notice =
      ((outlet.channel.deliver notice).1,
        (joined (outlet.step (.send notice)) (log.deliver notice).2).board) := rfl
  have hboard : ((Switchboard.send notice).run (joined outlet log).board).2 =
      (joined (outlet.step (.send notice)) (log.deliver notice).2).board := by
    rw [Switchboard.run_send]
    calc ((Broker.faults Switchboard.deliver notice [1, 0]).run (joined outlet log).board).2
      _ = ((Broker.faults Switchboard.deliver notice [0]).run
            (joined outlet (log.deliver notice).2).board).2 :=
          Switchboard.run_faults_cons [0] (hlog ▸ halive)
      _ = ((Broker.faults Switchboard.deliver notice []).run
            (joined (outlet.step (.send notice)) (log.deliver notice).2).board).2 :=
          Switchboard.run_faults_cons [] (hchannel ▸ outlet.channel.deliver_ne_aborted)
      _ = _ := rfl
  rw [step, hboard]
  rfl

theorem step_receive : (joined outlet log).step .receive = joined (outlet.step .receive) log := by
  cases hwaiting : outlet.channel.waiting with
  | nil =>
      have hnone : outlet.step .receive = outlet := by
        simp [Outlet.step, ChannelSink.receive, hwaiting]
      rw [hnone, step]
      split
      · rename_i hreceived
        simp [joined, Switchboard.receive, Switchboard.channel?, Switchboard.target,
          ChannelSink.receive, hwaiting] at hreceived
        split at hreceived <;> contradiction
      · rfl
  | cons message rest =>
      simp [step, joined, Outlet.step, Switchboard.receive, Switchboard.channel?,
        Switchboard.target, Switchboard.setChannel, ChannelSink.receive, hwaiting]

variable {capacity : Nat} {dispatcher : String} {writer : Writer}

end BrokerCourse

end SubscriptionDesk
