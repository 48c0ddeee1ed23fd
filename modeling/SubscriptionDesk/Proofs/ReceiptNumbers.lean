import SubscriptionDesk.Proofs.AuditReplay

/-!
# Numbers of receipts

Sinks number their receipts from one, and they differ in when they do so. A log and a channel make
out a receipt before they know whether the target takes the notice, so that the number of a receipt
is the place of its delivery among all that were tried. A listener is called first, and the number
is its place among those that succeeded. Either way no number comes twice, whichever of the clones a
delivery goes through, and the text of a receipt, though it runs dispatcher and number together, can
be taken apart again: there is no dash in a number.
-/

namespace SubscriptionDesk

/-! ### Texts of receipts -/

theorem dash_notMem_toDigits (n : Nat) : '-' ∉ Nat.toDigits 10 n := fun hmem =>
  absurd (Text.isDigit_of_mem_toDigits hmem) (by decide)

theorem Receipt.toList_deliveryId (receipt : Receipt) :
    receipt.deliveryId.toList =
      receipt.dispatcher.toList ++ '-' :: Nat.toDigits 10 receipt.sequence.toNat := by
  have hnumber : (toString receipt.sequence).toList = Nat.toDigits 10 receipt.sequence.toNat := by
    change (Nat.repr receipt.sequence.toNat).toList = _
    rw [Nat.toList_repr]
  simp [deliveryId, hnumber]

/-- What comes after the last dash of two equal texts is the same, and so is what comes before. -/
theorem append_dash_inj {first second front back : List Char} (hfront : '-' ∉ front)
    (hback : '-' ∉ back) (heq : first ++ '-' :: front = second ++ '-' :: back) :
    first = second ∧ front = back := by
  have hfirst : ∀ text tail : List Char, '-' ∉ tail →
      (text ++ '-' :: tail).reverse.takeWhile (· != '-') = tail.reverse := by
    intro text tail htail
    rw [List.reverse_append, List.reverse_cons, List.append_assoc,
      List.takeWhile_append_of_pos (by simpa using fun c hc => ne_of_mem_of_not_mem hc htail)]
    simp
  have hreverse := hfirst first front hfront
  rw [heq, hfirst second back hback] at hreverse
  obtain rfl := List.reverse_inj.mp hreverse
  exact ⟨List.append_cancel_right heq, rfl⟩

/-- A receipt is known by its text. -/
theorem Receipt.eq_of_deliveryId_eq {first second : Receipt}
    (heq : first.deliveryId = second.deliveryId) :
    first.dispatcher = second.dispatcher ∧ first.sequence = second.sequence := by
  have hlists := congrArg String.toList heq
  rw [toList_deliveryId, toList_deliveryId] at hlists
  obtain ⟨hdispatcher, hdigits⟩ :=
    append_dash_inj (dash_notMem_toDigits _) (dash_notMem_toDigits _) hlists
  have hnumbers := congrArg Text.digitsValue hdigits
  rw [Text.digitsValue_toDigits, Text.digitsValue_toDigits] at hnumbers
  exact ⟨String.toList_inj.mp hdispatcher, UInt64.toNat_inj.mp hnumbers⟩

/-! ### Single deliveries -/

def Delivery.receipt? : Delivery → Option Receipt
  | .delivered receipt => some receipt
  | _ => none

theorem LogSink.line_ne_nil (sink : LogSink) (notice : Notice) : sink.line notice ≠ [] := by
  refine List.ne_nil_of_mem (a := 10) (Text.newline_mem_octets.mpr ?_)
  simp

/-- Whether a log wrote the line of a notice whole and then flushed, by what it is afterwards. -/
def LogSink.Recorded (before : LogSink) (notice : Notice) (after : LogSink) : Prop :=
  after.writer.written = before.writer.written ++ before.line notice ∧
    after.writer.flushes = before.writer.flushes + 1 ∧
    before.writer.flushFailures.head?.join = none

theorem LogSink.receipt?_deliver (sink : LogSink) (notice : Notice) :
    (sink.deliver notice).1.receipt? = some (sink.book.receipt notice) ∧
        sink.Recorded notice (sink.deliver notice).2 ∨
      (sink.deliver notice).1.receipt? = none ∧
        ¬sink.Recorded notice (sink.deliver notice).2 := by
  have hwrite := sink.writer.write_complete_iff (sink.line notice)
  have hline := sink.line_ne_nil notice
  have hflushes : (sink.writer.write (sink.line notice)).2.flushes = sink.writer.flushes ∧
      (sink.writer.write (sink.line notice)).2.flushFailures = sink.writer.flushFailures :=
    ⟨rfl, rfl⟩
  unfold line at hwrite hline hflushes
  unfold Recorded line deliver
  dsimp only
  generalize Text.octets (auditLine notice (sink.book.receipt notice) ++ "\n") = octets at *
  split
  · refine .inr ⟨rfl, fun hrecorded => hline ?_⟩
    exact List.append_right_eq_self.mp hrecorded.1.symm
  · generalize sink.writer.write octets = written at *
    obtain ⟨ending, writer⟩ := written
    dsimp only at hwrite hflushes
    cases ending with
    | died => exact .inr ⟨rfl, fun hrecorded => nomatch hwrite.mpr hrecorded.1⟩
    | failed reason => exact .inr ⟨rfl, fun hrecorded => nomatch hwrite.mpr hrecorded.1⟩
    | complete =>
        have hwhole := hwrite.mp rfl
        obtain ⟨hcount, hfailures⟩ := hflushes
        dsimp only
        unfold Writer.flush
        rw [hfailures]
        cases sink.writer.flushFailures with
        | nil => exact .inl ⟨rfl, hwhole, congrArg (· + 1) hcount, rfl⟩
        | cons failure rest =>
            cases failure with
            | none => exact .inl ⟨rfl, hwhole, congrArg (· + 1) hcount, rfl⟩
            | some reason => exact .inr ⟨rfl, fun hrecorded => nomatch hrecorded.2.2⟩

def ChannelSink.Enqueued (before : ChannelSink) (notice : Notice) (after : ChannelSink) : Prop :=
  after.waiting = before.waiting ++ [⟨notice, before.book.receipt notice⟩]

theorem ChannelSink.receipt?_deliver (sink : ChannelSink) (notice : Notice) :
    (sink.deliver notice).1.receipt? = some (sink.book.receipt notice) ∧
        sink.Enqueued notice (sink.deliver notice).2 ∨
      (sink.deliver notice).1.receipt? = none ∧
        ¬sink.Enqueued notice (sink.deliver notice).2 := by
  have hmore : ∀ message, sink.waiting ≠ sink.waiting ++ [message] := by simp
  unfold Enqueued deliver
  dsimp only
  split
  · exact .inr ⟨rfl, hmore _⟩
  · split
    · exact .inr ⟨rfl, hmore _⟩
    · exact .inl ⟨rfl, rfl⟩

def CallbackSink.Agrees (sink : CallbackSink) : Prop := sink.answers.head?.join = none

theorem CallbackSink.receipt?_deliver (sink : CallbackSink) (notice : Notice) :
    (sink.deliver notice).1.receipt? = some (sink.book.receipt notice) ∧ sink.Agrees ∨
      (sink.deliver notice).1.receipt? = none ∧ ¬sink.Agrees := by
  unfold Agrees deliver
  match sink.answers with
  | [] | none :: _ => exact .inl ⟨rfl, rfl⟩
  | some _ :: _ => exact .inr ⟨rfl, nofun⟩

/-! ### Sinks of all kinds -/

namespace Sink

inductive Kind where
  | log
  | channel
  | callback
  | other (number : Nat)

def kind : Sink → Kind
  | .log _ => .log
  | .channel _ => .channel
  | .callback _ => .callback
  | .other number => .other number

def book? : Sink → Option ReceiptBook
  | .log sink => some sink.book
  | .channel sink => some sink.book
  | .callback sink => some sink.book
  | .other _ => none

/-- Hands a notice to a sink itself, which one that stands for another sink cannot take. -/
def deliver (sink : Sink) (notice : Notice) : Delivery × Sink :=
  match sink with
  | .log sink => ((sink.deliver notice).1, .log (sink.deliver notice).2)
  | .channel sink => ((sink.deliver notice).1, .channel (sink.deliver notice).2)
  | .callback sink => ((sink.deliver notice).1, .callback (sink.deliver notice).2)
  | .other number => (.aborted, .other number)

/-- Whether the target of a sink took a notice, by what the sink was before and is afterwards. -/
def Accepted (notice : Notice) : Sink → Sink → Prop
  | .log before, .log after => before.Recorded notice after
  | .channel before, .channel after => before.Enqueued notice after
  | .callback before, .callback _ => before.Agrees
  | _, _ => False

def Kind.counts : Kind → Delivery → Bool
  | .callback, delivery => delivery.receipt?.isSome
  | _, _ => true

variable {sink : Sink} {notice : Notice}

theorem kind_deliver : (sink.deliver notice).2.kind = sink.kind := by
  cases sink <;> rfl

/-- A receipt is the one that the book has next, and there is one just if the target took the
notice. -/
theorem receipt?_deliver (sink : Sink) (notice : Notice) :
    (∃ book, sink.book? = some book ∧
        (sink.deliver notice).1.receipt? = some (book.receipt notice) ∧
        Accepted notice sink (sink.deliver notice).2) ∨
      (sink.deliver notice).1.receipt? = none ∧
        ¬Accepted notice sink (sink.deliver notice).2 := by
  cases sink with
  | log sink => exact (sink.receipt?_deliver notice).imp_left fun htook => ⟨_, rfl, htook⟩
  | channel sink => exact (sink.receipt?_deliver notice).imp_left fun htook => ⟨_, rfl, htook⟩
  | callback sink => exact (sink.receipt?_deliver notice).imp_left fun htook => ⟨_, rfl, htook⟩
  | other number => exact .inr ⟨rfl, id⟩

theorem book?_deliver :
    (sink.deliver notice).2.book? =
      if sink.kind.counts (sink.deliver notice).1 then sink.book?.map ReceiptBook.advance
      else sink.book? := by
  cases sink with
  | log sink => exact congrArg some sink.book_deliver
  | channel sink =>
      change some (sink.deliver notice).2.book = some sink.book.advance
      unfold ChannelSink.deliver
      split
      · rfl
      · split <;> rfl
  | callback sink =>
      obtain ⟨answers, book⟩ := sink
      match answers with
      | [] | none :: _ | some _ :: _ => rfl
  | other number => rfl

end Sink

/-! ### Attempts -/

inductive SinkMove where
  | deliver (handle : Nat) (notice : Notice)
  | receive (handle : Nat)
  | shut (handle : Nat)
  | close (handle : Nat)

structure Attempt where
  handle : Nat
  notice : Notice
  before : Option Sink
  ending : Delivery
  after : Option Sink

namespace Attempt

def receipt? (attempt : Attempt) : Option Receipt := attempt.ending.receipt?

def book? (attempt : Attempt) : Option ReceiptBook := attempt.before.bind Sink.book?

def Accepted (attempt : Attempt) : Prop :=
  ∃ before after, attempt.before = some before ∧ attempt.after = some after ∧
    Sink.Accepted attempt.notice before after

end Attempt

namespace Switchboard

def tried (board : Switchboard) (handle : Nat) (notice : Notice) : Attempt :=
  let number := board.target handle
  { handle
    notice
    before := board.sinks[number]?
    ending := (board.deliverTo number notice).1
    after := (board.deliverTo number notice).2.sinks[number]? }

def moved (board : Switchboard) : SinkMove → Switchboard
  | .deliver handle notice => (board.deliverTo (board.target handle) notice).2
  | .receive handle =>
      match board.receive handle with
      | some (.message _ after) => after
      | _ => board
  | .shut handle => (board.shut handle).getD board
  | .close handle => (board.close handle).getD board

def attempt? (board : Switchboard) : SinkMove → Option Attempt
  | .deliver handle notice => some (board.tried handle notice)
  | _ => none

def attempts : Switchboard → List SinkMove → List Attempt
  | _, [] => []
  | board, move :: rest => (board.attempt? move).toList ++ (board.moved move).attempts rest

def attemptsAt (board : Switchboard) (moves : List SinkMove) (number : Nat) : List Attempt :=
  (board.attempts moves).filter fun attempt => board.target attempt.handle == number

def receiptsAt (board : Switchboard) (moves : List SinkMove) (number : Nat) : List Receipt :=
  (board.attemptsAt moves number).filterMap Attempt.receipt?

def Fresh (board : Switchboard) : Prop :=
  ∀ sink ∈ board.sinks, ∀ book ∈ sink.book?, book.issued = 0

def kinds (board : Switchboard) : List Sink.Kind := board.sinks.map Sink.kind

def bookOf (board : Switchboard) (number : Nat) : Option ReceiptBook :=
  board.sinks[number]?.bind Sink.book?

variable {board : Switchboard} {number handle : Nat} {notice : Notice} {sink : Sink}
  {moves : List SinkMove}

theorem set_self (hsink : board.sinks[number]? = some sink) :
    board.sinks.set number sink = board.sinks := by
  obtain ⟨hlt, rfl⟩ := List.getElem?_eq_some_iff.mp hsink
  exact List.set_getElem_self hlt

theorem deliverTo_of_some (notice : Notice) (hsink : board.sinks[number]? = some sink) :
    (board.deliverTo number notice).1 = (sink.deliver notice).1 ∧
      (board.deliverTo number notice).2.sinks =
        board.sinks.set number (sink.deliver notice).2 := by
  unfold deliverTo
  rw [hsink]
  cases sink with
  | other other => exact ⟨rfl, (set_self hsink).symm⟩
  | _ => exact ⟨rfl, rfl⟩

theorem deliverTo_of_none (hnone : board.sinks[number]? = none) :
    board.deliverTo number notice = (.aborted, board) := by
  unfold deliverTo
  rw [hnone]

theorem getElem?_of_channel? {channel : ChannelSink}
    (hfound : board.channel? handle = some channel) :
    board.sinks[board.target handle]? = some (.channel channel) := by
  unfold channel? at hfound
  split at hfound
  · rename_i hsink
    rw [hsink, Option.some_inj.mp hfound]
  · contradiction

/-- A move of the receiver changes at most a channel, and not its book. -/
theorem moved_of_receiver (board : Switchboard) {move : SinkMove}
    (hmove : ∀ handle notice, move ≠ .deliver handle notice) :
    board.moved move = board ∨
      ∃ handle channel changed, board.channel? handle = some channel ∧
        changed.book = channel.book ∧ board.moved move = board.setChannel handle changed := by
  cases move with
  | deliver handle notice => exact absurd rfl (hmove handle notice)
  | receive handle =>
      rw [moved, receive]
      cases hfound : board.channel? handle with
      | none => exact .inl rfl
      | some channel =>
          cases hwaiting : channel.waiting with
          | nil =>
              refine .inl ?_
              simp only [Option.bind_eq_bind, Option.bind_some, ChannelSink.receive, hwaiting]
              cases channel.closed <;> rfl
          | cons message rest =>
              refine .inr ⟨handle, channel, { channel with waiting := rest }, hfound, rfl, ?_⟩
              simp [ChannelSink.receive, hwaiting]
  | shut handle =>
      rw [moved, shut]
      cases hfound : board.channel? handle with
      | none => exact .inl rfl
      | some channel => exact .inr ⟨handle, channel, channel.shut, hfound, rfl, rfl⟩
  | close handle =>
      rw [moved, close]
      cases hfound : board.channel? handle with
      | none => exact .inl rfl
      | some channel => exact .inr ⟨handle, channel, channel.close, hfound, rfl, rfl⟩

theorem kinds_set {before after : Sink} (hbefore : board.sinks[number]? = some before)
    (hkind : after.kind = before.kind) :
    (board.sinks.set number after).map Sink.kind = board.sinks.map Sink.kind := by
  rw [List.map_set, hkind, ← List.map_set, set_self hbefore]

/-- What a number stands for, and what kind of sink that is, stays as it is. -/
theorem kinds_moved (board : Switchboard) (move : SinkMove) :
    (board.moved move).kinds = board.kinds := by
  by_cases hmove : ∃ handle notice, move = .deliver handle notice
  · obtain ⟨handle, notice, rfl⟩ := hmove
    rw [moved]
    cases hsink : board.sinks[board.target handle]? with
    | none => rw [deliverTo_of_none hsink]
    | some sink =>
        rw [kinds, (deliverTo_of_some _ hsink).2]
        exact kinds_set hsink Sink.kind_deliver
  · rcases board.moved_of_receiver fun handle notice heq => hmove ⟨handle, notice, heq⟩ with
      hsame | ⟨handle, channel, changed, hfound, -, hset⟩
    · rw [hsame]
    · rw [hset]
      exact kinds_set (getElem?_of_channel? hfound) rfl

theorem target_eq (board : Switchboard) (handle : Nat) :
    board.target handle =
      match board.kinds[handle]? with
      | some (.other number) => number
      | _ => handle := by
  rw [kinds, List.getElem?_map, target]
  cases board.sinks[handle]? with
  | none => rfl
  | some sink => cases sink <;> rfl

theorem target_moved (board : Switchboard) (move : SinkMove) (handle : Nat) :
    (board.moved move).target handle = board.target handle := by
  rw [target_eq, target_eq, kinds_moved]

/-- A book is changed by deliveries to its sink only. -/
theorem bookOf_moved {move : SinkMove}
    (hmove : ∀ handle notice, move = .deliver handle notice → board.target handle ≠ number) :
    (board.moved move).bookOf number = board.bookOf number := by
  by_cases hdelivery : ∃ handle notice, move = .deliver handle notice
  · obtain ⟨handle, notice, rfl⟩ := hdelivery
    rw [moved, bookOf, bookOf]
    cases hsink : board.sinks[board.target handle]? with
    | none => rw [deliverTo_of_none hsink]
    | some sink =>
        rw [(deliverTo_of_some _ hsink).2, List.getElem?_set_ne (hmove handle notice rfl)]
  · rcases board.moved_of_receiver fun handle notice heq => hdelivery ⟨handle, notice, heq⟩ with
      hsame | ⟨handle, channel, changed, hfound, hbook, hset⟩
    · rw [hsame]
    · have hsink := getElem?_of_channel? hfound
      rw [hset, setChannel, bookOf, bookOf, List.getElem?_set]
      split
      · rename_i heq
        rw [← heq, hsink, if_pos (List.getElem?_eq_some_iff.mp hsink).1]
        exact congrArg some hbook
      · rfl

theorem bookOf_deliver (notice : Notice)
    (hsink : board.sinks[board.target handle]? = some sink) :
    (board.moved (.deliver handle notice)).bookOf (board.target handle) =
      (sink.deliver notice).2.book? := by
  rw [moved, bookOf, (deliverTo_of_some _ hsink).2,
    List.getElem?_set_self (List.getElem?_eq_some_iff.mp hsink).1]
  rfl

/-! ### What becomes of an attempt -/

variable {attempt : Attempt} {move : SinkMove} {dispatcher : String} {count place : Nat}
  {kind : Sink.Kind}

theorem tried_of_some (hsink : board.sinks[board.target handle]? = some sink) :
    board.tried handle notice =
      ⟨handle, notice, some sink, (sink.deliver notice).1, some (sink.deliver notice).2⟩ := by
  obtain ⟨hending, hsinks⟩ := deliverTo_of_some notice hsink
  unfold tried
  simp only [hending, hsinks, hsink,
    List.getElem?_set_self (List.getElem?_eq_some_iff.mp hsink).1]

theorem tried_of_none (hnone : board.sinks[board.target handle]? = none) :
    board.tried handle notice = ⟨handle, notice, none, .aborted, none⟩ := by
  unfold tried
  simp only [deliverTo_of_none hnone, hnone]

theorem receipt?_tried (board : Switchboard) (handle : Nat) (notice : Notice) :
    (∃ book, (board.tried handle notice).book? = some book ∧
        (board.tried handle notice).receipt? = some (book.receipt notice) ∧
        (board.tried handle notice).Accepted) ∨
      (board.tried handle notice).receipt? = none ∧ ¬(board.tried handle notice).Accepted := by
  cases hsink : board.sinks[board.target handle]? with
  | none =>
      rw [tried_of_none hsink]
      exact .inr ⟨rfl, fun ⟨_, _, hbefore, _⟩ => nomatch hbefore⟩
  | some sink =>
      rw [tried_of_some hsink]
      refine (sink.receipt?_deliver notice).imp ?_ ?_
      · rintro ⟨book, hbook, hreceipt, htook⟩
        exact ⟨book, hbook, hreceipt, sink, _, rfl, rfl, htook⟩
      · rintro ⟨hreceipt, hrefused⟩
        refine ⟨hreceipt, ?_⟩
        rintro ⟨_, _, ⟨⟩, ⟨⟩, htook⟩
        exact hrefused htook

/-- Each attempt is made at a time when numbers still stand for the same sinks. -/
theorem exists_of_mem_attempts (hattempt : attempt ∈ board.attempts moves) :
    ∃ now : Switchboard, now.kinds = board.kinds ∧
      attempt = now.tried attempt.handle attempt.notice := by
  induction moves generalizing board with
  | nil => exact absurd hattempt List.not_mem_nil
  | cons move rest ih =>
      rcases List.mem_append.mp hattempt with hfirst | hlater
      · cases move with
        | deliver handle notice =>
            rw [List.mem_singleton.mp hfirst]
            exact ⟨board, rfl, rfl⟩
        | _ => exact absurd hfirst List.not_mem_nil
      · obtain ⟨now, hkinds, htried⟩ := ih hlater
        exact ⟨now, hkinds.trans (board.kinds_moved move), htried⟩

theorem receipt?_of_mem_attempts (hattempt : attempt ∈ board.attempts moves) :
    (∃ book, attempt.book? = some book ∧
        attempt.receipt? = some (book.receipt attempt.notice) ∧ attempt.Accepted) ∨
      attempt.receipt? = none ∧ ¬attempt.Accepted := by
  obtain ⟨now, -, htried⟩ := exists_of_mem_attempts hattempt
  rw [htried]
  exact now.receipt?_tried attempt.handle attempt.notice

/-! ### Counting -/

theorem attemptsAt_cons_of_ne
    (hmove : ∀ handle notice, move = .deliver handle notice → board.target handle ≠ number) :
    board.attemptsAt (move :: moves) number = (board.moved move).attemptsAt moves number := by
  simp only [attemptsAt, attempts, target_moved, List.filter_append]
  cases move with
  | deliver handle notice =>
      have hne : (board.target handle == number) = false :=
        beq_false_of_ne (hmove handle notice rfl)
      simp [attempt?, tried, hne]
  | _ => rfl

theorem attemptsAt_cons_deliver (handle : Nat) (notice : Notice) :
    board.attemptsAt (.deliver handle notice :: moves) (board.target handle) =
      board.tried handle notice ::
        (board.moved (.deliver handle notice)).attemptsAt moves (board.target handle) := by
  simp only [attemptsAt, attempts, target_moved, List.filter_append]
  simp [attempt?, tried]

/-- A sink finds its book with as many receipts made out as attempts before that count. -/
theorem book?_of_counted (hbook : board.bookOf number = some (.used dispatcher count))
    (hkind : board.kinds[number]? = some kind)
    (hplace : ((board.attemptsAt moves number).filter fun attempt =>
      kind.counts attempt.ending)[place]? = some attempt) :
    attempt.book? = some (.used dispatcher (count + place)) := by
  induction moves generalizing board count place with
  | nil => simp [attemptsAt, attempts] at hplace
  | cons move rest ih =>
      have hkept := board.kinds_moved move ▸ hkind
      by_cases hmove :
          ∃ handle notice, move = .deliver handle notice ∧ board.target handle = number
      · obtain ⟨handle, notice, rfl, rfl⟩ := hmove
        obtain ⟨sink, hsink, hused⟩ := Option.bind_eq_some_iff.mp hbook
        have hsame : sink.kind = kind := by simpa [kinds, hsink] using hkind
        have hafter := (bookOf_deliver notice hsink).trans sink.book?_deliver
        rw [hsame, hused] at hafter
        rw [attemptsAt_cons_deliver, List.filter_cons, tried_of_some hsink] at hplace
        split at hplace <;> rename_i hcounts
        · rw [if_pos hcounts] at hafter
          have hnext : (board.moved (.deliver handle notice)).bookOf (board.target handle) =
              some (.used dispatcher (count + 1)) :=
            hafter.trans (congrArg some ReceiptBook.advance_used)
          cases place with
          | zero =>
              obtain rfl := Option.some_inj.mp hplace
              exact hused
          | succ place =>
              rw [List.getElem?_cons_succ] at hplace
              rw [Nat.add_comm place, ← Nat.add_assoc]
              exact ih hnext hkept hplace
        · rw [if_neg hcounts] at hafter
          exact ih hafter hkept hplace
      · have hne : ∀ handle notice, move = .deliver handle notice →
            board.target handle ≠ number := fun handle notice heq htarget =>
          hmove ⟨handle, notice, heq, htarget⟩
        rw [attemptsAt_cons_of_ne hne] at hplace
        exact ih ((bookOf_moved hne).trans hbook) hkept hplace

theorem receipt?_of_not_counts {ending : Delivery} (hcounts : ¬kind.counts ending = true) :
    ending.receipt? = none := by
  cases kind with
  | callback => simpa [Sink.Kind.counts] using hcounts
  | _ => exact absurd rfl hcounts

theorem receiptsAt_eq_of_counted (board : Switchboard) (moves : List SinkMove) (number : Nat)
    (kind : Sink.Kind) :
    board.receiptsAt moves number =
      ((board.attemptsAt moves number).filter fun attempt =>
        kind.counts attempt.ending).filterMap Attempt.receipt? := by
  rw [receiptsAt, List.filterMap_filter]
  refine List.filterMap_congr fun attempt _ => ?_
  split
  · rfl
  · rename_i hcounts
    exact receipt?_of_not_counts hcounts

theorem exists_kind {book : ReceiptBook} (hbook : board.bookOf number = some book) :
    ∃ kind, board.kinds[number]? = some kind := by
  obtain ⟨sink, hsink, -⟩ := Option.bind_eq_some_iff.mp hbook
  exact ⟨sink.kind, by simp [kinds, hsink]⟩

theorem isSome_bookOf (board : Switchboard) (number : Nat) :
    (board.bookOf number).isSome =
      match board.kinds[number]? with
      | none | some (.other _) => false
      | some _ => true := by
  rw [kinds, List.getElem?_map, bookOf]
  cases board.sinks[number]? with
  | none => rfl
  | some sink => cases sink <;> rfl

/-- There are no receipts from what is no sink of its own. -/
theorem receiptsAt_of_none (hnone : board.bookOf number = none) :
    board.receiptsAt moves number = [] := by
  rw [receiptsAt, List.filterMap_eq_nil_iff]
  intro attempt hattempt
  obtain ⟨hmem, htarget⟩ := List.mem_filter.mp hattempt
  obtain ⟨now, hkinds, htried⟩ := exists_of_mem_attempts hmem
  rcases receipt?_of_mem_attempts hmem with ⟨book, hbook, -⟩ | ⟨hreceipt, -⟩
  · have hnumber : now.target attempt.handle = number := by
      rw [target_eq, hkinds, ← target_eq]
      exact eq_of_beq htarget
    have hfound : now.bookOf number = some book := by
      rw [← hnumber, ← hbook, htried]
      rfl
    have hsame : (now.bookOf number).isSome = (board.bookOf number).isSome := by
      rw [isSome_bookOf, isSome_bookOf, hkinds]
    rw [hfound, hnone] at hsame
    contradiction
  · exact hreceipt

/-! ### Numbers of receipts -/

theorem used_of_fresh {book : ReceiptBook} (hfresh : board.Fresh)
    (hbook : board.bookOf number = some book) :
    board.bookOf number = some (.used book.dispatcher 0) := by
  obtain ⟨sink, hsink, hfound⟩ := Option.bind_eq_some_iff.mp hbook
  obtain ⟨dispatcher, issued⟩ := book
  obtain rfl : issued = 0 := hfresh sink (List.mem_of_getElem? hsink) _ hfound
  exact hbook

section Numbers

variable (hfresh : board.Fresh) (hbound : (board.attempts moves).length < UInt64.size)

include hfresh hbound

/-- The receipt for an attempt that counts has the place of the attempt for its number. -/
theorem sequence_of_counted (hkind : board.kinds[number]? = some kind) {book : ReceiptBook}
    (hbook : board.bookOf number = some book)
    (hplace : ((board.attemptsAt moves number).filter fun attempt =>
      kind.counts attempt.ending)[place]? = some attempt) :
    ∃ found, attempt.book? = some found ∧
      (found.receipt attempt.notice).sequence.toNat = place + 1 ∧
      ∀ receipt, attempt.receipt? = some receipt → receipt = found.receipt attempt.notice := by
  have hfound := book?_of_counted (used_of_fresh hfresh hbook) hkind hplace
  rw [Nat.zero_add] at hfound
  have hlt : place < (board.attempts moves).length := by
    have hcounted := (List.getElem?_eq_some_iff.mp hplace).1
    have hfewer := List.length_filter_le (fun attempt => kind.counts attempt.ending)
      (board.attemptsAt moves number)
    have hall := List.length_filter_le (fun attempt => board.target attempt.handle == number)
      (board.attempts moves)
    exact Nat.lt_of_lt_of_le hcounted (Nat.le_trans hfewer hall)
  have hmem : attempt ∈ board.attempts moves :=
    (List.mem_filter.mp (List.mem_filter.mp (List.mem_of_getElem? hplace)).1).1
  refine ⟨_, hfound, ?_, fun receipt hreceipt => ?_⟩
  · rw [ReceiptBook.receipt_used]
    exact Receipt.toNat_sequence_numbered (by omega)
  · rcases receipt?_of_mem_attempts hmem with ⟨book', hbook', hmade, -⟩ | ⟨hnone, -⟩
    · rw [hfound] at hbook'
      obtain rfl := Option.some_inj.mp hbook'
      exact Option.some_inj.mp (hreceipt.symm.trans hmade)
    · rw [hreceipt] at hnone
      contradiction

theorem pairwise_receiptsAt (number : Nat) :
    (board.receiptsAt moves number).Pairwise fun first second =>
      first.sequence < second.sequence := by
  cases hbook : board.bookOf number with
  | none =>
      rw [receiptsAt_of_none hbook]
      exact List.Pairwise.nil
  | some book =>
      obtain ⟨kind, hkind⟩ := exists_kind hbook
      rw [receiptsAt_eq_of_counted board moves number kind, List.pairwise_filterMap,
        List.pairwise_iff_getElem]
      intro earlier later hearlier hlater hlt first hfirst second hsecond
      obtain ⟨_, -, hfirstNumber, hfirstMade⟩ := sequence_of_counted hfresh hbound hkind hbook
        (List.getElem?_eq_getElem hearlier)
      obtain ⟨_, -, hsecondNumber, hsecondMade⟩ := sequence_of_counted hfresh hbound hkind hbook
        (List.getElem?_eq_getElem hlater)
      rw [hfirstMade first hfirst, hsecondMade second hsecond, UInt64.lt_iff_toNat_lt,
        hfirstNumber, hsecondNumber]
      omega

end Numbers

structure Numbered (board : Switchboard) (moves : List SinkMove) : Prop where
  increasing : ∀ number, ((board.receiptsAt moves number).map Receipt.sequence).Pairwise (· < ·)
  distinct : ∀ number, ((board.receiptsAt moves number).map Receipt.deliveryId).Nodup
  /-- A log and a channel make out a receipt for each attempt, and its number is the place of the
  attempt. -/
  tried : ∀ number place attempt,
    (board.kinds[number]? = some .log ∨ board.kinds[number]? = some .channel) →
    (board.attemptsAt moves number)[place]? = some attempt →
    ∃ book, attempt.book? = some book ∧
      (book.receipt attempt.notice).sequence.toNat = place + 1 ∧
      ∀ receipt, attempt.ending = .delivered receipt → receipt = book.receipt attempt.notice
  /-- The number of a receipt from a listener is the place of the receipt. -/
  called : ∀ number place receipt, board.kinds[number]? = some .callback →
    (board.receiptsAt moves number)[place]? = some receipt → receipt.sequence.toNat = place + 1
  accepted : ∀ attempt ∈ board.attempts moves,
    (∃ receipt, attempt.ending = .delivered receipt) ↔ attempt.Accepted
  /-- Receipts of different sinks, too, are told apart. -/
  identified : ∀ first second : Receipt, first.deliveryId = second.deliveryId →
    first.dispatcher = second.dispatcher ∧ first.sequence = second.sequence

theorem exists_book_of_kind (hkind : board.kinds[number]? = some kind)
    (hown : ∀ other, kind ≠ .other other) : ∃ book, board.bookOf number = some book := by
  refine Option.isSome_iff_exists.mp ?_
  rw [isSome_bookOf, hkind]
  cases kind with
  | other other => exact absurd rfl (hown other)
  | _ => rfl

theorem delivered_iff_receipt? {ending : Delivery} {receipt : Receipt} :
    ending = .delivered receipt ↔ ending.receipt? = some receipt := by
  cases ending <;> simp [Delivery.receipt?]

theorem map_some_filterMap {α β : Type} {found : List α} {f : α → Option β}
    (hall : ∀ a ∈ found, (f a).isSome = true) : (found.filterMap f).map some = found.map f := by
  induction found with
  | nil => rfl
  | cons a rest ih =>
      obtain ⟨b, hb⟩ := Option.isSome_iff_exists.mp (hall a List.mem_cons_self)
      rw [List.filterMap_cons_some hb, List.map_cons, List.map_cons, hb,
        ih fun a ha => hall a (List.mem_cons_of_mem _ ha)]

/-- A receipt from a listener is at the place of an attempt among those that count. -/
theorem exists_counted_of_receiptsAt {receipt : Receipt}
    (hplace : (board.receiptsAt moves number)[place]? = some receipt) :
    ∃ attempt, ((board.attemptsAt moves number).filter fun attempt =>
        Sink.Kind.callback.counts attempt.ending)[place]? = some attempt ∧
      attempt.receipt? = some receipt := by
  have hall : ∀ attempt ∈ (board.attemptsAt moves number).filter fun attempt =>
      Sink.Kind.callback.counts attempt.ending, attempt.receipt?.isSome = true :=
    fun attempt hattempt => (List.mem_filter.mp hattempt).2
  have hmap := map_some_filterMap hall
  rw [← receiptsAt_eq_of_counted] at hmap
  have hfound := congrArg (fun found => found[place]?) hmap
  simp only [List.getElem?_map, hplace, Option.map_some] at hfound
  exact Option.map_eq_some_iff.mp hfound.symm

/-- **Receipts are numbered without repetition.** -/
theorem numbered_of_fresh (hfresh : board.Fresh)
    (hbound : (board.attempts moves).length < UInt64.size) : board.Numbered moves := by
  have hpairwise := pairwise_receiptsAt hfresh hbound
  constructor
  case increasing => exact fun number => List.pairwise_map.mpr (hpairwise number)
  case distinct =>
    refine fun number => List.pairwise_map.mpr ((hpairwise number).imp ?_)
    intro first second hlt heq
    rw [(Receipt.eq_of_deliveryId_eq heq).2] at hlt
    exact UInt64.lt_irrefl _ hlt
  case tried =>
    intro number place attempt hkind hplace
    obtain ⟨kind, hkind, hown, hall⟩ : ∃ kind, board.kinds[number]? = some kind ∧
        (∀ other, kind ≠ .other other) ∧ ∀ ending, kind.counts ending = true := by
      rcases hkind with hlog | hchannel
      · exact ⟨_, hlog, nofun, fun _ => rfl⟩
      · exact ⟨_, hchannel, nofun, fun _ => rfl⟩
    obtain ⟨book, hbook⟩ := exists_book_of_kind hkind hown
    have hcounted : ((board.attemptsAt moves number).filter fun attempt =>
        kind.counts attempt.ending) = board.attemptsAt moves number :=
      List.filter_eq_self.mpr fun attempt _ => hall attempt.ending
    obtain ⟨found, hfound, hnumber, hmade⟩ :=
      sequence_of_counted hfresh hbound hkind hbook (hcounted ▸ hplace)
    exact ⟨found, hfound, hnumber, fun receipt hreceipt =>
      hmade receipt (delivered_iff_receipt?.mp hreceipt)⟩
  case called =>
    intro number place receipt hkind hplace
    obtain ⟨book, hbook⟩ := exists_book_of_kind hkind nofun
    obtain ⟨attempt, hcounted, hreceipt⟩ := exists_counted_of_receiptsAt hplace
    obtain ⟨found, -, hnumber, hmade⟩ := sequence_of_counted hfresh hbound hkind hbook hcounted
    rw [hmade receipt hreceipt, hnumber]
  case accepted =>
    intro attempt hattempt
    simp only [delivered_iff_receipt?]
    rcases receipt?_of_mem_attempts hattempt with ⟨book, -, hmade, htook⟩ | ⟨hnone, hrefused⟩
    · exact iff_of_true ⟨_, hmade⟩ htook
    · refine iff_of_false ?_ hrefused
      rintro ⟨receipt, hreceipt⟩
      rw [Attempt.receipt?, hreceipt] at hnone
      contradiction
  case identified => exact fun first second => Receipt.eq_of_deliveryId_eq

/-- A log whose writer fails once to write and once to flush, a channel with place for one message,
and a listener with a clone, which refuses the second notice. -/
def mixedBoard : Switchboard where
  sinks :=
    [.log ⟨.fresh [.takesAll, .fails "disk full"] [none, some "busy"], .fresh "log"⟩,
      .channel (.bounded 1 "log-1"),
      .callback (.fresh [none, some (.deliveryFailed "offline")] "log-1"), .other 2]
  registered := []
  calls := []

def mixedMoves : List SinkMove :=
  let notice : Notice := .standard .created ⟨"owner"⟩ ⟨"winds"⟩
  [.deliver 0 notice, .deliver 1 notice, .deliver 2 notice, .deliver 0 notice, .deliver 1 notice,
    .deliver 3 notice, .receive 1, .deliver 0 notice, .deliver 1 notice, .deliver 3 notice,
    .deliver 0 notice]

theorem numbered_of_fresh_mixedBoard :
    (mixedBoard.Fresh ∧ (mixedBoard.attempts mixedMoves).length < UInt64.size) ∧
      mixedBoard.Numbered mixedMoves ∧
      (mixedBoard.receiptsAt mixedMoves 0).map Receipt.deliveryId = ["log-1", "log-4"] ∧
      (mixedBoard.receiptsAt mixedMoves 1).map Receipt.deliveryId = ["log-1-1", "log-1-3"] ∧
      (mixedBoard.receiptsAt mixedMoves 2).map Receipt.deliveryId = ["log-1-1", "log-1-2"] := by
  have hfresh : mixedBoard.Fresh := by
    unfold Fresh
    decide +kernel
  have hbound : (mixedBoard.attempts mixedMoves).length < UInt64.size := by decide +kernel
  exact ⟨⟨hfresh, hbound⟩, numbered_of_fresh hfresh hbound, by decide +kernel, by decide +kernel,
    by decide +kernel⟩

end Switchboard

end SubscriptionDesk
