import SubscriptionDesk.Broker

/-!
# Laws of the sinks

A sink numbers the notices that it is handed, whatever becomes of them. A log and a channel use up a
number for each, so that the number of a notice is its place among all notices.
-/

namespace SubscriptionDesk

/-! ### Numbers -/

def Receipt.numbered (dispatcher : String) (notice : Notice) (number : Nat) : Receipt where
  dispatcher := dispatcher
  sequence := UInt64.ofNat number
  kind := notice.kind
  subscription := notice.subscription

theorem Receipt.toNat_sequence_numbered {dispatcher : String} {notice : Notice} {number : Nat}
    (hbound : number < UInt64.size) :
    (numbered dispatcher notice number).sequence.toNat = number :=
  UInt64.toNat_ofNat_of_lt' hbound

namespace ReceiptBook

def used (dispatcher : String) (count : Nat) : ReceiptBook := ⟨dispatcher, UInt64.ofNat count⟩

variable {dispatcher : String} {notice : Notice} {count : Nat}

@[simp] theorem fresh_eq_used : fresh dispatcher = used dispatcher 0 := rfl

theorem advance_used : (used dispatcher count).advance = used dispatcher (count + 1) := by
  simp [used, advance]

theorem receipt_eq_numbered (book : ReceiptBook) (notice : Notice) :
    book.receipt notice = .numbered book.dispatcher notice (book.issued + 1).toNat := by
  rw [receipt, Receipt.numbered, UInt64.ofNat_toNat]

theorem receipt_used :
    (used dispatcher count).receipt notice = .numbered dispatcher notice (count + 1) := by
  simp [used, receipt, Receipt.numbered]

end ReceiptBook

/-! ### Writers -/

namespace Writer

variable {writer : Writer} {octets : List UInt8}

/-- Whether a writer takes some octets whole or not at all, and comes back. -/
def TakesWhole (writer : Writer) (octets : List UInt8) : Prop :=
  (writer.write octets).1 ≠ .died ∧
    ((writer.write octets).2.written = writer.written ++ octets ∨
      (writer.write octets).2.written = writer.written)

/-- Whether a writer has the same octets and will do the same as another, flushes apart. -/
def SameText (writer other : Writer) : Prop :=
  writer.written = other.written ∧ writer.writes = other.writes ∧ writer.dead = other.dead

theorem sameText_flush (writer : Writer) : writer.flush.2.SameText writer := by
  unfold flush
  split <;> exact ⟨rfl, rfl, rfl⟩

/-- What is laid down is used up from the front. -/
theorem offer_suffix {answers : List WriteAnswer} : (offer answers octets).2.2 <:+ answers := by
  induction answers generalizing octets with
  | nil => exact List.suffix_rfl
  | cons answer answers ih =>
      unfold offer
      split
      · exact List.suffix_rfl
      · cases answer with
        | takesAtMost limit =>
            dsimp only
            split
            · exact List.suffix_cons _ _
            · exact ih.trans (List.suffix_cons _ _)
        | interrupted => exact ih.trans (List.suffix_cons _ _)
        | _ => exact List.suffix_cons _ _

theorem offer_prefix {answers : List WriteAnswer} :
    (offer answers octets).2.1 <+: octets := by
  induction answers generalizing octets with
  | nil => exact List.prefix_rfl
  | cons answer answers ih =>
      unfold offer
      split
      · exact List.nil_prefix
      · cases answer with
        | takesAll => exact List.prefix_rfl
        | takesAtMost limit =>
            dsimp only
            split
            · exact List.nil_prefix
            · calc octets.take limit ++ (offer answers (octets.drop limit)).2.1
                _ <+: octets.take limit ++ octets.drop limit :=
                    (List.prefix_append_right_inj (octets.take limit)).mpr ih
                _ = octets := List.take_append_drop limit octets
        | interrupted => exact ih
        | fails reason => exact List.nil_prefix
        | dies => exact List.nil_prefix

/-- All octets are taken just if the writer says so. -/
theorem offer_complete_iff {answers : List WriteAnswer} :
    (offer answers octets).1 = .complete ↔ (offer answers octets).2.1 = octets := by
  induction answers generalizing octets with
  | nil => simp [offer]
  | cons answer answers ih =>
      unfold offer
      split
      · rename_i hempty
        simp [List.isEmpty_iff.mp hempty]
      · rename_i hsome
        have hnonempty : ([] : List UInt8) ≠ octets := fun heq => hsome (heq ▸ rfl)
        cases answer with
        | takesAll => simp
        | takesAtMost limit =>
            dsimp only
            split
            · simpa using hnonempty
            · calc (offer answers (octets.drop limit)).1 = .complete
                _ ↔ (offer answers (octets.drop limit)).2.1 = octets.drop limit := ih
                _ ↔ octets.take limit ++ (offer answers (octets.drop limit)).2.1 = octets := by
                    rw [← List.append_right_inj (octets.take limit), List.take_append_drop]
        | interrupted => exact ih
        | fails reason => simpa using hnonempty
        | dies => simpa using hnonempty

theorem write_complete_iff (writer : Writer) (octets : List UInt8) :
    (writer.write octets).1 = .complete ↔
      (writer.write octets).2.written = writer.written ++ octets :=
  offer_complete_iff.trans (List.append_right_inj writer.written).symm

end Writer

/-! ### Logs -/

def numberedLine (dispatcher : String) (entry : Notice × Nat) : List UInt8 :=
  Text.octets (auditLine entry.1 (.numbered dispatcher entry.1 entry.2) ++ "\n")

namespace LogSink

variable {sink : LogSink} {notice : Notice} {notices : List Notice} {dispatcher : String}
  {count : Nat}

def line (sink : LogSink) (notice : Notice) : List UInt8 :=
  Text.octets (auditLine notice (sink.book.receipt notice) ++ "\n")

theorem line_of_used (hbook : sink.book = .used dispatcher count) :
    sink.line notice = numberedLine dispatcher (notice, count + 1) := by
  rw [line, hbook, ReceiptBook.receipt_used]
  rfl

/-- What a delivery does: a number is used up in any case, and the line is written unless the
writer has died before. -/
theorem deliver_spec (sink : LogSink) (notice : Notice) :
    (sink.deliver notice).2.book = sink.book.advance ∧
      (sink.writer.dead = true ∧ (sink.deliver notice).1 ≠ .aborted ∧
          (sink.deliver notice).2.writer = sink.writer ∨
        sink.writer.dead = false ∧
          ((sink.deliver notice).1 = .aborted ↔
            (sink.writer.write (sink.line notice)).1 = .died) ∧
          (sink.deliver notice).2.writer.SameText
            (sink.writer.write (sink.line notice)).2) := by
  unfold line deliver
  dsimp only
  split
  · rename_i hdead
    exact ⟨rfl, .inl ⟨hdead, nofun, rfl⟩⟩
  · rename_i halive
    have halive := Bool.eq_false_iff.mpr halive
    split <;> rename_i hwrite
    · rw [hwrite]
      exact ⟨rfl, .inr ⟨halive, ⟨fun _ => rfl, fun _ => rfl⟩, rfl, rfl, rfl⟩⟩
    · rw [hwrite]
      exact ⟨rfl, .inr ⟨halive, ⟨nofun, nofun⟩, rfl, rfl, rfl⟩⟩
    · rename_i writer
      have hflush := writer.sameText_flush
      rw [hwrite]
      split <;> rename_i hflushed <;> rw [hflushed] at hflush
      · exact ⟨rfl, .inr ⟨halive, ⟨nofun, nofun⟩, hflush⟩⟩
      · exact ⟨rfl, .inr ⟨halive, ⟨nofun, nofun⟩, hflush⟩⟩

theorem book_deliver : (sink.deliver notice).2.book = sink.book.advance :=
  (sink.deliver_spec notice).1

theorem writes_deliver_suffix : (sink.deliver notice).2.writer.writes <:+ sink.writer.writes := by
  obtain ⟨-, ⟨-, -, hkept⟩ | ⟨-, -, -, hwrites, -⟩⟩ := sink.deliver_spec notice
  · exact hkept ▸ List.suffix_rfl
  · rw [hwrites]
    exact Writer.offer_suffix

/-- The writer may take a line in part or not at all. -/
theorem exists_taken_deliver (sink : LogSink) (notice : Notice) :
    ∃ taken, taken <+: sink.line notice ∧
      (sink.deliver notice).2.writer.written = sink.writer.written ++ taken := by
  obtain ⟨-, ⟨-, -, hkept⟩ | ⟨-, -, hwritten, -, -⟩⟩ := sink.deliver_spec notice
  · exact ⟨[], List.nil_prefix, by rw [hkept, List.append_nil]⟩
  · exact ⟨_, Writer.offer_prefix, hwritten⟩

theorem written_deliver_of_takesWhole (hwhole : sink.writer.TakesWhole (sink.line notice)) :
    (sink.deliver notice).1 ≠ .aborted ∧
      ((sink.deliver notice).2.writer.written = sink.writer.written ++ sink.line notice ∨
        (sink.deliver notice).2.writer.written = sink.writer.written) := by
  obtain ⟨halive, hwritten⟩ := hwhole
  obtain ⟨-, ⟨-, hreturns, hkept⟩ | ⟨-, haborted, hsame, -, -⟩⟩ := sink.deliver_spec notice
  · exact ⟨hreturns, .inr (congrArg Writer.written hkept)⟩
  · rw [hsame]
    exact ⟨fun heq => halive (haborted.mp heq), hwritten⟩

def deliverAll (sink : LogSink) (notices : List Notice) : LogSink :=
  notices.foldl (fun sink notice => (sink.deliver notice).2) sink

theorem deliverAll_cons {rest : List Notice} :
    sink.deliverAll (notice :: rest) = (sink.deliver notice).2.deliverAll rest :=
  rfl

/-- Whether the lines of some notices are each written whole or not at all. -/
def WritesWhole : LogSink → List Notice → Prop
  | _, [] => True
  | sink, notice :: rest =>
      sink.writer.TakesWhole (sink.line notice) ∧ WritesWhole (sink.deliver notice).2 rest

theorem WritesWhole.of_append {first second : List Notice}
    (hwhole : sink.WritesWhole (first ++ second)) : sink.WritesWhole first := by
  induction first generalizing sink with
  | nil => trivial
  | cons notice rest ih => exact ⟨hwhole.1, ih hwhole.2⟩

/-- The lines that are written are those of some of the notices, with their numbers. -/
theorem written_deliverAll (hbook : sink.book = .used dispatcher count)
    (hwhole : sink.WritesWhole notices) :
    ∃ entries : List (Notice × Nat), entries.Sublist (notices.zipIdx (count + 1)) ∧
      (sink.deliverAll notices).writer.written =
        sink.writer.written ++ entries.flatMap (numberedLine dispatcher) := by
  induction notices generalizing sink count with
  | nil => exact ⟨[], .slnil, (List.append_nil _).symm⟩
  | cons notice rest ih =>
      obtain ⟨hfirst, hrest⟩ := hwhole
      have hnext : (sink.deliver notice).2.book = .used dispatcher (count + 1) := by
        rw [book_deliver, hbook, ReceiptBook.advance_used]
      obtain ⟨entries, hentries, hlater⟩ := ih hnext hrest
      rw [List.zipIdx_cons, deliverAll_cons, hlater]
      rcases (written_deliver_of_takesWhole hfirst).2 with hwritten | hwritten
      · refine ⟨(notice, count + 1) :: entries, hentries.cons_cons _, ?_⟩
        rw [hwritten, line_of_used hbook, List.flatMap_cons, List.append_assoc]
      · exact ⟨entries, hentries.cons _, by rw [hwritten]⟩

end LogSink

/-! ### Channels -/

namespace ChannelSink

variable {sink : ChannelSink} {notice : Notice}

def Refuses (sink : ChannelSink) : Prop :=
  sink.closed = true ∨ sink.capacity ≤ sink.waiting.length

instance (sink : ChannelSink) : Decidable sink.Refuses :=
  inferInstanceAs (Decidable (_ ∨ _))

theorem deliver_ne_aborted (sink : ChannelSink) : (sink.deliver notice).1 ≠ .aborted := by
  unfold deliver
  split
  · nofun
  · split <;> nofun

theorem deliver_of_refuses (hrefuses : sink.Refuses) :
    (sink.deliver notice).2 = { sink with book := sink.book.advance } := by
  unfold deliver
  split
  · rfl
  · rename_i hopen
    rw [if_pos (hrefuses.resolve_left hopen)]

theorem deliver_of_not_refuses (htakes : ¬sink.Refuses) :
    (sink.deliver notice).2 =
      { sink with
        book := sink.book.advance
        waiting := sink.waiting ++ [⟨notice, sink.book.receipt notice⟩] } := by
  obtain ⟨hopen, hroom⟩ := not_or.mp htakes
  unfold deliver
  rw [if_neg hopen, if_neg hroom]

end ChannelSink

/-! ### Switchboards -/

namespace Switchboard

/-- A step goes on from the switchboard that the one before it left, unless a target died. -/
theorem run_bind {α β : Type} {first : ExceptT Abort (StateM Switchboard) α}
    {next : α → ExceptT Abort (StateM Switchboard) β} {board : Switchboard} :
    (first >>= next).run board =
      match first.run board with
      | (.ok found, after) => (next found).run after
      | (.error fault, after) => (.error fault, after) := by
  change ExceptT.bindCont next (first.run board).1 (first.run board).2 = _
  cases first.run board with
  | mk found after => cases found <;> rfl

theorem run_get {board : Switchboard} :
    (get : ExceptT Abort (StateM Switchboard) Switchboard).run board = (.ok board, board) :=
  rfl

variable {notice : Notice}

theorem run_deliver {number : Nat} {board : Switchboard} :
    (deliver number notice).run board =
      match board.deliverTo (board.target number) notice with
      | (.delivered receipt, after) => (.ok (.ok receipt), after)
      | (.failed fault, after) => (.ok (.error fault), after)
      | (.aborted, after) => (.error .abort, after) := by
  rw [deliver, run_bind, run_get]
  dsimp only
  cases board.deliverTo (board.target number) notice with
  | mk delivery after => cases delivery <;> rfl

/-- A sink that fails does not keep the notice from the sinks after it. -/
theorem run_faults_cons {board : Switchboard} {number : Nat} (rest : List Nat)
    (halive : (board.deliverTo (board.target number) notice).1 ≠ .aborted) :
    ((Broker.faults deliver notice (number :: rest)).run board).2 =
      ((Broker.faults deliver notice rest).run
        (board.deliverTo (board.target number) notice).2).2 := by
  rw [Broker.faults, run_bind, run_deliver]
  generalize board.deliverTo (board.target number) notice = delivered at halive ⊢
  obtain ⟨delivery, after⟩ := delivered
  cases delivery with
  | aborted => contradiction
  | delivered receipt => rfl
  | failed fault =>
      dsimp only
      rw [run_bind]
      cases (Broker.faults deliver notice rest).run after with
      | mk found after => cases found <;> rfl

/-- A target that dies keeps it from all of them. -/
theorem run_faults_of_aborted {board : Switchboard} {number : Nat} (rest : List Nat)
    (hdies : (board.deliverTo (board.target number) notice).1 = .aborted) :
    ((Broker.faults deliver notice (number :: rest)).run board).2 =
      (board.deliverTo (board.target number) notice).2 := by
  rw [Broker.faults, run_bind, run_deliver]
  generalize board.deliverTo (board.target number) notice = delivered at hdies ⊢
  obtain ⟨delivery, after⟩ := delivered
  subst hdies
  rfl

theorem run_send {board : Switchboard} :
    ((send notice).run board).2 =
      ((Broker.faults deliver notice board.registered).run board).2 := by
  rw [send, run_bind, run_get]
  dsimp only
  rw [Broker.send, run_bind]
  cases (Broker.faults deliver notice board.registered).run board with
  | mk found after => cases found <;> rfl

end Switchboard

end SubscriptionDesk
