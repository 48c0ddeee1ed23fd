import SubscriptionDesk.Proofs.JsonText
import SubscriptionDesk.Proofs.SinkLaws
import SubscriptionDesk.Stored.Negotiation

/-!
# An audit log can be replayed

The lines of an audit log are told apart by the octet of a newline. This works because quoting
leaves no newline in a text, whatever is quoted, and because no other character has that octet
among its own. So the octets of a log can be cut into lines again, and each line can be read.
-/

namespace SubscriptionDesk

/-! ### Octets -/

namespace Text

theorem toList_loop (bytes : ByteArray) (start : Nat) (before : List UInt8) :
    ByteArray.toList.loop bytes start before = before.reverse ++ bytes.data.toList.drop start := by
  rw [ByteArray.toList.loop]
  split
  · rename_i hless
    have hsize : start < bytes.data.toList.length := hless
    rw [toList_loop, List.reverse_cons, List.append_assoc, List.drop_eq_getElem_cons hsize]
    have hget : bytes.get! start = bytes.data.toList[start] := by
      change bytes.data[start]! = _
      rw [getElem!_pos bytes.data start hless, Array.getElem_toList]
    rw [hget, List.singleton_append]
  · rename_i hless
    have hsize : bytes.data.toList.length ≤ start := Nat.le_of_not_lt hless
    rw [List.drop_eq_nil_of_le hsize, List.append_nil]
termination_by bytes.size - start

theorem toList_eq_data (bytes : ByteArray) : bytes.toList = bytes.data.toList :=
  toList_loop bytes 0 []

theorem octets_eq_flatMap (text : String) :
    octets text = text.toList.flatMap String.utf8EncodeChar := by
  rw [octets, String.toUTF8_eq_toByteArray, toList_eq_data, ← String.utf8Encode_toList,
    List.utf8Encode, List.toList_data_toByteArray]

theorem octets_append (first second : String) :
    octets (first ++ second) = octets first ++ octets second := by
  rw [octets_eq_flatMap, octets_eq_flatMap, octets_eq_flatMap, String.toList_append,
    List.flatMap_append]

theorem newline_mem_utf8EncodeChar {c : Char} : 10 ∈ String.utf8EncodeChar c ↔ c = '\n' := by
  have hnewline : c = '\n' ↔ c.val.toNat = 10 := by
    rw [Char.ext_iff, ← UInt32.toNat_inj]
    rfl
  rw [hnewline, String.utf8EncodeChar]
  generalize c.val.toNat = code
  split
  · simp [← UInt8.toNat_inj]
    omega
  · split
    · simp [← UInt8.toNat_inj]
      omega
    · split <;> simp [← UInt8.toNat_inj] <;> omega

/-- No other character has the octet of a newline among its own. -/
theorem newline_mem_octets {text : String} : 10 ∈ octets text ↔ '\n' ∈ text.toList := by
  rw [octets_eq_flatMap, List.mem_flatMap]
  simp [newline_mem_utf8EncodeChar]

def ofOctets? (octets : List UInt8) : Option String := String.fromUTF8? octets.toByteArray

theorem ofOctets_octets (text : String) : ofOctets? (octets text) = some text := by
  have hbytes : (octets text).toByteArray = text.toByteArray := by
    rw [octets_eq_flatMap]
    exact String.utf8Encode_toList
  rw [ofOctets?, hbytes, String.fromUTF8?, dif_pos text.isValidUTF8]
  rfl

end Text

/-! ### Lines -/

section Lines

variable {lines : List (List UInt8)} {octet : UInt8}

theorem flatMap_ended_eq_intercalate :
    (lines.flatMap fun line => line ++ [octet]) = [octet].intercalate (lines ++ [[]]) := by
  induction lines with
  | nil => rfl
  | cons line lines ih =>
      rw [List.flatMap_cons, ih, List.cons_append,
        List.intercalate_cons_of_ne_nil (List.append_ne_nil_of_right_ne_nil _ (by decide))]

theorem splitOn_ended (hlines : ∀ line ∈ lines, octet ∉ line) :
    (lines.flatMap fun line => line ++ [octet]).splitOn octet = lines ++ [[]] := by
  rw [flatMap_ended_eq_intercalate]
  refine List.splitOn_intercalate octet ?_ (List.append_ne_nil_of_right_ne_nil _ (by decide))
  intro line hline
  rcases List.mem_append.mp hline with hline | hline
  · exact hlines line hline
  · rw [List.mem_singleton.mp hline]
    exact List.not_mem_nil

theorem count_ended (hlines : ∀ line ∈ lines, octet ∉ line) :
    (lines.flatMap fun line => line ++ [octet]).count octet = lines.length := by
  induction lines with
  | nil => rfl
  | cons line lines ih =>
      rw [List.flatMap_cons, List.count_append, List.count_append,
        List.count_eq_zero.mpr (hlines line List.mem_cons_self),
        ih fun line hline => hlines line (List.mem_cons_of_mem _ hline), List.length_cons]
      simp [Nat.add_comm]

end Lines

/-! ### Entries -/

structure AuditEntry where
  deliveryId : String
  dispatcher : String
  sequence : UInt64
  kind : NoticeKind
  user : UserId
  subscription : SubscriptionName
  message : String
  deriving DecidableEq

namespace AuditEntry

open Stored

def ofDelivery (notice : Notice) (receipt : Receipt) : AuditEntry where
  deliveryId := receipt.deliveryId
  dispatcher := receipt.dispatcher
  sequence := receipt.sequence
  kind := notice.kind
  user := notice.user
  subscription := notice.subscription
  message := notice.message

def keys : List String :=
  ["delivery_id", "dispatcher", "sequence", "kind", "user", "subscription", "message"]

instance : Stored AuditEntry where
  toJson entry := .object [
    ("delivery_id", toJson entry.deliveryId),
    ("dispatcher", toJson entry.dispatcher),
    ("sequence", toJson entry.sequence),
    ("kind", toJson entry.kind),
    ("user", toJson entry.user),
    ("subscription", toJson entry.subscription),
    ("message", toJson entry.message)]
  ofJson? room json := do
    match ← fields? keys json with
    | [deliveryId, dispatcher, sequence, kind, user, subscription, message] =>
        return {
          deliveryId := ← required? room deliveryId
          dispatcher := ← required? room dispatcher
          sequence := ← required? room sequence
          kind := ← required? room kind
          user := ← required? room user
          subscription := ← required? room subscription
          message := ← required? room message }
    | _ => none

theorem ofJson_toJson_sequence (room : Nat) (sequence : UInt64) :
    ofJson? room (toJson sequence) = some sequence := by
  have hlow : (0 : Int) ≤ sequence.toNat := Int.natCast_nonneg _
  have hhigh : (sequence.toNat : Int) ≤ (UInt64.size - 1 : Nat) :=
    Int.ofNat_le.mpr (Nat.le_pred_of_lt sequence.toNat_lt)
  change (natWithin? (UInt64.size - 1) (.int sequence.toNat)).map UInt64.ofNat = _
  rw [natWithin?, intWithin?, if_pos ⟨hlow, hhigh⟩]
  simp

theorem ofJson_toJson_kind (room : Nat) (kind : NoticeKind) :
    ofJson? room (toJson kind) = some kind := by
  change ofLabel? NoticeKind.all NoticeKind.label (.text kind.label) = some kind
  cases kind <;> decide

theorem ofJson_toJson (room : Nat) (entry : AuditEntry) :
    ofJson? room (toJson entry) = some entry := by
  have hfields : fields? keys (toJson entry) =
      some [some (toJson entry.deliveryId), some (toJson entry.dispatcher),
        some (toJson entry.sequence), some (toJson entry.kind), some (toJson entry.user),
        some (toJson entry.subscription), some (toJson entry.message)] := by
    simp [fields?, keys, toJson]
  change (fields? keys (toJson entry)).bind _ = _
  rw [hfields]
  simp only [Option.bind_some, required?, ofJson_toJson_sequence, ofJson_toJson_kind]
  rfl

theorem toJson_eq (entry : AuditEntry) :
    toJson entry = .object [("delivery_id", .text entry.deliveryId),
      ("dispatcher", .text entry.dispatcher), ("sequence", .int entry.sequence.toNat),
      ("kind", .text entry.kind.label), ("user", .text entry.user.text),
      ("subscription", .text entry.subscription.text), ("message", .text entry.message)] :=
  rfl

theorem quoted_keys : keys.map Json.quoted =
    ["\"delivery_id\"", "\"dispatcher\"", "\"sequence\"", "\"kind\"", "\"user\"",
      "\"subscription\"", "\"message\""] := by
  decide

/-- The line of an audit log is the text of what it says. -/
theorem auditLine_eq_render (notice : Notice) (receipt : Receipt)
    (writeReal : Binary64 → String) :
    auditLine notice receipt = (toJson (ofDelivery notice receipt)).render writeReal := by
  have hsequence : toString (receipt.sequence.toNat : Int) = toString receipt.sequence :=
    Int.toString_eq_repr
  have hkeys := quoted_keys
  simp only [keys, List.map_cons, List.map_nil, List.cons.injEq] at hkeys
  obtain ⟨hid, hdispatcher, hnumber, hkind, huser, hsubscription, hmessage, -⟩ := hkeys
  unfold auditLine
  simp only [toJson_eq, Json.render, Json.renderMembers, ofDelivery, hsequence, hid, hdispatcher,
    hnumber, hkind, huser, hsubscription, hmessage]
  apply String.toList_inj.mp
  simp

theorem readable_toJson (entry : AuditEntry) (writeReal : Binary64 → String) :
    (toJson entry).Readable writeReal := by
  have hfits : Json.FitsWhole entry.sequence.toNat :=
    ⟨by omega, Int.ofNat_lt.mpr entry.sequence.toNat_lt⟩
  exact ⟨trivial, trivial, hfits, trivial, trivial, trivial, trivial, trivial⟩

def numbered (dispatcher : String) (entry : Notice × Nat) : AuditEntry where
  deliveryId := dispatcher ++ "-" ++ toString entry.2
  dispatcher := dispatcher
  sequence := UInt64.ofNat entry.2
  kind := entry.1.kind
  user := entry.1.user
  subscription := entry.1.subscription
  message := entry.1.message

variable {dispatcher : String} {entry : Notice × Nat}

theorem ofDelivery_numbered (hbound : entry.2 < UInt64.size) :
    ofDelivery entry.1 (.numbered dispatcher entry.1 entry.2) = numbered dispatcher entry := by
  have htext : toString (UInt64.ofNat entry.2) = toString entry.2 := by
    change toString (UInt64.ofNat entry.2).toNat = _
    rw [UInt64.toNat_ofNat_of_lt' hbound]
  rw [ofDelivery, numbered, Receipt.deliveryId, Receipt.numbered, htext]

def line (dispatcher : String) (entry : Notice × Nat) : String :=
  auditLine entry.1 (.numbered dispatcher entry.1 entry.2)

theorem numberedLine_eq :
    numberedLine dispatcher entry = Text.octets (line dispatcher entry) ++ [10] := by
  have hnewline : Text.octets "\n" = [10] := (Text.octets_eq_flatMap "\n").trans (by decide)
  rw [numberedLine, Text.octets_append, hnewline, line]

theorem newline_not_mem_line : 10 ∉ Text.octets (line dispatcher entry) := by
  rw [Text.newline_mem_octets, line, auditLine_eq_render _ _ fun _ => ""]
  exact Json.newline_not_mem_render (fun _ => by decide) _

theorem parse_line (hbound : entry.2 < UInt64.size) :
    Json.parse? (line dispatcher entry) = some (toJson (numbered dispatcher entry)) := by
  rw [line, auditLine_eq_render _ _ fun _ => "", ofDelivery_numbered hbound]
  exact Json.parse_render _ (readable_toJson _ _)

end AuditEntry

/-! ### Writers that take all -/

/-- Whether a writer goes on taking octets with an answer, until it has all. -/
def WriteAnswer.Accepts : WriteAnswer → Prop
  | .takesAll | .interrupted => True
  | .takesAtMost limit => 0 < limit
  | .fails _ | .dies => False

theorem Writer.offer_of_accepts {answers : List WriteAnswer} {octets : List UInt8}
    (haccepts : ∀ answer ∈ answers, answer.Accepts) :
    (offer answers octets).1 = .complete ∧ (offer answers octets).2.1 = octets := by
  induction answers generalizing octets with
  | nil => exact ⟨rfl, rfl⟩
  | cons answer answers ih =>
      have hfirst := haccepts answer List.mem_cons_self
      have hrest : ∀ answer ∈ answers, answer.Accepts := fun answer hanswer =>
        haccepts answer (List.mem_cons_of_mem _ hanswer)
      unfold offer
      split
      · rename_i hempty
        exact ⟨rfl, (List.isEmpty_iff.mp hempty).symm⟩
      · cases answer with
        | takesAll => exact ⟨rfl, rfl⟩
        | takesAtMost limit =>
            dsimp only
            rw [if_neg (Nat.ne_of_gt hfirst)]
            obtain ⟨hending, htaken⟩ := ih hrest
            refine ⟨hending, ?_⟩
            dsimp only
            rw [htaken, List.take_append_drop]
        | interrupted => exact ih hrest
        | fails reason => exact hfirst.elim
        | dies => exact hfirst.elim

namespace LogSink

variable {sink : LogSink} {notice : Notice} {notices : List Notice} {dispatcher : String}
  {count : Nat}

/-- Whether a log takes every octet that it is given. -/
structure Accepts (sink : LogSink) : Prop where
  alive : sink.writer.dead = false
  answers : ∀ answer ∈ sink.writer.writes, answer.Accepts

theorem Accepts.deliver (haccepts : sink.Accepts) (notice : Notice) :
    (sink.deliver notice).2.Accepts ∧
      (sink.deliver notice).2.writer.written = sink.writer.written ++ sink.line notice := by
  obtain ⟨hending, htaken⟩ : (Writer.offer sink.writer.writes (sink.line notice)).1 = .complete ∧
      (Writer.offer sink.writer.writes (sink.line notice)).2.1 = sink.line notice :=
    Writer.offer_of_accepts haccepts.answers
  obtain ⟨-, ⟨hdead, -⟩ | ⟨-, -, hwritten, -, hdead⟩⟩ := sink.deliver_spec notice
  · rw [haccepts.alive] at hdead
    contradiction
  · refine ⟨⟨?_, fun answer hanswer => ?_⟩, ?_⟩
    · rw [hdead]
      exact decide_eq_false (hending ▸ nofun)
    · exact haccepts.answers answer (writes_deliver_suffix.subset hanswer)
    · rw [hwritten]
      exact congrArg (sink.writer.written ++ ·) htaken

theorem Accepts.written_deliverAll (haccepts : sink.Accepts)
    (hbook : sink.book = .used dispatcher count) :
    (sink.deliverAll notices).writer.written =
      sink.writer.written ++
        (notices.zipIdx (count + 1)).flatMap (numberedLine dispatcher) := by
  induction notices generalizing sink count with
  | nil => exact (List.append_nil _).symm
  | cons notice rest ih =>
      obtain ⟨hnext, hwritten⟩ := haccepts.deliver notice
      have hused : (sink.deliver notice).2.book = .used dispatcher (count + 1) := by
        rw [book_deliver, hbook, ReceiptBook.advance_used]
      rw [deliverAll_cons, ih hnext hused, hwritten, line_of_used hbook, List.zipIdx_cons,
        List.flatMap_cons, List.append_assoc]

end LogSink

/-! ### Replay -/

def AuditEntry.read? (octets : List UInt8) : Option AuditEntry :=
  ((Text.ofOctets? octets).bind Json.parse?).bind (Stored.ofJson? Stored.deepestNesting)

/-- Cuts the octets of an audit log into lines and reads each of them. -/
def replay (octets : List UInt8) : Option (List AuditEntry) :=
  (octets.splitOn 10).dropLast.mapM AuditEntry.read?

theorem AuditEntry.read_line {dispatcher : String} {entry : Notice × Nat}
    (hbound : entry.2 < UInt64.size) :
    read? (Text.octets (line dispatcher entry)) = some (numbered dispatcher entry) := by
  rw [read?, Text.ofOctets_octets, Option.bind_some, parse_line hbound, Option.bind_some,
    ofJson_toJson]

/-- Whether octets are those of some lines, and can be taken for nothing but some entries. -/
structure Replayed (lines : List String) (entries : List AuditEntry) (octets : List UInt8) :
    Prop where
  ended : octets = lines.flatMap fun line => Text.octets line ++ [10]
  counted : octets.count 10 = entries.length
  split : octets.splitOn 10 = lines.map Text.octets ++ [[]]
  parsed : lines.map Json.parse? = entries.map fun entry => some (Stored.toJson entry)
  replayed : replay octets = some entries

theorem replayed_of_forall {entries : List (Notice × Nat)} {dispatcher : String}
    (hbound : ∀ entry ∈ entries, entry.2 < UInt64.size) :
    Replayed (entries.map (AuditEntry.line dispatcher))
      (entries.map (AuditEntry.numbered dispatcher))
      (entries.flatMap (numberedLine dispatcher)) := by
  have hended : entries.flatMap (numberedLine dispatcher) =
      (entries.map fun entry => Text.octets (AuditEntry.line dispatcher entry)).flatMap
        fun line => line ++ [10] := by
    rw [List.flatMap_map]
    exact congrArg (List.flatMap · entries) (funext fun _ => AuditEntry.numberedLine_eq)
  have hlines : ∀ line ∈ entries.map fun entry => Text.octets (AuditEntry.line dispatcher entry),
      10 ∉ line := by
    intro line hline
    obtain ⟨entry, -, rfl⟩ := List.mem_map.mp hline
    exact AuditEntry.newline_not_mem_line
  have hsplit := splitOn_ended hlines
  rw [← hended] at hsplit
  constructor
  case ended =>
    rw [hended, List.flatMap_map, List.flatMap_map]
  case counted =>
    rw [hended, count_ended hlines, List.length_map, List.length_map]
  case split =>
    rw [hsplit, List.map_map]
    rfl
  case parsed =>
    rw [List.map_map, List.map_map]
    exact List.map_congr_left fun entry hentry => AuditEntry.parse_line (hbound entry hentry)
  case replayed =>
    rw [replay, hsplit, List.dropLast_concat, List.mapM_map]
    exact mapM_eq_some_map fun entry hentry => AuditEntry.read_line (hbound entry hentry)

/-- A line can be read, whatever its number, and shows the name of the dispatcher. -/
theorem LogSink.replay_line (sink : LogSink) (notice : Notice) :
    ∃ entry, replay (sink.line notice) = some [entry] ∧
      entry.dispatcher = sink.book.dispatcher := by
  let numbered : Notice × Nat := (notice, (sink.book.issued + 1).toNat)
  have hline : sink.line notice = numberedLine sink.book.dispatcher numbered := by
    rw [line, ReceiptBook.receipt_eq_numbered]
    rfl
  have hbound : ∀ entry ∈ [numbered], entry.2 < UInt64.size := by
    intro entry hentry
    rw [List.mem_singleton.mp hentry]
    exact UInt64.toNat_lt _
  have hreplay : replay ([numbered].flatMap (numberedLine sink.book.dispatcher)) =
      some ([numbered].map (AuditEntry.numbered sink.book.dispatcher)) :=
    (replayed_of_forall hbound).replayed
  rw [List.flatMap_singleton, ← hline] at hreplay
  exact ⟨AuditEntry.numbered sink.book.dispatcher numbered, hreplay, rfl⟩

/-- **An audit log can be replayed.** Whatever is delivered to a log that takes every octet, each
delivery is read back from it, in order, with its number. -/
theorem LogSink.replayed_deliverAll {writer : Writer} {dispatcher : String}
    {notices : List Notice} (hempty : writer.written = [])
    (haccepts : (LogSink.mk writer (.fresh dispatcher)).Accepts)
    (hbound : notices.length < UInt64.size) :
    Replayed ((notices.zipIdx 1).map (AuditEntry.line dispatcher))
      ((notices.zipIdx 1).map (AuditEntry.numbered dispatcher))
      ((LogSink.mk writer (.fresh dispatcher)).deliverAll notices).writer.written := by
  rw [haccepts.written_deliverAll ReceiptBook.fresh_eq_used, hempty, List.nil_append]
  refine replayed_of_forall fun entry hentry => ?_
  have hplace := List.mem_zipIdx hentry
  omega

def haltingWriter : Writer := .fresh [.takesAtMost 7, .interrupted] [some "busy"]

def awkwardNotices : List Notice :=
  [⟨.created, ⟨"owner\n"⟩, ⟨"\"winds\""⟩, "first\nsecond \\ third\x01"⟩,
    ⟨.deleted, ⟨"Zoë"⟩, ⟨""⟩, "\t"⟩]

/-- Two deliveries are two lines, though there is a newline in what is delivered. -/
theorem LogSink.replayed_deliverAll_awkwardNotices :
    (haltingWriter.written = [] ∧ (LogSink.mk haltingWriter (.fresh "log\n")).Accepts ∧
        awkwardNotices.length < UInt64.size) ∧
      replay
          ((LogSink.mk haltingWriter (.fresh "log\n")).deliverAll awkwardNotices).writer.written =
        some [
          { deliveryId := "log\n-1", dispatcher := "log\n", sequence := 1, kind := .created,
            user := ⟨"owner\n"⟩, subscription := ⟨"\"winds\""⟩,
            message := "first\nsecond \\ third\x01" },
          { deliveryId := "log\n-2", dispatcher := "log\n", sequence := 2, kind := .deleted,
            user := ⟨"Zoë"⟩, subscription := ⟨""⟩, message := "\t" }] := by
  have haccepts : (LogSink.mk haltingWriter (.fresh "log\n")).Accepts := by
    refine ⟨rfl, fun answer hanswer => ?_⟩
    rcases List.mem_cons.mp hanswer with rfl | hanswer
    · exact (by decide : 0 < 7)
    · rw [List.mem_singleton.mp hanswer]
      trivial
  have hbound : awkwardNotices.length < UInt64.size := by decide
  refine ⟨⟨rfl, haccepts, hbound⟩, ?_⟩
  rw [(LogSink.replayed_deliverAll rfl haccepts hbound).replayed]
  decide +kernel

end SubscriptionDesk
