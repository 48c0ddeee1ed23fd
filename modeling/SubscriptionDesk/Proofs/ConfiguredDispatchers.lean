import SubscriptionDesk.Proofs.AlignedSinks
import SubscriptionDesk.Proofs.ReceiptNumbers
import SubscriptionDesk.Proofs.TrimmedTexts
import SubscriptionDesk.Settings.Reader

/-!
# Dispatchers from settings

The settings are checked with the blanks around the name of the dispatcher left out of account, but
a broker takes the name as it stands. So what the check says of the name need not hold of what is
stamped on the lines and receipts of an audit log: there may be blanks before and after it, and as
many as one likes. Apart from these it is as the check wants it, whatever the writer does.
-/

namespace SubscriptionDesk

/-! ### Names -/

/-- What the messages of the check ask of a name. -/
structure CleanName (name : String) : Prop where
  nonempty : 1 ≤ name.utf8ByteSize
  short : name.utf8ByteSize ≤ 64
  chars : ∀ c ∈ name.toList, c.isAlphanum = true ∨ c = '-' ∨ c = '_'

theorem isDispatcherChar_iff {c : Char} :
    isDispatcherChar c = true ↔ c.isAlphanum = true ∨ c = '-' ∨ c = '_' := by
  simp [isDispatcherChar, or_assoc]

theorem toNat_of_isAlphanum {c : Char} (hc : c.isAlphanum = true) :
    (65 ≤ c.toNat ∧ c.toNat ≤ 90 ∨ 97 ≤ c.toNat ∧ c.toNat ≤ 122) ∨
      48 ≤ c.toNat ∧ c.toNat ≤ 57 := by
  rcases Bool.or_eq_true_iff.mp hc with halpha | hdigit
  · rcases Bool.or_eq_true_iff.mp halpha with hupper | hlower
    · exact .inl (.inl (of_decide_eq_true hupper))
    · obtain ⟨hlow, hhigh⟩ := Bool.and_eq_true_iff.mp hlower
      exact .inl (.inr ⟨of_decide_eq_true hlow, of_decide_eq_true hhigh⟩)
  · exact .inr (Char.isDigit_iff_toNat.mp hdigit)

theorem isBlank_eq_false_of_isDispatcherChar {c : Char} (hc : isDispatcherChar c = true) :
    Text.isBlank c = false := by
  rcases isDispatcherChar_iff.mp hc with halphanum | rfl | rfl
  · have hcode := toNat_of_isAlphanum halphanum
    simp only [Text.isBlank, Bool.or_eq_false_iff, Bool.and_eq_false_iff, decide_eq_false_iff_not,
      beq_eq_false_iff_ne]
    omega
  · decide
  · decide

theorem CleanName.trimmed_eq {name : String} (hclean : CleanName name) :
    Text.trimmed name = name := by
  have hsolid : ∀ c ∈ name.toList, Text.isBlank c = false := fun c hc =>
    isBlank_eq_false_of_isDispatcherChar (isDispatcherChar_iff.mpr (hclean.chars c hc))
  rw [Text.trimmed, Text.trimmedChars_of_forall hsolid, String.ofList_toList]

/-- A name is accepted just if it is clean without the blanks around it. -/
theorem checkDispatcher_eq_ok_iff {name : String} :
    checkDispatcher name = .ok () ↔ CleanName (Text.trimmed name) := by
  unfold checkDispatcher
  dsimp only
  generalize Text.trimmed name = trimmed
  have hall : trimmed.toList.all isDispatcherChar = true ↔
      ∀ c ∈ trimmed.toList, c.isAlphanum = true ∨ c = '-' ∨ c = '_' :=
    List.all_eq_true.trans (forall₂_congr fun _ _ => isDispatcherChar_iff)
  split
  · rename_i hempty
    refine ⟨nofun, fun hclean => ?_⟩
    have hsome := hclean.nonempty
    rw [String.isEmpty_iff.mp hempty] at hsome
    contradiction
  · rename_i hsome
    split
    · rename_i hlong
      exact ⟨nofun, fun hclean => absurd hclean.short (Nat.not_le_of_lt hlong)⟩
    · rename_i hshort
      split
      · rename_i hother
        refine ⟨nofun, fun hclean => ?_⟩
        rw [hall.mpr hclean.chars] at hother
        contradiction
      · rename_i hplain
        refine ⟨fun _ => ⟨?_, Nat.le_of_not_lt hshort, hall.mp ?_⟩, fun _ => rfl⟩
        · refine Nat.pos_of_ne_zero fun hzero => hsome ?_
          exact String.isEmpty_iff.mpr (String.utf8ByteSize_eq_zero_iff.mp hzero)
        · simpa only [Bool.not_eq_true, Bool.not_eq_false'] using hplain

/-- Of the names that are accepted, those are clean that have no blanks around them. -/
theorem cleanName_iff_of_check {name : String} (hcheck : checkDispatcher name = .ok ()) :
    CleanName name ↔ Text.trimmed name = name := by
  refine ⟨CleanName.trimmed_eq, fun htrimmed => ?_⟩
  rw [← htrimmed]
  exact checkDispatcher_eq_ok_iff.mp hcheck

/-! ### Settings -/

namespace Settings

variable {text : String} {settings : Settings}

theorem check_of_parse (hparse : parse text = .ok settings) : settings.check = .ok () := by
  unfold parse at hparse
  split at hparse
  · contradiction
  · split at hparse
    · rename_i hcheck
      rwa [← Except.ok.inj hparse]
    · contradiction

theorem checkDispatcher_of_parse (hparse : parse text = .ok settings) :
    checkDispatcher settings.notifications.dispatcher = .ok () := by
  obtain ⟨-, hrest⟩ := check_then_eq_ok_iff.mp (check_of_parse hparse)
  obtain ⟨-, hnotifications⟩ := check_then_eq_ok_iff.mp hrest
  unfold NotificationSettings.check at hnotifications
  split at hnotifications
  · contradiction
  · exact hnotifications

end Settings

/-! ### What leaves a log -/

structure Posting where
  line : List UInt8
  taken : List UInt8
  receipt? : Option Receipt

namespace Posting

variable {posting : Posting} {name : String}

structure Bears (posting : Posting) (name : String) : Prop where
  line : ∃ entry, replay posting.line = some [entry] ∧ entry.dispatcher = name
  taken : posting.taken <+: posting.line
  receipt : ∀ receipt ∈ posting.receipt?, receipt.dispatcher = name

structure Clean (posting : Posting) : Prop where
  line : ∀ entries ∈ replay posting.line, ∀ entry ∈ entries, CleanName entry.dispatcher
  receipt : ∀ receipt ∈ posting.receipt?, CleanName receipt.dispatcher

theorem Bears.clean_iff (hbears : posting.Bears name) : posting.Clean ↔ CleanName name := by
  obtain ⟨⟨entry, hreplay, hentry⟩, -, hreceipt⟩ := hbears
  constructor
  · intro hclean
    rw [← hentry]
    exact hclean.line [entry] hreplay entry List.mem_cons_self
  · intro hname
    constructor
    case line =>
      intro entries hentries found hfound
      obtain rfl := Option.some_inj.mp (hreplay.symm.trans hentries)
      rw [List.mem_singleton.mp hfound, hentry]
      exact hname
    case receipt =>
      intro receipt hsome
      rw [hreceipt receipt hsome]
      exact hname

end Posting

/-! ### Brokers from settings -/

namespace BrokerCourse

def ofSettings (settings : NotificationSettings) (writer : Writer) : BrokerCourse :=
  ⟨.ofSettings settings.logSink settings.channelCapacity.toNat settings.dispatcher writer, [], []⟩

def posting? (course : BrokerCourse) (move : BrokerMove) : Option Posting :=
  match move, course.log? with
  | .send notice, some log => some
      { line := log.line notice
        taken := (course.step move).written.drop course.written.length
        receipt? := (log.deliver notice).1.receipt? }
  | _, _ => none

def postings : BrokerCourse → List BrokerMove → List Posting
  | _, [] => []
  | course, move :: rest => (course.posting? move).toList ++ (course.step move).postings rest

variable {outlet : Outlet} {log : LogSink} {notice : Notice} {moves : List BrokerMove}
  {name : String}

/-- A log is handed each notice, also if its writer dies of it. -/
theorem exists_step_send (outlet : Outlet) (log : LogSink) (notice : Notice) :
    ∃ next, (joined outlet log).step (.send notice) = joined next (log.deliver notice).2 := by
  by_cases hdies : (log.deliver notice).1 = .aborted
  · have hlog : (joined outlet log).board.deliverTo 1 notice =
        ((log.deliver notice).1, (joined outlet (log.deliver notice).2).board) := rfl
    have hboard : ((Switchboard.send notice).run (joined outlet log).board).2 =
        (joined outlet (log.deliver notice).2).board := by
      rw [Switchboard.run_send]
      exact Switchboard.run_faults_of_aborted [0] (hlog ▸ hdies)
    refine ⟨outlet, ?_⟩
    rw [step, hboard]
    rfl
  · exact ⟨_, step_send hdies⟩

/-- What there is to say of the log in a move, whatever becomes of the channel. -/
theorem posting?_send (outlet : Outlet) (log : LogSink) (notice : Notice) :
    ∃ posting, (joined outlet log).posting? (.send notice) = some posting ∧
      posting.Bears log.book.dispatcher ∧
      (log.deliver notice).2.writer.written = log.writer.written ++ posting.taken := by
  obtain ⟨next, hstep⟩ := exists_step_send outlet log notice
  obtain ⟨taken, hprefix, hwritten⟩ := log.exists_taken_deliver notice
  have hposting : (joined outlet log).posting? (.send notice) =
      some ⟨log.line notice, taken, (log.deliver notice).1.receipt?⟩ := by
    have htaken : ((joined outlet log).step (.send notice)).written.drop
        (joined outlet log).written.length = taken := by
      rw [hstep]
      change (log.deliver notice).2.writer.written.drop log.writer.written.length = taken
      rw [hwritten, List.drop_left]
    rw [← htaken]
    rfl
  refine ⟨_, hposting, ⟨log.replay_line notice, hprefix, ?_⟩, hwritten⟩
  intro receipt hreceipt
  rcases log.receipt?_deliver notice with ⟨hsome, -⟩ | ⟨hnone, -⟩
  · rw [← Option.some_inj.mp (hsome.symm.trans hreceipt)]
    rfl
  · exact absurd (hnone.symm.trans hreceipt) nofun

/-- Whether each notice of a run is posted under a name. -/
structure Posted (name : String) (before : List UInt8) (moves : List BrokerMove)
    (course : BrokerCourse) : Prop where
  count : (course.postings moves).length = (noticesOf moves).length
  bears : ∀ posting ∈ course.postings moves, posting.Bears name
  written : (course.after moves).written =
    before ++ (course.postings moves).flatMap Posting.taken

theorem Posted.cons_send {course : BrokerCourse} {before : List UInt8} {posting : Posting}
    (hposting : course.posting? (.send notice) = some posting) (hbears : posting.Bears name)
    (hrest : (course.step (.send notice)).Posted name (before ++ posting.taken) moves) :
    course.Posted name before (.send notice :: moves) := by
  obtain ⟨hcount, hall, hwritten⟩ := hrest
  have hpostings : course.postings (.send notice :: moves) =
      posting :: (course.step (.send notice)).postings moves := by
    rw [postings, hposting]
    rfl
  constructor
  case count =>
    rw [hpostings, List.length_cons, hcount]
    rfl
  case bears =>
    rw [hpostings]
    exact List.forall_mem_cons.mpr ⟨hbears, hall⟩
  case written =>
    rw [hpostings, List.flatMap_cons, ← List.append_assoc]
    exact hwritten

/-- Moves of the receiver have no part in it. -/
theorem Posted.cons_of_notice?_eq_none {course : BrokerCourse} {before : List UInt8}
    {move : BrokerMove} (hmove : move.notice? = none)
    (hrest : (course.step move).Posted name before moves) :
    course.Posted name before (move :: moves) := by
  cases move with
  | send notice => contradiction
  | receive => exact ⟨hrest.count, hrest.bears, hrest.written⟩
  | shut => exact ⟨hrest.count, hrest.bears, hrest.written⟩
  | leave => exact ⟨hrest.count, hrest.bears, hrest.written⟩

/-- Whatever the writer does, a log keeps the name that it was given. -/
theorem posted_joined (outlet : Outlet) (log : LogSink) (moves : List BrokerMove) :
    (joined outlet log).Posted log.book.dispatcher log.writer.written moves := by
  induction moves generalizing outlet log with
  | nil => exact ⟨rfl, fun _ => nofun, (List.append_nil _).symm⟩
  | cons move rest ih =>
      -- what becomes of the channel is left open, as a dying writer keeps the notice from it
      cases move with
      | send notice =>
          obtain ⟨next, hstep⟩ := exists_step_send outlet log notice
          obtain ⟨posting, hposting, hbears, hwritten⟩ := posting?_send outlet log notice
          have hrest := ih next (log.deliver notice).2
          rw [← hstep, hwritten, LogSink.book_deliver] at hrest
          exact .cons_send hposting hbears hrest
      | receive => exact .cons_of_notice?_eq_none rfl (step_receive ▸ ih (outlet.step .receive) log)
      | shut => exact .cons_of_notice?_eq_none rfl (ih (outlet.step .shut) log)
      | leave => exact .cons_of_notice?_eq_none rfl (ih (outlet.step .leave) log)

theorem posted_ofSettings {settings : NotificationSettings} (hlogged : settings.logSink = true)
    (writer : Writer) (moves : List BrokerMove) :
    (ofSettings settings writer).Posted settings.dispatcher writer.written moves := by
  have hjoined : ofSettings settings writer =
      joined (.opened settings.channelCapacity.toNat) ⟨writer, .fresh settings.dispatcher⟩ := by
    rw [ofSettings, hlogged]
    rfl
  rw [hjoined]
  exact posted_joined _ ⟨writer, .fresh settings.dispatcher⟩ moves

/-- How the name of the dispatcher in some settings comes out in an audit log. -/
structure Stamped (settings : NotificationSettings) (writer : Writer)
    (moves : List BrokerMove) : Prop where
  clean : CleanName (Text.trimmed settings.dispatcher)
  around : ∃ front back,
    settings.dispatcher.toList = front ++ (Text.trimmed settings.dispatcher).toList ++ back ∧
      ∀ c ∈ front ++ back, Text.isBlank c = true
  /-- It is stamped with these blanks. -/
  posted : (ofSettings settings writer).Posted settings.dispatcher writer.written moves
  clean_iff : noticesOf moves ≠ [] →
    ((∀ posting ∈ (ofSettings settings writer).postings moves, posting.Clean) ↔
      Text.trimmed settings.dispatcher = settings.dispatcher)

end BrokerCourse

/-- **A name is stamped as it stands in the settings**, and it is checked without the blanks around
it. -/
theorem Settings.stamped_of_parse {text : String} {settings : Settings}
    (hparse : parse text = .ok settings) (hlogged : settings.notifications.logSink = true)
    (writer : Writer) (moves : List BrokerMove) :
    BrokerCourse.Stamped settings.notifications writer moves := by
  have hcheck := checkDispatcher_of_parse hparse
  have hposted := BrokerCourse.posted_ofSettings hlogged writer moves
  constructor
  case clean => exact checkDispatcher_eq_ok_iff.mp hcheck
  case around =>
    rw [Text.trimmed, String.toList_ofList]
    exact Text.exists_blanks_around _
  case posted => exact hposted
  case clean_iff =>
    intro hsent
    rw [← cleanName_iff_of_check hcheck]
    constructor
    · intro hclean
      have hsome := mt List.length_eq_zero_iff.mp hsent
      rw [← hposted.count] at hsome
      obtain ⟨posting, hposting⟩ := List.exists_mem_of_length_pos (Nat.pos_of_ne_zero hsome)
      exact (hposted.bears posting hposting).clean_iff.mp (hclean posting hposting)
    · intro hname posting hposting
      exact (hposted.bears posting hposting).clean_iff.mpr hname

def paddedText : String := "[notifications]\ndispatcher = \" audit \"\n"

def paddedSettings : Settings := ⟨.standard, .standard, ⟨true, 256, " audit "⟩⟩

theorem parse_paddedText : Settings.parse paddedText = .ok paddedSettings := by
  have hfound : (Settings.parse paddedText).toOption = some paddedSettings := by decide +kernel
  cases hparse : Settings.parse paddedText with
  | error fault =>
      rw [hparse] at hfound
      exact absurd hfound nofun
  | ok settings =>
      rw [hparse] at hfound
      rw [Option.some_inj.mp hfound]

def createdWinds : Notice := .standard .created ⟨"owner"⟩ ⟨"winds"⟩

theorem not_cleanName_padded : ¬CleanName " audit " := fun hclean =>
  absurd hclean.trimmed_eq (by decide)

/-- The settings are accepted, and what is stamped for the first notice is not clean. -/
theorem not_clean_paddedText :
    Settings.parse paddedText = .ok paddedSettings ∧
      paddedSettings.notifications.logSink = true ∧
      ∃ posting ∈ (BrokerCourse.ofSettings paddedSettings.notifications (.fresh [] [])).postings
          [.send createdWinds],
        (replay posting.line).map (List.map AuditEntry.dispatcher) = some [" audit "] ∧
          posting.receipt?.map Receipt.deliveryId = some " audit -1" ∧
          ¬posting.Clean := by
  have hlogged : paddedSettings.notifications.logSink = true := rfl
  have hposted := BrokerCourse.posted_ofSettings hlogged (.fresh [] []) [.send createdWinds]
  have hreceipts :
      ((BrokerCourse.ofSettings paddedSettings.notifications (.fresh [] [])).postings
          [.send createdWinds]).map (fun posting => posting.receipt?.map Receipt.deliveryId) =
        [some " audit -1"] := by
    decide +kernel
  obtain ⟨posting, hposting, hreceipt⟩ :=
    List.mem_map.mp (hreceipts ▸ List.mem_singleton_self (some " audit -1"))
  have hbears := hposted.bears posting hposting
  obtain ⟨entry, hreplay, hentry⟩ := hbears.line
  refine ⟨parse_paddedText, hlogged, posting, hposting, ?_, hreceipt, ?_⟩
  · rw [hreplay, Option.map_some, List.map_singleton, hentry]
    rfl
  · exact mt hbears.clean_iff.mp not_cleanName_padded

def dyingWriter : Writer := .fresh [.takesAll, .takesAtMost 40, .dies] []

/-- The line that is cut off and the one that is not written at all are made out under the same
name as the first. -/
theorem Settings.stamped_of_parse_paddedText :
    (Settings.parse paddedText = .ok paddedSettings ∧
        paddedSettings.notifications.logSink = true) ∧
      BrokerCourse.Stamped paddedSettings.notifications dyingWriter
        [.send createdWinds, .receive, .send createdWinds, .send createdWinds] ∧
      ((BrokerCourse.ofSettings paddedSettings.notifications dyingWriter).postings
          [.send createdWinds, .receive, .send createdWinds, .send createdWinds]).map
          (fun posting => (posting.taken.length, posting.receipt?.map Receipt.deliveryId)) =
        [(168, some " audit -1"), (40, none), (0, none)] :=
  ⟨⟨parse_paddedText, rfl⟩, stamped_of_parse parse_paddedText rfl _ _, by decide +kernel⟩

end SubscriptionDesk
