import SubscriptionDesk.Proofs.AuditTrail
import SubscriptionDesk.Proofs.Endings
import SubscriptionDesk.Proofs.Runs
import SubscriptionDesk.Proofs.Timestamps

/-!
# Reported times of completion

When a query is stored, its estimated time of completion is added to the reply. It is written as a
timestamp if its year has four digits, and as a number of milliseconds otherwise. No two times are
written alike, and the nanoseconds by way of which a timestamp is made always fit in twice the bits.
-/

namespace SubscriptionDesk

open Text

def Stamp.text? (stamp : Stamp) : Option String :=
  if 0 ≤ stamp.date.year ∧ stamp.date.year ≤ 9999 then some stamp.text else none

theorem Stamp.text?_of_year {stamp : Stamp} (hyear : stamp.date.FourDigitYear) :
    stamp.text? = some stamp.text :=
  if_pos hyear

theorem Stamp.text?_of_not {stamp : Stamp} (hyear : ¬stamp.date.FourDigitYear) :
    stamp.text? = none :=
  if_neg hyear

namespace Instant

variable {millis other : Int64} {date : CalendarDay}

def nanoseconds? (millis : Int64) : Option (BitVec 128) :=
  let wide := millis.toBitVec.signExtend 128
  if wide.smulOverflow 1000000 then none else some (wide * 1000000)

def textOfNanoseconds (millis : Int64) : String :=
  let timestamp? := (nanoseconds? millis).bind fun nanos => (Stamp.ofTicks 9 nanos.toInt).text?
  timestamp?.getD (toString millis ++ " ms since epoch")

structure FallsOn (millis : Int64) (date : CalendarDay) : Prop where
  inCalendar : date.InCalendar
  start : 86400000 * date.epochDay ≤ millis.toInt
  stop : millis.toInt < 86400000 * (date.epochDay + 1)

/-! ### The count of an instant -/

theorem fallsOn_iff : FallsOn millis date ↔ date = (Stamp.ofTicks 3 millis.toInt).date := by
  have hday : millis.toInt / 10 ^ 3 / 86400 = millis.toInt / 86400000 := by omega
  obtain ⟨hcalendar, hepoch⟩ := CalendarDay.inCalendar_ofEpochDay (millis.toInt / 10 ^ 3 / 86400)
  constructor
  · rintro ⟨hdate, hstart, hstop⟩
    refine hdate.eq_of_epochDay_eq hcalendar (hepoch.trans hday ▸ ?_)
    omega
  · rintro rfl
    refine ⟨hcalendar, ?_, ?_⟩ <;> rw [Stamp.ofTicks] <;> dsimp only <;> rw [hepoch] <;> omega

theorem fraction_eq {part : Nat} (hfits : part < 1000) :
    fraction part =
      if shortest (paddedDigits 3 part) = [] then ""
      else "." ++ String.ofList (shortest (paddedDigits 3 part)) := by
  have hnone : shortest (paddedDigits 3 part) = [] ↔ part = 0 := by
    rw [shortest_eq_nil_iff fun _ => isDigit_of_mem_paddedDigits,
      digitsValue_paddedDigits hfits]
  unfold fraction
  by_cases hzero : part = 0
  · rw [if_pos hzero, if_pos (hnone.mpr hzero)]
  · rw [if_neg hzero, if_neg (mt hnone.mp hzero)]
    rfl

theorem ofTicks_millis (millis : Int64) :
    Stamp.ofTicks 3 millis.toInt =
      let within := (millis.toInt % millisPerDay).toNat
      { date := .ofEpochDay (millis.toInt / millisPerDay)
        hour := within / 3600000
        minute := within / 60000 % 60
        second := within / 1000 % 60
        fraction := shortest (paddedDigits 3 (within % 1000)) } := by
  have hday : millis.toInt / 10 ^ 3 / 86400 = millis.toInt / millisPerDay := by
    unfold millisPerDay
    omega
  have hwithin : (millis.toInt / 10 ^ 3 % 86400).toNat =
      (millis.toInt % millisPerDay).toNat / 1000 := by
    unfold millisPerDay
    omega
  have hpart : (millis.toInt % 10 ^ 3).toNat = (millis.toInt % millisPerDay).toNat % 1000 := by
    unfold millisPerDay
    omega
  unfold Stamp.ofTicks
  simp only [hday, hwithin, hpart, Nat.div_div_eq_div_mul]

theorem text_eq (millis : Int64) :
    text millis =
      (Stamp.ofTicks 3 millis.toInt).text?.getD (toString millis ++ " ms since epoch") := by
  rw [ofTicks_millis]
  unfold text Stamp.text? Stamp.text
  dsimp only
  rw [fraction_eq (Nat.mod_lt _ (by decide))]
  split <;> rfl

/-- The nanoseconds fit, as a million has no more than twenty bits. -/
theorem nanoseconds?_eq (millis : Int64) :
    ∃ nanos, nanoseconds? millis = some nanos ∧ nanos.toInt = 1000000 * millis.toInt := by
  have hlow := millis.le_toInt
  have hhigh := millis.toInt_lt
  have hwide : (millis.toBitVec.signExtend 128).toInt = millis.toInt :=
    (BitVec.toInt_signExtend_of_le (by decide)).trans millis.toInt_toBitVec
  have hmillion : (1000000 : BitVec 128).toInt = 1000000 := by decide
  have hfits : ¬(millis.toBitVec.signExtend 128).smulOverflow 1000000 = true := by
    simp only [BitVec.smulOverflow, hwide, hmillion, Bool.or_eq_true, decide_eq_true_eq]
    omega
  refine ⟨_, if_neg hfits, ?_⟩
  rw [BitVec.toInt_mul_of_not_smulOverflow hfits, hwide, hmillion, Int.mul_comm]

theorem ofTicks_nanoseconds (ticks : Int) :
    Stamp.ofTicks 9 (1000000 * ticks) = Stamp.ofTicks 3 ticks := by
  have hticks : 1000000 * ticks = 10 * (10 * (10 * (10 * (10 * (10 * ticks))))) := by omega
  rw [hticks]
  simp only [Stamp.ofTicks_succ]

theorem textOfNanoseconds_eq (millis : Int64) : textOfNanoseconds millis = text millis := by
  obtain ⟨nanos, hnanos, htoInt⟩ := nanoseconds?_eq millis
  rw [text_eq, textOfNanoseconds, hnanos, Option.bind_some, htoInt, ofTicks_nanoseconds]

/-! ### The text of an instant -/

theorem denotes_text (hyear : (Stamp.ofTicks 3 millis.toInt).date.FourDigitYear) :
    Denotes (text millis) (millis.toInt / 1000) := by
  have hproper := Stamp.proper_ofTicks hyear
  refine ⟨_, hproper, ?_, (Stamp.seconds_ofTicks 3 millis.toInt).trans (by norm_num)⟩
  rw [text_eq, Stamp.text?_of_year hyear]
  exact hproper.written_text

theorem text_of_not (hyear : ¬(Stamp.ofTicks 3 millis.toInt).date.FourDigitYear) :
    text millis = toString millis ++ " ms since epoch" := by
  rw [text_eq, Stamp.text?_of_not hyear]
  rfl

/-- A timestamp tells that it is in UTC by its last letter. -/
theorem not_denotes_count {seconds : ℚ} :
    ¬Denotes (toString millis ++ " ms since epoch") seconds := by
  rintro ⟨stamp, -, ⟨front, -, htext⟩, -⟩
  have hlast := congrArg List.getLast? htext
  simp [Stamp.ending] at hlast

theorem seconds_eq_of_denotes {seconds : ℚ} (hdenotes : Denotes (text millis) seconds) :
    seconds = millis.toInt / 1000 := by
  by_cases hyear : (Stamp.ofTicks 3 millis.toInt).date.FourDigitYear
  · exact hdenotes.seconds_eq (denotes_text hyear)
  · rw [text_of_not hyear] at hdenotes
    exact absurd hdenotes not_denotes_count

theorem text_inj (hsame : text other = text millis) : other = millis := by
  by_cases hyear : (Stamp.ofTicks 3 other.toInt).date.FourDigitYear
  · have hseconds := seconds_eq_of_denotes (hsame ▸ denotes_text hyear)
    field_simp at hseconds
    exact Int64.toInt_inj.mp (by exact_mod_cast hseconds)
  by_cases hyear' : (Stamp.ofTicks 3 millis.toInt).date.FourDigitYear
  · have hdenotes := denotes_text hyear'
    rw [← hsame, text_of_not hyear] at hdenotes
    exact absurd hdenotes not_denotes_count
  · rw [text_of_not hyear, text_of_not hyear', ← String.toList_inj, String.toList_append,
      String.toList_append, List.append_cancel_right_eq, String.toList_inj] at hsame
    exact Int64.toInt_inj.mp (toString_int_inj hsame)

/-- The first year of four digits begins at midnight, as does the first of five. -/
theorem fourDigitYear_iff (hdate : FallsOn millis date) :
    date.FourDigitYear ↔
      -62167219200000 ≤ millis.toInt ∧ millis.toInt < 253402300800000 := by
  obtain ⟨hcalendar, hstart, hstop⟩ := hdate
  have hfirst : CalendarDay.daysToYear 0 = -719528 := by
    rw [CalendarDay.daysToYear_eq]
    rfl
  have hlast : CalendarDay.daysToYear 10000 = 2932897 := by
    rw [CalendarDay.daysToYear_eq]
    rfl
  have hlow := @CalendarDay.InCalendar.le_year_iff 0 date hcalendar
  have hhigh := @CalendarDay.InCalendar.le_year_iff 10000 date hcalendar
  rw [hfirst] at hlow
  rw [hlast] at hhigh
  unfold CalendarDay.FourDigitYear
  omega

end Instant

/-! ### The reply to a query that is stored -/

namespace Negotiation

variable {config : DeskConfig} {wording : Wording} {user : UserId} {mutation : Mutation}
  {submitted : List Subscription} {events : List Event} {result : Except ServiceFault Outcome}

/-- A negotiation does not ask for what is told at the end of an operation. -/
theorem Ending.unreported (hending : Ending config user mutation submitted events result) :
    ∀ event ∈ events, event.query.isReport = false := by
  have hprepares : ∀ query : Query, query.prepares = true → query.isReport = false := by
    intro query hprepares
    cases query <;> first | rfl | contradiction
  have hchange : ∀ {batch : List Subscription} {change : List Event}
      {answer : Except RegistryFault String}, MutationCourse user batch mutation change answer →
      ∀ event ∈ change, event.query.isReport = false := fun hmutation =>
    hmutation.forall_mem (fun _ _ => rfl) (fun _ => rfl) fun _ => rfl
  cases hending with
  | leaves hquiet => exact fun event hevent => hprepares _ (hquiet event hevent)
  | makes hbefore _ htold hmutation hsettle =>
      refine List.forall_mem_append.mpr ⟨fun event hevent => hprepares _ (hbefore event hevent), ?_⟩
      refine List.forall_mem_append.mpr ⟨forall_of_notices (fun _ _ => rfl) htold, ?_⟩
      refine List.forall_mem_append.mpr ⟨hchange hmutation, ?_⟩
      cases hsettle with
      | unneeded => simp
      | unconfirmed => simp [Query.isReport]
      | confirmed names hflags =>
          exact List.forall_mem_cons.mpr ⟨rfl, hflags.forall_mem (fun _ _ => rfl)
            (fun _ _ => rfl) fun _ _ => rfl⟩
  | refused reset hbefore _ htold hmutation =>
      refine List.forall_mem_append.mpr ⟨fun event hevent => hprepares _ (hbefore event hevent), ?_⟩
      refine List.forall_mem_append.mpr ⟨forall_of_notices (fun _ _ => rfl) htold, ?_⟩
      exact List.forall_mem_append.mpr ⟨hchange hmutation, List.forall_mem_singleton.mpr rfl⟩

/-- A change of one subscription that was made is replied to with a message. -/
theorem Course.message_isSome {subscription : Subscription} {outcome : Outcome}
    (hcourse : Course config wording user mutation [subscription] events (.ok outcome))
    (hexecuted : outcome.record.actionExecuted = true) : outcome.reply.message.isSome = true := by
  cases hcourse.concluded (fun _ => rfl) (List.cons_ne_nil _ _) with
  | made _ _ hshape => exact congrArg Prod.fst hshape
  | unmade hunmade hsteps =>
      rw [Record.actionExecuted, hsteps] at hexecuted
      simp [hunmade] at hexecuted

end Negotiation

namespace Desk

open Dialogue Negotiation

variable {config : DeskConfig} {wording : Wording} {user : UserId} {query stored : Subscription}
  {events : List Event} {outcome after : Outcome} {millis : Int64}

theorem reply_of_estimated (hruns : Runs (estimated outcome query) events after)
    (hasked : ⟨.estimate stored, .ok (some millis)⟩ ∈ events) :
    ∃ summary, after.reply = withEstimate outcome.reply summary millis := by
  obtain ⟨summary, rest, rfl, hrest⟩ := runs_call_bind.mp hruns
  obtain ⟨estimate, rest, rfl, hdone⟩ := runs_call_bind.mp hrest
  rcases estimate with fault | _ | found <;> obtain ⟨rfl, rfl⟩ := runs_done_iff.mp hdone
  · simp at hasked
  · simp at hasked
  · obtain ⟨-, rfl⟩ : stored = query ∧ millis = found := by simpa using hasked
    exact ⟨_, rfl⟩

theorem cases_afterChange {negotiated : Except ServiceFault Outcome}
    {next : Outcome → Dialogue Outcome}
    (hruns : Runs (afterChange negotiated next) events (.ok outcome)) :
    events = [] ∨ ∃ before, negotiated = .ok before ∧ before.record.actionExecuted = true ∧
      Runs (next before) events outcome := by
  unfold afterChange at hruns
  rcases negotiated with fault | before
  · exact .inl (runs_done_iff.mp hruns).1
  cases hexecuted : before.record.actionExecuted with
  | false =>
      simp only [hexecuted, Bool.false_eq_true, ↓reduceIte] at hruns
      exact .inl (runs_done_iff.mp hruns).1
  | true =>
      simp only [hexecuted, ↓reduceIte] at hruns
      obtain ⟨after, hafter, hresult⟩ := runs_map.mp hruns
      obtain rfl := Except.ok.inj hresult
      exact .inr ⟨before, rfl, hexecuted, hafter⟩

/-- An estimate that comes back while a query is stored is added to the message. -/
theorem message_of_estimate
    (hruns : Runs (storeNew config wording user .createQuery query estimated) events (.ok outcome))
    (hasked : ⟨.estimate stored, .ok (some millis)⟩ ∈ events) :
    ∃ message, outcome.reply.message =
      some (message ++ "\nEstimated completion time: " ++ Instant.text millis) := by
  obtain ⟨checked, turned, rest, hturned, hrest, rfl⟩ := runs_bind.mp hruns
  replace hasked := (List.mem_append.mp hasked).resolve_left fun hmem => by
    rcases runs_turnDownNew hturned with ⟨_, -, rfl, -⟩ | ⟨-, ⟨rfl, -⟩ | ⟨_, rfl, -⟩ |
      ⟨_, _, rfl, -⟩⟩ <;> simp at hmem
  cases turned with
  | some turned =>
      obtain ⟨rfl, -⟩ := runs_done_iff.mp hrest
      exact absurd hasked List.not_mem_nil
  | none =>
      obtain ⟨negotiation, negotiated, tail, hnegotiation, htail, rfl⟩ := runs_bind.mp hrest
      have hcourse := runs_run.mp hnegotiation
      replace hasked := (List.mem_append.mp hasked).resolve_left fun hmem =>
        Bool.noConfusion (hcourse.ending.unreported _ hmem)
      rcases cases_afterChange htail with rfl | ⟨before, rfl, hexecuted, hafter⟩
      · exact absurd hasked List.not_mem_nil
      obtain ⟨told, _, reports, htold, hreports, rfl⟩ := runs_bind.mp hafter
      replace hasked := (List.mem_append.mp hasked).resolve_left fun hmem => by
        obtain ⟨subscription, -, hquery⟩ :=
          List.mem_map.mp (runs_notifyEach.mp htold ▸ List.mem_map_of_mem (f := Event.query) hmem)
        contradiction
      obtain ⟨message, hmessage⟩ := Option.isSome_iff_exists.mp (hcourse.message_isSome hexecuted)
      split at hreports
      · obtain ⟨summary, hreply⟩ := reply_of_estimated hreports hasked
        refine ⟨message, ?_⟩
        rw [hreply, withEstimate, Reply.withStatusSummary]
        dsimp only
        rw [hmessage]
        rfl
      · obtain ⟨rfl, -⟩ := runs_done_iff.mp hreports
        exact absurd hasked List.not_mem_nil

end Desk

namespace Instant

/-- How the time of completion is reported that is estimated for a query. -/
structure Identified (millis : Int64) : Prop where
  date : ∃! date, FallsOn millis date
  dated : ∀ date, FallsOn millis date → date.FourDigitYear →
    ∀ written, Denotes written (millis.toInt / 1000) ↔ written = text millis
  /-- It is the timestamp of no other instant. -/
  instant : ∀ seconds, Denotes (text millis) seconds → seconds = millis.toInt / 1000
  counted : ∀ date, FallsOn millis date → ¬date.FourDigitYear →
    text millis = toString millis ++ " ms since epoch"
  bounds : ∀ date, FallsOn millis date →
    (date.FourDigitYear ↔ -62167219200000 ≤ millis.toInt ∧ millis.toInt < 253402300800000)
  widened : ∃ nanos, nanoseconds? millis = some nanos ∧ nanos.toInt = 1000000 * millis.toInt
  computed : textOfNanoseconds millis = text millis
  alone : ∀ other, text other = text millis → other = millis
  appended : ∀ config wording user subscription events outcome query,
    Dialogue.Runs ((Operation.storeAdhoc subscription).run config wording user) events
      (.ok outcome) →
    ⟨.estimate query, .ok (some millis)⟩ ∈ events →
    ∃ message, outcome.reply.message =
      some (message ++ "\nEstimated completion time: " ++ text millis)
  /-- Every number of milliseconds can come back as an estimate. -/
  reported : ∃ subscription query events outcome,
    Dialogue.Runs ((Operation.storeAdhoc subscription).run .standard standardWording ⟨"user"⟩)
      events (.ok outcome) ∧
    ⟨.estimate query, .ok (some millis)⟩ ∈ events

def estimatedRun (millis : Int64) : List Event × Except ServiceFault Outcome × Rehearsal :=
  ((Operation.storeAdhoc (.sample "winds")).run .standard standardWording ⟨"user"⟩).converse
    Rehearsal.respond (.scripted [] { Script.empty with estimates := [some millis] })

def estimatedOutcome (millis : Int64) : Outcome :=
  (estimatedRun millis).2.1.toOption.getD .noSubscriptions

theorem runs_estimatedRun (millis : Int64) :
    Dialogue.Runs ((Operation.storeAdhoc (.sample "winds")).run .standard standardWording ⟨"user"⟩)
      (estimatedRun millis).1 (.ok (estimatedOutcome millis)) := by
  have hresult : (estimatedRun millis).2.1 = .ok (estimatedOutcome millis) := by rfl
  rw [← hresult]
  exact Dialogue.runs_converse ..

theorem mem_estimatedRun (millis : Int64) :
    ⟨.estimate { Subscription.sample "winds" with recurrence := .adhoc }, .ok (some millis)⟩ ∈
      (estimatedRun millis).1 := by
  have hlast : (estimatedRun millis).1.getLast? =
      some ⟨.estimate { Subscription.sample "winds" with recurrence := .adhoc },
        .ok (some millis)⟩ := by rfl
  exact List.mem_of_getLast? hlast

/-- **The reported time of completion identifies the instant.** -/
theorem identified (millis : Int64) : Identified millis where
  date := ⟨_, fallsOn_iff.mpr rfl, fun _ => fallsOn_iff.mp⟩
  dated date hdate hyear written := by
    obtain rfl := fallsOn_iff.mp hdate
    have hdenotes := denotes_text hyear
    constructor
    · exact fun hwritten => hwritten.text_eq hdenotes
    · rintro rfl
      exact hdenotes
  instant _ := seconds_eq_of_denotes
  counted date hdate hyear := by
    obtain rfl := fallsOn_iff.mp hdate
    exact text_of_not hyear
  bounds _ := fourDigitYear_iff
  widened := nanoseconds?_eq millis
  computed := textOfNanoseconds_eq millis
  alone _ := text_inj
  appended _ _ _ _ _ _ _ := Desk.message_of_estimate
  reported := ⟨_, _, _, _, runs_estimatedRun millis, mem_estimatedRun millis⟩

/-- Before 1970 the digits behind the point still count forward. -/
example : text (-1) = "1969-12-31T23:59:59.999Z" := by decide +kernel

end Instant

end SubscriptionDesk
