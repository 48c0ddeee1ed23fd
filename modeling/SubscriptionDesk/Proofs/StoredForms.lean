import SubscriptionDesk.Proofs.StoredReading
import SubscriptionDesk.Stored.Negotiation

/-!
# Stored forms are read back

Each record is read back from any object that has its keys, whatever order they are in and whatever
else there is, and each alternative likewise, with its tag as one key among others. One theorem for
each type rests on those for the types of its fields. A coordinate that is not finite has no stored
form. But none is ever read, since JSON has no such number, and so all that is read has a stored
form that is read back.
-/

namespace SubscriptionDesk

namespace Stored

/-! ### Constants -/

theorem recovered_priority (priority : Priority) : Recovered priority :=
  .of_text rfl fun _ => by cases priority <;> rfl

theorem recovered_activity (activity : Activity) : Recovered activity :=
  .of_text rfl fun _ => by cases activity <;> rfl

theorem recovered_recurrence (recurrence : Recurrence) : Recovered recurrence :=
  .of_text rfl fun _ => by cases recurrence <;> rfl

theorem ofLabel?_overlapKind (kind : OverlapKind) :
    ofLabel? OverlapKind.all OverlapKind.label (.text kind.label) = some kind := by
  cases kind <;> rfl

theorem recovered_overlapKind (kind : OverlapKind) : Recovered kind :=
  .of_text rfl fun _ => ofLabel?_overlapKind kind

theorem ofLabel?_decision (decision : Decision) :
    ofLabel? Decision.all Decision.label (.text decision.label) = some decision := by
  cases decision <;> rfl

theorem recovered_decision (decision : Decision) : Recovered decision :=
  .of_text rfl fun _ => ofLabel?_decision decision

theorem recovered_noticeKind (kind : NoticeKind) : Recovered kind :=
  .of_text rfl fun _ => by cases kind <;> rfl

/-! ### Subscriptions -/

theorem recovered_nameSet {role : Role} (names : NameSet role) : Recovered names :=
  recovered_set fun _ _ => recovered_name _

theorem recovered_envelope {box : Envelope} (hfinite : ∀ x ∈ box.bounds, x.isFinite = true) :
    Recovered box := by
  intro room json hrestates hplain
  have hbound (x : Binary64) (hx : x ∈ box.bounds) : Recovered x :=
    recovered_coordinate (hfinite x hx)
  refine bind_fields?_of_restates rfl (by decide) hrestates hplain fun fields hheld => ?_
  obtain _ | ⟨hminX, _ | ⟨hminY, _ | ⟨hmaxX, _ | ⟨hmaxY, _ | _⟩⟩⟩⟩ := hheld
  simp [(hbound box.minX (by simp [Envelope.bounds])).required? hminX,
    (hbound box.minY (by simp [Envelope.bounds])).required? hminY,
    (hbound box.maxX (by simp [Envelope.bounds])).required? hmaxX,
    (hbound box.maxY (by simp [Envelope.bounds])).required? hmaxY]

theorem recovered_period (period : Period) : Recovered period := by
  intro room json hrestates hplain
  refine bind_fields?_of_restates rfl (by decide) hrestates hplain fun fields hheld => ?_
  obtain _ | ⟨hstart, _ | ⟨hend, _ | _⟩⟩ := hheld
  simp [(recovered_int64 _).required? hstart, (recovered_int64 _).required? hend]

theorem recovered_optionalPeriod (period : Option Period) : Recovered period :=
  recovered_option (fun _ _ => recovered_period _) fun _ _ heq => nomatch heq

theorem recovered_times (times : RequestedTimes) : Recovered times := by
  intro room json hrestates hplain
  cases times with
  | recurring cycleHours forecastHours =>
      refine bind_tagged?_of_restates (by simp) hrestates hplain fun rest hrest hplain => ?_
      refine bind_fields?_of_restates rfl (by decide) hrest hplain fun fields hheld => ?_
      obtain _ | ⟨hcycle, _ | ⟨hforecast, _ | _⟩⟩ := hheld
      simp [(recovered_set fun _ _ => recovered_uint8 _).required? hcycle,
        (recovered_set fun _ _ => recovered_uint16 _).required? hforecast]
  | range period =>
      refine bind_tagged?_of_restates (by simp [Period.members]) hrestates hplain
        fun rest hrest hplain => ?_
      simp [recovered_period period room rest hrest hplain]

theorem recovered_subscription {subscription : Subscription}
    (hfinite : ∀ x ∈ subscription.coverage.bounds, x.isFinite = true) : Recovered subscription := by
  intro room json hrestates hplain
  refine bind_fields?_of_restates rfl (by decide) hrestates hplain fun fields hheld => ?_
  obtain _ | ⟨hname, _ | ⟨howner, _ | ⟨hoffices, _ | ⟨hprovider, hheld⟩⟩⟩⟩ := hheld
  obtain _ | ⟨hdataSet, _ | ⟨hdataType, _ | ⟨htimes, _ | ⟨hcoverage, hheld⟩⟩⟩⟩ := hheld
  obtain _ | ⟨hpriority, _ | ⟨hlatency, _ | ⟨hactive, _ | ⟨hperiod, hheld⟩⟩⟩⟩ := hheld
  obtain _ | ⟨hactivity, _ | ⟨hunscheduled, _ | ⟨hdeleted, _ | ⟨hrecurrence, _ | _⟩⟩⟩⟩ := hheld
  simp [(recovered_name _).required? hname, (recovered_name _).required? howner,
    (recovered_nameSet _).required? hoffices, (recovered_name _).required? hprovider,
    (recovered_name _).required? hdataSet, (recovered_name _).required? hdataType,
    (recovered_times _).required? htimes, (recovered_envelope hfinite).required? hcoverage,
    (recovered_priority _).required? hpriority, (recovered_uint32 _).required? hlatency,
    (recovered_optionalPeriod _).optional? hactive,
    (recovered_optionalPeriod _).optional? hperiod,
    (recovered_activity _).required? hactivity, (recovered_bool _).required? hunscheduled,
    (recovered_bool _).required? hdeleted, (recovered_recurrence _).required? hrecurrence]

/-! ### Negotiations -/

theorem recovered_proposal (proposal : Proposal) : Recovered proposal := by
  intro room json hrestates hplain
  refine bind_fields?_of_restates rfl (by decide) hrestates hplain fun fields hheld => ?_
  obtain _ | ⟨hunscheduled, _ | ⟨hlatency, _ | ⟨hsize, _ | _⟩⟩⟩ := hheld
  simp [(recovered_nameSet _).required? hunscheduled, (recovered_uint32 _).required? hlatency,
    (recovered_uint64 _).required? hsize]

theorem recovered_overlapReport (report : OverlapReport) : Recovered report := by
  intro room json hrestates hplain
  refine bind_fields?_of_restates rfl (by decide) hrestates hplain fun fields hheld => ?_
  obtain _ | ⟨hkind, _ | ⟨hnames, _ | _⟩⟩ := hheld
  simp [(recovered_overlapKind _).required? hkind, (recovered_nameSet _).required? hnames]

theorem recovered_configuration {configuration : PromptConfiguration}
    (hfinite : ∀ subject ∈ configuration.subject, ∀ x ∈ subject.coverage.bounds,
      x.isFinite = true) : Recovered configuration := by
  intro room json hrestates hplain
  have hlatency (latency : Option UInt32) : Recovered latency :=
    recovered_option (fun _ _ => recovered_uint32 _) fun _ _ heq => nomatch heq
  have hsizes : Recovered configuration.maximumAllowedSize :=
    recovered_option (fun _ _ => recovered_uint64 _) fun _ _ heq => nomatch heq
  have hsubject : Recovered configuration.subject :=
    recovered_option (fun subject hmem => recovered_subscription (hfinite subject hmem))
      fun _ _ heq => nomatch heq
  refine bind_fields?_of_restates rfl (by decide) hrestates hplain fun fields hheld => ?_
  obtain _ | ⟨htitle, _ | ⟨hmessage, _ | ⟨hrequired, _ | ⟨hmaximum, hheld⟩⟩⟩⟩ := hheld
  obtain _ | ⟨hsize, _ | ⟨hshown, _ | ⟨hunscheduled, _ | _⟩⟩⟩ := hheld
  simp [(recovered_text _).required? htitle, (recovered_text _).required? hmessage,
    (hlatency _).optional? hrequired, (hlatency _).optional? hmaximum, hsizes.optional? hsize,
    hsubject.optional? hshown, (recovered_nameSet _).required? hunscheduled]

theorem recovered_summary (summary : StatusSummary) : Recovered summary := by
  intro room json hrestates hplain
  have hinstant (instant : Option Int64) : Recovered instant :=
    recovered_option (fun _ _ => recovered_int64 _) fun _ _ heq => nomatch heq
  refine bind_fields?_of_restates rfl (by decide) hrestates hplain fun fields hheld => ?_
  obtain _ | ⟨hstart, _ | ⟨hend, _ | ⟨hlatency, _ | ⟨hsize, _ | ⟨hestimate, _ | _⟩⟩⟩⟩⟩ := hheld
  simp [(hinstant _).optional? hstart, (hinstant _).optional? hend,
    (recovered_uint32 _).required? hlatency, (recovered_uint64 _).required? hsize,
    (hinstant _).optional? hestimate]

theorem recovered_reply (reply : Reply) : Recovered reply := by
  intro room json hrestates hplain
  have htext : Recovered reply.message :=
    recovered_option (fun _ _ => recovered_text _) fun _ _ heq => nomatch heq
  have hstatus : Recovered reply.statusSummary :=
    recovered_option (fun _ _ => recovered_summary _) fun _ _ heq => nomatch heq
  refine bind_fields?_of_restates rfl (by decide) hrestates hplain fun fields hheld => ?_
  obtain _ | ⟨hmessage, _ | ⟨hediting, _ | ⟨hsummary, _ | _⟩⟩⟩ := hheld
  simp [htext.optional? hmessage, (recovered_bool _).required? hediting,
    hstatus.optional? hsummary]

theorem recovered_notice (notice : Notice) : Recovered notice := by
  intro room json hrestates hplain
  refine bind_fields?_of_restates rfl (by decide) hrestates hplain fun fields hheld => ?_
  obtain _ | ⟨hkind, _ | ⟨huser, _ | ⟨hsubscription, _ | ⟨hmessage, _ | _⟩⟩⟩⟩ := hheld
  simp [(recovered_noticeKind _).required? hkind, (recovered_name _).required? huser,
    (recovered_name _).required? hsubscription, (recovered_text _).required? hmessage]

/-- A constant beside a tag is read as any other. -/
theorem ofLabelBeside?_of_holds {α : Type} {all : List α} {label : α → String} {value : α}
    {room : Nat} {field : Option Json}
    (hlabel : ofLabel? all label (.text (label value)) = some value)
    (hfield : Holds room (.text (label value)) field) :
    ∃ json, field = some json ∧ ofLabelBeside? all label json = some value := by
  obtain ⟨json, rfl, hrestates, -⟩ := hfield
  cases hrestates
  exact ⟨_, rfl, hlabel⟩

theorem recovered_step (step : Step) : Recovered step := by
  intro room json hrestates hplain
  cases step with
  | rejected | actionExecuted | reinitialized | aborted =>
      refine bind_tagged?_of_restates (by simp) hrestates hplain fun rest hrest _ => ?_
      cases hrest
      rfl
  | overlapChecked kind =>
      refine bind_tagged?_of_restates (by simp) hrestates hplain fun rest hrest hplain => ?_
      refine bind_fields?_of_restates rfl (by decide) hrest hplain fun fields hheld => ?_
      obtain _ | ⟨hkind, _ | _⟩ := hheld
      obtain ⟨found, rfl, hfound⟩ := ofLabelBeside?_of_holds (ofLabel?_overlapKind kind) hkind
      simp [hfound]
  | prompted decision =>
      refine bind_tagged?_of_restates (by simp) hrestates hplain fun rest hrest hplain => ?_
      refine bind_fields?_of_restates rfl (by decide) hrest hplain fun fields hheld => ?_
      obtain _ | ⟨hdecision, _ | _⟩ := hheld
      obtain ⟨found, rfl, hfound⟩ := ofLabelBeside?_of_holds (ofLabel?_decision decision) hdecision
      simp [hfound]
  | proposed unscheduled | scheduled unscheduled =>
      refine bind_tagged?_of_restates (by simp) hrestates hplain fun rest hrest hplain => ?_
      refine bind_fields?_of_restates rfl (by decide) hrest hplain fun fields hheld => ?_
      obtain _ | ⟨hunscheduled, _ | _⟩ := hheld
      simp [(recovered_uint64 _).required? hunscheduled]

theorem nameBeside?_of_restates {room : Nat} {rest : Json} {name : SubscriptionName}
    (hrest : (Json.object [("name", toJson name)]).Restates rest)
    (hplain : rest.isPlain room = true) : Change.nameBeside? room rest = some name := by
  refine bind_fields?_of_restates rfl (by decide) hrest hplain fun fields hheld => ?_
  obtain _ | ⟨hname, _ | _⟩ := hheld
  exact (recovered_name _).required? hname

theorem recovered_change (change : Change) : Recovered change := by
  intro room json hrestates hplain
  cases change with
  | clearedUnscheduled name | activated name | markedUnscheduled name | deactivated name =>
      refine bind_tagged?_of_restates (by simp) hrestates hplain fun rest hrest hplain => ?_
      simp [nameBeside?_of_restates hrest hplain]
  | latencyChanged name before after =>
      refine bind_tagged?_of_restates (by simp) hrestates hplain fun rest hrest hplain => ?_
      refine bind_fields?_of_restates rfl (by decide) hrest hplain fun fields hheld => ?_
      obtain _ | ⟨hname, _ | ⟨hbefore, _ | ⟨hafter, _ | _⟩⟩⟩ := hheld
      simp [(recovered_name _).required? hname, (recovered_uint32 _).required? hbefore,
        (recovered_uint32 _).required? hafter]

theorem recovered_record (record : Record) : Recovered record := by
  intro room json hrestates hplain
  refine bind_fields?_of_restates rfl (by decide) hrestates hplain fun fields hheld => ?_
  obtain _ | ⟨hsteps, _ | ⟨hchanges, _ | ⟨hwarnings, _ | ⟨hunscheduled, _ | _⟩⟩⟩⟩ := hheld
  simp [(recovered_list fun _ _ => recovered_step _).required? hsteps,
    (recovered_list fun _ _ => recovered_change _).required? hchanges,
    (recovered_list fun _ _ => recovered_text _).required? hwarnings,
    (recovered_nameSet _).required? hunscheduled]

/-! ### Room -/

/-- Types whose stored forms nest no deeper than this. -/
class Nests (α : Type) [Stored α] (depth : outParam Nat) : Prop where
  isPlain_toJson : ∀ (value : α) (room : Nat), depth ≤ room → (toJson value).isPlain room = true

section Nests

open Nests

instance : Nests String 0 := ⟨fun _ _ _ => rfl⟩
instance : Nests Bool 0 := ⟨fun _ _ _ => rfl⟩
instance : Nests UInt8 0 := ⟨fun _ _ _ => rfl⟩
instance : Nests UInt16 0 := ⟨fun _ _ _ => rfl⟩
instance : Nests UInt32 0 := ⟨fun _ _ _ => rfl⟩
instance : Nests UInt64 0 := ⟨fun _ _ _ => rfl⟩
instance : Nests Int64 0 := ⟨fun _ _ _ => rfl⟩
instance {role : Role} : Nests (Name role) 0 := ⟨fun _ _ _ => rfl⟩
instance : Nests Priority 0 := ⟨fun _ _ _ => rfl⟩
instance : Nests Activity 0 := ⟨fun _ _ _ => rfl⟩
instance : Nests Recurrence 0 := ⟨fun _ _ _ => rfl⟩
instance : Nests OverlapKind 0 := ⟨fun _ _ _ => rfl⟩
instance : Nests Decision 0 := ⟨fun _ _ _ => rfl⟩
instance : Nests NoticeKind 0 := ⟨fun _ _ _ => rfl⟩

instance : Nests Binary64 0 where
  isPlain_toJson x room _ := by
    cases hfinite : x.isFinite <;> simp [toJson, hfinite, Json.isPlain]

variable {α : Type} [Stored α] {depth : Nat}

instance [Nests α depth] : Nests (List α) (depth + 1) where
  isPlain_toJson values room hroom := by
    refine Json.isPlain_array_iff.mpr ⟨by omega, fun item hitem => ?_⟩
    obtain ⟨value, -, rfl⟩ := List.mem_map.mp hitem
    exact isPlain_toJson value (room - 1) (by omega)

instance [LT α] [DecidableLT α] [StrictTotalOrder α] [Nests α depth] :
    Nests (AscendingSet α) (depth + 1) where
  isPlain_toJson set := isPlain_toJson set.members

instance [Nests α depth] : Nests (Option α) depth where
  isPlain_toJson
    | some value, room, hroom => isPlain_toJson value room hroom
    | none, _, _ => rfl

theorem isPlain_object {room : Nat} {members : List (String × Json)} (hroom : 0 < room)
    (hall : ∀ member ∈ members, member.2.isPlain (room - 1) = true) :
    (Json.object members).isPlain room = true :=
  Json.isPlain_object_iff.mpr ⟨hroom, hall⟩

instance : Nests Envelope 1 where
  isPlain_toJson _ _ hroom := isPlain_object hroom (by simp [isPlain_toJson])

instance : Nests Period 1 where
  isPlain_toJson _ _ hroom := isPlain_object hroom (by simp [Period.members, isPlain_toJson])

instance : Nests RequestedTimes 2 where
  isPlain_toJson times room hroom := by
    cases times with
    | recurring cycleHours forecastHours =>
        exact isPlain_object (by omega) (by simp (disch := omega) [isPlain_toJson, Json.isPlain])
    | range period =>
        exact isPlain_object (by omega)
          (by simp (disch := omega) [Period.members, isPlain_toJson, Json.isPlain])

instance : Nests Subscription 3 where
  isPlain_toJson _ _ hroom :=
    isPlain_object (by omega) (by simp (disch := omega) [isPlain_toJson])

instance : Nests Proposal 2 where
  isPlain_toJson _ _ hroom :=
    isPlain_object (by omega) (by simp (disch := omega) [isPlain_toJson])

instance : Nests OverlapReport 2 where
  isPlain_toJson _ _ hroom :=
    isPlain_object (by omega) (by simp (disch := omega) [isPlain_toJson])

instance : Nests PromptConfiguration 4 where
  isPlain_toJson _ _ hroom :=
    isPlain_object (by omega) (by simp (disch := omega) [isPlain_toJson])

instance : Nests StatusSummary 1 where
  isPlain_toJson _ _ hroom := isPlain_object hroom (by simp [isPlain_toJson])

instance : Nests Reply 2 where
  isPlain_toJson _ _ hroom :=
    isPlain_object (by omega) (by simp (disch := omega) [isPlain_toJson])

instance : Nests Notice 1 where
  isPlain_toJson _ _ hroom := isPlain_object hroom (by simp [isPlain_toJson])

instance : Nests Step 1 where
  isPlain_toJson step _ hroom := by
    cases step <;> exact isPlain_object hroom (by simp [isPlain_toJson, Json.isPlain])

instance : Nests Change 1 where
  isPlain_toJson change _ hroom := by
    cases change <;> exact isPlain_object hroom (by simp [isPlain_toJson, Json.isPlain])

instance : Nests Record 3 where
  isPlain_toJson _ _ hroom :=
    isPlain_object (by omega) (by simp (disch := omega) [isPlain_toJson])

end Nests

/-! ### Coordinates -/

/-- A reader that comes to a result has got past its first step. -/
theorem exists_of_bind {α β : Type} {found : Option α} {read : α → Option β} {result : β}
    (hread : (found >>= read) = some result) :
    ∃ value, found = some value ∧ read value = some result :=
  Option.bind_eq_some_iff.mp hread

theorem ensures_bounds : Ensures fun box : Envelope => ∀ x ∈ box.bounds, x.isFinite = true := by
  intro room json box hexact hread
  obtain ⟨fields, hfields, hread⟩ := Option.bind_eq_some_iff.mp hread
  have hexactFields := exact_of_fields? hexact hfields
  split at hread
  · rename_i minX minY maxX maxY
    obtain ⟨a, ha, hread⟩ := exists_of_bind hread
    obtain ⟨b, hb, hread⟩ := exists_of_bind hread
    obtain ⟨c, hc, hread⟩ := exists_of_bind hread
    obtain ⟨d, hd, hread⟩ := exists_of_bind hread
    obtain rfl := Option.some.inj hread
    have hfinite {field : Option Json} {x : Binary64} (hfield : field ∈ [minX, minY, maxX, maxY])
        (hx : required? room field = some x) : x.isFinite = true :=
      ensures_isFinite.required? (hexactFields field hfield) hx
    simp only [Envelope.bounds, List.forall_mem_cons]
    exact ⟨hfinite (by simp) ha, hfinite (by simp) hb, hfinite (by simp) hc, hfinite (by simp) hd,
      nofun⟩
  · contradiction

theorem ensures_coverage : Ensures fun subscription : Subscription =>
    ∀ x ∈ subscription.coverage.bounds, x.isFinite = true := by
  intro room json subscription hexact hread
  obtain ⟨fields, hfields, hread⟩ := Option.bind_eq_some_iff.mp hread
  have hexactFields := exact_of_fields? hexact hfields
  split at hread
  · iterate 7 obtain ⟨_, -, hread⟩ := exists_of_bind hread
    obtain ⟨coverage, hcoverage, hread⟩ := exists_of_bind hread
    iterate 8 obtain ⟨_, -, hread⟩ := exists_of_bind hread
    obtain rfl := Option.some.inj hread
    exact ensures_bounds.required? (hexactFields _ (by simp)) hcoverage
  · contradiction

theorem ensures_subject : Ensures fun configuration : PromptConfiguration =>
    ∀ subject ∈ configuration.subject, ∀ x ∈ subject.coverage.bounds, x.isFinite = true := by
  intro room json configuration hexact hread
  obtain ⟨fields, hfields, hread⟩ := Option.bind_eq_some_iff.mp hread
  have hexactFields := exact_of_fields? hexact hfields
  split at hread
  · iterate 5 obtain ⟨_, -, hread⟩ := exists_of_bind hread
    obtain ⟨subject, hsubject, hread⟩ := exists_of_bind hread
    obtain ⟨_, -, hread⟩ := exists_of_bind hread
    obtain rfl := Option.some.inj hread
    exact ensures_coverage.optional? (hexactFields _ (by simp)) hsubject
  · contradiction

/-! ### All stored forms -/

/-- What is shown at a prompt has the coordinates of the subscription in question. -/
def shownCoordinates (configuration : PromptConfiguration) : List Binary64 :=
  configuration.subject.toList.flatMap fun subject => subject.coverage.bounds

theorem forall_shownCoordinates_iff {configuration : PromptConfiguration} :
    (∀ x ∈ shownCoordinates configuration, x.isFinite = true) ↔
      ∀ subject ∈ configuration.subject, ∀ x ∈ subject.coverage.bounds, x.isFinite = true := by
  simp only [shownCoordinates, List.mem_flatMap, Option.mem_toList]
  exact ⟨fun hall subject hsubject x hx => hall x ⟨subject, hsubject, hx⟩,
    fun hall x ⟨subject, hsubject, hx⟩ => hall subject hsubject x hx⟩

/-- The types that have a stored form, with the coordinates that are in their values. -/
inductive CoreType : (α : Type) → [Stored α] → (α → List Binary64) → Prop
  | name {role : Role} : CoreType (Name role) fun _ => []
  | priority : CoreType Priority fun _ => []
  | activity : CoreType Activity fun _ => []
  | recurrence : CoreType Recurrence fun _ => []
  | envelope : CoreType Envelope Envelope.bounds
  | period : CoreType Period fun _ => []
  | times : CoreType RequestedTimes fun _ => []
  | subscription : CoreType Subscription fun subscription => subscription.coverage.bounds
  | proposal : CoreType Proposal fun _ => []
  | overlapKind : CoreType OverlapKind fun _ => []
  | overlapReport : CoreType OverlapReport fun _ => []
  | decision : CoreType Decision fun _ => []
  | configuration : CoreType PromptConfiguration shownCoordinates
  | summary : CoreType StatusSummary fun _ => []
  | reply : CoreType Reply fun _ => []
  | step : CoreType Step fun _ => []
  | change : CoreType Change fun _ => []
  | record : CoreType Record fun _ => []
  | noticeKind : CoreType NoticeKind fun _ => []
  | notice : CoreType Notice fun _ => []

/-- Whether values of a type, if their coordinates are finite, are read from all that says what
their stored forms do, and whether all that is read has such a form. -/
structure RoundTrips (α : Type) [Stored α] (coordinates : α → List Binary64) : Prop where
  restored : ∀ value : α, (∀ x ∈ coordinates value, x.isFinite = true) →
    ∀ json room, (toJson value).Restates json → json.isPlain room = true →
      ofJson? room json = some value
  restoredGivenRoom : ∀ value : α, (∀ x ∈ coordinates value, x.isFinite = true) →
    ∀ json, (toJson value).Restates json → json.Exact →
      ∃ enough, ∀ room, enough ≤ room → ofJson? room json = some value
  own : ∀ value : α, (∀ x ∈ coordinates value, x.isFinite = true) →
    ∀ room, 4 ≤ room → ofJson? room (toJson value) = some value
  canonical : ∀ json room value, json.Exact → (ofJson? room json : Option α) = some value →
    ∀ more, 4 ≤ more → ofJson? more (toJson value) = some value

section RoundTrips

variable {α : Type} [Stored α] {depth : Nat} [Nests α depth]

theorem RoundTrips.of_recovered {coordinates : α → List Binary64} (hdepth : depth ≤ 4)
    (hrecovered : ∀ value : α, (∀ x ∈ coordinates value, x.isFinite = true) → Recovered value)
    (hensures : Ensures fun value : α => ∀ x ∈ coordinates value, x.isFinite = true) :
    RoundTrips α coordinates := by
  have hown (value : α) (hfinite : ∀ x ∈ coordinates value, x.isFinite = true) (room : Nat)
      (hroom : 4 ≤ room) : ofJson? room (toJson value) = some value :=
    hrecovered value hfinite room (toJson value) (.refl _)
      (Nests.isPlain_toJson value room (Nat.le_trans hdepth hroom))
  constructor
  case restored =>
    intro value hfinite json room hrestates hplain
    exact hrecovered value hfinite room json hrestates hplain
  case restoredGivenRoom =>
    intro value hfinite json hrestates hexact
    obtain ⟨enough, hplain⟩ := Json.Exact.exists_room json hexact
    exact ⟨enough, fun room hroom =>
      hrecovered value hfinite room json hrestates (hplain room hroom)⟩
  case own => exact hown
  case canonical =>
    intro json room value hexact hread
    exact hown value (hensures room json value hexact hread)

theorem RoundTrips.of_forall (hdepth : depth ≤ 4) (hrecovered : ∀ value : α, Recovered value) :
    RoundTrips α fun _ => [] :=
  .of_recovered hdepth (fun value _ => hrecovered value) fun _ _ _ _ _ => nofun

end RoundTrips

/-- **Stored forms are read back.** -/
theorem roundTrips_of_coreType {α : Type} [Stored α] {coordinates : α → List Binary64}
    (hcore : CoreType α coordinates) : RoundTrips α coordinates := by
  cases hcore with
  | name => exact .of_forall (by decide) recovered_name
  | priority => exact .of_forall (by decide) recovered_priority
  | activity => exact .of_forall (by decide) recovered_activity
  | recurrence => exact .of_forall (by decide) recovered_recurrence
  | envelope => exact .of_recovered (by decide) (fun _ => recovered_envelope) ensures_bounds
  | period => exact .of_forall (by decide) recovered_period
  | times => exact .of_forall (by decide) recovered_times
  | subscription =>
      exact .of_recovered (by decide) (fun _ => recovered_subscription) ensures_coverage
  | proposal => exact .of_forall (by decide) recovered_proposal
  | overlapKind => exact .of_forall (by decide) recovered_overlapKind
  | overlapReport => exact .of_forall (by decide) recovered_overlapReport
  | decision => exact .of_forall (by decide) recovered_decision
  | configuration =>
      refine .of_recovered (by decide) (fun configuration hfinite => ?_) ?_
      · exact recovered_configuration (forall_shownCoordinates_iff.mp hfinite)
      · intro room json configuration hexact hread
        exact forall_shownCoordinates_iff.mpr (ensures_subject room json configuration hexact hread)
  | summary => exact .of_forall (by decide) recovered_summary
  | reply => exact .of_forall (by decide) recovered_reply
  | step => exact .of_forall (by decide) recovered_step
  | change => exact .of_forall (by decide) recovered_change
  | record => exact .of_forall (by decide) recovered_record
  | noticeKind => exact .of_forall (by decide) recovered_noticeKind
  | notice => exact .of_forall (by decide) recovered_notice

def note : String × Json := ("note", .array [.null])

def briefRange : Period := ⟨10, 20⟩

/-- The form of a range of times from its end to its front, so that the tag comes last. -/
def shuffledRange : Json :=
  .object [note, ("end_millis", toJson briefRange.endMillis),
    ("start_millis", toJson briefRange.startMillis), ("kind", .text "range")]

theorem restates_shuffledRange :
    (toJson (RequestedTimes.range briefRange)).Restates shuffledRange :=
  .of_perm [note] (by simp [note, Period.members]) (List.reverse_perm [("kind", Json.text "range"),
    ("start_millis", toJson briefRange.startMillis), ("end_millis", toJson briefRange.endMillis),
    note])

def unitSquare : Envelope := ⟨.ofInt 0, .ofInt 0, .ofInt 1, .ofInt 1⟩

theorem isFinite_unitSquare : ∀ x ∈ unitSquare.bounds, x.isFinite = true := by decide +kernel

def shuffledSquare : Json :=
  .object [note, ("max_y", toJson unitSquare.maxY), ("max_x", toJson unitSquare.maxX),
    ("min_y", toJson unitSquare.minY), ("min_x", toJson unitSquare.minX)]

theorem restates_shuffledSquare : (toJson unitSquare).Restates shuffledSquare :=
  .of_perm [note] (by simp [note]) (List.reverse_perm [("min_x", toJson unitSquare.minX),
    ("min_y", toJson unitSquare.minY), ("max_x", toJson unitSquare.maxX),
    ("max_y", toJson unitSquare.maxY), note])

theorem roundTrips_shuffledForms :
    CoreType RequestedTimes (fun _ => []) ∧ CoreType Envelope Envelope.bounds ∧
      ofJson? 2 shuffledRange = some (RequestedTimes.range briefRange) ∧
      ofJson? 2 shuffledSquare = some unitSquare :=
  ⟨.times, .envelope,
    (roundTrips_of_coreType .times).restored _ nofun _ 2 restates_shuffledRange (by decide),
    (roundTrips_of_coreType .envelope).restored _ isFinite_unitSquare _ 2 restates_shuffledSquare
      (by decide)⟩

end Stored

end SubscriptionDesk
