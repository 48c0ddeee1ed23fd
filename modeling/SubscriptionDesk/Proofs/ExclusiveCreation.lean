import SubscriptionDesk.Proofs.RegistryEffect
import SubscriptionDesk.Proofs.SharedRegistry

/-!
# Only one creates

Any number of clients may find that a name is free, and negotiate for as long as they like, before
the first of them stores a subscription of that name. What decides is not the lookup: storing looks
again, and no client that adds a subscription ever takes a name away. So a name that is taken stays
taken, and all others that get as far as to store are refused.
-/

namespace SubscriptionDesk

/-- Whether a call, as it was answered, has left the registry as it was. -/
def Event.isIdle : Event → Bool
  | ⟨.registry (.find _), _⟩ => true
  | ⟨.registry (.store _ _), .error _⟩ => true
  | ⟨query, _⟩ => !query.touches

/-- Whether a call, as it was answered, has replaced a record at most. -/
def Event.keepsNames : Event → Bool
  | ⟨.registry (.update _ _), _⟩ => true
  | event => event.isIdle

def Event.Creates (name : SubscriptionName) (event : Event) : Prop :=
  ∃ user record, record.name = name ∧ event = ⟨.registry (.store user record), .ok ()⟩

section Events

variable {events : List Event} {event : Event} {name : SubscriptionName}
  {registry after : Registry}

theorem Event.keepsNames_of_isIdle (hidle : event.isIdle = true) : event.keepsNames = true := by
  unfold keepsNames
  split
  · rfl
  · exact hidle

theorem Event.not_creates_of_keepsNames (hkeeps : event.keepsNames = true) :
    ¬event.Creates name := by
  rintro ⟨user, record, -, rfl⟩
  contradiction

theorem Untouched.isIdle (huntouched : Untouched events) :
    ∀ event ∈ events, event.isIdle = true := by
  intro event hevent
  have hquery := huntouched event hevent
  unfold Event.isIdle
  split
  · rfl
  · rfl
  · simpa using hquery

theorem Registry.eq_of_serves_idle (hidle : event.isIdle = true)
    (hserves : registry.Serves [event] after) : after = registry := by
  unfold Event.isIdle at hidle
  split at hidle
  · exact hserves.2
  · rcases serves_store hserves with ⟨-, hok, -⟩ | ⟨-, hafter⟩
    · contradiction
    · exact hafter
  · exact (serves_cons_of_not_touches (by simpa using hidle)).mp hserves

/-- Replacing records takes no name away. -/
theorem Registry.find?_ne_none_of_keepsNames (hkeeps : event.keepsNames = true)
    (hserves : registry.Serves [event] after) (htaken : registry.find? name ≠ none) :
    after.find? name ≠ none := by
  unfold Event.keepsNames at hkeeps
  split at hkeeps
  · rename_i user record answer
    rcases serves_update hserves with ⟨-, rfl⟩ | ⟨-, rfl⟩
    · rw [find?_put]
      split
      · exact Option.some_ne_none record
      · exact htaken
    · exact htaken
  · rwa [eq_of_serves_idle hkeeps hserves]

theorem Registry.find?_of_creates (hcreates : event.Creates name)
    (hserves : registry.Serves [event] after) :
    registry.find? name = none ∧ after.find? name ≠ none := by
  obtain ⟨user, record, rfl, rfl⟩ := hcreates
  rcases serves_store hserves with ⟨hfree, -, rfl⟩ | ⟨⟨fault, herror⟩, -⟩
  · refine ⟨hfree, ?_⟩
    simp [find?_put]
  · contradiction

end Events

/-! ### One who adds a subscription -/

inductive CreationCourse (name : SubscriptionName) :
    List Event → Except ServiceFault Outcome → Prop where
  | withheld {events : List Event} {outcome : Outcome} :
      (∀ event ∈ events, event.isIdle = true) →
      outcome.record.actionExecuted = false →
      CreationCourse name events (.ok outcome)
  | refused {before : List Event} {user : UserId} {record : Subscription} {fault : RegistryFault}
      (reset : Except BandwidthFault Unit) :
      (∀ event ∈ before, event.isIdle = true) →
      CreationCourse name
        (before ++ [⟨.registry (.store user record), .error fault⟩, ⟨.resetManager, reset⟩])
        (.error (.registry fault))
  | created {before after : List Event} {creation : Event} {outcome : Outcome} :
      (∀ event ∈ before, event.isIdle = true) →
      creation.Creates name →
      (∀ event ∈ after, event.keepsNames = true) →
      outcome.record.actionExecuted = true →
      CreationCourse name (before ++ creation :: after) (.ok outcome)

section Course

variable {name : SubscriptionName} {events tail : List Event} {user : UserId}
  {operation : Operation} {negotiated result : Except ServiceFault Outcome}

theorem CreationCourse.prepend {before : List Event}
    (hbefore : ∀ event ∈ before, event.isIdle = true)
    (hcourse : CreationCourse name events result) :
    CreationCourse name (before ++ events) result := by
  cases hcourse with
  | withheld hidle hunmade => exact .withheld (List.forall_mem_append.mpr ⟨hbefore, hidle⟩) hunmade
  | refused reset hidle =>
      rw [← List.append_assoc]
      exact .refused reset (List.forall_mem_append.mpr ⟨hbefore, hidle⟩)
  | created hidle hcreates hafter hmade =>
      rw [← List.append_assoc]
      exact .created (List.forall_mem_append.mpr ⟨hbefore, hidle⟩) hcreates hafter hmade

theorem CreationCourse.followUp (hcourse : CreationCourse name events negotiated)
    (hfollow : operation.FollowUp user negotiated tail result) :
    CreationCourse name (events ++ tail) result := by
  have htail : ∀ event ∈ tail, event.isIdle = true := hfollow.untouched.isIdle
  cases hcourse with
  | withheld hidle hunmade =>
      have hall := List.forall_mem_append.mpr ⟨hidle, htail⟩
      cases hfollow with
      | unchanged => exact .withheld hall hunmade
      | changed => exact .withheld hall hunmade
  | refused reset hidle =>
      cases hfollow
      rw [List.append_nil]
      exact .refused reset hidle
  | created hidle hcreates hafter hmade =>
      have hall := List.forall_mem_append.mpr
        ⟨hafter, fun event hevent => Event.keepsNames_of_isIdle (htail event hevent)⟩
      rw [List.append_assoc, List.cons_append]
      cases hfollow with
      | unchanged => exact .created hidle hcreates hall hmade
      | changed => exact .created hidle hcreates hall hmade

end Course

namespace Negotiation

variable {user : UserId} {mutation : Mutation} {batch : List Subscription}
  {subscription : Subscription} {events : List Event}

theorem MutationCourse.eq_store {answer : Except RegistryFault String}
    (hnew : mutation = .create ∨ mutation = .createQuery)
    (hmutation : MutationCourse user [subscription] mutation events answer) :
    ∃ stored, events = [⟨.registry (.store user subscription), stored⟩] ∧
      answer = stored.map fun _ => mutation.storedMessage [subscription] := by
  cases hmutation with
  | @stored _ _ stored _ hstores =>
      refine ⟨stored, ?_, rfl⟩
      cases hstores with
      | refused fault => rfl
      | stored hlater =>
          cases hlater
          rfl
  | updated _ hchange => rcases hnew with rfl | rfl <;> simp at hchange
  | given => simp at hnew

theorem Settlement.keepsNames {names : NameSet .subscription}
    (hsettle : Settlement user batch events names) : ∀ event ∈ events, event.keepsNames = true := by
  cases hsettle with
  | unneeded => simp
  | unconfirmed fault reset => simp [Event.keepsNames, Event.isIdle, Query.touches]
  | confirmed names hflags =>
      refine List.forall_mem_cons.mpr ⟨rfl, ?_⟩
      exact hflags.forall_mem (fun _ _ => rfl) (fun _ _ => rfl) fun _ _ => rfl

theorem ChangeCourse.creationCourse {result : Except ServiceFault Outcome}
    (hnew : mutation = .create ∨ mutation = .createQuery)
    (hchange : ChangeCourse user mutation [subscription] events result) :
    CreationCourse subscription.name events result := by
  have hsingle {changed : List Subscription}
      (hnames : changed.map Subscription.name = [subscription].map Subscription.name) :
      ∃ stored, changed = [stored] ∧ stored.name = subscription.name := by
    obtain ⟨stored, rest, rfl, hname, hrest⟩ := List.map_eq_cons_iff.mp hnames
    obtain rfl : rest = [] := List.map_eq_nil_iff.mp hrest
    exact ⟨stored, rfl, hname⟩
  cases hchange with
  | unmade huntouched hstanding =>
      exact .withheld huntouched.isIdle (congrArg Prod.fst hstanding)
  | @refused before change batch fault reset huntouched hnames hmutation =>
      obtain ⟨stored, rfl, -⟩ := hsingle hnames
      obtain ⟨answer, rfl, hanswer⟩ := hmutation.eq_store hnew
      rcases answer with cause | ⟨⟩
      · obtain rfl : fault = cause := by simpa [Except.map] using hanswer
        exact .refused reset huntouched.isIdle
      · contradiction
  | @made before change after message outcome names huntouched hnames hmutation hsettle hstanding =>
      obtain ⟨stored, hbatch, hname⟩ := hsingle hnames
      rw [hbatch] at hmutation
      obtain ⟨answer, rfl, hanswer⟩ := hmutation.eq_store hnew
      rcases answer with cause | ⟨⟩
      · contradiction
      · exact .created huntouched.isIdle ⟨user, stored, hname, rfl⟩ hsettle.keepsNames
          (congrArg Prod.fst hstanding)

end Negotiation

theorem Operation.creationCourse {config : DeskConfig} {wording : Wording} {user : UserId}
    {operation : Operation} {events : List Event} {result : Except ServiceFault Outcome}
    {name : SubscriptionName} (hname : operation.newName? = some name)
    (hcourse : operation.Course config wording user events result) :
    CreationCourse name events result := by
  cases hcourse with
  | invalid hinvalid =>
      obtain ⟨batch, message, rfl⟩ := turnedDown_of_invalid? hinvalid
      exact .withheld (by simp) rfl
  | taken found => exact .withheld (by simp [Event.isIdle]) rfl
  | unknown fault reset =>
      refine .withheld (by simp [Event.isIdle, Query.touches]) ?_
      rcases reset with cause | ⟨⟩ <;> rfl
  | @negotiated _ mutation negotiation tail negotiated _ hvalid hmutation hnegotiation hfollow =>
      obtain ⟨subscription, hbatch, rfl, hnew⟩ := batch_of_newName? hname hmutation
      rw [hbatch] at hnegotiation
      have hlookup : ∀ event ∈ operation.lookup, event.isIdle = true := by
        simp [lookup, hname, Event.isIdle]
      exact ((hnegotiation.changeCourse.creationCourse hnew).followUp hfollow).prepend hlookup
  | nothing hmutation => cases operation <;> contradiction
  | deactivated | notDeactivated | deleted | notDeleted => contradiction

/-! ### All of them -/

def Created (name : SubscriptionName) (events : List Event) : Prop :=
  ∃ event ∈ events, event.Creates name

section Prefix

variable {name : SubscriptionName} {events rest : List Event}
  {result : Except ServiceFault Outcome}

theorem CreationCourse.keepsNames_or_creates (hcourse : CreationCourse name events result) :
    ∀ event ∈ events, event.keepsNames = true ∨ event.Creates name := by
  intro event hevent
  cases hcourse with
  | withheld hidle => exact .inl (Event.keepsNames_of_isIdle (hidle event hevent))
  | refused reset hidle =>
      rcases List.mem_append.mp hevent with hevent | hevent
      · exact .inl (Event.keepsNames_of_isIdle (hidle event hevent))
      · simp only [List.mem_cons, List.not_mem_nil, or_false] at hevent
        rcases hevent with rfl | rfl <;> exact .inl rfl
  | created hidle hcreates hafter =>
      rcases List.mem_append.mp hevent with hevent | hevent
      · exact .inl (Event.keepsNames_of_isIdle (hidle event hevent))
      rcases List.mem_cons.mp hevent with rfl | hevent
      · exact .inr hcreates
      · exact .inl (hafter event hevent)

theorem CreationCourse.created_iff (hcourse : CreationCourse name events result) :
    Created name events ↔
      ∃ outcome, result = .ok outcome ∧ outcome.record.actionExecuted = true := by
  have hnone {early : List Event} (hidle : ∀ event ∈ early, event.isIdle = true) :
      ¬Created name early := by
    rintro ⟨event, hevent, hcreates⟩
    exact Event.not_creates_of_keepsNames (Event.keepsNames_of_isIdle (hidle event hevent)) hcreates
  cases hcourse with
  | @withheld _ outcome hidle hunmade =>
      constructor
      · intro hcreated
        exact absurd hcreated (hnone hidle)
      · rintro ⟨other, hok, hmade⟩
        rw [← Except.ok.inj hok, hunmade] at hmade
        contradiction
  | refused reset hidle =>
      constructor
      · rintro ⟨event, hevent, hcreates⟩
        rcases List.mem_append.mp hevent with hevent | hevent
        · exact absurd ⟨event, hevent, hcreates⟩ (hnone hidle)
        · obtain ⟨user, record, -, rfl⟩ := hcreates
          simp at hevent
      · rintro ⟨outcome, hok, -⟩
        contradiction
  | @created before after creation outcome hidle hcreates hafter hmade =>
      constructor
      · intro _
        exact ⟨outcome, rfl, hmade⟩
      · intro _
        exact ⟨creation, by simp, hcreates⟩

/-- As long as one has not created, one has left the registry alone. -/
theorem CreationCourse.idle_of_not_created (hcourse : CreationCourse name (events ++ rest) result)
    (hcreated : ¬Created name events) : ∀ event ∈ events, event.isIdle = true := by
  generalize hall : events ++ rest = all at hcourse
  cases hcourse with
  | withheld hidle =>
      subst hall
      exact (List.forall_mem_append.mp hidle).1
  | @refused before user record fault reset hidle =>
      have hidle : ∀ event ∈ events ++ rest, event.isIdle = true := by
        rw [hall]
        refine List.forall_mem_append.mpr ⟨hidle, ?_⟩
        simp [Event.isIdle, Query.touches]
      exact (List.forall_mem_append.mp hidle).1
  | @created before after creation outcome hidle hcreates =>
      rcases List.append_eq_append_iff.mp hall with ⟨middle, rfl, -⟩ | ⟨middle, rfl, hmiddle⟩
      · exact (List.forall_mem_append.mp hidle).1
      · cases middle with
        | nil => rwa [List.append_nil]
        | cons head tail =>
            obtain ⟨rfl, -⟩ := List.cons.inj hmiddle
            exact absurd ⟨creation, by simp, hcreates⟩ hcreated

end Prefix

variable {ι : Type}

namespace Registry

variable {registry after : Registry} {turns : List (Turn ι)} {name : SubscriptionName}

theorem not_creates_of_taken
    (hturns : ∀ turn ∈ turns, turn.event.keepsNames = true ∨ turn.event.Creates name)
    (hserves : registry.Serves (turns.map Turn.event) after) (htaken : registry.find? name ≠ none) :
    ∀ turn ∈ turns, ¬turn.event.Creates name := by
  induction turns generalizing registry with
  | nil => simp
  | cons turn rest ih =>
      obtain ⟨hturn, hrest⟩ := List.forall_mem_cons.mp hturns
      obtain ⟨between, hfirst, hlater⟩ := serves_cons.mp hserves
      rcases hturn with hkeeps | hcreates
      · refine List.forall_mem_cons.mpr ⟨Event.not_creates_of_keepsNames hkeeps, ?_⟩
        exact ih hrest hlater (find?_ne_none_of_keepsNames hkeeps hfirst htaken)
      · exact absurd (find?_of_creates hcreates hfirst).1 htaken

theorem creators_eq
    (hturns : ∀ turn ∈ turns, turn.event.keepsNames = true ∨ turn.event.Creates name)
    (hserves : registry.Serves (turns.map Turn.event) after) :
    ∀ first ∈ turns, ∀ second ∈ turns, first.event.Creates name → second.event.Creates name →
      first = second := by
  induction turns generalizing registry with
  | nil => simp
  | cons turn rest ih =>
      obtain ⟨hturn, hrest⟩ := List.forall_mem_cons.mp hturns
      obtain ⟨between, hfirst, hlater⟩ := serves_cons.mp hserves
      intro first hmem second hother hcreated hagain
      rcases List.mem_cons.mp hmem with rfl | hbehind
      · rcases List.mem_cons.mp hother with rfl | hbehind
        · rfl
        · have htaken := (find?_of_creates hcreated hfirst).2
          exact absurd hagain (not_creates_of_taken hrest hlater htaken second hbehind)
      · rcases List.mem_cons.mp hother with rfl | hagainBehind
        · have htaken := (find?_of_creates hagain hfirst).2
          exact absurd hcreated (not_creates_of_taken hrest hlater htaken first hbehind)
        · exact ih hrest hlater first hbehind second hagainBehind hcreated hagain

end Registry

variable [DecidableEq ι]

/-- What comes of it when several clients add subscriptions of one name. -/
structure ExclusiveCreation (name : SubscriptionName) (turns : List (Turn ι))
    (finish : Shared ι (Except ServiceFault Outcome)) : Prop where
  atMostOne : ∀ first second, Created name (doneBy first turns) →
    Created name (doneBy second turns) → first = second
  told : ∀ client result, finish.left client = .done result →
    (Created name (doneBy client turns) ↔
      ∃ outcome, result = .ok outcome ∧ outcome.record.actionExecuted = true)
  /-- A client that gets an error was refused by the registry, and has reset the manager. -/
  refused : ∀ client fault, finish.left client = .done (.error fault) →
    ∃ before user record cause reset, fault = .registry cause ∧
      doneBy client turns =
        before ++ [⟨.registry (.store user record), .error cause⟩, ⟨.resetManager, reset⟩]
  unchanged : ∀ client, ¬Created name (doneBy client turns) →
    ∀ event ∈ doneBy client turns, ∀ earlier later : Shared ι (Except ServiceFault Outcome),
      earlier.Step ⟨client, event⟩ later → later.registry = earlier.registry
  ends : ∀ client, ∃ more final result, finish.Steps more final ∧ final.left client = .done result

/-- **Creation is exclusive.** It does not matter who has looked up the name when. -/
theorem exclusiveCreation_of_steps {clients : ι → Client} {registry : Registry}
    {name : SubscriptionName} {turns : List (Turn ι)}
    {finish : Shared ι (Except ServiceFault Outcome)}
    (hname : ∀ client, (clients client).operation.newName? = some name)
    (hsteps : Shared.Steps ⟨registry, fun client => (clients client).run⟩ turns finish) :
    ExclusiveCreation name turns finish := by
  have hcourse (client : ι) {events : List Event} {result : Except ServiceFault Outcome}
      (hruns : Dialogue.Runs (clients client).run events result) :
      CreationCourse name events result :=
    Operation.creationCourse (hname client) (Operation.course_of_runs hruns)
  have hbegins (client : ι) :
      (clients client).run.Begins (doneBy client turns) (finish.left client) := hsteps.begins
  have hturns : ∀ turn ∈ turns, turn.event.keepsNames = true ∨ turn.event.Creates name := by
    intro turn hturn
    obtain ⟨rest, result, hruns⟩ := (hbegins turn.client).exists_runs
    exact (hcourse turn.client hruns).keepsNames_or_creates turn.event
      (List.mem_append_left rest (event_mem_doneBy hturn))
  constructor
  case atMostOne =>
    rintro first second ⟨event, hevent, hcreates⟩ ⟨other, hother, hagain⟩
    have hsame := Registry.creators_eq hturns hsteps.serves _ (mem_doneBy_iff.mp hevent) _
      (mem_doneBy_iff.mp hother) hcreates hagain
    exact congrArg Turn.client hsame
  case told =>
    intro client result hdone
    exact (hcourse client (hdone ▸ hbegins client).runs).created_iff
  case refused =>
    intro client fault hdone
    have herror := hcourse client (hdone ▸ hbegins client).runs
    generalize hevents : doneBy client turns = events at herror
    cases herror with
    | refused reset => exact ⟨_, _, _, _, reset, rfl, rfl⟩
  case unchanged =>
    intro client hcreated event hevent earlier later hstep
    obtain ⟨rest, result, hruns⟩ := (hbegins client).exists_runs
    have hidle := (hcourse client hruns).idle_of_not_created hcreated event hevent
    exact Registry.eq_of_serves_idle hidle hstep.serves
  case ends => exact finish.exists_steps_done

/-- Both have found the name free before the first of them stores. The second one is asked, forces
its query in, and is refused. -/
def rivals : Seat → Client
  | .left => ⟨.standard, standardWording, ⟨"early"⟩, .store (.sample "winds")⟩
  | .right => ⟨.standard, standardWording, ⟨"late"⟩, .storeAdhoc (.sample "winds")⟩

def rivalry : List (Turn Seat) × Shared Seat (Except ServiceFault Outcome) :=
  Shared.play Rehearsal.respond
    (.right :: List.replicate 15 .left ++ List.replicate 6 .right)
    ⟨.ofList [.sample "waves"], fun seat => (rivals seat).run⟩
    fun
      | .left => .scripted [] (.crowded .forceApplyUnscheduled ["winds", "waves"])
      | .right => .scripted [] (.crowded .forceApplyUnscheduled ["winds"])

theorem exclusiveCreation_rivalry :
    (∀ seat, (rivals seat).operation.newName? = some ⟨"winds"⟩) ∧
      Shared.Steps ⟨.ofList [.sample "waves"], fun seat => (rivals seat).run⟩ rivalry.1 rivalry.2 ∧
      ExclusiveCreation ⟨"winds"⟩ rivalry.1 rivalry.2 ∧
      (doneBy Seat.right rivalry.1).map (fun event => event.query.label) =
        ["registry.get_by_name", "overlap.check", "prompt.message", "bandwidth.propose",
          "prompt.force_apply", "registry.store", "bandwidth.reinitialize"] ∧
      (rivalry.2.left .left).result?.map
          (fun result => (result.toOption.map fun outcome => outcome.record.actionExecuted)) =
        some (some true) ∧
      (rivalry.2.left .right).result? =
        some (.error (.registry ⟨"subscription winds already exists"⟩)) := by
  have hname : ∀ seat, (rivals seat).operation.newName? = some ⟨"winds"⟩ := by
    intro seat
    cases seat <;> rfl
  have hsteps : Shared.Steps ⟨.ofList [.sample "waves"], fun seat => (rivals seat).run⟩
      rivalry.1 rivalry.2 := Shared.steps_play ..
  exact ⟨hname, hsteps, exclusiveCreation_of_steps hname hsteps, by decide +kernel,
    by decide +kernel, by decide +kernel⟩

end SubscriptionDesk
