import SubscriptionDesk.Proofs.ChangeCourse

/-!
# What is on was checked

A subscription that is handed over to be stored is on only if it was on when the batch was checked
for overlaps and the check let it pass, with one exception: a user who settles for a higher latency
turns subscriptions on, and those that were off have not been checked. The batch is followed by
position, so that it does not matter whether names come twice.
-/

namespace SubscriptionDesk

def Query.handed : Query → List Subscription
  | .registry (.store _ subscription) => [subscription]
  | .registry (.updateAll _ batch) => batch
  | .carryOut batch => batch
  | _ => []

/-- Whether a check for overlaps has let a subscription pass. -/
def Event.Clears (event : Event) (subscription : Subscription) : Prop :=
  ∃ list report, event = ⟨.checkOverlap list, .ok report⟩ ∧ report.kind ≠ .duplicate ∧
    { subscription with unscheduled := false } ∈ list

def Event.Raises (event : Event) (batch : List Subscription) (name : SubscriptionName) : Prop :=
  (∃ configuration offers, event = ⟨.prompt configuration offers, .increaseLatency⟩) ∧
    ∃ first, batch.head? = some first ∧ name = first.name

/-- Whether an event lets a subscription go that is on and stands in some place of a batch: it was
on before and was checked, or it was off and the user has turned it on. -/
def Event.Permits (event : Event) (batch : List Subscription) (place : Nat)
    (subscription : Subscription) : Prop :=
  ∃ original, batch[place]? = some original ∧ original.request = subscription.request ∧
    (original.activity = .on ∧ event.Clears original ∨
      original.activity = .off ∧ event.Raises batch subscription.name)

/-- Whether the calls of a run hand over nothing but a batch. -/
def HandsOver (events : List Event) (batch : List Subscription) : Prop :=
  ∀ event ∈ events, ∀ (place : Nat) (subscription : Subscription),
    event.query.handed[place]? = some subscription → batch[place]? = some subscription

section HandsOver

variable {first second events : List Event} {batch : List Subscription}

theorem HandsOver.append (hfirst : HandsOver first batch) (hsecond : HandsOver second batch) :
    HandsOver (first ++ second) batch :=
  List.forall_mem_append.mpr ⟨hfirst, hsecond⟩

theorem not_handed_of_untouched (huntouched : Untouched events) {place : Nat}
    {subscription : Subscription} :
    ∀ event ∈ events, event.query.handed[place]? ≠ some subscription := by
  intro event hevent
  have hquery := huntouched event hevent
  obtain ⟨query, answer⟩ := event
  cases query with
  | registry | carryOut => contradiction
  | _ => simp [Query.handed]

theorem handsOver_of_untouched (huntouched : Untouched events) : HandsOver events batch :=
  fun event hevent _ _ hhanded => absurd hhanded (not_handed_of_untouched huntouched event hevent)

end HandsOver

namespace Negotiation

variable {config : DeskConfig} {wording : Wording} {user : UserId} {mutation : Mutation}
  {submitted batch : List Subscription} {record : Record} {events : List Event}
  {place : Nat} {subscription : Subscription}

/-! ### What is handed over -/

theorem StoresCourse.handsOver {stored : Subscription} {answer : Except RegistryFault Unit}
    (hstores : StoresCourse user [stored] events answer) : HandsOver events [stored] := by
  cases hstores with
  | refused => simp [HandsOver, Query.handed]
  | stored hlater =>
      cases hlater
      simp [HandsOver, Query.handed]

theorem MutationCourse.handsOver {answer : Except RegistryFault String}
    (hsingle : mutation = .create ∨ mutation = .createQuery → batch.length = 1)
    (hmutation : MutationCourse user batch mutation events answer) : HandsOver events batch := by
  cases hmutation with
  | stored hnew hstores =>
      obtain ⟨stored, rfl⟩ := List.length_eq_one_iff.mp (hsingle hnew)
      exact hstores.handsOver
  | updated | given => simp [HandsOver, Query.handed]

theorem SettlementCourse.handsOver {message : String} {settled : String × Record}
    {scheduled : List Subscription}
    (hsettle : SettlementCourse user scheduled message record events settled) :
    HandsOver events batch :=
  hsettle.forall_mem (by simp [Query.handed]) (by simp [Query.handed]) (by simp [Query.handed])
    (by simp [Query.handed]) (by simp [Query.handed])

theorem ExecutionCourse.handsOver {executed : Except ServiceFault (String × Record)}
    (hsingle : mutation = .create ∨ mutation = .createQuery → batch.length = 1)
    (hexecute : ExecutionCourse mutation user batch record events executed) :
    HandsOver events batch := by
  cases hexecute with
  | executed hchange => exact (runs_mutation.mp hchange).handsOver hsingle
  | refused reset hchange =>
      refine ((runs_mutation.mp hchange).handsOver hsingle).append ?_
      simp [HandsOver, Query.handed]

theorem ForceCourse.handsOver {plan : Plan} {result : Except ServiceFault Outcome}
    (hsingle : mutation = .create ∨ mutation = .createQuery → batch.length = 1)
    (hforce : ForceCourse user mutation batch record plan events result) :
    HandsOver events (plan.applyTo batch) := by
  have hplanned (hnew : mutation = .create ∨ mutation = .createQuery) :
      (plan.applyTo batch).length = 1 := by
    rw [Plan.applyTo_eq_map, List.length_map, hsingle hnew]
  cases hforce with
  | settled htold hexecute hsettle =>
      exact (handsOver_of_untouched (untouched_of_notices htold)).append
        ((hexecute.handsOver hplanned).append hsettle.handsOver)
  | refused htold hexecute =>
      exact (handsOver_of_untouched (untouched_of_notices htold)).append
        (hexecute.handsOver hplanned)

/-! ### What lets it go -/

theorem OverlapCourse.clears {after : Record} {original : Subscription}
    (hcheck : OverlapCourse config (cleared submitted) record events (.ok after))
    (hmem : original ∈ submitted) (hon : original.activity = .on) :
    ∃ event ∈ events, event.Clears original := by
  have hcandidate : { original with unscheduled := false } ∈ candidates (cleared submitted) :=
    List.mem_filter.mpr ⟨List.mem_map_of_mem hmem, decide_eq_true hon⟩
  cases hcheck with
  | unchecked hnone =>
      rw [hnone] at hcandidate
      contradiction
  | clear names => exact ⟨_, List.mem_cons_self, _, _, rfl, by simp, hcandidate⟩
  | partlyCovered names => exact ⟨_, List.mem_cons_self, _, _, rfl, by simp, hcandidate⟩

/-- What was off and is handed over on has been turned on by the user. -/
theorem ProposalCourse.preceded_raises {result : Except ServiceFault Outcome}
    (hsingle : mutation = .create ∨ mutation = .createQuery → batch.length = 1)
    (hpropose : ProposalCourse config wording user mutation batch record events result)
    (hactive : subscription.activity = .on)
    (hoff : ∀ original, batch[place]? = some original →
      original.request = subscription.request → original.activity = .off) :
    Preceded
      (fun event => (∃ original, batch[place]? = some original ∧
        original.request = subscription.request) ∧ event.Raises batch subscription.name)
      (fun event => event.query.handed[place]? = some subscription) events := by
  cases hpropose with
  | failed => exact .of_forall_not (by simp [Query.handed])
  | @fits proposal change executed hfits hexecute =>
      have hproposed : HandsOver [⟨.propose batch, .ok proposal⟩] batch := by
        simp [HandsOver, Query.handed]
      have hhands := hproposed.append (hexecute.handsOver hsingle)
      refine .of_forall_not fun event hevent hhanded => ?_
      have hasleep := hoff subscription (hhands event hevent place subscription hhanded) rfl
      rw [hactive] at hasleep
      contradiction
  | @abandoned proposal decision names =>
      refine .of_forall_not ?_
      cases names <;> simp [Query.handed, managerOpened]
  | @forced proposal decision plan change result hunfit hresolve hforce =>
      have hchange := hforce.handsOver hsingle
      have hasked : ∀ event ∈ ([⟨.propose batch, .ok proposal⟩,
          ⟨.prompt (question config batch proposal) (choices config wording batch proposal),
            decision⟩] : List Event), event.query.handed[place]? ≠ some subscription := by
        simp [Query.handed]
      -- What stands in the place was put there by the plan; it was off before, so that the plan
      -- must have turned it on, and only one decision makes such a plan.
      by_cases hplanned : (plan.applyTo batch)[place]? = some subscription
      · rw [Plan.applyTo_eq_map, List.getElem?_map, Option.map_eq_some_iff] at hplanned
        obtain ⟨original, horiginal, hrevised⟩ := hplanned
        have hrequest : original.request = subscription.request := by
          rw [← hrevised, Plan.request_revise]
        have hname : original.name = subscription.name :=
          Subscription.name_eq_of_request_eq hrequest
        have hturned : .activated original.name ∈ plan.changes := by
          rcases Plan.activated_mem_of_on (hrevised ▸ hactive) with hon | hmem
          · rw [hoff original horiginal hrequest] at hon
            contradiction
          · exact hmem
        obtain ⟨rfl, first, hfirst, hcalled⟩ := Decision.resolve_activated hresolve hturned
        have hleft := @Preceded.of_forall_not (fun event =>
          (∃ original, batch[place]? = some original ∧
            original.request = subscription.request) ∧ event.Raises batch subscription.name)
          (fun event => event.query.handed[place]? = some subscription) _ hasked
        refine hleft.append_of_exists ⟨_, List.mem_cons_of_mem _ List.mem_cons_self, ?_, ?_⟩
        · exact ⟨original, horiginal, hrequest⟩
        · exact ⟨⟨_, _, rfl⟩, first, hfirst, hname ▸ hcalled⟩
      · refine .of_forall_not fun event hevent hhanded => ?_
        rcases List.mem_append.mp (show event ∈ [_, _] ++ change from hevent) with hevent | hevent
        · exact hasked event hevent hhanded
        · exact hplanned (hchange event hevent place subscription hhanded)

theorem Course.preceded_permits {result : Except ServiceFault Outcome}
    (hsingle : mutation = .create ∨ mutation = .createQuery → submitted.length = 1)
    (hcourse : Course config wording user mutation submitted events result)
    (hactive : subscription.activity = .on) :
    Preceded (fun event => event.Permits submitted place subscription)
      (fun event => event.query.handed[place]? = some subscription) events := by
  cases hcourse with
  | empty => exact .of_forall_not (by simp)
  | stopped hsome hcheck => exact .of_forall_not (not_handed_of_untouched hcheck.untouched)
  | @passed checked proposed record result hsome hcheck hpropose =>
      have hchecked : Preceded (fun event => event.Permits submitted place subscription)
          (fun event => event.query.handed[place]? = some subscription) checked :=
        .of_forall_not (not_handed_of_untouched hcheck.untouched)
      have hsubmitted {cleaned : Subscription}
          (hplace : (cleared submitted)[place]? = some cleaned) :
          ∃ original, submitted[place]? = some original ∧
            { original with unscheduled := false } = cleaned := by
        rwa [cleared, List.getElem?_map, Option.map_eq_some_iff] at hplace
      by_cases hon : ∃ original, submitted[place]? = some original ∧
          original.request = subscription.request ∧ original.activity = .on
      · obtain ⟨original, hplace, hrequest, hon⟩ := hon
        obtain ⟨event, hevent, hclears⟩ := hcheck.clears (List.mem_of_getElem? hplace) hon
        exact hchecked.append_of_exists
          ⟨event, hevent, original, hplace, hrequest, .inl ⟨hon, hclears⟩⟩
      · have hoff (original : Subscription) (hplace : submitted[place]? = some original)
            (hrequest : original.request = subscription.request) : original.activity = .off := by
          cases hstate : original.activity with
          | off => rfl
          | on => exact absurd ⟨original, hplace, hrequest, hstate⟩ hon
        have hlength (hnew : mutation = .create ∨ mutation = .createQuery) :
            (cleared submitted).length = 1 := by
          rw [cleared, List.length_map, hsingle hnew]
        refine hchecked.append ((hpropose.preceded_raises hlength hactive ?_).imp ?_)
        · intro cleaned hplace hrequest
          obtain ⟨original, horiginal, rfl⟩ := hsubmitted hplace
          exact hoff original horiginal hrequest
        · rintro event ⟨⟨cleaned, hplace, hrequest⟩, hprompt, first, hfirst, hname⟩
          obtain ⟨original, horiginal, rfl⟩ := hsubmitted hplace
          have hasleep := hoff original horiginal hrequest
          refine ⟨original, horiginal, hrequest, .inr ⟨hasleep, hprompt, ?_⟩⟩
          rw [cleared, List.head?_map, Option.map_eq_some_iff] at hfirst
          obtain ⟨head, hhead, rfl⟩ := hfirst
          exact ⟨head, hhead, hname⟩

end Negotiation

namespace Operation

open Negotiation

variable {config : DeskConfig} {wording : Wording} {user : UserId} {operation : Operation}
  {events : List Event} {result : Except ServiceFault Outcome} {place : Nat}
  {subscription : Subscription}

theorem length_batch_of_new {mutation : Mutation} (hmutation : operation.mutation? = some mutation)
    (hnew : mutation = .create ∨ mutation = .createQuery) : operation.batch.length = 1 := by
  cases operation with
  | store | storeAdhoc => rfl
  | _ => rcases hnew with rfl | rfl <;> simp [mutation?] at hmutation

theorem getElem?_map_deactivate_ne {batch : List Subscription}
    (hactive : subscription.activity = .on) :
    (batch.map Subscription.deactivate)[place]? ≠ some subscription := by
  intro hplace
  rw [List.getElem?_map, Option.map_eq_some_iff] at hplace
  obtain ⟨original, -, rfl⟩ := hplace
  contradiction

theorem Course.preceded_permits (hcourse : operation.Course config wording user events result)
    (hactive : subscription.activity = .on) :
    Preceded (fun event => event.Permits operation.batch place subscription)
      (fun event => event.query.handed[place]? = some subscription) events := by
  cases hcourse with
  | invalid | nothing => exact .of_forall_not (by simp)
  | taken | unknown => exact .of_forall_not (by simp [Query.handed])
  | @negotiated operation mutation negotiation tail negotiated result hvalid hmutation hnegotiation
      hfollow =>
      have hlookup : ∀ event ∈ operation.lookup,
          event.query.handed[place]? ≠ some subscription := by
        unfold lookup
        cases operation.newName? <;> simp [Query.handed]
      exact (Preceded.of_forall_not hlookup).append
        ((hnegotiation.preceded_permits (length_batch_of_new hmutation) hactive).append
          (.of_forall_not (not_handed_of_untouched hfollow.untouched)))
  | deactivated hsome htold =>
      exact .of_forall_not (List.forall_mem_cons.mpr ⟨getElem?_map_deactivate_ne hactive,
        not_handed_of_untouched (untouched_of_notices htold)⟩)
  | notDeactivated fault =>
      exact .of_forall_not (List.forall_mem_singleton.mpr (getElem?_map_deactivate_ne hactive))
  | deleted hsome htold =>
      exact .of_forall_not (List.forall_mem_cons.mpr ⟨by simp [Query.handed],
        not_handed_of_untouched (untouched_of_notices htold)⟩)
  | notDeleted => exact .of_forall_not (by simp [Query.handed])

end Operation

/-- Whether each subscription that a run hands over to be stored, and that is on, was checked. -/
def OnlyChecked (batch : List Subscription) (events : List Event) : Prop :=
  ∀ (place : Nat) (subscription : Subscription), subscription.activity = .on →
    Preceded
      (fun event => ∃ original, batch[place]? = some original ∧
        original.request = subscription.request ∧ event.Clears original)
      (fun event => event.query.handed[place]? = some subscription) events

/-- The same, but for what was off and the user has turned on. -/
def OnlyPermitted (batch : List Subscription) (events : List Event) : Prop :=
  ∀ (place : Nat) (subscription : Subscription), subscription.activity = .on →
    Preceded (fun event => event.Permits batch place subscription)
      (fun event => event.query.handed[place]? = some subscription) events

/-- **What is on was checked,** or it was off and the user has turned it on. -/
theorem Operation.onlyPermitted_of_runs {config : DeskConfig} {wording : Wording} {user : UserId}
    {operation : Operation} {events : List Event} {result : Except ServiceFault Outcome}
    (hruns : Dialogue.Runs (operation.run config wording user) events result) :
    OnlyPermitted operation.batch events := by
  have hcourse : operation.Course config wording user events result := course_of_runs hruns
  intro place subscription hactive
  exact hcourse.preceded_permits hactive

def mixedUpdate : Operation :=
  .updateAll [{ Subscription.sample "winds" with activity := .off }, .sample "waves"]

def mixedUpdateRun : List Event × Except ServiceFault Outcome × Rehearsal :=
  (mixedUpdate.run .standard standardWording ⟨"user"⟩).converse Rehearsal.respond
    (.scripted [.sample "winds", .sample "waves"] (.crowded .increaseLatency []))

theorem onlyPermitted_mixedUpdate :
    Dialogue.Runs (mixedUpdate.run .standard standardWording ⟨"user"⟩) mixedUpdateRun.1
        mixedUpdateRun.2.1 ∧
      OnlyPermitted mixedUpdate.batch mixedUpdateRun.1 ∧
      mixedUpdateRun.1.map (fun event => event.query.handed.map fun handed =>
          (handed.name.text, handed.latency, handed.isActive)) =
        [[], [], [], [], [], [("winds", 30, true), ("waves", 0, true)], [], [], []] :=
  ⟨Dialogue.runs_converse .., Operation.onlyPermitted_of_runs (Dialogue.runs_converse ..),
    by decide +kernel⟩

def dormantUpdate : Operation := .update { Subscription.sample "winds" with activity := .off }

def dormantUpdateRun : List Event × Except ServiceFault Outcome × Rehearsal :=
  (dormantUpdate.run .standard standardWording ⟨"user"⟩).converse Rehearsal.respond
    (.scripted [.sample "winds"] (.crowded .increaseLatency []))

/-- A subscription that was off is stored as one that is on, and nothing was checked. -/
theorem not_onlyChecked_dormantUpdate :
    Dialogue.Runs (dormantUpdate.run .standard standardWording ⟨"user"⟩) dormantUpdateRun.1
        dormantUpdateRun.2.1 ∧
      ¬OnlyChecked dormantUpdate.batch dormantUpdateRun.1 := by
  refine ⟨Dialogue.runs_converse .., fun honly => ?_⟩
  have hunchecked : dormantUpdateRun.1.all
      (fun event => decide (event.query.label ≠ "overlap.check")) = true := by decide +kernel
  have hhanded : dormantUpdateRun.1.any (fun event => decide
      (event.query.handed[0]? =
        some { Subscription.sample "winds" with latency := 30 })) = true := by
    decide +kernel
  obtain ⟨event, hevent, hstored⟩ := List.any_eq_true.mp hhanded
  obtain ⟨before, after, hsplit⟩ := List.append_of_mem hevent
  obtain ⟨earlier, hearlier, original, -, -, list, report, rfl, -, -⟩ :=
    honly 0 _ rfl before event after hsplit (of_decide_eq_true hstored)
  have hmem : ⟨.checkOverlap list, .ok report⟩ ∈ dormantUpdateRun.1 := by
    rw [hsplit]
    exact List.mem_append_left _ hearlier
  have hlabel := List.all_eq_true.mp hunchecked _ hmem
  simp [Query.label] at hlabel

end SubscriptionDesk
