import SubscriptionDesk.Broker

/-!
# Every sink gets every notice

A broker asks nothing of its sinks but that they answer. They may keep a state, share it, be
registered more than once and fail whenever they like, so each answer may depend on all calls that
were made before. Which calls a send makes depends on none of this: it goes through the whole list
whatever comes back. To say so, each sink is watched by one who writes down its calls.
-/

namespace SubscriptionDesk

structure SinkCall (ι : Type) where
  sink : ι
  notice : Notice
  answer : Except SinkFault Receipt

namespace SinkCall

variable {ι : Type}

def request (call : SinkCall ι) : ι × Notice := (call.sink, call.notice)

def fault? (call : SinkCall ι) : Option SinkFault :=
  match call.answer with
  | .ok _ => none
  | .error fault => some fault

variable {call : SinkCall ι} {calls : List (SinkCall ι)}

theorem fault?_eq_none_iff : call.fault? = none ↔ ∃ receipt, call.answer = .ok receipt := by
  unfold fault?
  cases call.answer <;> simp

theorem fault?_eq_some_iff {fault : SinkFault} :
    call.fault? = some fault ↔ call.answer = .error fault := by
  unfold fault?
  cases call.answer <;> simp

theorem faults_eq_nil_iff :
    calls.filterMap fault? = [] ↔ ∀ call ∈ calls, ∃ receipt, call.answer = .ok receipt := by
  rw [List.filterMap_eq_nil_iff]
  exact forall₂_congr fun _ _ => fault?_eq_none_iff

theorem faults_ne_nil_iff :
    calls.filterMap fault? ≠ [] ↔ ∃ call ∈ calls, ∃ fault, call.answer = .error fault := by
  constructor
  · intro hsome
    obtain ⟨fault, hfault⟩ := List.exists_mem_of_ne_nil _ hsome
    obtain ⟨call, hcall, hanswer⟩ := List.mem_filterMap.mp hfault
    exact ⟨call, hcall, fault, fault?_eq_some_iff.mp hanswer⟩
  · rintro ⟨call, hcall, fault, hanswer⟩
    exact List.ne_nil_of_mem
      (List.mem_filterMap.mpr ⟨call, hcall, fault?_eq_some_iff.mpr hanswer⟩)

end SinkCall

namespace Broker

variable {World ι : Type}

def watched (deliver : ι → Notice → StateM World (Except SinkFault Receipt)) (sink : ι)
    (notice : Notice) : StateM (List (SinkCall ι) × World) (Except SinkFault Receipt) := do
  let (calls, world) ← get
  let (answer, after) := (deliver sink notice).run world
  set (calls ++ [⟨sink, notice, answer⟩], after)
  return answer

structure Sending (ι : Type) where
  notice : Notice
  calls : List (SinkCall ι)
  result : Except NoticeFault Unit

def sendings (deliver : ι → Notice → StateM World (Except SinkFault Receipt))
    (registered : List ι) : List Notice → World → List (Sending ι) × World
  | [], world => ([], world)
  | notice :: rest, world =>
      let (result, calls, between) := (send (watched deliver) registered notice).run ([], world)
      let (later, after) := sendings deliver registered rest between
      (⟨notice, calls, result⟩ :: later, after)

/-- Whether sinks answer some calls in this way, each in the state that the calls before it have
left. -/
inductive Answers (deliver : ι → Notice → StateM World (Except SinkFault Receipt)) :
    World → List (SinkCall ι) → World → Prop where
  | nil {world : World} : Answers deliver world [] world
  | cons {sink : ι} {notice : Notice} {answer : Except SinkFault Receipt}
      {rest : List (SinkCall ι)} {world between after : World} :
      (deliver sink notice).run world = (answer, between) →
      Answers deliver between rest after →
      Answers deliver world (⟨sink, notice, answer⟩ :: rest) after

section Send

variable {deliver : ι → Notice → StateM World (Except SinkFault Receipt)} {registered : List ι}
  {notice : Notice} {notices : List Notice} {calls first second : List (SinkCall ι)}
  {world between after : World}

theorem Answers.append (hfirst : Answers deliver world first between)
    (hsecond : Answers deliver between second after) :
    Answers deliver world (first ++ second) after := by
  induction hfirst with
  | nil => exact hsecond
  | cons hanswer _ ih => exact .cons hanswer (ih hsecond)

/-- What the rest of the list is asked does not depend on the answer of the first. -/
theorem run_faults_cons {sink : ι} {rest : List ι} {answer : Except SinkFault Receipt}
    {later : List SinkFault} (hanswer : (deliver sink notice).run world = (answer, between))
    (hlater : (faults deliver notice rest).run between = (later, after)) :
    (faults deliver notice (sink :: rest)).run world =
      ((SinkCall.mk sink notice answer).fault?.toList ++ later, after) := by
  rw [faults, StateT.run_bind, hanswer]
  cases answer with
  | ok receipt => exact hlater
  | error fault =>
      change (do return fault :: (← faults deliver notice rest) :
        StateM World (List SinkFault)).run between = _
      rw [StateT.run_bind, hlater]
      rfl

theorem run_watched {sink : ι} {answer : Except SinkFault Receipt}
    (hanswer : (deliver sink notice).run world = (answer, between)) :
    (watched deliver sink notice).run (calls, world) =
      (answer, calls ++ [⟨sink, notice, answer⟩], between) := by
  rw [watched, StateT.run_bind, StateT.run_get, pure_bind]
  simp only [hanswer]
  rfl

/-- One send asks every sink, and it asks what it would ask if nobody watched. -/
theorem run_faults (deliver : ι → Notice → StateM World (Except SinkFault Receipt))
    (registered : List ι) (notice : Notice) (calls : List (SinkCall ι)) (world : World) :
    ∃ made after,
      (faults (watched deliver) notice registered).run (calls, world) =
          (made.filterMap SinkCall.fault?, calls ++ made, after) ∧
        (faults deliver notice registered).run world = (made.filterMap SinkCall.fault?, after) ∧
        Answers deliver world made after ∧
        made.map SinkCall.request = registered.map fun sink => (sink, notice) := by
  induction registered generalizing calls world with
  | nil => exact ⟨[], world, by rw [List.append_nil]; rfl, rfl, .nil, rfl⟩
  | cons sink rest ih =>
      rcases hanswer : (deliver sink notice).run world with ⟨answer, between⟩
      let call : SinkCall ι := ⟨sink, notice, answer⟩
      obtain ⟨made, after, hwatched, hplain, hanswers, hrequests⟩ := ih (calls ++ [call]) between
      have hfaults : call.fault?.toList ++ made.filterMap SinkCall.fault? =
          (call :: made).filterMap SinkCall.fault? := by
        cases hfault : call.fault? <;> simp [hfault]
      refine ⟨call :: made, after, ?_, ?_, .cons hanswer hanswers, ?_⟩
      · rw [run_faults_cons (run_watched hanswer) hwatched, hfaults, List.append_assoc]
        rfl
      · rw [run_faults_cons hanswer hplain, hfaults]
      · rw [List.map_cons, List.map_cons, hrequests]
        rfl

theorem verdict_eq_ok_iff {found : List SinkFault} : verdict found = .ok () ↔ found = [] := by
  cases found <;> simp [verdict]

theorem verdict_eq_error_iff {found : List SinkFault} {fault : NoticeFault} :
    verdict found = .error fault ↔
      found ≠ [] ∧ fault.reason = "; ".intercalate (found.map SinkFault.message) := by
  cases found with
  | nil => simp [verdict]
  | cons first rest =>
      obtain ⟨reason⟩ := fault
      simp [verdict, eq_comm]

theorem run_send (deliver : ι → Notice → StateM World (Except SinkFault Receipt))
    (registered : List ι) (notice : Notice) (world : World) :
    ∃ made after,
      (send (watched deliver) registered notice).run ([], world) =
          (verdict (made.filterMap SinkCall.fault?), made, after) ∧
        (send deliver registered notice).run world =
          (verdict (made.filterMap SinkCall.fault?), after) ∧
        Answers deliver world made after ∧
        made.map SinkCall.request = registered.map fun sink => (sink, notice) := by
  obtain ⟨made, after, hwatched, hplain, hanswers, hrequests⟩ :=
    run_faults deliver registered notice [] world
  refine ⟨made, after, ?_, ?_, hanswers, hrequests⟩
  · rw [send, StateT.run_bind, hwatched]
    rfl
  · rw [send, StateT.run_bind, hplain]
    rfl

/-- What one send does, whatever the sinks answer. -/
structure Sending.Complete (registered : List ι) (sending : Sending ι) : Prop where
  calls : sending.calls.map SinkCall.request =
    registered.map fun sink => (sink, sending.notice)
  succeeds : sending.result = .ok () ↔
    ∀ call ∈ sending.calls, ∃ receipt, call.answer = .ok receipt
  /-- A fault names all that failed, in order, and nothing else. -/
  fails : ∀ fault, sending.result = .error fault ↔
    (∃ call ∈ sending.calls, ∃ cause, call.answer = .error cause) ∧
      fault.reason =
        "; ".intercalate ((sending.calls.filterMap SinkCall.fault?).map SinkFault.message)

theorem Sending.complete_of_requests
    (hrequests : calls.map SinkCall.request = registered.map fun sink => (sink, notice)) :
    Sending.Complete registered ⟨notice, calls, verdict (calls.filterMap SinkCall.fault?)⟩ where
  calls := hrequests
  succeeds := verdict_eq_ok_iff.trans SinkCall.faults_eq_nil_iff
  fails _ := verdict_eq_error_iff.trans (and_congr_left fun _ => SinkCall.faults_ne_nil_iff)

structure FansOut (deliver : ι → Notice → StateM World (Except SinkFault Receipt))
    (registered : List ι) (notices : List Notice) (world : World) (sent : List (Sending ι))
    (after : World) : Prop where
  row : sent.map Sending.notice = notices
  complete : ∀ sending ∈ sent, sending.Complete registered
  answers : Answers deliver world (sent.flatMap Sending.calls) after
  unwatched : (notices.mapM (send deliver registered)).run world =
    (sent.map Sending.result, after)

/-- **Every sink gets every notice.** Each send calls each registration once and in order, whatever
the sinks have answered to it or before, and tells of those that failed. -/
theorem fansOut_sendings (deliver : ι → Notice → StateM World (Except SinkFault Receipt))
    (registered : List ι) (notices : List Notice) (world : World) :
    FansOut deliver registered notices world (sendings deliver registered notices world).1
      (sendings deliver registered notices world).2 := by
  induction notices generalizing world with
  | nil => exact ⟨rfl, by simp [sendings], .nil, rfl⟩
  | cons notice rest ih =>
      obtain ⟨made, between, hwatched, hplain, hanswers, hrequests⟩ :=
        run_send deliver registered notice world
      obtain ⟨hrow, hcomplete, hlater, hunwatched⟩ := ih between
      have hsent : sendings deliver registered (notice :: rest) world =
          (⟨notice, made, verdict (made.filterMap SinkCall.fault?)⟩ ::
              (sendings deliver registered rest between).1,
            (sendings deliver registered rest between).2) := by
        rw [sendings, hwatched]
      rw [hsent]
      constructor
      case row => rw [List.map_cons, hrow]
      case complete =>
        exact List.forall_mem_cons.mpr ⟨Sending.complete_of_requests hrequests, hcomplete⟩
      case answers =>
        rw [List.flatMap_cons]
        exact hanswers.append hlater
      case unwatched =>
        rw [List.mapM_cons (m := StateM World), StateT.run_bind, hplain]
        change (rest.mapM (send deliver registered) >>= _ : StateM World _).run between = _
        rw [StateT.run_bind, hunwatched]
        rfl

end Send

/-- One sink is registered twice, with another one between. It fails whenever the number of calls
so far is odd. -/
example :
    (sendings
        (fun (fragile : Bool) notice => modifyGet fun (count : Nat) =>
          (if fragile && count % 2 == 1 then .error (.deliveryFailed (toString count))
            else .ok ((ReceiptBook.fresh "log").receipt notice), count + 1))
        [true, false, true]
        [.standard .created ⟨"owner"⟩ ⟨"winds"⟩, .standard .deleted ⟨"owner"⟩ ⟨"winds"⟩] 1).1.map
      (fun sending => (sending.calls.map SinkCall.sink,
        match sending.result with
        | .ok () => "sent"
        | .error fault => fault.reason)) =
    [([true, false, true], "sink delivery failed: 1; sink delivery failed: 3"),
      ([true, false, true], "sent")] := by
  decide +kernel

end Broker

end SubscriptionDesk
