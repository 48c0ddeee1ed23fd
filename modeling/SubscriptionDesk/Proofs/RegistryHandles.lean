import Mathlib.Logic.Function.Basic
import SubscriptionDesk.Proofs.RegistryLaws

/-!
# A registry is a map from names to records

A registry in memory is reached through handles, and a clone of a handle leads to the same
registry. Whoever asks through whichever handle gets the answers of one map. What the map holds
under a name is what the last exchange has left there that wrote or removed the name. The map is
followed exchange by exchange, so that nothing has to be known of who else asked in between.
-/

namespace SubscriptionDesk

namespace Registry

inductive Request where
  | store (user : UserId) (record : Subscription)
  | update (user : UserId) (record : Subscription)
  | delete (user : UserId) (batch : List Subscription)
  | find (name : SubscriptionName)
  | all

@[reducible]
def Request.Answer : Request → Type
  | .store _ _ => Except RegistryFault Unit
  | .update _ _ => Except RegistryFault Unit
  | .delete _ _ => Except RegistryFault Unit
  | .find _ => Except RegistryFault (Option Subscription)
  | .all => Except RegistryFault (List Subscription)

def respond (registry : Registry) : (request : Request) → request.Answer × Registry
  | .store user record => registry.serve (.store user record)
  | .update user record => registry.serve (.update user record)
  | .delete user batch => registry.serve (.delete user batch)
  | .find name => registry.serve (.find name)
  | .all => (.ok registry.records, registry)

structure Exchange where
  request : Request
  answer : request.Answer

/-- How a map from names to records answers a request, and what it holds then. -/
inductive Exchanged (map : SubscriptionName → Option Subscription) :
    Exchange → (SubscriptionName → Option Subscription) → Prop where
  | stored {user : UserId} {record : Subscription} :
      map record.name = none →
      Exchanged map ⟨.store user record, .ok ()⟩ (Function.update map record.name (some record))
  | taken {user : UserId} {record held : Subscription} :
      map record.name = some held →
      Exchanged map
        ⟨.store user record, .error ⟨"subscription " ++ record.name.text ++ " already exists"⟩⟩ map
  | updated {user : UserId} {record held : Subscription} :
      map record.name = some held →
      Exchanged map ⟨.update user record, .ok ()⟩ (Function.update map record.name (some record))
  | unknown {user : UserId} {record : Subscription} :
      map record.name = none →
      Exchanged map
        ⟨.update user record, .error ⟨"subscription " ++ record.name.text ++ " not found"⟩⟩ map
  | deleted {user : UserId} {batch : List Subscription} :
      Exchanged map ⟨.delete user batch, .ok ()⟩
        fun name => if name ∈ batch.map Subscription.name then none else map name
  | found {name : SubscriptionName} : Exchanged map ⟨.find name, .ok (map name)⟩ map
  | listed {records : List Subscription} :
      ByName records → (∀ record, record ∈ records ↔ map record.name = some record) →
      Exchanged map ⟨.all, .ok records⟩ map

/-- What an exchange leaves under a name, if it writes or removes the name. -/
def Exchange.leaves? (name : SubscriptionName) : Exchange → Option (Option Subscription)
  | ⟨.store _ record, .ok ()⟩ => if record.name = name then some (some record) else none
  | ⟨.update _ record, .ok ()⟩ => if record.name = name then some (some record) else none
  | ⟨.delete _ batch, .ok ()⟩ =>
      if batch.any fun record => decide (record.name = name) then some none else none
  | _ => none

/-- What is held under a name after some exchanges: what the last that wrote or removed it has left,
and what was held before if there is none. -/
def lastHeld (before : SubscriptionName → Option Subscription) (exchanges : List Exchange)
    (name : SubscriptionName) : Option Subscription :=
  (exchanges.reverse.findSome? (Exchange.leaves? name)).getD (before name)

/-- Exchanges that are those of one map, which holds at any time what was last written and not
removed since. -/
structure KeptAsMap (first : SubscriptionName → Option Subscription) (exchanges : List Exchange)
    (registry : Registry) : Prop where
  exchanged : ∀ before exchange later, exchanges = before ++ exchange :: later →
    Exchanged (lastHeld first before) exchange (lastHeld first (before ++ [exchange]))
  held : registry.find? = lastHeld first exchanges

section Map

variable {map after : SubscriptionName → Option Subscription} {exchange : Exchange}
  {first second exchanges : List Exchange} {registry between : Registry} {record : Subscription}

theorem lastHeld_append :
    lastHeld map (first ++ second) = lastHeld (lastHeld map first) second := by
  funext name
  simp [lastHeld, List.findSome?_append]

theorem Exchanged.eq_lastHeld (hexchanged : Exchanged map exchange after) :
    after = lastHeld map [exchange] := by
  funext name
  cases hexchanged with
  | @stored _ record | @updated _ record =>
      by_cases hname : record.name = name
      · subst hname
        simp [lastHeld, Exchange.leaves?]
      · simp [lastHeld, Exchange.leaves?, hname, Ne.symm hname]
  | @deleted _ batch =>
      by_cases hname : ∃ record, record ∈ batch ∧ record.name = name <;>
        simp [lastHeld, Exchange.leaves?, hname]
  | taken | unknown | found | listed => rfl

theorem find?_put_eq_update :
    (registry.put record).find? = Function.update registry.find? record.name (some record) := by
  funext name
  rw [find?_put, Function.update_apply]
  simp only [eq_comm]

/-- A registry answers as the map of its lookups does. -/
theorem exchanged_respond (registry : Registry) (request : Request) :
    Exchanged registry.find? ⟨request, (registry.respond request).1⟩
      (registry.respond request).2.find? := by
  cases request with
  | store user record =>
      cases hfind : registry.find? record.name with
      | none =>
          have hrespond :
              registry.respond (.store user record) = (.ok (), registry.put record) := by
            change registry.attempted (registry.store record) = _
            rw [store_of_find?_eq_none hfind]
            rfl
          rw [hrespond, find?_put_eq_update]
          exact .stored hfind
      | some held =>
          have hrespond : registry.respond (.store user record) =
              (.error ⟨"subscription " ++ record.name.text ++ " already exists"⟩, registry) := by
            change registry.attempted (registry.store record) = _
            simp only [store, hfind]
            rfl
          rw [hrespond]
          exact .taken hfind
  | update user record =>
      cases hfind : registry.find? record.name with
      | none =>
          have hrespond : registry.respond (.update user record) =
              (.error ⟨"subscription " ++ record.name.text ++ " not found"⟩, registry) := by
            change registry.attempted (registry.update record) = _
            simp only [update, hfind]
            rfl
          rw [hrespond]
          exact .unknown hfind
      | some held =>
          have hrespond : registry.respond (.update user record) =
              (.ok (), registry.put record) := by
            change registry.attempted (registry.update record) = _
            rw [update_of_find?_eq_some hfind]
            rfl
          rw [hrespond, find?_put_eq_update]
          exact .updated hfind
  | delete user batch =>
      have hafter : (registry.delete batch).find? =
          fun name => if name ∈ batch.map Subscription.name then none else registry.find? name := by
        funext name
        rw [delete_eq_without, find?_without]
      change Exchanged _ ⟨.delete user batch, .ok ()⟩ (registry.delete batch).find?
      rw [hafter]
      exact .deleted
  | find name => exact .found
  | all => exact .listed registry.byName fun _ => mem_records_iff

theorem KeptAsMap.nil (registry : Registry) : KeptAsMap registry.find? [] registry where
  exchanged before exchange later hsplit := by simp at hsplit
  held := rfl

theorem KeptAsMap.cons (hexchanged : Exchanged map exchange between.find?)
    (hkept : KeptAsMap between.find? exchanges registry) :
    KeptAsMap map (exchange :: exchanges) registry := by
  have hfirst (rest : List Exchange) :
      lastHeld map (exchange :: rest) = lastHeld between.find? rest := by
    rw [← List.singleton_append, lastHeld_append, ← hexchanged.eq_lastHeld]
  constructor
  case exchanged =>
    intro before other later hsplit
    cases before with
    | nil =>
        obtain ⟨rfl, -⟩ := List.cons.inj hsplit
        have hafter : lastHeld map [exchange] = between.find? := hexchanged.eq_lastHeld.symm
        rw [List.nil_append, hafter]
        exact hexchanged
    | cons head before =>
        obtain ⟨rfl, hrest⟩ := List.cons.inj hsplit
        rw [List.cons_append, hfirst, hfirst]
        exact hkept.exchanged before other later hrest
  case held => rw [hfirst, hkept.held]

end Map

end Registry

/-! ### Handles -/

/-- Registries in memory, each at a place of its own, and handles that lead to these places. -/
structure Memory where
  registries : List Registry
  handles : List Nat

structure LocalExchange where
  place : Nat
  exchange : Registry.Exchange

inductive MemoryAction where
  | create (subscriptions : List Subscription)
  | clone (handle : Nat)
  | ask (handle : Nat) (request : Registry.Request)

namespace Memory

def reach? (memory : Memory) (handle : Nat) : Option (Nat × Registry) := do
  let place ← memory.handles[handle]?
  let registry ← memory.registries[place]?
  return (place, registry)

/-- Does one thing; what goes through a handle that leads nowhere does nothing. -/
def take (memory : Memory) : MemoryAction → Option LocalExchange × Memory
  | .create subscriptions =>
      (none,
        { registries := memory.registries ++ [.ofList subscriptions]
          handles := memory.handles ++ [memory.registries.length] })
  | .clone handle =>
      (none, { memory with handles := memory.handles ++ memory.handles[handle]?.toList })
  | .ask handle request =>
      match memory.reach? handle with
      | none => (none, memory)
      | some (place, registry) =>
          (some ⟨place, request, (registry.respond request).1⟩,
            { memory with
              registries := memory.registries.set place (registry.respond request).2 })

def run : List MemoryAction → Memory → List LocalExchange × Memory
  | [], memory => ([], memory)
  | action :: rest, memory =>
      let (exchange, between) := memory.take action
      let (later, after) := run rest between
      (exchange.toList ++ later, after)

def exchangesAt (place : Nat) (exchanges : List LocalExchange) : List Registry.Exchange :=
  (exchanges.filter fun exchange => decide (exchange.place = place)).map LocalExchange.exchange

variable {memory : Memory} {place : Nat} {registry : Registry}

theorem getElem?_of_reach? {handle : Nat} (hreach : memory.reach? handle = some (place, registry)) :
    memory.registries[place]? = some registry := by
  obtain ⟨other, -, hother⟩ := Option.bind_eq_some_iff.mp hreach
  obtain ⟨found, hfound, hpair⟩ := Option.bind_eq_some_iff.mp hother
  obtain ⟨rfl, rfl⟩ := Prod.mk.inj (Option.some.inj hpair)
  exact hfound

/-- What one action does to the registry at a place: nothing, or what the registry does when it is
asked. -/
theorem take_cases (action : MemoryAction) (hplace : memory.registries[place]? = some registry) :
    (exchangesAt place (memory.take action).1.toList = [] ∧
        (memory.take action).2.registries[place]? = some registry) ∨
      ∃ request,
        exchangesAt place (memory.take action).1.toList =
            [⟨request, (registry.respond request).1⟩] ∧
          (memory.take action).2.registries[place]? = some (registry.respond request).2 := by
  have hlt : place < memory.registries.length := (List.getElem?_eq_some_iff.mp hplace).1
  cases action with
  | create subscriptions =>
      refine .inl ⟨rfl, ?_⟩
      change (memory.registries ++ [_])[place]? = _
      rw [List.getElem?_append_left hlt, hplace]
  | clone handle => exact .inl ⟨rfl, hplace⟩
  | ask handle request =>
      cases hreach : memory.reach? handle with
      | none =>
          have htake : memory.take (.ask handle request) = (none, memory) := by simp [take, hreach]
          rw [htake]
          exact .inl ⟨rfl, hplace⟩
      | some reached =>
          obtain ⟨other, asked⟩ := reached
          have htake : memory.take (.ask handle request) =
              (some ⟨other, request, (asked.respond request).1⟩,
                { memory with
                  registries := memory.registries.set other (asked.respond request).2 }) := by
            simp [take, hreach]
          rw [htake]
          by_cases hsame : other = place
          · subst hsame
            obtain rfl := Option.some.inj ((getElem?_of_reach? hreach).symm.trans hplace)
            exact .inr ⟨request, by simp [exchangesAt], by simp [hlt]⟩
          · exact .inl ⟨by simp [exchangesAt, hsame], by simp [hsame, hplace]⟩

theorem keptAsMap_run (actions : List MemoryAction)
    (hplace : memory.registries[place]? = some registry) :
    ∃ after, (memory.run actions).2.registries[place]? = some after ∧
      Registry.KeptAsMap registry.find? (exchangesAt place (memory.run actions).1) after := by
  induction actions generalizing memory registry with
  | nil => exact ⟨registry, hplace, .nil registry⟩
  | cons action rest ih =>
      have hexchanges : exchangesAt place (memory.run (action :: rest)).1 =
          exchangesAt place (memory.take action).1.toList ++
            exchangesAt place ((memory.take action).2.run rest).1 := by
        simp [run, exchangesAt]
      rw [hexchanges]
      rcases take_cases action hplace with ⟨hnone, hafter⟩ | ⟨request, hsome, hafter⟩
      · rw [hnone]
        exact ih hafter
      · obtain ⟨after, hplace, hkept⟩ := ih hafter
        rw [hsome]
        exact ⟨after, hplace, hkept.cons (registry.exchanged_respond request)⟩

/-- **A registry is a map.** What is asked through any handles that lead to it is answered by one
map, which at first holds under a name the last record of that name in a list. -/
theorem registry_keptAsMap {subscriptions : List Subscription}
    (hplace : memory.registries[place]? = some (.ofList subscriptions))
    (actions : List MemoryAction) :
    ∃ after, (memory.run actions).2.registries[place]? = some after ∧
      Registry.KeptAsMap
        (fun name => subscriptions.reverse.find? fun record => decide (record.name = name))
        (exchangesAt place (memory.run actions).1) after ∧
      ∀ name record, after.find? name = some record → record.name = name := by
  obtain ⟨after, hafter, hkept⟩ := keptAsMap_run actions hplace
  have hfirst : (Registry.ofList subscriptions).find? =
      fun name => subscriptions.reverse.find? fun record => decide (record.name = name) := by
    funext name
    change (Registry.empty.putAll subscriptions).find? name = _
    rw [Registry.find?_putAll]
    exact Option.or_none
  rw [hfirst] at hkept
  exact ⟨after, hafter, hkept, fun _ _ hfind => (Registry.find?_eq_some_iff.mp hfind).2⟩

end Memory

def oneHandle : Memory where
  registries :=
    [.ofList [{ Subscription.sample "winds" with latency := 10 }, .sample "waves", .sample "winds"]]
  handles := [0]

def crossedActions : List MemoryAction :=
  [.clone 0, .create [], .ask 1 (.store ⟨"owner"⟩ (.sample "winds")),
    .ask 0 (.update ⟨"owner"⟩ { Subscription.sample "winds" with latency := 20 }), .ask 1 .all,
    .ask 2 (.update ⟨"owner"⟩ (.sample "winds")), .ask 1 (.delete ⟨"owner"⟩ [.sample "winds"]),
    .ask 0 (.find ⟨"winds"⟩), .ask 0 (.update ⟨"owner"⟩ (.sample "winds"))]

/-- Who is asked through either handle knows what was written and removed through the other. -/
theorem registry_keptAsMap_crossedActions :
    oneHandle.registries[0]? =
        some (.ofList
          [{ Subscription.sample "winds" with latency := 10 }, .sample "waves", .sample "winds"]) ∧
      (∃ after, (oneHandle.run crossedActions).2.registries[0]? = some after ∧
        Registry.KeptAsMap
          (fun name => List.find? (fun record => decide (record.name = name))
            [{ Subscription.sample "winds" with latency := 10 }, .sample "waves",
              .sample "winds"].reverse)
          (Memory.exchangesAt 0 (oneHandle.run crossedActions).1) after ∧
        ∀ name record, after.find? name = some record → record.name = name) ∧
      (oneHandle.run crossedActions).1.map LocalExchange.place = [0, 0, 0, 1, 0, 0, 0] ∧
      (Memory.exchangesAt 0 (oneHandle.run crossedActions).1).map
          (Registry.Exchange.leaves? ⟨"winds"⟩) =
        [none, some (some { Subscription.sample "winds" with latency := 20 }), none, some none,
          none, none] ∧
      (oneHandle.run crossedActions).2.registries.map Registry.records =
        [[.sample "waves"], []] := by
  have hplace : oneHandle.registries[0]? =
      some (.ofList
        [{ Subscription.sample "winds" with latency := 10 }, .sample "waves",
         .sample "winds"]) := rfl
  exact ⟨hplace, Memory.registry_keptAsMap hplace crossedActions, by decide +kernel,
    by decide +kernel, by decide +kernel⟩

end SubscriptionDesk
