import Mathlib.Logic.Relation
import SubscriptionDesk.Proofs.CacheLaws

/-!
# Superseded answers are not published

Refreshes and look-ups share a cache. Each takes a ticket when it begins, asks the source without
holding the cache, and comes back to it with the answer, in any order and at any time, maybe after
many other refreshes. The history of a cache keeps the queries that were ever begun, with the number
of refreshes that had begun by then. A ticket tells this number as long as it has not wrapped, and
that is why an answer is kept only if its query was begun since the last refresh.
-/

namespace SubscriptionDesk

open MetadataCache

structure FacetQuery where
  facet : Facet
  ticket : Ticket
  /-- How many refreshes had begun when it was begun, with the one that it belongs to. -/
  begun : Nat
  byRefresh : Bool
  answer? : Option (Except MetadataFault (List (Name facet.role)))
  taken : Bool

def FacetQuery.arrival? (query : FacetQuery) : Option Arrival :=
  query.answer?.map fun answer => ⟨query.facet, answer⟩

structure CacheHistory where
  cache : MetadataCache
  queries : List FacetQuery
  refreshes : Nat

namespace CacheHistory

def start : CacheHistory := ⟨.empty, [], 0⟩

def beginRead (history : CacheHistory) (dataType : DataType) : CacheHistory :=
  match history.cache.beginRefresh dataType with
  | none => history
  | some (ticket, cache) =>
      { cache := cache
        queries := history.queries ++ Facet.all.map fun facet =>
          ⟨facet, ticket, history.refreshes + 1, true, none, false⟩
        refreshes := history.refreshes + 1 }

def beginLookup (history : CacheHistory) (facet : Facet) : CacheHistory :=
  match history.cache.lookup facet with
  | .missing ticket =>
      { history with
        queries := history.queries ++ [⟨facet, ticket, history.refreshes, false, none, false⟩] }
  | _ => history

inductive Step : CacheHistory → CacheHistory → Prop where
  | setArea {history : CacheHistory} (area : Option Envelope) :
      Step history { history with cache := history.cache.setArea area }
  | requestReread {history : CacheHistory} :
      Step history { history with cache := history.cache.requestReread }
  | beginRead {history : CacheHistory} (dataType : DataType) :
      Step history (history.beginRead dataType)
  | beginLookup {history : CacheHistory} (facet : Facet) :
      Step history (history.beginLookup facet)
  | answer {history : CacheHistory} (before : List FacetQuery) {query : FacetQuery}
      {after : List FacetQuery} (answer : Except MetadataFault (List (Name query.facet.role))) :
      history.queries = before ++ query :: after → query.answer? = none →
      Step history
        { history with queries := before ++ { query with answer? := some answer } :: after }
  | publish {history : CacheHistory} (before : List FacetQuery) {query : FacetQuery}
      {after : List FacetQuery} {answer : Except MetadataFault (List (Name query.facet.role))} :
      history.queries = before ++ query :: after → query.byRefresh = true →
      query.answer? = some answer → query.taken = false →
      Step history
        { history with
          cache := history.cache.absorb query.ticket ⟨query.facet, answer⟩
          queries := before ++ { query with taken := true } :: after }
  | finishLookup {history : CacheHistory} (before : List FacetQuery) {query : FacetQuery}
      {after : List FacetQuery} {answer : Except MetadataFault (List (Name query.facet.role))} :
      history.queries = before ++ query :: after → query.byRefresh = false →
      query.answer? = some answer → query.taken = false →
      Step history
        { history with
          cache := (history.cache.finishLookup query.ticket query.facet answer).2
          queries := before ++ { query with taken := true } :: after }

def Reachable (history : CacheHistory) : Prop := Relation.ReflTransGen Step start history

/-! ### What every step preserves -/

/-- What is known of a query: its ticket tells when it was begun, and while no other refresh has
begun it asks for the data type that is selected. -/
structure Dated (dataType : Option DataType) (refreshes : Nat) (query : FacetQuery) : Prop where
  begun_le : query.begun ≤ refreshes
  ticket : query.ticket.generation = UInt64.ofNat query.begun
  selected : query.begun = refreshes → dataType = some query.ticket.dataType

structure Sound (history : CacheHistory) : Prop where
  generation : history.cache.generation = UInt64.ofNat history.refreshes
  dated : ∀ query ∈ history.queries, Dated history.cache.dataType history.refreshes query
  slots : ∀ facet names, history.cache.slot facet = some names →
    ∃ query ∈ history.queries, query.begun = history.refreshes ∧
      ∃ entries, query.arrival? = some ⟨facet, .ok entries⟩ ∧ names = .ofList entries

section Sound

variable {history next : CacheHistory} {before after : List FacetQuery} {query other : FacetQuery}

theorem sound_start : start.Sound where
  generation := rfl
  dated := by simp [start]
  slots := by
    intro facet names hslot
    contradiction

/-- A query may come to know its answer, and an answer may be taken. -/
theorem Sound.replace (hsound : history.Sound)
    (hqueries : history.queries = before ++ query :: after)
    (hbegun : other.begun = query.begun) (hticket : other.ticket = query.ticket)
    (harrival : ∀ arrival, query.arrival? = some arrival → other.arrival? = some arrival) :
    Sound { history with queries := before ++ other :: after } where
  generation := hsound.generation
  dated := by
    intro candidate hcandidate
    have hdated := hqueries ▸ hsound.dated
    rcases List.mem_append.mp hcandidate with hmem | hmem
    · exact hdated candidate (List.mem_append_left _ hmem)
    rcases List.mem_cons.mp hmem with rfl | hmem
    · obtain ⟨hle, hgeneration, hselected⟩ := hdated query (by simp)
      exact ⟨hbegun ▸ hle, hbegun ▸ hticket ▸ hgeneration, hbegun ▸ hticket ▸ hselected⟩
    · exact hdated candidate (by simp [hmem])
  slots := by
    intro facet names hslot
    obtain ⟨found, hfound, hcurrent, entries, hentries, hnames⟩ := hsound.slots facet names hslot
    rw [hqueries] at hfound
    rcases List.mem_append.mp hfound with hmem | hmem
    · exact ⟨found, List.mem_append_left _ hmem, hcurrent, entries, hentries, hnames⟩
    rcases List.mem_cons.mp hmem with rfl | hmem
    · exact ⟨other, by simp, hbegun.trans hcurrent, entries, harrival _ hentries, hnames⟩
    · exact ⟨found, by simp [hmem], hcurrent, entries, hentries, hnames⟩

theorem ofNat_inj_of_lt {first second : Nat} (hfirst : first < UInt64.size)
    (hsecond : second < UInt64.size)
    (heq : UInt64.ofNat first = UInt64.ofNat second) : first = second := by
  have hnat := congrArg UInt64.toNat heq
  rwa [UInt64.toNat_ofNat_of_lt' hfirst, UInt64.toNat_ofNat_of_lt' hsecond] at hnat

theorem Sound.absorb {arrival : Arrival} (hsound : history.Sound)
    (hbound : history.refreshes < UInt64.size) (hquery : query ∈ history.queries)
    (harrival : query.arrival? = some arrival) :
    Sound { history with cache := history.cache.absorb query.ticket arrival } where
  generation := by
    rw [generation_absorb]
    exact hsound.generation
  dated := by
    intro candidate hcandidate
    rw [dataType_absorb]
    exact hsound.dated candidate hcandidate
  slots := by
    intro facet names hslot
    by_cases hcurrent : history.cache.generation = query.ticket.generation
    · by_cases hfacet : arrival.facet = facet
      · obtain ⟨_, answer⟩ := arrival
        subst hfacet
        rcases answer with fault | entries
        · exact hsound.slots _ names hslot
        · rw [slot_absorb_self hcurrent] at hslot
          have hbegun : query.begun = history.refreshes := by
            obtain ⟨hle, hgeneration, -⟩ := hsound.dated query hquery
            refine ofNat_inj_of_lt (Nat.lt_of_le_of_lt hle hbound) hbound ?_
            rw [← hgeneration, ← hcurrent, hsound.generation]
          exact ⟨query, hquery, hbegun, entries, harrival, (Option.some.inj hslot).symm⟩
      · rw [slot_absorb_of_ne hfacet] at hslot
        exact hsound.slots facet names hslot
    · rw [absorb_of_superseded hcurrent] at hslot
      exact hsound.slots facet names hslot

theorem Sound.beginRead (hsound : history.Sound) (dataType : DataType) :
    (history.beginRead dataType).Sound := by
  unfold CacheHistory.beginRead beginRefresh
  split
  · exact hsound
  · rename_i ticket cache hbegin
    split at hbegin
    · obtain ⟨rfl, rfl⟩ := Prod.mk.inj (Option.some.inj hbegin)
      have hgeneration : history.cache.generation + 1 = UInt64.ofNat (history.refreshes + 1) := by
        rw [hsound.generation]
        simp
      constructor
      case generation => exact hgeneration
      case dated =>
        intro query hquery
        rcases List.mem_append.mp hquery with hquery | hquery
        · obtain ⟨hle, hticket, -⟩ := hsound.dated query hquery
          exact ⟨Nat.le_succ_of_le hle, hticket,
            fun hcurrent => absurd hcurrent (Nat.ne_of_lt (Nat.lt_succ_of_le hle))⟩
        · obtain ⟨facet, -, rfl⟩ := List.mem_map.mp hquery
          exact ⟨Nat.le_refl _, hgeneration, fun _ => rfl⟩
      case slots =>
        intro facet names hslot
        contradiction
    · contradiction

theorem Sound.beginLookup (hsound : history.Sound) (facet : Facet) :
    (history.beginLookup facet).Sound := by
  unfold CacheHistory.beginLookup MetadataCache.lookup
  split
  · rename_i ticket hlookup
    split at hlookup
    · contradiction
    · contradiction
    · rename_i dataType hslot hselected
      obtain rfl := Lookup.missing.inj hlookup
      constructor
      case generation => exact hsound.generation
      case dated =>
        refine List.forall_mem_append.mpr ⟨hsound.dated, List.forall_mem_singleton.mpr ?_⟩
        exact ⟨Nat.le_refl _, hsound.generation, fun _ => hselected⟩
      case slots =>
        intro other names hother
        obtain ⟨query, hquery, hfound⟩ := hsound.slots other names hother
        exact ⟨query, List.mem_append_left _ hquery, hfound⟩
  · exact hsound

theorem Sound.take {arrival : Arrival} (hsound : history.Sound)
    (hbound : history.refreshes < UInt64.size)
    (hqueries : history.queries = before ++ query :: after)
    (harrival : query.arrival? = some arrival) :
    Sound { history with
      cache := history.cache.absorb query.ticket arrival
      queries := before ++ { query with taken := true } :: after } := by
  have hquery : query ∈ history.queries := by simp [hqueries]
  exact (hsound.absorb hbound hquery harrival).replace hqueries rfl rfl fun _ hother => hother

theorem Sound.step (hsound : history.Sound) (hbound : history.refreshes < UInt64.size)
    (hstep : Step history next) : next.Sound := by
  cases hstep with
  | setArea area => exact ⟨hsound.generation, hsound.dated, hsound.slots⟩
  | requestReread => exact ⟨hsound.generation, hsound.dated, hsound.slots⟩
  | beginRead dataType => exact hsound.beginRead dataType
  | beginLookup facet => exact hsound.beginLookup facet
  | answer before answer hqueries hopen =>
      refine hsound.replace hqueries rfl rfl fun arrival harrival => ?_
      simp [FacetQuery.arrival?, hopen] at harrival
  | publish before hqueries _ hanswer =>
      exact hsound.take hbound hqueries (by simp [FacetQuery.arrival?, hanswer])
  | finishLookup before hqueries _ hanswer =>
      rw [finishLookup_eq_absorb]
      exact hsound.take hbound hqueries (by simp [FacetQuery.arrival?, hanswer])

theorem Step.refreshes_le (hstep : Step history next) : history.refreshes ≤ next.refreshes := by
  cases hstep with
  | beginRead dataType =>
      unfold CacheHistory.beginRead
      split
      · exact Nat.le_refl _
      · exact Nat.le_succ _
  | beginLookup facet =>
      unfold CacheHistory.beginLookup
      split <;> exact Nat.le_refl _
  | _ => exact Nat.le_refl _

theorem Reachable.sound (hreach : history.Reachable) (hbound : history.refreshes < UInt64.size) :
    history.Sound := by
  induction hreach with
  | refl => exact sound_start
  | tail _ hstep ih =>
      have hearlier := Nat.lt_of_le_of_lt hstep.refreshes_le hbound
      exact (ih hearlier).step hearlier hstep

end Sound

/-- Where the names in a cache come from. -/
structure Published (history : CacheHistory) : Prop where
  /-- A facet that is populated holds the entries of one query for it, for the data type that is
  selected, and begun since the last refresh. -/
  current : ∀ facet names, history.cache.slot facet = some names →
    ∃ query ∈ history.queries, ∃ entries,
      query.arrival? = some ⟨facet, .ok entries⟩ ∧
      (∀ name, name ∈ names ↔ name ∈ entries) ∧
      history.cache.dataType = some query.ticket.dataType ∧
      query.begun = history.refreshes
  unselected : history.cache.dataType = none → ∀ facet, history.cache.slot facet = none

/-- **No superseded answer is published.** -/
theorem published_of_reachable {history : CacheHistory} (hreach : history.Reachable)
    (hbound : history.refreshes < UInt64.size) : history.Published := by
  have hsound := hreach.sound hbound
  have hcurrent (facet : Facet) (names : NameSet facet.role)
      (hslot : history.cache.slot facet = some names) :
      ∃ query ∈ history.queries, ∃ entries,
        query.arrival? = some ⟨facet, .ok entries⟩ ∧
        (∀ name, name ∈ names ↔ name ∈ entries) ∧
        history.cache.dataType = some query.ticket.dataType ∧
        query.begun = history.refreshes := by
    obtain ⟨query, hquery, hbegun, entries, harrival, rfl⟩ := hsound.slots facet names hslot
    exact ⟨query, hquery, entries, harrival, fun _ => AscendingSet.mem_ofList,
      (hsound.dated query hquery).selected hbegun, hbegun⟩
  refine ⟨hcurrent, fun hunselected facet => ?_⟩
  cases hslot : history.cache.slot facet with
  | none => rfl
  | some names =>
      obtain ⟨query, -, entries, -, -, hselected, -⟩ := hcurrent facet names hslot
      rw [hunselected] at hselected
      contradiction

end CacheHistory

/-- A refresh is overtaken by another one. Its answer comes last, when the slot has been filled. -/
theorem published_overtakenRefresh :
    ∃ history : CacheHistory, history.Reachable ∧ history.refreshes < UInt64.size ∧
      history.Published ∧
      (history.queries.filter FacetQuery.taken).map (fun query => (query.facet, query.begun)) =
        [(.providers, 1), (.providers, 2)] ∧
      history.cache.slot .providers = some (.ofList [⟨"new"⟩, ⟨"other"⟩]) := by
  obtain ⟨history, hreach, hrefreshes, htaken, hslot⟩ :
      ∃ history : CacheHistory, history.Reachable ∧ history.refreshes = 2 ∧
        (history.queries.filter FacetQuery.taken).map (fun query => (query.facet, query.begun)) =
          [(.providers, 1), (.providers, 2)] ∧
        history.cache.slot .providers = some (.ofList [⟨"new"⟩, ⟨"other"⟩]) :=
    ⟨_, .tail (.tail (.tail (.tail (.tail (.tail (.tail .refl
      (.beginRead ⟨"grid"⟩))
      .requestReread)
      (.beginRead ⟨"point"⟩))
      (.answer [] (.ok [⟨"old"⟩]) rfl rfl))
      (.answer [_, _, _, _] (.ok [⟨"other"⟩, ⟨"new"⟩, ⟨"other"⟩]) rfl rfl))
      (.publish [_, _, _, _] rfl rfl rfl rfl))
      (.publish [] rfl rfl rfl rfl), rfl, rfl, rfl⟩
  have hbound : history.refreshes < UInt64.size := by
    rw [hrefreshes]
    decide
  exact ⟨history, hreach, hbound, CacheHistory.published_of_reachable hreach hbound, htaken, hslot⟩

end SubscriptionDesk
