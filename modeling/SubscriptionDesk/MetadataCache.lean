import SubscriptionDesk.Catalog
import SubscriptionDesk.Fault

namespace SubscriptionDesk

inductive FacetOutcome where
  | loaded (count : Nat)
  | failed (message : String)
  | timedOut
  deriving DecidableEq

def FacetOutcome.isLoaded : FacetOutcome → Bool
  | .loaded _ => true
  | _ => false

structure RefreshReport where
  refreshed : Bool
  outcome? : Facet → Option FacetOutcome

namespace RefreshReport

def unneeded : RefreshReport := ⟨false, fun _ => none⟩

def ofList (refreshed : Bool) (outcomes : List (Facet × FacetOutcome)) : RefreshReport where
  refreshed := refreshed
  -- of several outcomes the last counts
  outcome? := fun facet =>
    (outcomes.reverse.find? fun entry => decide (entry.1 = facet)).map Prod.snd

def outcomes (report : RefreshReport) : List (Facet × FacetOutcome) :=
  Facet.all.filterMap fun facet => (report.outcome? facet).map (facet, ·)

def incomplete (report : RefreshReport) : List Facet :=
  (report.outcomes.filter fun entry => !entry.2.isLoaded).map Prod.fst

def isComplete (report : RefreshReport) : Bool :=
  report.outcomes.all fun entry => entry.2.isLoaded

end RefreshReport

/-- What a query was begun with: the data type, the area, and the refresh that it belongs to. -/
structure Ticket where
  dataType : DataType
  area : Option Envelope
  generation : UInt64
  deriving DecidableEq

structure MetadataCache where
  dataType : Option DataType
  area : Option Envelope
  rereadPending : Bool
  generation : UInt64
  slot : (facet : Facet) → Option (NameSet facet.role)

inductive Lookup (facet : Facet) where
  | found (names : NameSet facet.role)
  | unselected
  | missing (ticket : Ticket)

namespace MetadataCache

def empty : MetadataCache where
  dataType := none
  area := none
  rereadPending := true
  generation := 0
  slot := fun _ => none

def setArea (cache : MetadataCache) (area : Option Envelope) : MetadataCache :=
  { cache with area := area }

def requestReread (cache : MetadataCache) : MetadataCache := { cache with rereadPending := true }

/-- Starts a refresh if one is due: everything is forgotten, and queries that were begun before
count no more. -/
def beginRefresh (cache : MetadataCache) (dataType : DataType) : Option (Ticket × MetadataCache) :=
  if cache.rereadPending then
    let generation := cache.generation + 1
    some (⟨dataType, cache.area, generation⟩,
      { dataType := some dataType
        area := cache.area
        rereadPending := false
        generation := generation
        slot := fun _ => none })
  else none

def fill (cache : MetadataCache) (facet : Facet) (names : NameSet facet.role) : MetadataCache :=
  { cache with
    slot := fun other => if h : facet = other then some (h ▸ names) else cache.slot other }

def keep (cache : MetadataCache) (ticket : Ticket) (facet : Facet) (names : NameSet facet.role) :
    MetadataCache :=
  if cache.generation = ticket.generation then cache.fill facet names else cache

structure Arrival where
  facet : Facet
  answer : Except MetadataFault (List (Name facet.role))

def outcome (cache : MetadataCache) (ticket : Ticket) (arrival : Arrival) : FacetOutcome :=
  match arrival.answer with
  | .error fault => .failed fault.message
  | .ok entries =>
      if cache.generation = ticket.generation then .loaded (AscendingSet.ofList entries).size
      else .failed "refresh superseded"

def absorb (cache : MetadataCache) (ticket : Ticket) (arrival : Arrival) : MetadataCache :=
  match arrival.answer with
  | .error _ => cache
  | .ok entries => cache.keep ticket arrival.facet (.ofList entries)

def absorbAll (ticket : Ticket) :
    List Arrival → MetadataCache → List (Facet × FacetOutcome) × MetadataCache
  | [], cache => ([], cache)
  | arrival :: rest, cache =>
      let (outcomes, after) := absorbAll ticket rest (cache.absorb ticket arrival)
      ((arrival.facet, cache.outcome ticket arrival) :: outcomes, after)

def finishRefresh (cache : MetadataCache) (ticket : Ticket) (arrivals : List Arrival) :
    RefreshReport × MetadataCache :=
  let (outcomes, after) := absorbAll ticket arrivals cache
  (.ofList true ((Facet.all.map fun facet => (facet, .timedOut)) ++ outcomes), after)

def lookup (cache : MetadataCache) (facet : Facet) : Lookup facet :=
  match cache.slot facet, cache.dataType with
  | some names, _ => .found names
  | none, none => .unselected
  | none, some dataType => .missing ⟨dataType, cache.area, cache.generation⟩

/-- Ends a look-up that asked the source. The caller gets the entries even when they are not
kept, and nothing when the query failed. -/
def finishLookup (cache : MetadataCache) (ticket : Ticket) (facet : Facet)
    (answer : Except MetadataFault (List (Name facet.role))) :
    NameSet facet.role × MetadataCache :=
  match answer with
  | .error _ => (.empty, cache)
  | .ok entries =>
      let names := AscendingSet.ofList entries
      (names, cache.keep ticket facet names)

end MetadataCache

end SubscriptionDesk
