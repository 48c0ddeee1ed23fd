import SubscriptionDesk.MetadataCache

namespace SubscriptionDesk

structure SourceCall where
  facet : Facet
  dataType : DataType
  area : Option Envelope
  deriving DecidableEq

/-- A cache over a catalog, some of whose queries fail or never return. -/
structure MetadataSession where
  catalog : Catalog
  cache : MetadataCache
  failure : Facet → Option String
  dies : Facet → Bool
  calls : List SourceCall

namespace MetadataSession

def start (catalog : Catalog) : MetadataSession where
  catalog := catalog
  cache := .empty
  failure := fun _ => none
  dies := fun _ => false
  calls := []

def setFailure (session : MetadataSession) (facet : Facet) (failure : Option String) :
    MetadataSession :=
  { session with failure := fun other => if other = facet then failure else session.failure other }

def setDies (session : MetadataSession) (facet : Facet) (dies : Bool) : MetadataSession :=
  { session with dies := fun other => if other = facet then dies else session.dies other }

def withCalls (session : MetadataSession) (ticket : Ticket) (facets : List Facet) :
    MetadataSession :=
  { session with
    calls := session.calls ++ facets.map fun facet => ⟨facet, ticket.dataType, ticket.area⟩ }

def answer? (session : MetadataSession) (ticket : Ticket) (facet : Facet) :
    Option (Except MetadataFault (List (Name facet.role))) :=
  if session.dies facet then none
  else
    match session.failure facet with
    | some reason => some (.error ⟨reason⟩)
    | none => some (.ok (session.catalog.values facet ticket.dataType ticket.area))

def arrivals (session : MetadataSession) (ticket : Ticket) (facets : List Facet) :
    List MetadataCache.Arrival :=
  facets.filterMap fun facet => (session.answer? ticket facet).map fun answer => ⟨facet, answer⟩

def begin (session : MetadataSession) (dataType : DataType) : Option Ticket × MetadataSession :=
  match session.cache.beginRefresh dataType with
  | none => (none, session)
  | some (ticket, cache) =>
      (some ticket, withCalls { session with cache := cache } ticket Facet.all)

def finish (session : MetadataSession) (ticket : Option Ticket) (answered : List Facet) :
    RefreshReport × MetadataSession :=
  match ticket with
  | none => (.unneeded, session)
  | some ticket =>
      let (report, cache) := session.cache.finishRefresh ticket (session.arrivals ticket answered)
      (report, { session with cache := cache })

def readBlocked (session : MetadataSession) (dataType : DataType) (blocked : List Facet) :
    RefreshReport × MetadataSession :=
  let (ticket, session) := session.begin dataType
  session.finish ticket (Facet.all.filter fun facet => !blocked.contains facet)

def read (session : MetadataSession) (dataType : DataType) : RefreshReport × MetadataSession :=
  session.readBlocked dataType []

/-- A second read that is asked for and runs while a first one waits for its answers. -/
def overtake (session : MetadataSession) (second : DataType) : RefreshReport × MetadataSession :=
  read { session with cache := session.cache.requestReread } second

def readSuperseded (session : MetadataSession) (first second : DataType) :
    (RefreshReport × RefreshReport) × MetadataSession :=
  let (ticket, session) := session.begin first
  let (secondReport, session) := session.overtake second
  let (firstReport, session) := session.finish ticket Facet.all
  ((firstReport, secondReport), session)

def finishLookup (session : MetadataSession) (facet : Facet) (found : Lookup facet) :
    Option (NameSet facet.role) × MetadataSession :=
  match found with
  | .found names => (some names, session)
  | .unselected => (some .empty, session)
  | .missing ticket =>
      match session.answer? ticket facet with
      | none => (none, session)
      | some answer =>
          let (names, cache) := session.cache.finishLookup ticket facet answer
          (some names, { session with cache := cache })

def beginLookup (session : MetadataSession) (facet : Facet) : Lookup facet × MetadataSession :=
  match session.cache.lookup facet with
  | .missing ticket => (.missing ticket, session.withCalls ticket [facet])
  | found => (found, session)

def get (session : MetadataSession) (facet : Facet) :
    Option (NameSet facet.role) × MetadataSession :=
  let (found, session) := session.beginLookup facet
  session.finishLookup facet found

def getSuperseded (session : MetadataSession) (facet : Facet) (second : DataType) :
    (Option (NameSet facet.role) × RefreshReport) × MetadataSession :=
  let (found, session) := session.beginLookup facet
  let (report, session) := session.overtake second
  let (names, session) := session.finishLookup facet found
  ((names, report), session)

def callsInOrder (session : MetadataSession) : List SourceCall :=
  Facet.all.flatMap fun facet =>
    (session.calls.filter fun call => decide (call.facet = facet)).mergeSort fun call other =>
      decide (call.dataType.text ≤ other.dataType.text)

end MetadataSession

end SubscriptionDesk
