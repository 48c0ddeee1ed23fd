import SubscriptionDesk.Dialogue

namespace SubscriptionDesk

def ByName (records : List Subscription) : Prop :=
  records.Pairwise fun earlier later => earlier.name < later.name

/-- The stored subscriptions, one of each name, in the order of the names. -/
structure Registry where
  records : List Subscription
  byName : ByName records

namespace Registry

def place (record : Subscription) : List Subscription → List Subscription
  | [] => [record]
  | head :: rest =>
      if record.name < head.name then record :: head :: rest
      else if head.name < record.name then head :: place record rest
      else record :: rest

theorem name_mem_place {record other : Subscription} {records : List Subscription}
    (hother : other ∈ place record records) :
    other.name = record.name ∨ ∃ stored ∈ records, other.name = stored.name := by
  induction records with
  | nil => simp_all [place]
  | cons head rest ih =>
      unfold place at hother
      split at hother
      · rcases List.mem_cons.mp hother with rfl | hother
        · exact .inl rfl
        · exact .inr ⟨other, hother, rfl⟩
      · split at hother
        · rcases List.mem_cons.mp hother with rfl | hother
          · exact .inr ⟨other, List.mem_cons_self, rfl⟩
          · rcases ih hother with hname | ⟨stored, hstored, hname⟩
            · exact .inl hname
            · exact .inr ⟨stored, List.mem_cons_of_mem _ hstored, hname⟩
        · rcases List.mem_cons.mp hother with rfl | hother
          · exact .inl rfl
          · exact .inr ⟨other, List.mem_cons_of_mem _ hother, rfl⟩

theorem byName_place {record : Subscription} {records : List Subscription}
    (hrecords : ByName records) : ByName (place record records) := by
  induction records with
  | nil => exact List.pairwise_singleton _ _
  | cons head rest ih =>
      obtain ⟨hhead, hrest⟩ := List.pairwise_cons.mp hrecords
      unfold place
      split
      · rename_i hlt
        refine List.pairwise_cons.mpr ⟨?_, hrecords⟩
        intro other hother
        rcases List.mem_cons.mp hother with rfl | hother
        · exact hlt
        · exact StrictTotalOrder.trans hlt (hhead other hother)
      · split
        · rename_i hlt
          refine List.pairwise_cons.mpr ⟨?_, ih hrest⟩
          intro other hother
          rcases name_mem_place hother with hname | ⟨stored, hstored, hname⟩
          · exact hname ▸ hlt
          · exact hname ▸ hhead stored hstored
        · rename_i hge hle
          have heq := StrictTotalOrder.eq_of_not_lt hge hle
          exact List.pairwise_cons.mpr ⟨fun other hother => heq ▸ hhead other hother, hrest⟩

def empty : Registry := ⟨[], List.Pairwise.nil⟩

def put (registry : Registry) (record : Subscription) : Registry :=
  ⟨place record registry.records, byName_place registry.byName⟩

def ofList (subscriptions : List Subscription) : Registry := subscriptions.foldl put empty

def find? (registry : Registry) (name : SubscriptionName) : Option Subscription :=
  registry.records.find? fun record => decide (record.name = name)

def remove (registry : Registry) (name : SubscriptionName) : Registry :=
  ⟨registry.records.filter fun record => decide (record.name ≠ name),
    registry.byName.sublist List.filter_sublist⟩

def store (registry : Registry) (record : Subscription) : Except RegistryFault Registry :=
  match registry.find? record.name with
  | some _ => .error ⟨"subscription " ++ record.name.text ++ " already exists"⟩
  | none => .ok (registry.put record)

def update (registry : Registry) (record : Subscription) : Except RegistryFault Registry :=
  match registry.find? record.name with
  | some _ => .ok (registry.put record)
  | none => .error ⟨"subscription " ++ record.name.text ++ " not found"⟩

/-- Replaces records one after the other, up to the first that does not exist. What was replaced by
then stays replaced. -/
def updateAll : List Subscription → Registry → Except RegistryFault Unit × Registry
  | [], registry => (.ok (), registry)
  | record :: rest, registry =>
      match registry.update record with
      | .ok registry => updateAll rest registry
      | .error fault => (.error fault, registry)

def delete (registry : Registry) (batch : List Subscription) : Registry :=
  batch.foldl (fun registry record => registry.remove record.name) registry

def competes (record candidate : Subscription) : Bool :=
  decide (record.name ≠ candidate.name) && !record.deleted && record.isActive &&
    record.sameDataSet candidate && record.coverage.intersects candidate.coverage

def fulfils (record candidate : Subscription) : Bool :=
  record.coverage.contains candidate.coverage && record.times.covers candidate.times

/-- The names of records that overlap with candidates: those that retrieve all that some candidate
asks for, and those that retrieve a part of it. Of several candidates a record may do both. -/
structure Overlaps where
  duplicates : NameSet .subscription
  partly : NameSet .subscription

namespace Overlaps

def none : Overlaps := ⟨.empty, .empty⟩

def compare (candidate : Subscription) (found : Overlaps) (record : Subscription) : Overlaps :=
  if !competes record candidate then found
  else if fulfils record candidate then
    { found with duplicates := found.duplicates.insert record.name }
  else { found with partly := found.partly.insert record.name }

def report (found : Overlaps) : OverlapReport :=
  if !found.duplicates.isEmpty then ⟨.duplicate, found.duplicates⟩
  else if !found.partly.isEmpty then ⟨.partlyCovered, found.partly⟩
  else .clear

end Overlaps

def overlaps (registry : Registry) (candidates : List Subscription) : Overlaps :=
  candidates.foldl (fun found candidate => registry.records.foldl (.compare candidate) found) .none

def checkOverlap (registry : Registry) (candidates : List Subscription) : OverlapReport :=
  (registry.overlaps candidates).report

def attempted (registry : Registry) :
    Except RegistryFault Registry → Except RegistryFault Unit × Registry
  | .ok changed => (.ok (), changed)
  | .error fault => (.error fault, registry)

def serve (call : RegistryCall) (registry : Registry) : call.Answer × Registry :=
  match call with
  | .store _ record => registry.attempted (registry.store record)
  | .update _ record => registry.attempted (registry.update record)
  | .updateAll _ batch => updateAll batch registry
  | .delete _ batch => (.ok (), registry.delete batch)
  | .find name => (.ok (registry.find? name), registry)

end Registry

end SubscriptionDesk
