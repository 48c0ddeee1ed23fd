import Mathlib.Data.List.Dedup
import SubscriptionDesk.MetadataCache

/-!
# Laws of the cache

An answer changes nothing of the cache but the slot of its facet, and that only if it comes with
entries and no refresh has begun since it was asked for. What it fills the slot with is the set of
the entries.
-/

namespace SubscriptionDesk

namespace AscendingSet

variable {α : Type} [LT α] [StrictTotalOrder α]

theorem size_ofList [DecidableLT α] [DecidableEq α] (list : List α) :
    (ofList list).size = list.dedup.length := by
  have hperm : (ofList list).members.Perm list.dedup := by
    refine (List.perm_ext_iff_of_nodup (nodup_members _) list.nodup_dedup).mpr fun member => ?_
    rw [List.mem_dedup]
    exact mem_ofList
  exact hperm.length_eq

end AscendingSet

namespace MetadataCache

variable {cache : MetadataCache} {ticket : Ticket} {facet other : Facet}

theorem slot_fill_self {names : NameSet facet.role} :
    (cache.fill facet names).slot facet = some names := by
  simp [fill]

theorem slot_fill_of_ne {names : NameSet facet.role} (hother : facet ≠ other) :
    (cache.fill facet names).slot other = cache.slot other := by
  simp [fill, hother]

section Absorb

variable {arrival : Arrival}

theorem absorb_eq_with_slot (cache : MetadataCache) (ticket : Ticket) (arrival : Arrival) :
    ∃ slot, cache.absorb ticket arrival = { cache with slot := slot } := by
  unfold absorb keep fill
  split
  · exact ⟨_, rfl⟩
  · split
    · exact ⟨_, rfl⟩
    · exact ⟨_, rfl⟩

@[simp]
theorem generation_absorb : (cache.absorb ticket arrival).generation = cache.generation := by
  obtain ⟨slot, heq⟩ := absorb_eq_with_slot cache ticket arrival
  rw [heq]

@[simp]
theorem dataType_absorb : (cache.absorb ticket arrival).dataType = cache.dataType := by
  obtain ⟨slot, heq⟩ := absorb_eq_with_slot cache ticket arrival
  rw [heq]

theorem slot_absorb_of_ne (hother : arrival.facet ≠ other) :
    (cache.absorb ticket arrival).slot other = cache.slot other := by
  unfold absorb keep
  split
  · rfl
  · split
    · exact slot_fill_of_ne hother
    · rfl

theorem slot_absorb_self {answer : Except MetadataFault (List (Name facet.role))}
    (hcurrent : cache.generation = ticket.generation) :
    (cache.absorb ticket ⟨facet, answer⟩).slot facet =
      (answer.toOption.map AscendingSet.ofList).or (cache.slot facet) := by
  rcases answer with fault | entries
  · rfl
  · have hkept : cache.absorb ticket ⟨facet, .ok entries⟩ = cache.fill facet (.ofList entries) :=
      if_pos hcurrent
    rw [hkept, slot_fill_self]
    rfl

theorem absorb_of_superseded (hsuperseded : cache.generation ≠ ticket.generation) :
    cache.absorb ticket arrival = cache := by
  unfold absorb keep
  split
  · rfl
  · exact if_neg hsuperseded

/-- The end of a look-up is that of a refresh, as far as the cache goes. -/
theorem finishLookup_eq_absorb {answer : Except MetadataFault (List (Name facet.role))} :
    (cache.finishLookup ticket facet answer).2 = cache.absorb ticket ⟨facet, answer⟩ := by
  rcases answer with fault | entries <;> rfl

end Absorb

end MetadataCache

end SubscriptionDesk
