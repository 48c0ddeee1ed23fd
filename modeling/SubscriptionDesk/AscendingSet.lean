namespace SubscriptionDesk

class StrictTotalOrder (α : Type) [LT α] : Prop where
  irrefl : ∀ a : α, ¬a < a
  trans : ∀ {a b c : α}, a < b → b < c → a < c
  eq_of_not_lt : ∀ {a b : α}, ¬a < b → ¬b < a → a = b

instance : StrictTotalOrder UInt8 where
  irrefl := UInt8.lt_irrefl
  trans := UInt8.lt_trans
  eq_of_not_lt hab hba := UInt8.le_antisymm (UInt8.not_lt.mp hba) (UInt8.not_lt.mp hab)

instance : StrictTotalOrder UInt16 where
  irrefl := UInt16.lt_irrefl
  trans := UInt16.lt_trans
  eq_of_not_lt hab hba := UInt16.le_antisymm (UInt16.not_lt.mp hba) (UInt16.not_lt.mp hab)

instance : StrictTotalOrder String where
  irrefl := String.lt_irrefl
  trans := String.lt_trans
  eq_of_not_lt hab hba := String.le_antisymm (String.not_lt.mp hba) (String.not_lt.mp hab)

/-- A finite set kept as its ascending list of members, so equal sets are equal values. -/
structure AscendingSet (α : Type) [LT α] where
  members : List α
  ascending : members.Pairwise (· < ·)
  deriving DecidableEq

namespace AscendingSet

variable {α : Type} [LT α] [DecidableLT α]

def place (a : α) : List α → List α
  | [] => [a]
  | b :: rest =>
      if a < b then a :: b :: rest
      else if b < a then b :: place a rest
      else b :: rest

theorem mem_of_mem_place {a x : α} {list : List α} (hx : x ∈ place a list) :
    x = a ∨ x ∈ list := by
  induction list with
  | nil => simpa [place] using hx
  | cons b rest ih =>
      unfold place at hx
      split at hx
      · simpa using hx
      · split at hx
        · rcases List.mem_cons.mp hx with rfl | hx
          · simp
          · rcases ih hx with rfl | hx <;> simp_all
        · exact .inr hx

theorem mem_place [StrictTotalOrder α] {a x : α} {list : List α} :
    x ∈ place a list ↔ x = a ∨ x ∈ list := by
  refine ⟨mem_of_mem_place, ?_⟩
  induction list with
  | nil => simp [place]
  | cons b rest ih =>
      intro hx
      unfold place
      split
      · simpa using hx
      · split
        · rcases hx with rfl | hx
          · simp [ih]
          · rcases List.mem_cons.mp hx with rfl | hx <;> simp_all
        · rename_i hab hba
          have := StrictTotalOrder.eq_of_not_lt hab hba
          simp_all

theorem pairwise_place [StrictTotalOrder α] {a : α} {list : List α}
    (hlist : list.Pairwise (· < ·)) : (place a list).Pairwise (· < ·) := by
  induction list with
  | nil => simp [place]
  | cons b rest ih =>
      obtain ⟨hb, hrest⟩ := List.pairwise_cons.mp hlist
      unfold place
      split
      · rename_i hab
        refine List.pairwise_cons.mpr ⟨?_, hlist⟩
        intro x hx
        rcases List.mem_cons.mp hx with rfl | hx
        · exact hab
        · exact StrictTotalOrder.trans hab (hb x hx)
      · split
        · rename_i hba
          refine List.pairwise_cons.mpr ⟨?_, ih hrest⟩
          intro x hx
          rcases mem_of_mem_place hx with rfl | hx
          · exact hba
          · exact hb x hx
        · exact hlist

def empty : AscendingSet α := ⟨[], List.Pairwise.nil⟩

instance : Inhabited (AscendingSet α) := ⟨empty⟩

instance : Membership α (AscendingSet α) := ⟨fun set a => a ∈ set.members⟩

instance [DecidableEq α] (a : α) (set : AscendingSet α) : Decidable (a ∈ set) :=
  inferInstanceAs (Decidable (a ∈ set.members))

def isEmpty (set : AscendingSet α) : Bool := set.members.isEmpty

def size (set : AscendingSet α) : Nat := set.members.length

def includes [DecidableEq α] (set other : AscendingSet α) : Bool :=
  other.members.all fun a => decide (a ∈ set)

variable [StrictTotalOrder α]

def insert (set : AscendingSet α) (a : α) : AscendingSet α :=
  ⟨place a set.members, pairwise_place set.ascending⟩

def ofList (list : List α) : AscendingSet α :=
  list.foldl insert empty

theorem mem_insert {set : AscendingSet α} {a x : α} : x ∈ set.insert a ↔ x = a ∨ x ∈ set :=
  mem_place

theorem mem_foldl_insert {list : List α} {set : AscendingSet α} {x : α} :
    x ∈ list.foldl insert set ↔ x ∈ list ∨ x ∈ set := by
  induction list generalizing set with
  | nil => simp
  | cons a rest ih => simp [ih, mem_insert, or_assoc, or_left_comm]

theorem mem_ofList {list : List α} {x : α} : x ∈ ofList list ↔ x ∈ list := by
  unfold ofList
  rw [mem_foldl_insert]
  exact ⟨fun h => h.elim id fun h => absurd h List.not_mem_nil, .inl⟩

end AscendingSet

/-! ### Sets by their members -/

namespace AscendingSet

variable {α : Type} [LT α] {set other : AscendingSet α}

theorem not_mem_empty (a : α) : a ∉ (empty : AscendingSet α) := List.not_mem_nil

theorem isEmpty_eq_false_iff : set.isEmpty = false ↔ ∃ a, a ∈ set :=
  List.isEmpty_eq_false_iff_exists_mem

variable [StrictTotalOrder α]

theorem nodup_members (set : AscendingSet α) : set.members.Nodup := by
  refine set.ascending.imp ?_
  rintro earlier later hlt rfl
  exact StrictTotalOrder.irrefl earlier hlt

/-- There is only one way to list the members of a set. -/
theorem ext (hmem : ∀ a, a ∈ set ↔ a ∈ other) : set = other := by
  have hperm : set.members.Perm other.members :=
    (List.perm_ext_iff_of_nodup set.nodup_members other.nodup_members).mpr hmem
  have hmembers : set.members = other.members :=
    hperm.eq_of_pairwise
      (fun _ _ _ _ hlt hgt => absurd (StrictTotalOrder.trans hlt hgt) (StrictTotalOrder.irrefl _))
      set.ascending other.ascending
  obtain ⟨members, hfirst⟩ := set
  obtain ⟨others, hsecond⟩ := other
  cases hmembers
  rfl

end AscendingSet

end SubscriptionDesk
