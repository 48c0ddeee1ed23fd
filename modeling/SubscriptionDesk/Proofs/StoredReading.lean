import Mathlib.Data.List.Forall2
import Mathlib.Data.List.Nodup
import Mathlib.Data.List.Perm.Basic
import Mathlib.Data.Nat.Log
import SubscriptionDesk.Stored

/-!
# What is read from a stored form

Another program may put the keys of an object into any order, and add keys of its own. A value is
restated if that is all that is changed, here or inside. It is recovered if it is read from all that
restates its stored form.

An object with a tag is kept as it is until the tag is found. For this its members must be within
the room there is, those included that nothing reads. Hence the rules below ask for plain values,
and enough room makes each value that JSON has a plain one.
-/

namespace SubscriptionDesk

theorem AscendingSet.ofList_members {α : Type} [LT α] [DecidableLT α] [StrictTotalOrder α]
    (set : AscendingSet α) : ofList set.members = set :=
  ext fun _ => mem_ofList

/-! ### Numbers -/

namespace Binary64

theorem isFinite_signed {negative : Bool} {size : Nat} (hlt : size < infinityMagnitude) :
    (signed negative size).isFinite = true := by
  have hinfinity : infinityMagnitude < 2 ^ 63 := by decide
  have hbits : (if negative then Nat.pow 2 63 + size else size) < 2 ^ 64 := by
    have hpow : Nat.pow 2 63 + 2 ^ 63 = 2 ^ 64 := by decide
    split <;> omega
  have hmagnitude : (signed negative size).magnitude = size := by
    unfold magnitude signed
    rw [UInt64.toNat_ofNat_of_lt' hbits]
    have hsmall : size < Nat.pow 2 63 := Nat.lt_trans hlt hinfinity
    cases negative with
    | false => exact Nat.mod_eq_of_lt hsmall
    | true => exact (Nat.add_mod_left _ _).trans (Nat.mod_eq_of_lt hsmall)
  rw [isFinite, hmagnitude]
  exact decide_eq_true hlt

theorem roundedQuotient_le (numerator denominator : Nat) :
    roundedQuotient numerator denominator ≤ numerator / denominator + 1 := by
  unfold roundedQuotient
  dsimp only
  split
  · exact Nat.le_refl _
  · split <;> omega

theorem lastPlace_one_bounds (n : Nat) :
    (n.log2 : Int) - 53 ≤ lastPlace n 1 ∧ lastPlace n 1 ≤ (n.log2 : Int) - 52 := by
  have hone : (Nat.log2 1 : Int) = 0 := by decide
  unfold lastPlace
  dsimp only
  rw [hone]
  split <;> omega

theorem isFinite_ofInt {n : Int} (hfits : n.natAbs < UInt64.size) :
    (ofInt n).isFinite = true := by
  unfold ofInt ofFraction
  by_cases hzero : n.natAbs = 0
  · rw [if_pos hzero]
    exact isFinite_signed (by decide)
  rw [if_neg hzero]
  refine isFinite_signed ?_
  generalize n.natAbs = size at *
  obtain ⟨hlow, hhigh⟩ := lastPlace_one_bounds size
  generalize lastPlace size 1 = place at *
  have hlog : size.log2 < 64 := (Nat.log2_lt hzero).mpr hfits
  have hquotient : size * Nat.pow 2 (-place).toNat / (1 * Nat.pow 2 (- -place).toNat) < 2 ^ 54 := by
    rw [Nat.one_mul]
    refine (Nat.div_lt_iff_lt_mul (Nat.two_pow_pos _)).mpr ?_
    calc size * 2 ^ (-place).toNat
        < 2 ^ (size.log2 + 1) * 2 ^ (-place).toNat :=
          Nat.mul_lt_mul_of_pos_right Nat.lt_log2_self (Nat.two_pow_pos _)
      _ = 2 ^ (size.log2 + 1 + (-place).toNat) := (Nat.pow_add 2 _ _).symm
      _ ≤ 2 ^ (54 + (- -place).toNat) := Nat.pow_le_pow_right (by decide) (by omega)
      _ = 2 ^ 54 * 2 ^ (- -place).toNat := Nat.pow_add 2 _ _
  have hrounded := roundedQuotient_le (size * Nat.pow 2 (-place).toNat)
    (1 * Nat.pow 2 (- -place).toNat)
  have hplace : (place + 1074).toNat * Nat.pow 2 52 ≤ 1085 * Nat.pow 2 52 :=
    Nat.mul_le_mul_right _ (by omega)
  have hsum : 1085 * Nat.pow 2 52 + 2 ^ 54 < infinityMagnitude := by decide
  refine Nat.lt_of_le_of_lt (Nat.min_le_right _ _) ?_
  exact Nat.lt_of_le_of_lt (Nat.add_le_add hplace (Nat.le_trans hrounded hquotient)) hsum

end Binary64

namespace Json

/-! ### Values that say the same -/

/-- Whether the second value says what the first does: the members of an object may stand in any
order, and among others whose keys are new. -/
inductive Restates : Json → Json → Prop
  | null : Restates .null .null
  | bool {value : Bool} : Restates (.bool value) (.bool value)
  | int {value : Int} : Restates (.int value) (.int value)
  | real {value : Binary64} : Restates (.real value) (.real value)
  | text {value : String} : Restates (.text value) (.text value)
  | unreadable : Restates .unreadable .unreadable
  | array {items others : List Json} :
      List.Forall₂ Restates items others → Restates (.array items) (.array others)
  | object {members told added others : List (String × Json)} :
      told.map Prod.fst = members.map Prod.fst →
      List.Forall₂ Restates (members.map Prod.snd) (told.map Prod.snd) →
      (∀ member ∈ added, member.1 ∉ members.map Prod.fst) →
      others.Perm (told ++ added) →
      Restates (.object members) (.object others)

mutual

theorem Restates.refl : ∀ json : Json, Restates json json
  | .null => .null
  | .bool _ => .bool
  | .int _ => .int
  | .real _ => .real
  | .text _ => .text
  | .unreadable => .unreadable
  | .array items => .array (Restates.refl_items items)
  | .object members => by
      have hnone : ∀ member ∈ ([] : List (String × Json)), member.1 ∉ members.map Prod.fst := nofun
      exact .object rfl (Restates.refl_values members) hnone (.of_eq (List.append_nil _).symm)

theorem Restates.refl_items : ∀ items : List Json, List.Forall₂ Restates items items
  | [] => .nil
  | item :: rest => .cons (Restates.refl item) (Restates.refl_items rest)

theorem Restates.refl_values : ∀ members : List (String × Json),
    List.Forall₂ Restates (members.map Prod.snd) (members.map Prod.snd)
  | [] => .nil
  | (_, value) :: rest => .cons (Restates.refl value) (Restates.refl_values rest)

end

section Restates

variable {json : Json} {key : String} {value : Json} {members others : List (String × Json)}

/-- Members may be put into another order, and others may be added. -/
theorem Restates.of_perm (added : List (String × Json))
    (hadded : ∀ member ∈ added, member.1 ∉ members.map Prod.fst)
    (hperm : others.Perm (members ++ added)) : (Json.object members).Restates (.object others) :=
  .object rfl (refl_values members) hadded hperm

theorem Restates.eq_null (hrestates : json.Restates .null) : json = .null := by
  cases hrestates
  rfl

theorem filter_key_eq_nil (hkey : key ∉ members.map Prod.fst) :
    members.filter (fun member => member.1 == key) = [] := by
  rw [List.filter_eq_nil_iff]
  intro member hmember heq
  exact hkey (List.mem_map.mpr ⟨member, hmember, by simpa using heq⟩)

/-- If no two members have the same key, each is all that its key finds. -/
theorem filter_key_eq_singleton (hkeys : (members.map Prod.fst).Nodup)
    (hmem : (key, value) ∈ members) :
    members.filter (fun member => member.1 == key) = [(key, value)] := by
  obtain ⟨before, after, rfl⟩ := List.append_of_mem hmem
  rw [List.map_append, List.map_cons, List.nodup_middle, List.nodup_cons, List.mem_append,
    not_or] at hkeys
  obtain ⟨⟨hbefore, hafter⟩, -⟩ := hkeys
  simp [filter_key_eq_nil hbefore, filter_key_eq_nil hafter]

theorem filter_key_of_perm {added : List (String × Json)} (hkeys : (members.map Prod.fst).Nodup)
    (hadded : ∀ member ∈ added, member.1 ∉ members.map Prod.fst)
    (hperm : others.Perm (members ++ added)) (hmem : (key, value) ∈ members) :
    others.filter (fun member => member.1 == key) = [(key, value)] := by
  have hnew : key ∉ added.map Prod.fst := by
    intro hkey
    obtain ⟨member, hmember, rfl⟩ := List.mem_map.mp hkey
    exact hadded member hmember (List.mem_map.mpr ⟨_, hmem, rfl⟩)
  have hfiltered := hperm.filter fun member => member.1 == key
  rw [List.filter_append, filter_key_eq_singleton hkeys hmem, filter_key_eq_nil hnew,
    List.append_nil] at hfiltered
  exact List.perm_singleton.mp hfiltered

end Restates

/-! ### Plain values -/

section Plain

variable {room : Nat} {items : List Json} {members : List (String × Json)}

theorem allPlain_iff : allPlain room items = true ↔ ∀ item ∈ items, isPlain room item = true := by
  induction items with
  | nil => simp [allPlain]
  | cons item rest ih => simp [allPlain, ih]

theorem allMembersPlain_iff :
    allMembersPlain room members = true ↔ ∀ member ∈ members, isPlain room member.2 = true := by
  induction members with
  | nil => simp [allMembersPlain]
  | cons member rest ih => simp [allMembersPlain, ih]

theorem isPlain_array_iff : isPlain room (.array items) = true ↔
    0 < room ∧ ∀ item ∈ items, isPlain (room - 1) item = true := by
  simp [isPlain, allPlain_iff]

theorem isPlain_object_iff : isPlain room (.object members) = true ↔
    0 < room ∧ ∀ member ∈ members, isPlain (room - 1) member.2 = true := by
  simp [isPlain, allMembersPlain_iff]

end Plain

/-! ### Exact values -/

mutual

/-- Whether each number of a value is one that JSON has: a whole one of 64 bits or a finite one. -/
def Exact : Json → Prop
  | .int n => -0x8000000000000000 ≤ n ∧ n < UInt64.size
  | .real x => x.isFinite = true
  | .array items => ExactItems items
  | .object members => ExactMembers members
  | .unreadable => False
  | _ => True

def ExactItems : List Json → Prop
  | [] => True
  | item :: rest => Exact item ∧ ExactItems rest

def ExactMembers : List (String × Json) → Prop
  | [] => True
  | (_, value) :: rest => Exact value ∧ ExactMembers rest

end

theorem exactItems_iff {items : List Json} : ExactItems items ↔ ∀ item ∈ items, Exact item := by
  induction items with
  | nil => simp [ExactItems]
  | cons item rest ih => simp [ExactItems, ih]

theorem exactMembers_iff {members : List (String × Json)} :
    ExactMembers members ↔ ∀ member ∈ members, Exact member.2 := by
  induction members with
  | nil => simp [ExactMembers]
  | cons member rest ih => simp [ExactMembers, ih]

mutual

/-- Enough room makes each value that JSON has a plain one. -/
theorem Exact.exists_room : ∀ json : Json, Exact json →
    ∃ enough, ∀ room, enough ≤ room → json.isPlain room = true
  | .null, _ | .bool _, _ | .int _, _ | .real _, _ | .text _, _ => ⟨0, fun _ _ => rfl⟩
  | .array items, hexact => by
      obtain ⟨enough, hplain⟩ := ExactItems.exists_room items hexact
      refine ⟨enough + 1, fun room hroom => isPlain_array_iff.mpr ⟨by omega, ?_⟩⟩
      exact allPlain_iff.mp (hplain (room - 1) (by omega))
  | .object members, hexact => by
      obtain ⟨enough, hplain⟩ := ExactMembers.exists_room members hexact
      refine ⟨enough + 1, fun room hroom => isPlain_object_iff.mpr ⟨by omega, ?_⟩⟩
      exact allMembersPlain_iff.mp (hplain (room - 1) (by omega))

theorem ExactItems.exists_room : ∀ items : List Json, ExactItems items →
    ∃ enough, ∀ room, enough ≤ room → allPlain room items = true
  | [], _ => ⟨0, fun _ _ => rfl⟩
  | item :: rest, ⟨hitem, hrest⟩ => by
      obtain ⟨first, hfirst⟩ := Exact.exists_room item hitem
      obtain ⟨others, hothers⟩ := ExactItems.exists_room rest hrest
      refine ⟨max first others, fun room hroom => ?_⟩
      simp [allPlain, hfirst room (by omega), hothers room (by omega)]

theorem ExactMembers.exists_room : ∀ members : List (String × Json), ExactMembers members →
    ∃ enough, ∀ room, enough ≤ room → allMembersPlain room members = true
  | [], _ => ⟨0, fun _ _ => rfl⟩
  | (_, value) :: rest, ⟨hvalue, hrest⟩ => by
      obtain ⟨first, hfirst⟩ := Exact.exists_room value hvalue
      obtain ⟨others, hothers⟩ := ExactMembers.exists_room rest hrest
      refine ⟨max first others, fun room hroom => ?_⟩
      simp [allMembersPlain, hfirst room (by omega), hothers room (by omega)]

end

end Json

namespace Stored

open Json

/-! ### Fields -/

/-- Whether a field is there and says what a value does. -/
def Holds (room : Nat) (value : Json) (field : Option Json) : Prop :=
  ∃ json, field = some json ∧ value.Restates json ∧ json.isPlain (room - 1) = true

theorem mapM_eq_some_of_forall₂ {α β : Type} {f : α → Option β} {items : List α} {found : List β}
    (hall : List.Forall₂ (fun item result => f item = some result) items found) :
    items.mapM f = some found := by
  induction hall with
  | nil => rfl
  | cons hfirst _ ih => simp [hfirst, ih]

theorem exists_of_mem_mapM {α β : Type} {f : α → Option β} {items : List α} {found : List β}
    {result : β} (hfound : items.mapM f = some found) (hresult : result ∈ found) :
    ∃ item ∈ items, f item = some result := by
  induction items generalizing found with
  | nil =>
      obtain rfl : [] = found := Option.some.inj hfound
      exact absurd hresult List.not_mem_nil
  | cons item rest ih =>
      rw [List.mapM_cons] at hfound
      obtain ⟨first, hfirst, hrest⟩ := Option.bind_eq_some_iff.mp hfound
      obtain ⟨others, hothers, hsplit⟩ := Option.bind_eq_some_iff.mp hrest
      obtain rfl : first :: others = found := Option.some.inj hsplit
      rcases List.mem_cons.mp hresult with rfl | hmem
      · exact ⟨item, List.mem_cons_self, hfirst⟩
      · obtain ⟨other, hother, heq⟩ := ih hothers hmem
        exact ⟨other, List.mem_cons_of_mem item hother, heq⟩

section Fields

variable {room : Nat} {json : Json} {members : List (String × Json)}

/-- The fields of a record are found in each object that says what the record does. -/
theorem fields?_of_restates (hkeys : (members.map Prod.fst).Nodup)
    (hrestates : (Json.object members).Restates json) (hplain : json.isPlain room = true) :
    ∃ fields, fields? (members.map Prod.fst) json = some fields ∧
      List.Forall₂ (Holds room) (members.map Prod.snd) fields := by
  cases hrestates with
  | @object _ told added others htold hvalues hadded hperm =>
      rw [← htold] at hkeys hadded
      refine ⟨told.map (some ∘ Prod.snd), ?_, ?_⟩
      · rw [← htold]
        refine mapM_eq_some_of_forall₂ ?_
        rw [List.forall₂_map_left_iff, List.forall₂_map_right_iff, List.forall₂_same]
        intro member hmember
        rw [filter_key_of_perm hkeys hadded hperm hmember]
        rfl
      · rw [List.forall₂_map_right_iff] at hvalues ⊢
        rw [List.forall₂_iff_zip] at hvalues ⊢
        refine ⟨hvalues.1, fun {value member} hmem => ⟨member.2, rfl, hvalues.2 hmem, ?_⟩⟩
        have hmember : member ∈ others :=
          hperm.mem_iff.mpr (List.mem_append_left added (List.of_mem_zip hmem).2)
        exact (isPlain_object_iff.mp hplain).2 member hmember

theorem exact_of_fields? {keys : List String} {fields : List (Option Json)} (hexact : json.Exact)
    (hfields : fields? keys json = some fields) :
    ∀ field ∈ fields, ∀ found ∈ field, found.Exact := by
  rintro _ hfield found rfl
  cases json with
  | object members =>
      obtain ⟨key, -, hkey⟩ := exists_of_mem_mapM hfields hfield
      split at hkey
      · exact nomatch hkey
      · rename_i member hfilter
        obtain rfl : member.2 = found := Option.some.inj (Option.some.inj hkey)
        have hmem : member ∈ members :=
          List.mem_of_mem_filter (hfilter ▸ List.mem_singleton_self member)
        exact exactMembers_iff.mp hexact member hmem
      · contradiction
  | array items =>
      obtain ⟨-, hitems⟩ := Option.ite_none_right_eq_some.mp hfields
      obtain rfl : items.map some = fields := Option.some.inj hitems
      exact exactItems_iff.mp hexact found (by simpa using hfield)
  | null | bool | int | real | text | unreadable => contradiction

/-- What a record reads off its fields it reads off each object that says what the record does. -/
theorem bind_fields?_of_restates {α : Type} {value : α} {keys : List String}
    {read : List (Option Json) → Option α} (hkeys : members.map Prod.fst = keys)
    (honce : keys.Nodup) (hrestates : (Json.object members).Restates json)
    (hplain : json.isPlain room = true)
    (hread : ∀ fields, List.Forall₂ (Holds room) (members.map Prod.snd) fields →
      read fields = some value) : (fields? keys json).bind read = some value := by
  subst hkeys
  obtain ⟨fields, hfields, hheld⟩ := fields?_of_restates honce hrestates hplain
  rw [hfields]
  exact hread fields hheld

/-- Wherever its tag stands, an alternative is told by it from the rest. -/
theorem tagged?_of_restates {key tag : String} (hkeys : (key :: members.map Prod.fst).Nodup)
    (hrestates : (withTag key tag members).Restates json) (hplain : json.isPlain room = true) :
    ∃ rest, tagged? key room json = some (tag, rest) ∧
      (Json.object members).Restates rest ∧ rest.isPlain room = true := by
  unfold withTag at hrestates
  cases hrestates with
  | @object _ all added others hall hvalues hadded hperm =>
      have honce : (all.map Prod.fst).Nodup := hall ▸ hkeys
      rw [← hall] at hadded
      obtain ⟨⟨first, value⟩, told, rfl, hfirst, htold⟩ := List.map_eq_cons_iff.mp hall
      obtain rfl : key = first := hfirst.symm
      obtain ⟨hvalue, hrestValues⟩ := List.forall₂_cons.mp hvalues
      obtain rfl : value = .text tag := by cases hvalue; rfl
      have htag : others.filter (fun member => member.1 == key) = [(key, .text tag)] :=
        filter_key_of_perm honce hadded hperm List.mem_cons_self
      let rest := others.filter fun member => member.1 != key
      have hother : ∀ member ∈ told ++ added, (member.1 != key) = true := by
        intro member hmember
        rw [bne_iff_ne]
        rintro rfl
        rcases List.mem_append.mp hmember with hmember | hmember
        · exact (List.nodup_cons.mp honce).1 (List.mem_map.mpr ⟨member, hmember, rfl⟩)
        · exact hadded member hmember List.mem_cons_self
      have hrest : rest.Perm (told ++ added) := by
        have hfiltered := hperm.filter fun member => member.1 != key
        rwa [List.cons_append, List.filter_cons_of_neg (by simp),
          List.filter_eq_self.mpr hother] at hfiltered
      have hplainRest : ∀ member ∈ rest, member.2.isPlain (room - 1) = true := by
        intro member hmember
        exact (isPlain_object_iff.mp hplain).2 member (List.mem_of_mem_filter hmember)
      refine ⟨.object rest, ?_, .object htold hrestValues ?_ hrest, ?_⟩
      · unfold tagged?
        dsimp only
        rw [htag]
        exact if_pos (allMembersPlain_iff.mpr hplainRest)
      · intro member hmember hkey
        exact hadded member hmember (List.mem_cons_of_mem _ (htold ▸ hkey))
      · exact isPlain_object_iff.mpr ⟨(isPlain_object_iff.mp hplain).1, hplainRest⟩

theorem bind_tagged?_of_restates {α : Type} {value : α} {key tag : String}
    {read : String × Json → Option α} (honce : (key :: members.map Prod.fst).Nodup)
    (hrestates : (withTag key tag members).Restates json) (hplain : json.isPlain room = true)
    (hread : ∀ rest, (Json.object members).Restates rest → rest.isPlain room = true →
      read (tag, rest) = some value) : (tagged? key room json).bind read = some value := by
  obtain ⟨rest, htagged, hrest, hplainRest⟩ := tagged?_of_restates honce hrestates hplain
  rw [htagged]
  exact hread rest hrest hplainRest

end Fields

/-! ### What is read back -/

/-- Whether a value is read from all that says what its stored form does. -/
def Recovered {α : Type} [Stored α] (value : α) : Prop :=
  ∀ room json, (toJson value).Restates json → json.isPlain room = true →
    ofJson? room json = some value

section Recovered

variable {α : Type} [Stored α] {room : Nat} {field : Option Json}

theorem Recovered.required? {value : α} (hvalue : Recovered value)
    (hfield : Holds room (toJson value) field) : Stored.required? room field = some value := by
  obtain ⟨json, rfl, hrestates, hplain⟩ := hfield
  exact hvalue (room - 1) json hrestates hplain

theorem Recovered.optional? {value : Option α} (hvalue : Recovered value)
    (hfield : Holds room (toJson value) field) : Stored.optional? room field = some value := by
  obtain ⟨json, rfl, hrestates, hplain⟩ := hfield
  exact hvalue (room - 1) json hrestates hplain

theorem Recovered.of_text {value : α} {text : String} (hstored : toJson value = .text text)
    (hread : ∀ room, ofJson? room (.text text) = some value) : Recovered value := by
  intro room json hrestates _
  rw [hstored] at hrestates
  cases hrestates
  exact hread room

theorem Recovered.of_int {value : α} {n : Int} (hstored : toJson value = .int n)
    (hread : ∀ room, ofJson? room (.int n) = some value) : Recovered value := by
  intro room json hrestates _
  rw [hstored] at hrestates
  cases hrestates
  exact hread room

theorem recovered_text (text : String) : Recovered text := .of_text rfl fun _ => rfl

theorem recovered_name {role : Role} (name : Name role) : Recovered name :=
  .of_text rfl fun _ => rfl

theorem recovered_bool (truth : Bool) : Recovered truth := by
  intro room json hrestates _
  cases hrestates
  rfl

theorem natWithin?_of_lt {size n : Nat} (hlt : n < size) :
    natWithin? (size - 1) (.int n) = some n := by
  have hbounds : (0 : Int) ≤ n ∧ (n : Int) ≤ (size - 1 : Nat) :=
    ⟨Int.natCast_nonneg n, Int.ofNat_le.mpr (Nat.le_pred_of_lt hlt)⟩
  rw [natWithin?, intWithin?, if_pos hbounds]
  rfl

theorem Recovered.of_natWithin? {value : α} {size n : Nat} {ofNat : Nat → α}
    (hstored : toJson value = .int n)
    (hread : ∀ room json, ofJson? room json = (natWithin? (size - 1) json).map ofNat)
    (hlt : n < size) (hvalue : ofNat n = value) : Recovered value :=
  .of_int hstored fun room => by rw [hread, natWithin?_of_lt hlt, Option.map_some, hvalue]

theorem recovered_uint8 (n : UInt8) : Recovered n :=
  .of_natWithin? rfl (fun _ _ => rfl) n.toNat_lt UInt8.ofNat_toNat

theorem recovered_uint16 (n : UInt16) : Recovered n :=
  .of_natWithin? rfl (fun _ _ => rfl) n.toNat_lt UInt16.ofNat_toNat

theorem recovered_uint32 (n : UInt32) : Recovered n :=
  .of_natWithin? rfl (fun _ _ => rfl) n.toNat_lt UInt32.ofNat_toNat

theorem recovered_uint64 (n : UInt64) : Recovered n :=
  .of_natWithin? rfl (fun _ _ => rfl) n.toNat_lt UInt64.ofNat_toNat

theorem recovered_int64 (n : Int64) : Recovered n := by
  refine .of_int rfl fun _ => ?_
  have hread : intWithin? Int64.minValue.toInt Int64.maxValue.toInt (.int n.toInt) =
      some n.toInt := if_pos ⟨n.minValue_le_toInt, n.toInt_le⟩
  exact (congrArg (Option.map Int64.ofInt) hread).trans (congrArg some (Int64.ofInt_toInt n))

theorem recovered_coordinate {x : Binary64} (hfinite : x.isFinite = true) : Recovered x := by
  intro room json hrestates _
  have hstored : toJson x = .real x := if_pos hfinite
  rw [hstored] at hrestates
  cases hrestates
  rfl

theorem recovered_list {values : List α} (hall : ∀ value ∈ values, Recovered value) :
    Recovered values := by
  intro room json hrestates hplain
  cases hrestates with
  | @array _ others hitems =>
      have hplains := (isPlain_array_iff.mp hplain).2
      refine mapM_eq_some_of_forall₂ ?_
      rw [List.forall₂_map_left_iff] at hitems
      have hflipped := hitems.flip
      rw [List.forall₂_iff_zip] at hflipped ⊢
      refine ⟨hflipped.1, fun {other value} hmem => ?_⟩
      obtain ⟨hother, hvalue⟩ := List.of_mem_zip hmem
      exact hall value hvalue (room - 1) other (hflipped.2 hmem) (hplains other hother)

theorem recovered_set [LT α] [DecidableLT α] [StrictTotalOrder α] {set : AscendingSet α}
    (hall : ∀ member ∈ set.members, Recovered member) : Recovered set := by
  intro room json hrestates hplain
  have hmembers : (ofJson? room json : Option (List α)) = some set.members :=
    recovered_list hall room json hrestates hplain
  change (ofJson? room json : Option (List α)).map AscendingSet.ofList = some set
  rw [hmembers, Option.map_some, AscendingSet.ofList_members]

theorem recovered_option {value : Option α} (hall : ∀ inner ∈ value, Recovered inner)
    (hnull : ∀ inner ∈ value, toJson inner ≠ .null) : Recovered value := by
  intro room json hrestates hplain
  cases value with
  | none =>
      cases hrestates
      rfl
  | some inner =>
      have hread := hall inner rfl room json hrestates hplain
      cases json with
      | null => exact absurd hrestates.eq_null (hnull inner rfl)
      | _ => exact congrArg (Option.map some) hread

end Recovered

/-! ### What is read from exact values -/

/-- Whether all that is read from an exact value is of a kind. -/
def Ensures {α : Type} [Stored α] (kind : α → Prop) : Prop :=
  ∀ room json value, Exact json → ofJson? room json = some value → kind value

section Ensures

variable {α : Type} [Stored α] {kind : α → Prop} {room : Nat} {field : Option Json}

theorem Ensures.required? {value : α} (hensures : Ensures kind)
    (hexact : ∀ json ∈ field, Exact json) (hread : Stored.required? room field = some value) :
    kind value := by
  obtain ⟨json, rfl, hjson⟩ := Option.bind_eq_some_iff.mp hread
  exact hensures (room - 1) json value (hexact json rfl) hjson

theorem Ensures.optional? {value : Option α} (hensures : Ensures kind)
    (hexact : ∀ json ∈ field, Exact json) (hread : Stored.optional? room field = some value) :
    ∀ inner ∈ value, kind inner := by
  rintro inner rfl
  cases field with
  | none => exact nomatch Option.some.inj hread
  | some json =>
      have hinner : ofJson? (room - 1) json = some inner := by
        cases json with
        | null => exact nomatch Option.some.inj hread
        | _ =>
            obtain ⟨found, hfound, heq⟩ := Option.map_eq_some_iff.mp hread
            exact Option.some.inj heq ▸ hfound
      exact hensures (room - 1) json inner (hexact json rfl) hinner

theorem ensures_isFinite : Ensures fun x : Binary64 => x.isFinite = true := by
  intro room json x hexact hread
  cases json with
  | real value =>
      obtain rfl : value = x := Option.some.inj hread
      exact hexact
  | int n =>
      obtain rfl : Binary64.ofInt n = x := Option.some.inj hread
      obtain ⟨hlow, hhigh⟩ := hexact
      have hsize : 0x8000000000000000 < UInt64.size := by decide
      exact Binary64.isFinite_ofInt (by omega)
  | null | bool | text | array | object | unreadable => contradiction

end Ensures

end Stored

end SubscriptionDesk
