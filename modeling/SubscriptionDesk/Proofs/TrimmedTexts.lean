import Mathlib.Data.List.DropRight
import SubscriptionDesk.Text.Blank

/-!
# Texts without the blanks around them

What is left of a text when the blanks are taken from its two ends is the one part of it that has
nothing but blanks before and after it, and neither begins nor ends with one.
-/

namespace SubscriptionDesk.Text

variable {chars word : List Char}

/-- Blanks are taken away from the two ends, and nothing else. -/
theorem exists_blanks_around (chars : List Char) :
    ∃ front back, chars = front ++ trimmedChars chars ++ back ∧
      ∀ c ∈ front ++ back, isBlank c = true := by
  refine ⟨chars.takeWhile isBlank, (chars.dropWhile isBlank).rtakeWhile isBlank, ?_, ?_⟩
  · have hback : trimmedChars chars ++ (chars.dropWhile isBlank).rtakeWhile isBlank =
        chars.dropWhile isBlank := List.rdropWhile_append_rtakeWhile
    rw [List.append_assoc, hback, List.takeWhile_append_dropWhile]
  · intro c hc
    rcases List.mem_append.mp hc with hc | hc
    · exact List.mem_takeWhile_imp hc
    · exact List.mem_rtakeWhile_imp hc

/-- Whether a word is all of a text but for blanks at its two ends. -/
structure Trims (chars word : List Char) : Prop where
  around : ∃ front back, chars = front ++ word ++ back ∧ ∀ c ∈ front ++ back, isBlank c = true
  first : ∀ c ∈ word.head?, isBlank c = false
  last : ∀ c ∈ word.getLast?, isBlank c = false

theorem trims_trimmedChars (chars : List Char) : Trims chars (trimmedChars chars) where
  around := exists_blanks_around chars
  first c hc := by
    obtain ⟨rest, hrest⟩ : trimmedChars chars <+: chars.dropWhile isBlank :=
      List.rdropWhile_prefix ..
    have hhead : (chars.dropWhile isBlank).head? = some c := by
      rw [← hrest, List.head?_append, hc]
      rfl
    have hsolid := List.head?_dropWhile_not isBlank chars
    rwa [hhead] at hsolid
  last c hc := by
    obtain ⟨hsome, rfl⟩ := List.mem_getLast?_eq_getLast hc
    exact Bool.eq_false_iff.mpr (List.rdropWhile_last_not isBlank _ hsome)

theorem Trims.eq_trimmedChars (htrims : Trims chars word) : word = trimmedChars chars := by
  obtain ⟨⟨front, back, rfl, hblanks⟩, hfirst, hlast⟩ := htrims
  obtain ⟨hfront, hback⟩ := List.forall_mem_append.mp hblanks
  symm
  cases word with
  | nil =>
      have hnone : (front ++ [] ++ back).dropWhile isBlank = [] :=
        List.dropWhile_eq_nil_iff.mpr (by simpa using hblanks)
      rw [trimmedChars, hnone]
      rfl
  | cons c rest =>
      have hsolid : ¬isBlank c = true := Bool.eq_false_iff.mp (hfirst c rfl)
      have hend : (c :: rest).rdropWhile isBlank = c :: rest := by
        refine List.rdropWhile_eq_self_iff.mpr fun hsome => ?_
        exact Bool.eq_false_iff.mp (hlast _ (List.getLast_mem_getLast? hsome))
      calc trimmedChars (front ++ (c :: rest) ++ back)
        _ = (c :: rest ++ back).rdropWhile isBlank := by
            rw [List.append_assoc, trimmedChars, List.dropWhile_append_of_pos hfront,
              List.cons_append, List.dropWhile_cons_of_neg hsolid]
            rfl
        _ = (c :: rest).rdropWhile isBlank := by
            rw [List.rdropWhile, List.reverse_append,
              List.dropWhile_append_of_pos fun c hc => hback c (List.mem_reverse.mp hc)]
            rfl
        _ = c :: rest := hend

theorem trims_iff : Trims chars word ↔ word = trimmedChars chars := by
  refine ⟨Trims.eq_trimmedChars, ?_⟩
  rintro rfl
  exact trims_trimmedChars chars

theorem trimmedChars_of_forall (hsolid : ∀ c ∈ chars, isBlank c = false) :
    trimmedChars chars = chars := by
  refine (trims_iff.mp ⟨⟨[], [], by simp, nofun⟩, ?_, ?_⟩).symm
  · exact fun c hc => hsolid c (List.mem_of_mem_head? hc)
  · exact fun c hc => hsolid c (List.mem_of_mem_getLast? hc)

end SubscriptionDesk.Text
