import Mathlib.Data.List.Basic
import Mathlib.Data.List.TakeWhile
import WireLedger.Text.Blank
/-!
# What trimming leaves

Results:
* `trims_iff`: trimming leaves the one stretch of a text with blanks all around it and none at its
  ends.
-/
namespace WireLedger.Text

variable {cs ds : List Char}

/-- The characters `ds` are `cs` without blanks in front and behind, and have none at their ends. -/
structure Trims (cs ds : List Char) : Prop where
  around : ∃ front back, cs = front ++ (ds ++ back) ∧ front.all isBlank = true ∧
    back.all isBlank = true
  first : ∀ c ∈ ds.head?, isBlank c = false
  last : ∀ c ∈ ds.getLast?, isBlank c = false

theorem exists_front (cs : List Char) :
    ∃ front, cs = front ++ trimLeft cs ∧ front.all isBlank = true := by
  refine ⟨cs.takeWhile isBlank, List.takeWhile_append_dropWhile.symm, ?_⟩
  exact List.all_eq_true.2 fun c hc => List.mem_takeWhile_imp hc

theorem trimLeft_append_of_blank {front : List Char} (h : front.all isBlank = true)
    (cs : List Char) : trimLeft (front ++ cs) = trimLeft cs :=
  List.dropWhile_append_of_pos (List.all_eq_true.1 h)

theorem trimLeft_eq_self_iff : trimLeft cs = cs ↔ ∀ c ∈ cs.head?, isBlank c = false := by
  cases cs with
  | nil => simp [trimLeft]
  | cons c cs =>
    unfold trimLeft
    rw [List.dropWhile_eq_self_iff]
    simp

theorem trimLeft_trimChars (cs : List Char) : trimLeft (trimChars cs) = trimChars cs :=
  dropWhile_reverse_dropWhile isBlank _ (dropWhile_dropWhile isBlank cs)

theorem trims_trimChars (cs : List Char) : Trims cs (trimChars cs) where
  around := by
    obtain ⟨front, hcs, hfront⟩ := exists_front cs
    obtain ⟨back, hback, hblank⟩ := exists_front (trimLeft cs).reverse
    refine ⟨front, back.reverse, ?_, hfront, ?_⟩
    · rw [trimChars, ← List.reverse_append, ← hback, List.reverse_reverse]
      exact hcs
    · rwa [List.all_reverse]
  first := trimLeft_eq_self_iff.1 (trimLeft_trimChars cs)
  last := by
    rw [trimChars, List.getLast?_reverse]
    exact trimLeft_eq_self_iff.1 (dropWhile_dropWhile isBlank _)

/-- What is kept at the ends is not blank, so no more is taken off than what is around. -/
theorem Trims.trimChars_eq (h : Trims cs ds) : trimChars cs = ds := by
  obtain ⟨front, back, rfl, hfront, hback⟩ := h.around
  rw [trimChars, trimLeft_append_of_blank hfront]
  cases hds : ds with
  | nil =>
    rw [List.nil_append, (trimLeft_eq_nil_iff back).2 hback]
    rfl
  | cons d rest =>
    rw [← hds]
    have hne : ds ≠ [] := by
      rw [hds]
      exact List.cons_ne_nil d rest
    have hkeep : trimLeft (ds ++ back) = ds ++ back := by
      rw [trimLeft_eq_self_iff, List.head?_append_of_ne_nil _ hne]
      exact h.first
    have hlast : trimLeft ds.reverse = ds.reverse := by
      rw [trimLeft_eq_self_iff, List.head?_reverse]
      exact h.last
    rw [hkeep, List.reverse_append, trimLeft_append_of_blank (by rwa [List.all_reverse]), hlast,
      List.reverse_reverse]

theorem trims_iff : Trims cs ds ↔ trimChars cs = ds :=
  ⟨Trims.trimChars_eq, fun h => h ▸ trims_trimChars cs⟩

theorem trims_toList_iff {s t : String} : Trims s.toList t.toList ↔ trim s = t := by
  rw [trims_iff, trim, ← String.toList_inj, String.toList_ofList]

end WireLedger.Text
