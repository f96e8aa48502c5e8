import WireLedger.Text.Ranges
/-!
# Blank text

Blanks are the characters with the Unicode property White_Space. A text is blank if it has no other
character, and trimming takes the blanks off both ends.

Results:
* `trim_trim`: trimming twice is trimming once.
* `isBlankText_iff`: the blank texts are those that trimming empties.
-/
namespace WireLedger.Text

/-- The characters with the property White_Space. -/
def blanks : Ranges :=
  [(0x9, 0xD), (0x20, 0x20), (0x85, 0x85), (0xA0, 0xA0), (0x1680, 0x1680), (0x2000, 0x200A),
    (0x2028, 0x2029), (0x202F, 0x202F), (0x205F, 0x205F), (0x3000, 0x3000)]

/-- Whether a character is blank. -/
def isBlank (c : Char) : Bool := blanks.contains c

/-- The characters without the blanks in front. -/
def trimLeft (cs : List Char) : List Char := cs.dropWhile isBlank

/-- The characters without the blanks on either end. -/
def trimChars (cs : List Char) : List Char := (trimLeft (trimLeft cs).reverse).reverse

/-- The text without the blanks on either end. -/
def trim (s : String) : String := String.ofList (trimChars s.toList)

/-- Whether a text holds nothing but blanks. -/
def isBlankText (s : String) : Bool := s.toList.all isBlank

theorem dropWhile_dropWhile {α : Type} (p : α → Bool) (l : List α) :
    (l.dropWhile p).dropWhile p = l.dropWhile p := by
  induction l with
  | nil => rfl
  | cons a l ih => by_cases h : p a <;> simp [h, ih]

/-- Dropping from the end keeps a start that is not dropped. -/
theorem dropWhile_reverse_dropWhile (p : Char → Bool) (l : List Char) (h : l.dropWhile p = l) :
    ((l.reverse.dropWhile p).reverse).dropWhile p = (l.reverse.dropWhile p).reverse := by
  match l with
  | [] => rfl
  | c :: cs =>
    have hc : p c = false := by
      cases hp : p c
      · rfl
      · rw [List.dropWhile_cons, hp, if_pos rfl] at h
        have hlen := congrArg List.length h
        have := (List.dropWhile_sublist p (l := cs)).length_le
        simp only [List.length_cons] at hlen
        omega
    rw [List.reverse_cons, List.dropWhile_append]
    split
    · simp [hc]
    · rw [List.reverse_append]
      simp [hc]

theorem trimChars_trimChars (cs : List Char) : trimChars (trimChars cs) = trimChars cs := by
  have hfront : trimLeft (trimChars cs) = trimChars cs :=
    dropWhile_reverse_dropWhile isBlank _ (dropWhile_dropWhile isBlank cs)
  unfold trimChars at hfront ⊢
  rw [hfront, List.reverse_reverse]
  unfold trimLeft
  rw [dropWhile_dropWhile]

theorem trim_trim (s : String) : trim (trim s) = trim s := by
  simp only [trim, String.toList_ofList, trimChars_trimChars]

theorem trimLeft_eq_nil_iff (cs : List Char) : trimLeft cs = [] ↔ cs.all isBlank = true := by
  induction cs with
  | nil => simp [trimLeft]
  | cons c cs ih =>
    unfold trimLeft at ih ⊢
    cases h : isBlank c <;> simp [h, ih]

theorem trimChars_eq_nil_iff (cs : List Char) : trimChars cs = [] ↔ cs.all isBlank = true := by
  rw [trimChars, List.reverse_eq_nil_iff, trimLeft_eq_nil_iff, List.all_reverse,
    ← trimLeft_eq_nil_iff, ← trimLeft_eq_nil_iff, trimLeft, trimLeft, dropWhile_dropWhile]

theorem isBlankText_iff (s : String) : isBlankText s = true ↔ trim s = "" := by
  rw [isBlankText, ← trimChars_eq_nil_iff, trim, ← String.toList_inj, String.toList_ofList]
  rfl

end WireLedger.Text
