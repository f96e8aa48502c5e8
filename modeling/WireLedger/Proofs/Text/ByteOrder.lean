import Mathlib.Data.List.Basic
import Mathlib.Tactic.SplitIfs
/-!
# The order of texts is the order of their bytes

Texts compare character by character. In UTF-8 a smaller character never starts with the bytes of a
greater one, so the bytes of texts compare in the same way.

Results:
* `bytes_lt_iff`, `bytes_le_iff`: a text is before another exactly if its bytes are.
* `pairwise_mergeSort_bytesLe`: texts sorted by their bytes ascend.
-/
namespace WireLedger.Text

/-- The bytes of a text in UTF-8. -/
def bytes (s : String) : List UInt8 := s.toUTF8.data.toList

theorem bytes_eq_flatMap (s : String) : bytes s = s.toList.flatMap String.utf8EncodeChar := by
  unfold bytes
  rw [String.toUTF8_eq_toByteArray, ← String.utf8Encode_toList, List.utf8Encode]
  simp

theorem ofNat_lt_iff {a b : Nat} (ha : a < 256) (hb : b < 256) :
    UInt8.ofNat a < UInt8.ofNat b ↔ a < b := by
  rw [UInt8.lt_iff_toNat_lt, UInt8.toNat_ofNat', UInt8.toNat_ofNat']; omega

theorem ofNat_eq_iff {a b : Nat} (ha : a < 256) (hb : b < 256) :
    UInt8.ofNat a = UInt8.ofNat b ↔ a = b := by
  rw [← UInt8.toNat_inj, UInt8.toNat_ofNat', UInt8.toNat_ofNat']; omega

theorem codePoint_lt (c : Char) : c.val.toNat < 0x110000 := by
  rcases c.valid with h | ⟨-, h⟩ <;> omega

/-- Whatever follows them: of two characters the smaller one has the smaller bytes. -/
theorem encodeChar_append_lt {c d : Char} (h : c < d) (xs ys : List UInt8) :
    String.utf8EncodeChar c ++ xs < String.utf8EncodeChar d ++ ys := by
  have hcd : c.val.toNat < d.val.toNat := h
  have hd := codePoint_lt d
  -- all quotients in terms of base 64 digits, so that `omega` sees the same digits twice
  have h2 (v : Nat) : v / 4096 = v / 64 / 64 := by omega
  have h3 (v : Nat) : v / 262144 = v / 64 / 64 / 64 := by omega
  unfold String.utf8EncodeChar
  generalize c.val.toNat = m at *
  generalize d.val.toNat = n at *
  simp only [h2, h3]
  split_ifs <;>
    simp (disch := omega) only [List.cons_append, List.cons_lt_cons_iff, ofNat_lt_iff, ofNat_eq_iff]
  all_goals omega

theorem bytes_lt_of_lt {a b : String} (h : a < b) : bytes a < bytes b := by
  rw [bytes_eq_flatMap, bytes_eq_flatMap]
  have h : a.toList < b.toList := h
  generalize a.toList = cs at *
  generalize b.toList = ds at *
  induction h with
  | @nil d ds =>
    rw [List.flatMap_nil, List.flatMap_cons]
    obtain ⟨x, xs, hx⟩ := List.exists_cons_of_ne_nil (String.utf8EncodeChar_ne_nil (c := d))
    rw [hx]
    exact .nil
  | rel h =>
    rw [List.flatMap_cons, List.flatMap_cons]
    exact encodeChar_append_lt h _ _
  | cons h ih =>
    rw [List.flatMap_cons, List.flatMap_cons]
    exact List.append_left_lt ih

theorem bytes_lt_iff (a b : String) : bytes a < bytes b ↔ a < b := by
  refine ⟨fun h => ?_, bytes_lt_of_lt⟩
  rcases Std.lt_trichotomy a b with hab | rfl | hba
  · exact hab
  · exact absurd h (List.lt_irrefl _)
  · exact absurd h (List.lt_asymm (bytes_lt_of_lt hba))

theorem bytes_le_iff (a b : String) : bytes a ≤ bytes b ↔ a ≤ b := by
  rw [← List.not_lt, ← String.not_lt, bytes_lt_iff]

/-- Whether a text is not behind another by its bytes. -/
def bytesLe (a b : String) : Bool := decide (bytes a ≤ bytes b)

theorem bytesLe_eq_true_iff {a b : String} : bytesLe a b = true ↔ a ≤ b := by
  rw [bytesLe, decide_eq_true_iff, bytes_le_iff]

theorem pairwise_mergeSort_bytesLe (texts : List String) :
    (texts.mergeSort bytesLe).Pairwise (· ≤ ·) := by
  have htrans (a b c : String) (hab : bytesLe a b = true) (hbc : bytesLe b c = true) :
      bytesLe a c = true :=
    bytesLe_eq_true_iff.2
      (String.le_trans (bytesLe_eq_true_iff.1 hab) (bytesLe_eq_true_iff.1 hbc))
  have htotal (a b : String) : (bytesLe a b || bytesLe b a) = true := by
    rcases String.le_total a b with h | h
    · rw [bytesLe_eq_true_iff.2 h, Bool.true_or]
    · rw [bytesLe_eq_true_iff.2 h, Bool.or_true]
  exact (List.pairwise_mergeSort htrans htotal texts).imp bytesLe_eq_true_iff.1

end WireLedger.Text
