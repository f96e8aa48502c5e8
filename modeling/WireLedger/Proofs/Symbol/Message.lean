import Mathlib.Data.List.Basic
import WireLedger.Diagnostic.Basic
/-!
# A message tells its error

The name in a message can be any text, also one that looks like another message. What follows it is
known all the same, since the mark behind the name is the last one of its kind: types and numbers
have none. This remark tells the cause by its first characters, then the values one after the other,
each of them up to the character behind it. With the cause the front of the message is known as
well, and what is left is the name.

Results:
* `message_eq`: a message is its opening, the name, a mark and a remark.
* `ctorIdx_eq_of_remark`, `eq_of_remark`: the remark tells the cause and every value but the name.
* `message_identifies`: equal messages come from equal errors, in diagnostics as well.
-/
namespace WireLedger

namespace Text

/-- Where a character stands for the first time, a text comes apart in one way only. -/
theorem append_cons_inj_of_first {α : Type} {c : α} {xs ys rs ss : List α} (hx : c ∉ xs)
    (hy : c ∉ ys) (h : xs ++ c :: rs = ys ++ c :: ss) : xs = ys ∧ rs = ss := by
  rcases List.append_eq_append_iff.1 h with ⟨zs, hys, hrest⟩ | ⟨zs, hxs, hrest⟩
  · cases zs with
    | nil =>
      rw [List.append_nil] at hys
      exact ⟨hys.symm, (List.cons.inj hrest).2⟩
    | cons z zs =>
      rw [hys, ← (List.cons.inj hrest).1] at hy
      exact absurd (List.mem_append_right _ List.mem_cons_self) hy
  · cases zs with
    | nil =>
      rw [List.append_nil] at hxs
      exact ⟨hxs, (List.cons.inj hrest).2.symm⟩
    | cons z zs =>
      rw [hxs, ← (List.cons.inj hrest).1] at hx
      exact absurd (List.mem_append_right _ List.mem_cons_self) hx

theorem append_cons_inj_of_last {α : Type} {c : α} {xs ys rs ss : List α} (hr : c ∉ rs)
    (hs : c ∉ ss) (h : xs ++ c :: rs = ys ++ c :: ss) : xs = ys ∧ rs = ss := by
  have hreverse : rs.reverse ++ c :: xs.reverse = ss.reverse ++ c :: ys.reverse := by
    simpa using congrArg List.reverse h
  obtain ⟨hrs, hxy⟩ := append_cons_inj_of_first (by simpa using hr) (by simpa using hs) hreverse
  exact ⟨List.reverse_injective hxy, List.reverse_injective hrs⟩

end Text

open Text

variable {rs ss : List Char} {c : Char}

/-! ## Types and numbers within a text -/

namespace SymbolType

theorem isAlpha_of_mem_name {ty : SymbolType} (hc : c ∈ ty.name.toList) : c.isAlpha = true := by
  have hall : ty.name.toList.all Char.isAlpha = true := by cases ty <;> rfl
  exact List.all_eq_true.1 hall c hc

theorem toList_name_inj {a b : SymbolType} : a.name.toList = b.name.toList ↔ a = b := by
  refine ⟨fun h => ?_, fun h => h ▸ rfl⟩
  have hname : a.name = b.name := String.toList_inj.1 h
  exact Option.some.inj ((ofName?_eq_some_iff.2 hname).symm.trans (ofName?_eq_some_iff.2 rfl)).symm

/-- A type ends where something else than a letter follows. -/
theorem name_append_inj {a b : SymbolType} (hc : c.isAlpha = false) :
    a.name.toList ++ c :: rs = b.name.toList ++ c :: ss ↔ a = b ∧ rs = ss := by
  have hmem (ty : SymbolType) : c ∉ ty.name.toList := by
    intro h
    rw [isAlpha_of_mem_name h] at hc
    cases hc
  constructor
  · intro h
    obtain ⟨hnames, hrest⟩ := append_cons_inj_of_first (hmem a) (hmem b) h
    exact ⟨toList_name_inj.1 hnames, hrest⟩
  · rintro ⟨rfl, rfl⟩
    rfl

end SymbolType

namespace Numeral

theorem toDigits_inj {m n : Nat} : Nat.toDigits 10 m = Nat.toDigits 10 n ↔ m = n := by
  refine ⟨fun h => ?_, fun h => h ▸ rfl⟩
  rw [← Nat.ofDigitChars_ten_toDigits (n := m), h, Nat.ofDigitChars_ten_toDigits]

theorem notMem_toDigits (hc : c.isDigit = false) (n : Nat) : c ∉ Nat.toDigits 10 n := by
  intro h
  rw [Nat.isDigit_of_mem_toDigits (by decide) (by decide) h] at hc
  cases hc

/-- A number ends where something else than a digit follows. -/
theorem toDigits_append_inj {m n : Nat} (hc : c.isDigit = false) :
    Nat.toDigits 10 m ++ c :: rs = Nat.toDigits 10 n ++ c :: ss ↔ m = n ∧ rs = ss := by
  constructor
  · intro h
    obtain ⟨hdigits, hrest⟩ :=
      append_cons_inj_of_first (notMem_toDigits hc m) (notMem_toDigits hc n) h
    exact ⟨toDigits_inj.1 hdigits, hrest⟩
  · rintro ⟨rfl, rfl⟩
    rfl

theorem toDigits_append_ne_cons (hc : c.isDigit = false) (n : Nat) :
    Nat.toDigits 10 n ++ rs ≠ c :: ss := by
  intro h
  cases hn : Nat.toDigits 10 n with
  | nil => exact Nat.toDigits_ne_nil hn
  | cons d ds =>
    rw [hn] at h
    have hd : d = c := (List.cons.inj h).1
    exact notMem_toDigits hc n (by rw [hn, hd]; exact List.mem_cons_self)

theorem cons_ne_toDigits_append (hc : c.isDigit = false) (n : Nat) :
    c :: ss ≠ Nat.toDigits 10 n ++ rs := (toDigits_append_ne_cons hc n).symm

end Numeral

namespace SymbolError

open Numeral SymbolType

variable {e f : SymbolError}

/-! ## The parts of a message -/

/-- The mark around a name. -/
def nameMark : Char := '\x60'

/-- What stands before the name. -/
def opening : SymbolError → String
  | unknownSymbol _ => "Unknown symbol `"
  | typeMismatch .. | widthMismatch .. | kindMismatch .. | shapeFixed .. | elementOutOfRange ..
  | unknownVersion .. => "Symbol `"

/-- What stands behind the mark that follows the name. -/
def remark : SymbolError → String
  | unknownSymbol _ => ""
  | typeMismatch _ existing requested =>
    " already has type " ++ existing.name ++ ", cannot rebind it as " ++ requested.name
  | widthMismatch _ expected received =>
    " is " ++ toString expected ++ " wires wide but " ++ toString received ++
      " wires were supplied"
  | kindMismatch _ expected found => " is a " ++ found.name ++ " symbol, expected " ++ expected.name
  | shapeFixed _ version =>
    " version " ++ toString version.toNat ++ " inherits its shape and cannot be reshaped"
  | elementOutOfRange _ index length =>
    " has " ++ toString length ++ " elements, no element " ++ toString index
  | unknownVersion _ version => " has no version " ++ toString version.toNat

-- `unfold` rather than the equations of these functions: deriving those compares long texts
theorem message_eq (e : SymbolError) :
    e.message.toList = e.opening.toList ++ e.name.toList ++ nameMark :: e.remark.toList := by
  unfold message opening name remark nameMark
  cases e <;> simp

theorem nameMark_notMem_remark (e : SymbolError) : nameMark ∉ e.remark.toList := by
  have hnumber (n : Nat) : '\x60' ∉ Nat.toDigits 10 n := notMem_toDigits (by decide) n
  have htype (ty : SymbolType) : '\x60' ∉ ty.name.toList := by
    cases ty <;> decide
  unfold remark nameMark
  cases e <;> simp [hnumber, htype]

/-! ## What a remark tells -/

/-- Remarks of different causes differ in the first six characters: in a letter, or because one has
a digit where the other has a letter. -/
theorem ctorIdx_eq_of_remark (h : e.remark.toList = f.remark.toList) : e.ctorIdx = f.ctorIdx := by
  unfold remark at h
  cases e <;> cases f <;> first
    | rfl
    | exfalso
      simp [toDigits_append_ne_cons, cons_ne_toDigits_append] at h

theorem opening_eq_of_ctorIdx (h : e.ctorIdx = f.ctorIdx) : e.opening = f.opening := by
  cases e <;> cases f <;> cases h <;> rfl

theorem eq_of_remark (hname : e.name = f.name) (h : e.remark.toList = f.remark.toList) : e = f := by
  have hcause := ctorIdx_eq_of_remark h
  unfold remark at h
  cases e with
  | unknownSymbol name =>
    cases f with
    | unknownSymbol name' => rw [show name = name' from hname]
    | _ => cases hcause
  | typeMismatch name existing requested =>
    cases f with
    | typeMismatch name' existing' requested' =>
      have htypes : existing = existing' ∧ requested = requested' := by
        simpa [name_append_inj, toList_name_inj] using h
      rw [show name = name' from hname, htypes.1, htypes.2]
    | _ => cases hcause
  | widthMismatch name expected received =>
    cases f with
    | widthMismatch name' expected' received' =>
      have hcounts : expected = expected' ∧ received = received' := by
        simpa [toDigits_append_inj, toDigits_inj] using h
      rw [show name = name' from hname, hcounts.1, hcounts.2]
    | _ => cases hcause
  | kindMismatch name expected found =>
    cases f with
    | kindMismatch name' expected' found' =>
      have htypes : found = found' ∧ expected = expected' := by
        simpa [name_append_inj, toList_name_inj] using h
      rw [show name = name' from hname, htypes.1, htypes.2]
    | _ => cases hcause
  | shapeFixed name version =>
    cases f with
    | shapeFixed name' version' =>
      have hversion : version = version' := by
        simpa [toDigits_inj, UInt32.toNat_inj] using h
      rw [show name = name' from hname, hversion]
    | _ => cases hcause
  | elementOutOfRange name index length =>
    cases f with
    | elementOutOfRange name' index' length' =>
      have hcounts : length = length' ∧ index = index' := by
        simpa [toDigits_append_inj, toDigits_inj] using h
      rw [show name = name' from hname, hcounts.1, hcounts.2]
    | _ => cases hcause
  | unknownVersion name version =>
    cases f with
    | unknownVersion name' version' =>
      have hversion : version = version' := by
        simpa [toDigits_inj, UInt32.toNat_inj] using h
      rw [show name = name' from hname, hversion]
    | _ => cases hcause

theorem message_injective : Function.Injective message := by
  intro e f h
  have hparts := congrArg String.toList h
  rw [message_eq, message_eq] at hparts
  obtain ⟨hfront, hremark⟩ := append_cons_inj_of_last (nameMark_notMem_remark e)
    (nameMark_notMem_remark f) hparts
  rw [opening_eq_of_ctorIdx (ctorIdx_eq_of_remark hremark)] at hfront
  exact eq_of_remark (String.toList_inj.1 (List.append_cancel_left hfront)) hremark

/-- Two errors with the same message are one, with the same values. So the message of a diagnostic
tells its error, and with that its label and its help, whatever the source is called and holds. -/
theorem message_identifies :
    (∀ e f : SymbolError, e.message = f.message ↔ e = f) ∧
    ∀ (path path' source source' : String) (located located' : LocatedError),
      let d := Diagnostic.ofLocated path source located
      let d' := Diagnostic.ofLocated path' source' located'
      d.message = d'.message ↔
        located.error = located'.error ∧ d.label.text = d'.label.text ∧ d.help? = d'.help? := by
  refine ⟨fun e f => message_injective.eq_iff, ?_⟩
  intro path path' source source' located located'
  constructor
  · intro h
    have herror : located.error = located'.error := message_injective h
    exact ⟨herror, congrArg label herror, congrArg help? herror⟩
  · rintro ⟨herror, -, -⟩
    exact congrArg message herror

end SymbolError

end WireLedger
