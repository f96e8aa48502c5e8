import Mathlib.Data.List.Basic
import Mathlib.Tactic.IntervalCases
import WireLedger.Numeral
/-!
# Numerals and the numbers they spell

`Spells base cs n` says what a numeral is without a writer or a reader: digits of the base in lower
case, each place worth `base` times the next one. The writer spells the number that it is given, the
reader finds the number that is spelled, and leading zeros are all that a number leaves open.

Results:
* `spells_toDigits`, `Spells.read?`: what is written is spelled, and what is spelled is read.
* `read?_eq_some_iff`, `readBelow?_eq_some_iff`: up to base ten the reader takes nothing else.
* `Spells.stripZeros_eq`: without its leading zeros any numeral is the number as it is written.
-/
namespace WireLedger.Numeral

/-- The characters `cs` are a numeral of `n`: at least one digit of the base, in lower case, the
most significant first. -/
inductive Spells (base : Nat) : List Char → Nat → Prop where
  | digit {d : Nat} (hd : d < base) : Spells base [d.digitChar] d
  | snoc {cs : List Char} {n d : Nat} (h : Spells base cs n) (hd : d < base) :
      Spells base (cs ++ [d.digitChar]) (n * base + d)

/-- The numeral starts with a zero only if it is nothing else. -/
def Unpadded (cs : List Char) : Prop := cs.head? = some '0' → cs = ['0']

/-- The numeral without the zeros in front of it; of zeros alone one stays. -/
def stripZeros (cs : List Char) : List Char :=
  match cs.dropWhile (· = '0') with
  | [] => ['0']
  | digits => digits

variable {base m n d : Nat} {cs ds : List Char}

/-! ## Single digits -/

theorem digit?_digitChar (hd : d < 16) : digit? d.digitChar = some d := by
  interval_cases d <;> rfl

theorem digitBelow?_digitChar (hbase : base ≤ 16) (hd : d < base) :
    digitBelow? base d.digitChar = some d := by
  rw [digitBelow?, digit?_digitChar (by omega), Option.filter_some, if_pos (by simpa using hd)]

theorem utf8Size_digitChar (hd : d < 16) : d.digitChar.utf8Size = 1 := by
  interval_cases d <;> rfl

/-- Up to base ten there are no letters, so a digit is read from one character only. -/
theorem digitBelow?_eq_some_iff (hbase : base ≤ 10) {c : Char} :
    digitBelow? base c = some d ↔ d < base ∧ c = d.digitChar := by
  constructor
  · intro h
    obtain ⟨hdigit, hlt⟩ := Option.filter_eq_some_iff.1 h
    have hlt : d < base := of_decide_eq_true hlt
    refine ⟨hlt, ?_⟩
    unfold digit? at hdigit
    split at hdigit
    · next hc =>
      have hzero : '0'.toNat ≤ c.toNat := hc.1
      have hd : c.toNat - '0'.toNat = d := Option.some.inj hdigit
      apply Char.toNat_inj.1
      rw [Nat.toNat_digitChar_of_lt_ten (by omega), ← hd]
      have : '0'.toNat = 48 := rfl
      omega
    · split at hdigit
      · have := Option.some.inj hdigit
        omega
      · split at hdigit
        · have := Option.some.inj hdigit
          omega
        · cases hdigit
  · rintro ⟨hd, rfl⟩
    exact digitBelow?_digitChar (by omega) hd

/-! ## Spelling and reading -/

theorem readFrom?_append (n : Nat) (cs ds : List Char) :
    readFrom? base n (cs ++ ds) = (readFrom? base n cs).bind (readFrom? base · ds) := by
  induction cs generalizing n with
  | nil => rfl
  | cons c cs ih =>
    simp only [List.cons_append, readFrom?, Option.bind_eq_bind, Option.bind_assoc, ih]

theorem read?_of_ne_nil (h : cs ≠ []) : read? base cs = readFrom? base 0 cs := by
  cases cs with
  | nil => exact absurd rfl h
  | cons c cs => rfl

theorem Spells.ne_nil (h : Spells base cs n) : cs ≠ [] := by
  cases h <;> simp

theorem Spells.exists_digit (h : Spells base cs n) {c : Char} (hc : c ∈ cs) :
    ∃ d < base, c = d.digitChar := by
  induction h with
  | @digit d hd => exact ⟨d, hd, List.mem_singleton.1 hc⟩
  | @snoc cs n d _ hd ih =>
    rcases List.mem_append.1 hc with hc | hc
    · exact ih hc
    · exact ⟨d, hd, List.mem_singleton.1 hc⟩

theorem Spells.notMem (h : Spells base cs n) {c : Char} (hc : ∀ d : Nat, d.digitChar ≠ c) :
    c ∉ cs := by
  intro hmem
  obtain ⟨d, -, hd⟩ := h.exists_digit hmem
  exact hc d hd.symm

theorem Spells.readFrom? (hbase : base ≤ 16) (h : Spells base cs n) :
    readFrom? base 0 cs = some n := by
  induction h with
  | @digit d hd =>
    simp [Numeral.readFrom?, digitBelow?_digitChar hbase hd]
  | @snoc cs n d _ hd ih =>
    simp [readFrom?_append, ih, Numeral.readFrom?, digitBelow?_digitChar hbase hd]

theorem Spells.read? (hbase : base ≤ 16) (h : Spells base cs n) : read? base cs = some n := by
  rw [read?_of_ne_nil h.ne_nil, h.readFrom? hbase]

theorem Spells.inj (hbase : base ≤ 16) (hm : Spells base cs m) (hn : Spells base cs n) : m = n :=
  Option.some.inj ((hm.read? hbase).symm.trans (hn.read? hbase))

/-- A reader that has come as far as `cs` has a numeral, whatever follows. -/
theorem Spells.of_readFrom? (hbase : base ≤ 10) (h : Spells base cs m)
    (hds : Numeral.readFrom? base m ds = some n) : Spells base (cs ++ ds) n := by
  induction ds generalizing cs m with
  | nil =>
    cases hds
    rwa [List.append_nil]
  | cons c ds ih =>
    obtain ⟨d, hd, hrest⟩ := Option.bind_eq_some_iff.1 hds
    obtain ⟨hlt, rfl⟩ := (digitBelow?_eq_some_iff hbase).1 hd
    have := ih (h.snoc hlt) hrest
    rwa [List.append_assoc] at this

theorem read?_eq_some_iff (hbase : base ≤ 10) : read? base cs = some n ↔ Spells base cs n := by
  constructor
  · intro h
    cases cs with
    | nil => cases h
    | cons c cs =>
      have hread : readFrom? base 0 (c :: cs) = some n := h
      obtain ⟨d, hd, hrest⟩ := Option.bind_eq_some_iff.1 hread
      obtain ⟨hlt, rfl⟩ := (digitBelow?_eq_some_iff hbase).1 hd
      rw [Nat.zero_mul, Nat.zero_add] at hrest
      exact Spells.of_readFrom? hbase (.digit hlt) hrest
  · exact Spells.read? (by omega)

/-- The number is spelled after at most one plus sign. -/
theorem readBelow?_eq_some_iff {bound : Nat} : readBelow? bound cs = some n ↔
    n < bound ∧ ∃ sign digits, cs = sign ++ digits ∧ (sign = [] ∨ sign = ['+']) ∧
      Spells 10 digits n := by
  have hread {digits : List Char} : (Numeral.read? 10 digits).filter (· < bound) = some n ↔
      n < bound ∧ Spells 10 digits n := by
    rw [Option.filter_eq_some_iff, read?_eq_some_iff (by decide), decide_eq_true_iff, and_comm]
  have hplus {digits : List Char} (h : Spells 10 digits n) : '+' ∉ digits :=
    h.notMem fun _ => Nat.digitChar_ne '+' (by decide)
  unfold readBelow?
  split
  · next rest =>
    rw [hread]
    constructor
    · rintro ⟨hlt, h⟩
      exact ⟨hlt, ['+'], rest, rfl, .inr rfl, h⟩
    · rintro ⟨hlt, sign, digits, hcs, rfl | rfl, h⟩
      · rw [List.nil_append] at hcs
        exact absurd (hcs ▸ List.mem_cons_self) (hplus h)
      · exact ⟨hlt, (List.cons.inj hcs).2 ▸ h⟩
  · next hsign =>
    rw [hread]
    constructor
    · rintro ⟨hlt, h⟩
      exact ⟨hlt, [], cs, rfl, .inl rfl, h⟩
    · rintro ⟨hlt, sign, digits, rfl, rfl | rfl, h⟩
      · exact ⟨hlt, h⟩
      · exact absurd rfl (hsign digits)

/-! ## Writing -/

theorem spells_toDigits (hbase : 1 < base) (n : Nat) : Spells base (Nat.toDigits base n) n := by
  induction n using Nat.strongRecOn with
  | ind n ih =>
    by_cases h : n < base
    · rw [Nat.toDigits_of_lt_base h]
      exact .digit h
    · have hbase' : base ≤ n := Nat.le_of_not_lt h
      have hsnoc := (ih (n / base) (Nat.div_lt_self (by omega) hbase)).snoc
        (Nat.mod_lt n (by omega))
      rwa [Nat.div_add_mod', ← Nat.toDigits_of_base_le hbase hbase'] at hsnoc

theorem Spells.cons_zero (hbase : 0 < base) (h : Spells base cs n) : Spells base ('0' :: cs) n := by
  induction h with
  | @digit d hd =>
    have := (Spells.digit hbase).snoc hd
    rwa [Nat.zero_mul, Nat.zero_add] at this
  | @snoc cs n d _ hd ih => exact ih.snoc hd

theorem Spells.replicate_zero (hbase : 0 < base) (h : Spells base cs n) (k : Nat) :
    Spells base (List.replicate k '0' ++ cs) n := by
  induction k with
  | zero => exact h
  | succ k ih => exact ih.cons_zero hbase

theorem spells_hexPadded (width n : Nat) : Spells 16 (hexPadded width n).toList n := by
  rw [hexPadded, String.toList_ofList, List.leftpad]
  exact (spells_toDigits (by decide) n).replicate_zero (by decide) _

theorem length_hexPadded {width : Nat} (hwidth : 0 < width) (hn : n < 16 ^ width) :
    (hexPadded width n).toList.length = width := by
  have hlen : (Nat.toDigits 16 n).length ≤ width :=
    (Nat.length_toDigits_le_iff (by decide) hwidth).2 hn
  rw [hexPadded, String.toList_ofList, length_leftpad_hex]
  omega

theorem Spells.append (hm : Spells base cs m) (hn : Spells base ds n) :
    Spells base (cs ++ ds) (m * base ^ ds.length + n) := by
  induction hn with
  | @digit d hd =>
    rw [List.length_singleton, Nat.pow_one]
    exact hm.snoc hd
  | @snoc ds n d _ hd ih =>
    have hvalue : m * base ^ (ds ++ [d.digitChar]).length + (n * base + d) =
        (m * base ^ ds.length + n) * base + d := by
      rw [List.length_append, List.length_singleton, Nat.pow_succ, Nat.add_mul, Nat.mul_assoc,
        Nat.add_assoc]
    rw [hvalue, ← List.append_assoc]
    exact ih.snoc hd

/-! ## Leading zeros -/

theorem stripZeros_of_zeros (h : cs.dropWhile (· = '0') = []) : stripZeros cs = ['0'] := by
  rw [stripZeros, h]

theorem stripZeros_of_ne_nil (h : cs.dropWhile (· = '0') ≠ []) :
    stripZeros cs = cs.dropWhile (· = '0') := by
  unfold stripZeros
  split
  · next hnil => exact absurd hnil h
  · rfl

theorem stripZeros_of_unpadded (hne : cs ≠ []) (h : Unpadded cs) : stripZeros cs = cs := by
  cases cs with
  | nil => exact absurd rfl hne
  | cons c cs =>
    by_cases hc : c = '0'
    · have hzero := h (by rw [hc]; rfl)
      rw [hzero]
      rfl
    · have hkeep : (c :: cs).dropWhile (· = '0') = c :: cs :=
        List.dropWhile_cons_of_neg (by simpa using hc)
      rw [stripZeros_of_ne_nil (by rw [hkeep]; exact List.cons_ne_nil _ _), hkeep]

theorem unpadded_stripZeros (cs : List Char) : Unpadded (stripZeros cs) := by
  intro hhead
  by_cases h : cs.dropWhile (· = '0') = []
  · exact stripZeros_of_zeros h
  · rw [stripZeros_of_ne_nil h] at hhead
    have hfalse := List.head_dropWhile_not (· = '0') h
    rw [List.head?_eq_some_head h, Option.some.injEq] at hhead
    rw [hhead] at hfalse
    exact absurd hfalse (by decide)

theorem stripZeros_singleton (c : Char) : stripZeros [c] = [c] := by
  refine stripZeros_of_unpadded (List.cons_ne_nil c []) fun hhead => ?_
  rw [Option.some.inj hhead]

theorem stripZeros_append_of_zeros (h : cs.dropWhile (· = '0') = []) (ds : List Char) :
    stripZeros (cs ++ ds) = stripZeros ds := by
  rw [stripZeros, stripZeros, List.dropWhile_append, h]
  rfl

theorem stripZeros_append (h : cs.dropWhile (· = '0') ≠ []) (ds : List Char) :
    stripZeros (cs ++ ds) = stripZeros cs ++ ds := by
  have happend : (cs ++ ds).dropWhile (· = '0') = cs.dropWhile (· = '0') ++ ds := by
    rw [List.dropWhile_append, if_neg (by simpa using h)]
  rw [stripZeros_of_ne_nil (by rw [happend]; simp [h]), happend, stripZeros_of_ne_nil h]

/-- Whatever zeros are in front: the rest of a numeral is the number as it is written. -/
theorem Spells.stripZeros_eq (hbase : 1 < base) (hbase' : base ≤ 16) (h : Spells base cs n) :
    stripZeros cs = Nat.toDigits base n := by
  induction h with
  | digit hd => rw [stripZeros_singleton, Nat.toDigits_of_lt_base hd]
  | @snoc cs n d h hd ih =>
    by_cases hzeros : cs.dropWhile (· = '0') = []
    · -- zeros alone so far: they spell zero, and the last digit is all that stays
      have hn : n = 0 := by
        rw [stripZeros_of_zeros hzeros] at ih
        have hspelled := spells_toDigits hbase n
        rw [← ih] at hspelled
        exact hspelled.inj hbase' (.digit (d := 0) (by omega))
      rw [stripZeros_append_of_zeros hzeros, stripZeros_singleton, hn, Nat.zero_mul, Nat.zero_add,
        Nat.toDigits_of_lt_base hd]
    · have hn : 0 < n := by
        rcases Nat.eq_zero_or_pos n with rfl | hn
        · rw [stripZeros_of_ne_nil hzeros, Nat.toDigits_zero] at ih
          have hfalse := List.head_dropWhile_not (· = '0') hzeros
          simp only [ih, List.head_cons] at hfalse
          exact absurd hfalse (by decide)
        · exact hn
      rw [stripZeros_append hzeros, ih, ← Nat.toDigits_of_lt_base hd,
        Nat.toDigits_append_toDigits hbase hn hd, Nat.mul_comm]

theorem unpadded_toDigits (hbase : 1 < base) (hbase' : base ≤ 16) (n : Nat) :
    Unpadded (Nat.toDigits base n) := by
  rw [← (spells_toDigits hbase n).stripZeros_eq hbase hbase']
  exact unpadded_stripZeros _

end WireLedger.Numeral
