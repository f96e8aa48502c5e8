/-!
# Counting text in bytes

The length of a text in the bytes of UTF-8, and a text cut at a number of bytes.

Results:
* `cut?_eq_some_iff`: a cut at `n` bytes gives the two parts of the text, the first `n` bytes long.
* `slice?_eq_some_iff`: a slice stands in the text behind `start` bytes and is as long as asked for.
-/
namespace WireLedger.Text

/-- The number of bytes in UTF-8. -/
def byteLength (cs : List Char) : Nat := cs.foldr (fun c n => c.utf8Size + n) 0

/-- The first `n` bytes of a text and what follows them, if the cut is between characters. -/
def cut? (n : Nat) : List Char → Option (List Char × List Char)
  | [] => if n = 0 then some ([], []) else none
  | c :: cs =>
    if n = 0 then some ([], c :: cs)
    else if n < c.utf8Size then none
    else (cut? (n - c.utf8Size) cs).map fun (before, behind) => (c :: before, behind)

/-- The part of a text between two places, given in bytes, if both are between characters. -/
def slice? (start stop : Nat) (cs : List Char) : Option (List Char) := do
  let (_, behind) ← cut? start cs
  let (part, _) ← cut? (stop - start) behind
  return part

@[simp] theorem byteLength_nil : byteLength [] = 0 := rfl

@[simp] theorem byteLength_cons (c : Char) (cs : List Char) :
    byteLength (c :: cs) = c.utf8Size + byteLength cs := rfl

theorem byteLength_append (cs ds : List Char) :
    byteLength (cs ++ ds) = byteLength cs + byteLength ds := by
  induction cs with
  | nil => simp
  | cons c cs ih => simp [ih, Nat.add_assoc]

theorem cut?_eq_some_iff (n : Nat) (cs before behind : List Char) :
    cut? n cs = some (before, behind) ↔ cs = before ++ behind ∧ byteLength before = n := by
  induction cs generalizing n before with
  | nil =>
    by_cases h : n = 0
    · simp only [cut?, h, if_pos, Option.some.injEq, Prod.mk.injEq]
      constructor
      · rintro ⟨rfl, rfl⟩; exact ⟨rfl, rfl⟩
      · rintro ⟨h, -⟩
        have hnil := List.append_eq_nil_iff.mp h.symm
        exact ⟨hnil.1.symm, hnil.2.symm⟩
    · simp only [cut?, if_neg h, reduceCtorEq, false_iff, not_and]
      intro hnil
      rw [(List.append_eq_nil_iff.mp hnil.symm).1]
      exact fun hz => h hz.symm
  | cons c cs ih =>
    have hpos : 0 < c.utf8Size := c.utf8Size_pos
    unfold cut?
    by_cases h : n = 0
    · subst h
      simp only [if_pos, Option.some.injEq, Prod.mk.injEq]
      constructor
      · rintro ⟨rfl, rfl⟩; exact ⟨rfl, rfl⟩
      · rintro ⟨happ, hlen⟩
        cases before with
        | nil => exact ⟨rfl, happ⟩
        | cons d ds => rw [byteLength_cons] at hlen; have := d.utf8Size_pos; omega
    · rw [if_neg h]
      split
      · rename_i hlt
        simp only [reduceCtorEq, false_iff, not_and]
        intro happ hlen
        cases before with
        | nil => exact h hlen.symm
        | cons d ds =>
          cases happ
          rw [byteLength_cons] at hlen
          omega
      · rename_i hle
        simp only [Option.map_eq_some_iff, Prod.mk.injEq, Prod.exists]
        constructor
        · rintro ⟨a, b, hab, rfl, rfl⟩
          obtain ⟨rfl, hlen⟩ := (ih _ _).mp hab
          exact ⟨rfl, by rw [byteLength_cons, hlen]; omega⟩
        · rintro ⟨happ, hlen⟩
          cases before with
          | nil => exact absurd hlen.symm h
          | cons d ds =>
            cases happ
            refine ⟨ds, behind, (ih _ _).mpr ⟨rfl, ?_⟩, rfl, rfl⟩
            rw [byteLength_cons] at hlen
            omega

theorem slice?_eq_some_iff (start stop : Nat) (cs part : List Char) :
    slice? start stop cs = some part ↔ ∃ before behind, cs = before ++ part ++ behind ∧
      byteLength before = start ∧ byteLength part = stop - start := by
  simp only [slice?, Option.bind_eq_bind, Option.bind_eq_some_iff, Prod.exists, cut?_eq_some_iff]
  constructor
  · rintro ⟨before, behind, ⟨rfl, hstart⟩, part', rest, ⟨rfl, hpart⟩, hpure⟩
    cases hpure
    exact ⟨before, rest, (List.append_assoc ..).symm, hstart, hpart⟩
  · rintro ⟨before, behind, rfl, hstart, hpart⟩
    exact ⟨before, part ++ behind, ⟨List.append_assoc .., hstart⟩, part, behind, ⟨rfl, hpart⟩, rfl⟩

end WireLedger.Text
