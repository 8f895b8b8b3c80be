/-!
# Text/Digits — decimal digits of every script

Unicode gives each script that writes numbers with ten digits a run of ten code points, zero
first (`General_Category = Nd`). `decimalValue?` reads a digit of any of these runs; the table
holds the code point of each run's zero, as of Unicode 14. The runs do not overlap, so a digit's
value is how far its code point lies past the zero of its run (`decimalValue?_eq_some_iff`).
-/

namespace MarkupTidy.Text

/-- The zero of each run of ten decimal digits, in code point order. -/
def digitZeros : List Nat :=
  [0x30, 0x660, 0x6F0, 0x7C0, 0x966, 0x9E6, 0xA66, 0xAE6, 0xB66, 0xBE6, 0xC66, 0xCE6, 0xD66,
    0xDE6, 0xE50, 0xED0, 0xF20, 0x1040, 0x1090, 0x17E0, 0x1810, 0x1946, 0x19D0, 0x1A80, 0x1A90,
    0x1B50, 0x1BB0, 0x1C40, 0x1C50, 0xA620, 0xA8D0, 0xA900, 0xA9D0, 0xA9F0, 0xAA50, 0xABF0,
    0xFF10, 0x104A0, 0x10D30, 0x11066, 0x110F0, 0x11136, 0x111D0, 0x112F0, 0x11450, 0x114D0,
    0x11650, 0x116C0, 0x11730, 0x118E0, 0x11950, 0x11C50, 0x11D50, 0x11DA0, 0x16A60, 0x16AC0,
    0x16B50, 0x1D7CE, 0x1D7D8, 0x1D7E2, 0x1D7EC, 0x1D7F6, 0x1E140, 0x1E2F0, 0x1E950, 0x1FBF0]

/-- The value of a decimal digit of any script. -/
def decimalValue? (c : Char) : Option Nat :=
  let n := c.toNat
  (digitZeros.find? fun z => z ≤ n && n < z + 10).map fun z => n - z

/-- The runs of digits do not overlap: each zero lies ten or more past the one before. -/
theorem digitZeros_pairwise : digitZeros.Pairwise fun a b => a + 10 ≤ b := by
  decide

/-- Two runs that both hold a code point are the same run. -/
theorem eq_of_mem_digitZeros {z z' n : Nat} (hz : z ∈ digitZeros) (hz' : z' ∈ digitZeros)
    (h : z ≤ n ∧ n < z + 10) (h' : z' ≤ n ∧ n < z' + 10) : z = z' := by
  -- two different zeros lie ten or more apart, in either order
  have hsep : z = z' ∨ z + 10 ≤ z' ∨ z' + 10 ≤ z :=
    List.Pairwise.forall_of_forall_of_flip (R := fun a b => a = b ∨ a + 10 ≤ b ∨ b + 10 ≤ a)
      (fun _ _ => Or.inl rfl)
      (digitZeros_pairwise.imp fun h => Or.inr (Or.inl h))
      (digitZeros_pairwise.imp fun h => Or.inr (Or.inr h)) hz hz'
  omega

/-- **A character is a digit of value `d` exactly when its code point is `d` past the zero of a
run**, with `d` below ten. -/
theorem decimalValue?_eq_some_iff {c : Char} {d : Nat} :
    decimalValue? c = some d ↔ d < 10 ∧ d ≤ c.toNat ∧ c.toNat - d ∈ digitZeros := by
  simp only [decimalValue?]
  constructor
  · intro h
    obtain ⟨z, hz, rfl⟩ := Option.map_eq_some_iff.1 h
    have hrun := List.find?_some hz
    simp only [Bool.and_eq_true, decide_eq_true_eq] at hrun
    refine ⟨by omega, by omega, ?_⟩
    rw [show c.toNat - (c.toNat - z) = z by omega]
    exact List.mem_of_find?_eq_some hz
  · rintro ⟨hd, hle, hmem⟩
    -- the run whose zero is `d` below the code point holds it, and the first run found is that one
    have hfound :
        (digitZeros.find? fun z => decide (z ≤ c.toNat) && decide (c.toNat < z + 10)).isSome :=
      List.find?_isSome.2 ⟨_, hmem, by simp only [Bool.and_eq_true, decide_eq_true_eq]; omega⟩
    obtain ⟨z, hz⟩ := Option.isSome_iff_exists.1 hfound
    have hrun := List.find?_some hz
    simp only [Bool.and_eq_true, decide_eq_true_eq] at hrun
    have hsame := eq_of_mem_digitZeros (List.mem_of_find?_eq_some hz) hmem hrun (by omega)
    simp only [hz, Option.map_some, Option.some.injEq]
    omega

example : decimalValue? '٣' = some 3 := by decide
example : decimalValue? '²' = none := by decide

/-- The value of an ASCII letter or digit as a digit of a base up to 36. -/
def asciiDigitValue? (c : Char) : Option Nat :=
  if c.isDigit then some (c.toNat - '0'.toNat)
  else if c.isLower then some (c.toNat - 'a'.toNat + 10)
  else if c.isUpper then some (c.toNat - 'A'.toNat + 10)
  else none

end MarkupTidy.Text
