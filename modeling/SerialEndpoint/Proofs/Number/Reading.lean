/-
Whole numbers read from text. A text is read exactly if it is a row of
digits, or one behind a plus sign, and the number is within the limit
(`readNatBelow?_eq_some_iff`). What is printed as digits is read back
(`readNatBelow?_digits`).
-/
import SerialEndpoint.Number.Decimal
import SerialEndpoint.Proofs.CommandLines

namespace SerialEndpoint

variable {text : List Char} {n limit : Nat}

/-- A row of digits and the number it denotes. -/
structure Denotes (digits : List Char) (n : Nat) : Prop where
  some : digits ≠ []
  all : ∀ c ∈ digits, c.isDigit = true
  value : digitsValue digits = n

theorem readDigits?_eq_some_iff : readDigits? text = some n ↔ Denotes text n := by
  unfold readDigits?
  constructor
  · intro h
    split at h
    · rename_i hdigits
      exact ⟨hdigits.1, List.all_eq_true.1 hdigits.2, Option.some_inj.1 h⟩
    · cases h
  · rintro ⟨hsome, hall, rfl⟩
    exact if_pos ⟨hsome, List.all_eq_true.2 hall⟩

/-- The digits of a number denote it. -/
theorem denotes_digits (n : Nat) : Denotes (toString n).toList n where
  some := digits_ne_nil n
  all := isDigit_nat n
  value := by
    rw [toList_digits]
    exact Nat.ofDigitChars_toDigits (by decide) (by decide)

theorem readDigits?_digits (n : Nat) : readDigits? (toString n).toList = some n :=
  readDigits?_eq_some_iff.2 (denotes_digits n)

theorem Denotes.not_plus {rest : List Char} : ¬ Denotes ('+' :: rest) n :=
  fun h => absurd (h.all '+' (List.mem_cons_self ..)) (by decide)

/-- Just the rows of digits are read as numbers, with or without a plus
sign before them. -/
theorem readNatBelow?_eq_some_iff :
    readNatBelow? limit text = some n ↔
      n < limit ∧ (Denotes text n ∨ ∃ digits, text = '+' :: digits ∧ Denotes digits n) := by
  unfold readNatBelow?
  rw [Option.filter_eq_some_iff, decide_eq_true_eq, and_comm, readDigits?_eq_some_iff]
  refine and_congr_right fun _ => ?_
  split
  · rename_i rest
    exact ⟨fun h => .inr ⟨rest, rfl, h⟩,
      fun h => h.elim (fun h => absurd h Denotes.not_plus) fun ⟨_, heq, h⟩ => by cases heq; exact h⟩
  · rename_i hplus
    exact ⟨.inl, fun h => h.elim id fun ⟨digits, heq, _⟩ => absurd heq (hplus digits)⟩

theorem readNatBelow?_digits (h : n < limit) : readNatBelow? limit (toString n).toList = some n :=
  readNatBelow?_eq_some_iff.2 ⟨h, .inl (denotes_digits n)⟩

end SerialEndpoint
