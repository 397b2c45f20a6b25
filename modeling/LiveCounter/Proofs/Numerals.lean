import LiveCounter.Text.Decimal

/-!
# Texts that denote numbers

A number is written in decimal digits, at least one of them, perhaps after a `+`. The scan from the
left gives up as soon as a value has left the range; no digits that follow could bring it back, so
it accepts exactly the texts whose number as a whole is in range, however long they are and however
many zeros they begin with.
-/

namespace LiveCounter.Decimal

/-- The text is one or more digits, perhaps after a `+`, and the number that they denote is `n`. -/
def Denotes (text : String) (n : Nat) : Prop :=
  ∃ digits : List Char, digits ≠ [] ∧ (∀ c ∈ digits, c.isDigit = true) ∧
    (text.toList = digits ∨ text.toList = '+' :: digits) ∧ Nat.ofDigitChars 10 digits 0 = n

/-- A digit stands for its distance from zero. -/
theorem digit?_of_isDigit {c : Char} (h : c.isDigit = true) :
    digit? c = some (c.toNat - '0'.toNat) := by
  have hbounds : '0' ≤ c ∧ c ≤ '9' := by
    simpa [Char.isDigit, Char.le_def] using h
  rw [digit?, if_pos hbounds]

/-- Other characters stand for nothing. -/
theorem digit?_of_not_isDigit {c : Char} (h : c.isDigit ≠ true) : digit? c = none := by
  have hbounds : ¬ ('0' ≤ c ∧ c ≤ '9') := by
    simpa [Char.isDigit, Char.le_def] using h
  rw [digit?, if_neg hbounds]

/-- More digits make no number smaller. -/
theorem le_ofDigitChars (digits : List Char) (value : Nat) :
    value ≤ Nat.ofDigitChars 10 digits value := by
  induction digits generalizing value with
  | nil => exact Nat.le_refl value
  | cons c digits ih =>
    have hlater := ih (10 * value + (c.toNat - '0'.toNat))
    rw [Nat.ofDigitChars_cons]
    omega

/-- The scan succeeds exactly if all characters are digits and the final value is in range. -/
theorem extend_eq_ok_iff {limit value : Nat} (hvalue : value ≤ limit) (overflow : Fault)
    (digits : List Char) (n : Nat) :
    extend limit overflow value digits = .ok n ↔
      (∀ c ∈ digits, c.isDigit = true) ∧ Nat.ofDigitChars 10 digits value = n ∧ n ≤ limit := by
  induction digits generalizing value with
  | nil =>
    simp only [extend, Except.ok.injEq, List.not_mem_nil, false_implies, implies_true, true_and,
      Nat.ofDigitChars_nil]
    exact ⟨fun h => ⟨h, h ▸ hvalue⟩, And.left⟩
  | cons c digits ih =>
    rw [List.forall_mem_cons, Nat.ofDigitChars_cons]
    by_cases hc : c.isDigit = true
    · simp only [extend, digit?_of_isDigit hc, hc, true_and]
      split
      · next hover =>
        have hlater := le_ofDigitChars digits (10 * value + (c.toNat - '0'.toNat))
        simp only [reduceCtorEq, false_iff]
        rintro ⟨-, rfl, hn⟩
        omega
      · next hfits => exact ih (Nat.not_lt.mp hfits)
    · simp [extend, digit?_of_not_isDigit hc, hc]

/-- A magnitude is read off one or more digits that denote a number up to the limit. -/
theorem magnitude_eq_ok_iff (limit : Nat) (overflow : Fault) (digits : List Char) (n : Nat) :
    magnitude limit overflow digits = .ok n ↔ digits ≠ [] ∧
      (∀ c ∈ digits, c.isDigit = true) ∧ Nat.ofDigitChars 10 digits 0 = n ∧ n ≤ limit := by
  cases digits with
  | nil => simp [magnitude]
  | cons c digits =>
    rw [magnitude, extend_eq_ok_iff (Nat.zero_le limit) overflow]
    · exact (and_iff_right (List.cons_ne_nil c digits)).symm
    · exact List.cons_ne_nil c digits

/-- A natural number without a sign is all magnitude. -/
theorem readNat_cons_of_ne {c : Char} (hc : c ≠ '+') (limit : Nat) (digits : List Char) :
    readNat limit (c :: digits) = magnitude limit .tooLarge (c :: digits) := by
  unfold readNat
  split
  · next hnil => exact absurd hnil (List.cons_ne_nil c digits)
  · next hplus => exact absurd (List.cons.inj hplus).1 hc
  · rfl

/-- A text is read exactly if it denotes a number within the limit. -/
theorem readNat_eq_ok_iff (limit : Nat) (text : String) (n : Nat) :
    readNat limit text.toList = .ok n ↔ Denotes text n ∧ n ≤ limit := by
  unfold Denotes
  cases text.toList with
  | nil =>
    simp only [readNat, reduceCtorEq, or_false, false_iff]
    rintro ⟨⟨digits, hne, -, hdigits, -⟩, -⟩
    exact hne hdigits.symm
  | cons c rest =>
    by_cases hc : c = '+'
    · subst hc
      rw [readNat, magnitude_eq_ok_iff]
      constructor
      · rintro ⟨hne, hdigits, hvalue, hlimit⟩
        exact ⟨⟨rest, hne, hdigits, Or.inr rfl, hvalue⟩, hlimit⟩
      · rintro ⟨⟨digits, hne, hdigits, hrest | hrest, hvalue⟩, hlimit⟩
        · exact absurd (hdigits '+' (hrest ▸ List.mem_cons_self)) (by decide)
        · obtain ⟨-, rfl⟩ := List.cons.inj hrest
          exact ⟨hne, hdigits, hvalue, hlimit⟩
    · rw [readNat_cons_of_ne hc, magnitude_eq_ok_iff]
      constructor
      · rintro ⟨hne, hdigits, hvalue, hlimit⟩
        exact ⟨⟨c :: rest, hne, hdigits, Or.inl rfl, hvalue⟩, hlimit⟩
      · rintro ⟨⟨digits, hne, hdigits, hrest | hrest, hvalue⟩, hlimit⟩
        · exact hrest ▸ ⟨hne, hdigits, hvalue, hlimit⟩
        · exact absurd (List.cons.inj hrest).1 hc

/-- A number in range is one of so many bits that is read off the text and keeps to the bounds. -/
theorem natInRange?_eq_some (bits lo hi : Nat) (text : String) (n : Nat) :
    natInRange? bits lo hi text = some n ↔
      readNat ((1 <<< bits) - 1) text.toList = .ok n ∧ lo ≤ n ∧ n ≤ hi := by
  unfold natInRange?
  cases readNat ((1 <<< bits) - 1) text.toList with
  | error fault => simp
  | ok m =>
    simp only [Option.ite_none_right_eq_some, Option.some.injEq, Except.ok.injEq]
    constructor
    · rintro ⟨hrange, rfl⟩
      exact ⟨rfl, hrange⟩
    · rintro ⟨rfl, hrange⟩
      exact ⟨hrange, rfl⟩

/-- A number is read from a text exactly if the text denotes it and it lies between the bounds. -/
theorem natInRange?_eq_some_iff {bits lo hi : Nat} (hhi : hi < 1 <<< bits) (text : String)
    (n : Nat) : natInRange? bits lo hi text = some n ↔ Denotes text n ∧ lo ≤ n ∧ n ≤ hi := by
  rw [natInRange?_eq_some, readNat_eq_ok_iff]
  constructor
  · rintro ⟨⟨hdenotes, -⟩, hrange⟩
    exact ⟨hdenotes, hrange⟩
  · rintro ⟨hdenotes, hlo, hn⟩
    exact ⟨⟨hdenotes, by omega⟩, hlo, hn⟩

end LiveCounter.Decimal
