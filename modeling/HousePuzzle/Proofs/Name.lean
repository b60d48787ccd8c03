import HousePuzzle.Name
import Mathlib.Data.List.Basic

/-!
The forms of names, by the parts that a text of each form has. A text fits a form when it has it,
or has it but for one line feed at its end.
-/

namespace HousePuzzle.Name

variable {s : String} {cs : List Char}

/-- Underscores, a small letter and word characters. -/
def ConstantForm (cs : List Char) : Prop :=
  ∃ n c rest, cs = List.replicate n '_' ++ c :: rest ∧ isSmall c = true ∧
    ∀ d ∈ rest, isWordChar d = true

def ValueForm (cs : List Char) : Prop :=
  cs ≠ [] ∧ ∀ c ∈ cs, isWordChar c = true

def DigitsForm (cs : List Char) : Prop :=
  cs ≠ [] ∧ ∀ c ∈ cs, isDigit c = true

def Fits (form : List Char → Prop) (s : String) : Prop :=
  ∃ cs, form cs ∧ (s.toList = cs ∨ s.toList = cs ++ ['\n'])

def EndsInLine (s : String) : Prop :=
  s.toList.getLast? = some '\n'

instance : Decidable (EndsInLine s) :=
  inferInstanceAs (Decidable (_ = _))

theorem between_iff_toNat {a b c : Char} :
    (decide (a ≤ c) && decide (c ≤ b)) = true ↔ a.toNat ≤ c.toNat ∧ c.toNat ≤ b.toNat := by
  rw [Bool.and_eq_true, decide_eq_true_eq, decide_eq_true_eq, Char.le_def, Char.le_def,
    UInt32.le_iff_toNat_le, UInt32.le_iff_toNat_le]
  rfl

theorem isSmall_iff_toNat {c : Char} : isSmall c = true ↔ 97 ≤ c.toNat ∧ c.toNat ≤ 122 :=
  between_iff_toNat

theorem isDigit_iff_toNat {c : Char} : isDigit c = true ↔ 48 ≤ c.toNat ∧ c.toNat ≤ 57 :=
  between_iff_toNat

theorem toNat_of_isWordChar {c : Char} (h : isWordChar c = true) :
    48 ≤ c.toNat ∧ c.toNat ≤ 122 := by
  simp only [isWordChar, Bool.or_eq_true, decide_eq_true_eq, isSmall_iff_toNat, isDigit_iff_toNat,
    between_iff_toNat (a := 'A')] at h
  rcases h with ((h | h) | h) | rfl
  · omega
  · change 65 ≤ c.toNat ∧ c.toNat ≤ 90 at h
    omega
  · omega
  · decide

theorem isSmall_ne_underscore {c : Char} (h : isSmall c = true) : c ≠ '_' := by
  rintro rfl
  simp [isSmall] at h

theorem isWordChar_of_isSmall {c : Char} (h : isSmall c = true) : isWordChar c = true := by
  simp [isWordChar, h]

theorem isWordChar_of_isDigit {c : Char} (h : isDigit c = true) : isWordChar c = true := by
  simp [isWordChar, h]

@[simp] theorem isWordChar_underscore : isWordChar '_' = true := by
  decide

theorem ne_of_isWordChar {c d : Char} (hd : isWordChar d = false) (hc : isWordChar c = true) :
    c ≠ d := by
  rintro rfl
  rw [hd] at hc
  cases hc

theorem isConstantForm_iff : isConstantForm cs = true ↔ ConstantForm cs := by
  induction cs with
  | nil => simp [isConstantForm, ConstantForm]
  | cons c cs ih =>
    by_cases hc : c = '_'
    · subst hc
      have hstep : isConstantForm ('_' :: cs) = isConstantForm cs := by simp [isConstantForm]
      rw [hstep, ih]
      constructor
      · rintro ⟨n, d, rest, rfl, hd, hrest⟩
        exact ⟨n + 1, d, rest, by simp [List.replicate_succ], hd, hrest⟩
      · rintro ⟨n, d, rest, heq, hd, hrest⟩
        cases n with
        | zero =>
          obtain ⟨rfl, rfl⟩ := List.cons.inj heq
          exact absurd rfl (isSmall_ne_underscore hd)
        | succ n =>
          rw [List.replicate_succ, List.cons_append] at heq
          exact ⟨n, d, rest, (List.cons.inj heq).2, hd, hrest⟩
    · have hstep : isConstantForm (c :: cs) = (isSmall c && cs.all isWordChar) := by
        simp [isConstantForm, hc]
      rw [hstep, Bool.and_eq_true, List.all_eq_true]
      constructor
      · rintro ⟨hsmall, hall⟩
        exact ⟨0, c, cs, rfl, hsmall, hall⟩
      · rintro ⟨n, d, rest, heq, hd, hrest⟩
        cases n with
        | zero =>
          obtain ⟨rfl, rfl⟩ := List.cons.inj heq
          exact ⟨hd, hrest⟩
        | succ n =>
          rw [List.replicate_succ, List.cons_append] at heq
          exact absurd (List.cons.inj heq).1 hc

theorem isValueForm_iff : isValueForm cs = true ↔ ValueForm cs := by
  simp [isValueForm, ValueForm]

theorem isDigitsForm_iff : isDigitsForm cs = true ↔ DigitsForm cs := by
  simp [isDigitsForm, DigitsForm]

theorem ConstantForm.valueForm (h : ConstantForm cs) : ValueForm cs := by
  obtain ⟨n, c, rest, rfl, hc, hrest⟩ := h
  refine ⟨by simp, fun d hd => ?_⟩
  rcases List.mem_append.1 hd with hd | hd
  · rw [List.eq_of_mem_replicate hd]
    exact isWordChar_underscore
  · rcases List.mem_cons.1 hd with rfl | hd
    · exact isWordChar_of_isSmall hc
    · exact hrest d hd

theorem DigitsForm.valueForm (h : DigitsForm cs) : ValueForm cs :=
  ⟨h.1, fun c hc => isWordChar_of_isDigit (h.2 c hc)⟩

theorem isDigit_eq_false_of_isSmall {c : Char} (h : isSmall c = true) : isDigit c = false := by
  rw [← Bool.not_eq_true, isDigit_iff_toNat]
  have hsmall := isSmall_iff_toNat.1 h
  omega

theorem ConstantForm.isDigit_head {c : Char} (h : ConstantForm (c :: cs)) :
    isDigit c = false := by
  obtain ⟨n, d, tail, heq, hd, _⟩ := h
  cases n with
  | zero =>
    cases heq
    exact isDigit_eq_false_of_isSmall hd
  | succ n =>
    rw [List.replicate_succ, List.cons_append] at heq
    cases heq
    rfl

theorem digitsForm_of_isNumeralForm (h : isNumeralForm cs = true) : DigitsForm cs := by
  unfold isNumeralForm at h
  split at h
  · exact ⟨by simp, List.all_eq_true.1 rfl⟩
  · simp only [Bool.and_eq_true, List.all_eq_true] at h
    exact ⟨by simp, List.forall_mem_cons.2 ⟨h.1.2, h.2⟩⟩
  · cases h

theorem ConstantForm.not_isNumeralForm (h : ConstantForm cs) : isNumeralForm cs = false := by
  cases hform : isNumeralForm cs with
  | false => rfl
  | true =>
    have hdigits := digitsForm_of_isNumeralForm hform
    cases cs with
    | nil => exact absurd rfl hdigits.1
    | cons c cs =>
      have hc := hdigits.2 c List.mem_cons_self
      rw [h.isDigit_head] at hc
      cases hc

theorem hasForm_iff {check : List Char → Bool} {form : List Char → Prop}
    (h : ∀ cs, check cs = true ↔ form cs) : hasForm check s = true ↔ Fits form s := by
  simp only [hasForm, Bool.or_eq_true, Bool.and_eq_true, decide_eq_true_eq, Fits]
  constructor
  · rintro (hs | ⟨hlast, hs⟩)
    · exact ⟨_, (h _).1 hs, .inl rfl⟩
    · exact ⟨_, (h _).1 hs, .inr (List.dropLast_append_getLast? _ hlast).symm⟩
  · rintro ⟨cs, hcs, heq | heq⟩
    · exact .inl (heq ▸ (h _).2 hcs)
    · rw [heq]
      exact .inr ⟨by simp, by simpa using (h _).2 hcs⟩

theorem length_le_of_fits (hs : s.toList = cs ∨ s.toList = cs ++ ['\n']) :
    cs.length ≤ s.toList.length := by
  rcases hs with hs | hs <;> simp [hs]

/-- Where no line feed ends the text, the form is that of the whole text. -/
theorem Fits.whole {form : List Char → Prop} (h : Fits form s) (hs : ¬ EndsInLine s) :
    form s.toList := by
  obtain ⟨cs, hcs, heq | heq⟩ := h
  · exact heq ▸ hcs
  · exact absurd (by simp [EndsInLine, heq]) hs

theorem isPredicate_iff : isPredicate s = true ↔ Fits ConstantForm s ∧ s ≠ negation := by
  simp [isPredicate, hasForm_iff fun _ => isConstantForm_iff]

theorem isValue_iff : isValue s = true ↔ Fits ValueForm s :=
  hasForm_iff fun _ => isValueForm_iff

theorem isDigits_iff : isDigits s = true ↔ Fits DigitsForm s :=
  hasForm_iff fun _ => isDigitsForm_iff

end HousePuzzle.Name
