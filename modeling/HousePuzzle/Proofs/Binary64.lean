import HousePuzzle.Binary64.Shortest
import HousePuzzle.Proofs.Numeral

/-! Binary numbers are written with digits and a few marks, so without blanks. -/

namespace HousePuzzle.Binary64

open Text (isBlank)
open Numeral (forall_mem_toDigits)

/-- What stands in a number beside its digits. -/
def marks : List Char := ['-', '+', '.', 'e', 'i', 'n', 'f', 'a']

section Written

variable {P : Char → Prop} (hdigit : ∀ c, Name.isDigit c = true → P c)
  (hmark : ∀ c ∈ marks, P c)

include hdigit

theorem forall_mem_replicate (n : Nat) : ∀ c ∈ List.replicate n '0', P c := by
  intro c hc
  rw [List.eq_of_mem_replicate hc]
  exact hdigit '0' (by decide)

include hmark

theorem forall_mem_layout {digits : List Char} (point : Int) (h : ∀ c ∈ digits, P c) :
    ∀ c ∈ layout digits point, P c := by
  have htake (n : Nat) : ∀ c ∈ digits.take n, P c := fun c hc => h c (List.mem_of_mem_take hc)
  have hdrop (n : Nat) : ∀ c ∈ digits.drop n, P c := fun c hc => h c (List.mem_of_mem_drop hc)
  have hdot : P '.' := hmark '.' (by decide)
  have hzero : P '0' := hdigit '0' (by decide)
  unfold layout
  split
  · -- One digit, the others behind a point, and the exponent.
    have hsign : P (if point - 1 < 0 then '-' else '+') := by
      split
      · exact hmark '-' (by decide)
      · exact hmark '+' (by decide)
    have htail : ∀ c ∈ (if digits.length ≤ 1 then [] else '.' :: digits.drop 1), P c := by
      split
      · simp
      · exact List.forall_mem_cons.2 ⟨hdot, hdrop 1⟩
    refine List.forall_mem_append.2 ⟨List.forall_mem_append.2 ⟨htake 1, htail⟩, ?_⟩
    refine List.forall_mem_cons.2 ⟨hmark 'e' (by decide), List.forall_mem_cons.2 ⟨hsign, ?_⟩⟩
    exact List.forall_mem_append.2
      ⟨forall_mem_replicate hdigit _, forall_mem_toDigits hdigit _⟩
  · split
    · refine List.forall_mem_cons.2 ⟨hzero, List.forall_mem_cons.2 ⟨hdot, ?_⟩⟩
      exact List.forall_mem_append.2 ⟨forall_mem_replicate hdigit _, h⟩
    · split
      · refine List.forall_mem_append.2
          ⟨List.forall_mem_append.2 ⟨h, forall_mem_replicate hdigit _⟩, ?_⟩
        exact List.forall_mem_cons.2 ⟨hdot, List.forall_mem_singleton.2 hzero⟩
      · exact List.forall_mem_append.2 ⟨htake _, List.forall_mem_cons.2 ⟨hdot, hdrop _⟩⟩

theorem forall_mem_writeFinite (m : Nat) (q : Int) : ∀ c ∈ writeFinite m q, P c := by
  unfold writeFinite
  split
  · have hzero : P '0' := hdigit '0' (by decide)
    simpa [hzero] using hmark '.' (by decide)
  · refine forall_mem_layout hdigit hmark _ fun c hc => ?_
    refine forall_mem_toDigits hdigit (shortest m q).1 c ?_
    exact List.mem_reverse.1 ((List.dropWhile_sublist _).mem (List.mem_reverse.1 hc))

theorem forall_mem_write (x : Binary64) : ∀ c ∈ x.write.toList, P c := by
  have hword {s : String} (h : s.toList.all (marks.contains ·) = true) : ∀ c ∈ s.toList, P c :=
    fun c hc => hmark c (by simpa using List.all_eq_true.1 h c hc)
  have hsign (negative : Bool) : ∀ c ∈ (if negative then "-" else "").toList, P c := by
    cases negative <;> exact hword (by decide)
  cases x with
  | finite negative m q =>
    rw [write, String.toList_append, String.toList_ofList]
    exact List.forall_mem_append.2 ⟨hsign negative, forall_mem_writeFinite hdigit hmark m q⟩
  | infinite negative =>
    rw [write, String.toList_append]
    exact List.forall_mem_append.2 ⟨hsign negative, hword (by decide)⟩
  | nan => exact hword (by decide)

end Written

theorem noBlank_marks : ∀ c ∈ marks, isBlank c = false := by
  have h : marks.all (fun c => !isBlank c) = true := by decide
  simpa using h

theorem noBlank_write (x : Binary64) : ∀ c ∈ x.write.toList, isBlank c = false :=
  forall_mem_write (fun _ => Numeral.isBlank_of_isDigit) noBlank_marks x

section Marked

/-- What tells the text of a binary number from that of a whole one: a point, or an exponent with
its sign. -/
def IsMarked (cs : List Char) : Prop :=
  '.' ∈ cs ∨ ('e' ∈ cs ∧ ('+' ∈ cs ∨ '-' ∈ cs))

theorem isMarked_layout (digits : List Char) (point : Int) : IsMarked (layout digits point) := by
  unfold layout
  split
  · refine .inr ⟨by simp, ?_⟩
    by_cases hsign : point - 1 < 0
    · exact .inr (by simp [hsign])
    · exact .inl (by simp [hsign])
  · refine .inl ?_
    split
    · simp
    · split <;> simp

theorem isMarked_writeFinite (m : Nat) (q : Int) : IsMarked (writeFinite m q) := by
  unfold writeFinite
  split
  · exact .inl (by simp)
  · exact isMarked_layout _ _

theorem IsMarked.append {cs : List Char} (h : IsMarked cs) (front : List Char) :
    IsMarked (front ++ cs) := by
  have hmem {c : Char} (hc : c ∈ cs) : c ∈ front ++ cs := List.mem_append_right front hc
  exact h.imp hmem fun he => ⟨hmem he.1, he.2.imp hmem hmem⟩

/-- A finite number is never written as a whole number is. -/
theorem isMarked_write (negative : Bool) (m : Nat) (q : Int) :
    IsMarked (write (.finite negative m q)).toList := by
  rw [write, String.toList_append, String.toList_ofList]
  exact (isMarked_writeFinite m q).append _

/-- The text of a whole number has no such mark. -/
theorem not_isMarked_numeral (n : Int) : ¬ IsMarked (Numeral.write n).toList := by
  have hplain : ∀ c ∈ (Numeral.write n).toList, c ≠ '.' ∧ c ≠ 'e' := by
    refine Numeral.forall_mem_write (fun c hc => ?_) (by decide) n
    constructor <;> rintro rfl <;> cases hc
  rintro (h | ⟨h, _⟩)
  · exact (hplain _ h).1 rfl
  · exact (hplain _ h).2 rfl

end Marked

end HousePuzzle.Binary64
