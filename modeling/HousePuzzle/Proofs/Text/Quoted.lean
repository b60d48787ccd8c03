import HousePuzzle.Text.Quoted
import Mathlib.Data.Nat.Digits.Defs

/-! Quoted texts have no characters but their own and those of the escapes. -/

namespace HousePuzzle.Text

def hexDigits : List Char := "0123456789abcdef".toList

/-- The quotes, and what a character is written with that does not stand for itself. -/
def escapeMarks : List Char := "'\"\\nrtxuU".toList ++ hexDigits

variable {c : Char} {cs : List Char}

/-- What holds of each character of a text is decided over the text, not over all characters. -/
instance decidableForallMem (P : Char → Prop) [DecidablePred P] (cs : List Char) :
    Decidable (∀ c ∈ cs, P c) :=
  List.decidableBAll P cs

theorem mem_hexDigits_of_mem_toDigits {n : Nat} (h : c ∈ Nat.toDigits 16 n) : c ∈ hexDigits := by
  have hdigit : ∀ d < 16, Nat.digitChar d ∈ hexDigits := by decide
  induction n using Nat.strongRecOn with
  | ind n ih =>
    by_cases hlt : n < 16
    · rw [Nat.toDigits_of_lt_base hlt, List.mem_singleton] at h
      exact h ▸ hdigit n hlt
    · have hsplit : 16 * (n / 16) + n % 16 = n := Nat.div_add_mod n 16
      have hmod : n % 16 < 16 := Nat.mod_lt n (by decide)
      rw [← hsplit, ← Nat.toDigits_append_toDigits (by decide) (by omega) hmod,
        Nat.toDigits_of_lt_base hmod, List.mem_append, List.mem_singleton] at h
      rcases h with h | rfl
      · exact ih (n / 16) (by omega) h
      · exact hdigit _ hmod

theorem mem_hexDigits_of_mem_hex {width n : Nat} (h : c ∈ hex width n) : c ∈ hexDigits := by
  rw [hex, padLeft, List.mem_append] at h
  rcases h with h | h
  · rw [List.eq_of_mem_replicate h]
    decide
  · exact mem_hexDigits_of_mem_toDigits h

section Marks

variable {P : Char → Prop} (hmarks : ∀ d ∈ escapeMarks, P d)

include hmarks

theorem forall_mem_escape {mark : Char} {width n : Nat} (hmark : mark ∈ escapeMarks) :
    ∀ d ∈ '\\' :: mark :: hex width n, P d := by
  simp only [List.forall_mem_cons]
  refine ⟨hmarks _ (by decide), hmarks _ hmark, fun d hd => hmarks d ?_⟩
  exact List.mem_append_right _ (mem_hexDigits_of_mem_hex hd)

theorem forall_mem_quotedChar {quote : Char} (hc : P c) : ∀ d ∈ quotedChar quote c, P d := by
  have hpair (mark : Char) (hmark : P mark) : ∀ d ∈ ['\\', mark], P d := by
    simp only [List.forall_mem_cons]
    exact ⟨hmarks _ (by decide), hmark, by simp⟩
  unfold quotedChar
  split_ifs
  · exact hpair c hc
  · exact hpair _ (hmarks _ (by decide))
  · exact hpair _ (hmarks _ (by decide))
  · exact hpair _ (hmarks _ (by decide))
  · exact List.forall_mem_singleton.2 hc
  · exact forall_mem_escape hmarks (by decide)
  · exact forall_mem_escape hmarks (by decide)
  · exact forall_mem_escape hmarks (by decide)

theorem forall_mem_quotedChars (hcs : ∀ d ∈ cs, P d) : ∀ d ∈ quotedChars cs, P d := by
  have hquote : P (quoteFor cs) := by
    unfold quoteFor
    split
    · exact hmarks _ (by decide)
    · exact hmarks _ (by decide)
  rw [quotedChars, List.forall_mem_append, List.forall_mem_cons, List.forall_mem_singleton]
  refine ⟨⟨hquote, fun d hd => ?_⟩, hquote⟩
  obtain ⟨c, hc, hmem⟩ := List.mem_flatMap.1 hd
  exact forall_mem_quotedChar hmarks (hcs c hc) d hmem

end Marks

theorem toList_intercalate_cons (separator p : String) (ps : List String) :
    (separator.intercalate (p :: ps)).toList =
      p.toList ++ ps.flatMap fun q => separator.toList ++ q.toList := by
  induction ps generalizing p with
  | nil => simp
  | cons q ps ih =>
    rw [String.intercalate_cons_cons, String.toList_append, String.toList_append, ih,
      List.flatMap_cons, List.append_assoc, List.append_assoc]

end HousePuzzle.Text
