import HousePuzzle.Console.Markup
import HousePuzzle.Proofs.Text.Quoted
import HousePuzzle.Proofs.Traversal

/-!
Texts that cannot be shown because a number in them cannot be read. Such a number is a share of a
colour, and all its characters are digits.
-/

namespace HousePuzzle

theorem Text.mem_of_mem_splitAtChar {sep c : Char} {cs piece : List Char}
    (hpiece : piece ∈ splitAtChar sep cs) (hc : c ∈ piece) : c ∈ cs := by
  induction cs generalizing piece with
  | nil =>
    obtain rfl := List.mem_singleton.1 hpiece
    exact hc
  | cons d cs ih =>
    unfold splitAtChar at hpiece
    split at hpiece
    · rcases List.mem_cons.1 hpiece with rfl | hpiece
      · cases hc
      · exact List.mem_cons_of_mem d (ih hpiece hc)
    · split at hpiece
      · obtain rfl := List.mem_singleton.1 hpiece
        rw [List.mem_singleton.1 hc]
        exact List.mem_cons_self
      · next first rest heq =>
        rw [heq] at ih
        rcases List.mem_cons.1 hpiece with rfl | hpiece
        · rcases List.mem_cons.1 hc with rfl | hc
          · exact List.mem_cons_self
          · exact List.mem_cons_of_mem d (ih List.mem_cons_self hc)
        · exact List.mem_cons_of_mem d (ih (List.mem_cons_of_mem first hpiece) hc)

variable {e : Numeral.Error}

/-- What is said of the number cannot be taken for a tag. -/
def Numeral.Error.IsUntagged (e : Numeral.Error) : Prop :=
  '[' ∉ e.message.toList

theorem Numeral.isUntagged_tooLong (n : Nat) : (Error.tooLong n).IsUntagged := by
  have hdigits (k : Nat) : '[' ∉ (writeNat k).toList := by
    rw [toList_writeNat]
    exact fun hmem => absurd (Nat.isDigit_of_mem_toDigits (by decide) (by decide) hmem) (by decide)
  unfold Error.IsUntagged Error.message
  simp only [String.toList_append, List.mem_append, not_or]
  exact ⟨⟨⟨⟨by decide, hdigits _⟩, by decide⟩, hdigits _⟩, by decide⟩

theorem Numeral.isUntagged_of_read {text : String} (htext : '[' ∉ text.toList)
    (h : read text = .error e) : e.IsUntagged := by
  have hquoted : ∀ c ∈ Text.quotedChars text.toList, c ≠ '[' :=
    Text.forall_mem_quotedChars (by decide) fun c hc => ne_of_mem_of_not_mem hc htext
  have hmalformed : (Error.malformed text).IsUntagged := by
    unfold Error.IsUntagged Error.message
    rw [String.toList_append, List.mem_append, not_or]
    refine ⟨by decide, fun hmem => ?_⟩
    rw [String.toList_ofList] at hmem
    exact hquoted '[' (List.mem_of_mem_take hmem) rfl
  unfold read at h
  simp only at h
  split_ifs at h
  all_goals cases h
  · exact hmalformed
  · exact isUntagged_tooLong _
  · exact hmalformed

namespace Colour

theorem isUntagged_of_isMixed {cs : List Char} (h : isMixed cs = .error e) : e.IsUntagged := by
  unfold isMixed at h
  split at h
  · next shares _ =>
    simp only at h
    split at h
    · next hshares =>
      simp only [Bool.and_eq_true, List.all_eq_true] at hshares
      rcases Except.bind_eq_error_iff.1 h with h | ⟨_, _, hpure⟩
      · obtain ⟨piece, hpiece, hread⟩ := exists_of_mapM_eq_error h
        refine Numeral.isUntagged_of_read (fun hmem => ?_) hread
        rw [String.toList_ofList] at hmem
        have hshare := hshares.2 '[' (Text.mem_of_mem_splitAtChar hpiece hmem)
        exact absurd hshare (by decide)
      · cases hpure
    · cases h
  · cases h

theorem isUntagged_of_isColour {cs : List Char} (h : isColour cs = .error e) : e.IsUntagged := by
  unfold isColour at h
  split at h
  · cases h
  · split at h
    · cases h
    · exact isUntagged_of_isMixed h

end Colour

namespace Style

theorem isUntagged_of_addWords {s : Style} {words : List String} (h : s.addWords words = .error e) :
    e.IsUntagged := by
  fun_induction addWords s words with
  | case1 => cases h
  | case2 s word ground rest _ _ ih =>
    rcases Except.bind_eq_error_iff.1 h with h | ⟨holds, _, h⟩
    · exact Colour.isUntagged_of_isColour h
    · split at h
      · exact ih h
      · cases h
  | case3 s word property rest _ name _ ih => exact ih h
  | case4 => cases h
  | case5 s word target rest _ ih => exact ih h
  | case6 | case7 | case8 => cases h
  | case9 s word rest name _ _ _ _ _ _ _ ih => exact ih h
  | case10 s word rest _ _ _ _ _ _ _ ih =>
    rcases Except.bind_eq_error_iff.1 h with h | ⟨holds, _, h⟩
    · exact Colour.isUntagged_of_isColour h
    · split at h
      · exact ih h
      · cases h

theorem isUntagged_of_normalName {cs : List Char} (h : normalName cs = .error e) :
    e.IsUntagged := by
  rcases Except.bind_eq_error_iff.1 h with h | ⟨s?, _, h⟩
  · unfold read? at h
    split at h
    · cases h
    · exact isUntagged_of_addWords h
  · split at h
    · cases h
    · cases h

end Style

namespace Markup

theorem isUntagged_of_normalName {cs : List Char} (h : normalName cs = .error (.numeral e)) :
    e.IsUntagged := by
  obtain ⟨d, hd, heq⟩ := Except.mapError_eq_error_iff.1 h
  obtain rfl := Error.numeral.inj heq
  exact Style.isUntagged_of_normalName hd

theorem checked_ne_numeral {tag : Tag} : checked tag ≠ .error (.numeral e) := by
  intro h
  unfold checked at h
  split at h
  · split at h
    · obtain ⟨_, _, heq⟩ := Except.mapError_eq_error_iff.1 h
      cases heq
    · cases h
  · cases h

theorem isUntagged_of_shown {t : StyledText} {opened behind : List Tag} {ps : List Piece}
    (h : shown t opened behind ps = .error (.numeral e)) : e.IsUntagged := by
  fun_induction shown t opened behind ps with
  | case1 => cases h
  | case2 _ _ _ _ _ ih => exact ih h
  | case3 => cases h
  | case4 _ _ _ _ _ _ _ _ _ _ _ ih =>
    rcases Except.bind_eq_error_iff.1 h with h | ⟨_, _, h⟩
    · exact absurd h checked_ne_numeral
    · exact ih h
  | case5 _ _ _ _ _ _ _ _ _ _ ih =>
    rcases Except.bind_eq_error_iff.1 h with h | ⟨_, _, h⟩
    · exact isUntagged_of_normalName h
    · split at h
      · rcases Except.bind_eq_error_iff.1 h with h | ⟨_, _, h⟩
        · exact absurd h checked_ne_numeral
        · exact ih _ _ h
      · cases h
  | case6 _ _ _ _ _ _ _ _ _ _ ih =>
    rcases Except.bind_eq_error_iff.1 h with h | ⟨_, _, h⟩
    · exact isUntagged_of_normalName h
    · exact ih _ h

/-- A number in a text that cannot be read is reported in a text that can be shown. -/
theorem isUntagged_of_render {text : String} (h : render text = .error (.numeral e)) :
    e.IsUntagged := by
  rcases Except.bind_eq_error_iff.1 h with h | ⟨⟨t, tags⟩, _, h⟩
  · exact isUntagged_of_shown h
  · rcases Except.bind_eq_error_iff.1 h with h | ⟨_, _, h⟩
    · obtain ⟨⟨tag, _⟩, _, h⟩ := exists_of_forM_eq_error h
      exact isUntagged_of_normalName (Except.map_eq_error_iff.1 h)
    · cases h

end Markup

end HousePuzzle
