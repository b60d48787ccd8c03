/-! Texts cut at a character. -/

namespace HousePuzzle.Text

/-- There is one piece more than there are cuts. -/
def splitAtChar (sep : Char) : List Char → List (List Char)
  | [] => [[]]
  | c :: rest =>
    if c = sep then [] :: splitAtChar sep rest
    else
      match splitAtChar sep rest with
      | [] => [[c]]
      | piece :: pieces => (c :: piece) :: pieces

/-- What stands before and behind the first such character, if there is one. -/
def cutAtChar? (sep : Char) : List Char → Option (List Char × List Char)
  | [] => none
  | c :: rest =>
    if c = sep then some ([], rest)
    else (cutAtChar? sep rest).map fun (before, behind) => (c :: before, behind)

theorem splitAtChar_ne_nil (sep : Char) (cs : List Char) : splitAtChar sep cs ≠ [] := by
  induction cs with
  | nil => simp [splitAtChar]
  | cons c rest ih =>
    simp only [splitAtChar]
    split
    · simp
    · split <;> simp

theorem cutAtChar?_eq_some {sep : Char} {cs before behind : List Char}
    (h : cutAtChar? sep cs = some (before, behind)) :
    cs = before ++ sep :: behind ∧ sep ∉ before := by
  induction cs generalizing before behind with
  | nil => simp [cutAtChar?] at h
  | cons c rest ih =>
    simp only [cutAtChar?] at h
    split at h
    · next hc =>
      obtain ⟨rfl, rfl⟩ := Prod.mk.inj (Option.some.inj h)
      simp [hc]
    · next hc =>
      obtain ⟨⟨b, a⟩, hb, heq⟩ := Option.map_eq_some_iff.1 h
      obtain ⟨rfl, rfl⟩ := Prod.mk.inj heq
      obtain ⟨rfl, hmem⟩ := ih hb
      exact ⟨rfl, by simp [hmem, Ne.symm hc]⟩

end HousePuzzle.Text
