import HousePuzzle.Decoding
import HousePuzzle.Proofs.Numeral
import HousePuzzle.Proofs.Text.Blank
import HousePuzzle.Proofs.Text.Split

/-! The texts of assignments: each is read back as the house and the value that it is about. -/

namespace HousePuzzle

variable {c : Char} {cs : List Char} {v : String}

namespace Term

/-- The characters of a term are word characters and quotes. -/
theorem mem_render (hv : Name.ValueForm v.toList) (hc : c ∈ (ofValue v).render.toList) :
    Name.isWordChar c = true ∨ c = '"' := by
  unfold ofValue at hc
  split at hc
  · exact .inl (hv.2 c hc)
  · simp only [render, String.toList_append, List.mem_append] at hc
    rcases hc with (hc | hc) | hc
    · exact .inr (by simpa using hc)
    · exact .inl (hv.2 c hc)
    · exact .inr (by simpa using hc)

theorem stripQuotes_of_word (h : ∀ c ∈ cs, Name.isWordChar c = true) : stripQuotes cs = cs := by
  have hhead : cs.head? ≠ some '"' := by
    intro hhead
    have hquote := h '"' (List.mem_of_mem_head? hhead)
    exact absurd hquote (by decide)
  simp [stripQuotes, hhead]

theorem stripQuotes_quoted (cs : List Char) : stripQuotes ('"' :: (cs ++ ['"'])) = cs := by
  have hlast : ('"' :: (cs ++ ['"'])).getLast? = some '"' := by
    rw [← List.cons_append, List.getLast?_concat]
  simp [stripQuotes, hlast]

theorem unquote_quoted (v : String) : unquote (quoted v).render = v := by
  have htext : (quoted v).render.toList = '"' :: (v.toList ++ ['"']) := by simp [render]
  have htrimmed : Text.IsTrimmed ('"' :: (v.toList ++ ['"'])) := by
    refine ⟨?_, ?_⟩
    · rintro c ⟨⟩
      decide
    · rw [← List.cons_append, List.getLast?_concat]
      rintro c ⟨⟩
      decide
  rw [unquote, htext, htrimmed.trimChars_eq, stripQuotes_quoted, String.ofList_toList]

/-- A value is read back from its term. -/
theorem unquote_render (hv : Name.ValueForm v.toList) : unquote (ofValue v).render = v := by
  unfold ofValue
  split
  · have hblank : ∀ c ∈ v.toList, Text.isBlank c = false := fun c hc =>
      Numeral.isBlank_of_isWordChar (hv.2 c hc)
    rw [render, unquote, Text.trimChars_eq_self hblank, stripQuotes_of_word hv.2,
      String.ofList_toList]
  · exact unquote_quoted v

end Term

/-- The text of the atom that puts a value in a house. -/
def assignmentText (v : String) (h : Int) : String :=
  "assign(" ++ (Term.ofValue v).render ++ "," ++ Numeral.write h ++ ")"

namespace Atom

theorem isArgumentChar_of_isWordChar (h : Name.isWordChar c = true) : isArgumentChar c = true := by
  have hcomma : c ≠ ',' := Name.ne_of_isWordChar (by decide) h
  have hopen : c ≠ '(' := Name.ne_of_isWordChar (by decide) h
  have hclose : c ≠ ')' := Name.ne_of_isWordChar (by decide) h
  simp [isArgumentChar, hcomma, hopen, hclose]

theorem isArgument_render (hv : Name.ValueForm v.toList) :
    isArgument (Term.ofValue v).render.toList = true := by
  have hne : (Term.ofValue v).render.toList ≠ [] := by
    unfold Term.ofValue
    split
    · exact hv.1
    · simp [Term.render]
  have hall : ∀ c ∈ (Term.ofValue v).render.toList, isArgumentChar c = true := by
    intro c hc
    cases Term.mem_render hv hc with
    | inl hword => exact isArgumentChar_of_isWordChar hword
    | inr hquote =>
      rw [hquote]
      decide
  simp only [isArgument, Bool.and_eq_true, List.all_eq_true]
  exact ⟨by simpa using hne, hall⟩

theorem isArgument_of_word (h : Name.ValueForm cs) : isArgument cs = true := by
  simp only [isArgument, Bool.and_eq_true, List.all_eq_true]
  exact ⟨by simpa using h.1, fun c hc => isArgumentChar_of_isWordChar (h.2 c hc)⟩

theorem trimChars_call (inner : List Char) :
    Text.trimChars (opening ++ inner ++ [')']) = opening ++ inner ++ [')'] := by
  have hfirst : Text.trimLeft (opening ++ inner ++ [')']) = opening ++ inner ++ [')'] :=
    Text.trimLeft_cons (by decide)
  rw [Text.trimChars, hfirst, Text.trimRight_concat (by decide)]

theorem arguments?_call (inner : List Char) :
    arguments? (opening ++ inner ++ [')']) = some inner := by
  have hprefix : opening.isPrefixOf (opening ++ inner ++ [')']) = true := by
    rw [List.append_assoc]
    simp
  have hdrop : (opening ++ inner ++ [')']).drop opening.length = inner ++ [')'] := by
    rw [List.append_assoc, List.drop_left]
  have hlast : (opening ++ inner ++ [')']).getLast? = some ')' := List.getLast?_concat
  simp only [arguments?, hprefix, hlast, hdrop, decide_true, Bool.and_self, if_true,
    List.dropLast_concat]

/-- The text of an assignment is read back. -/
theorem read?_assignmentText {h : Int} (hv : Name.ValueForm v.toList) (hpos : 1 ≤ h)
    (hlen : (Numeral.write h).toList.length ≤ Numeral.digitLimit) :
    read? (assignmentText v h) = some (h, v) := by
  obtain ⟨n, rfl⟩ := Int.eq_ofNat_of_zero_le (show 0 ≤ h by omega)
  rw [Numeral.write_natCast] at hlen
  have hdigits : Name.ValueForm (Numeral.writeNat n).toList := by
    rw [Numeral.toList_writeNat]
    exact (Numeral.digitsForm_toDigits n).valueForm
  have htext : (assignmentText v n).toList = opening ++
      ((Term.ofValue v).render.toList ++ ',' :: (Numeral.writeNat n).toList) ++ [')'] := by
    have hopening : opening = "assign(".toList := rfl
    rw [assignmentText, Numeral.write_natCast, hopening]
    simp
  have hcomma : ',' ∉ (Term.ofValue v).render.toList := by
    intro hmem
    have hargument := isArgument_render hv
    simp only [isArgument, Bool.and_eq_true, List.all_eq_true] at hargument
    exact absurd (hargument.2 _ hmem) (by decide)
  have hblank : ∀ c ∈ (Numeral.writeNat n).toList, Text.isBlank c = false :=
    fun c hc => Numeral.isBlank_of_isWordChar (hdigits.2 c hc)
  have htrim : Text.trim (Numeral.writeNat n) = Numeral.writeNat n := by
    rw [Text.trim, Text.trimChars_eq_self hblank, String.ofList_toList]
  rw [read?, htext, trimChars_call, arguments?_call]
  simp only [Option.bind_eq_bind, Option.bind_some, Text.cutAtChar?_append hcomma,
    isArgument_render hv, isArgument_of_word hdigits, Bool.and_self, if_true,
    String.ofList_toList, htrim, Numeral.read_writeNat hlen, Term.unquote_render hv]

theorem read?_eq_none {atom : String} (h : ¬ opening <+: Text.trimChars atom.toList) :
    read? atom = none := by
  have hprefix : opening.isPrefixOf (Text.trimChars atom.toList) = false := by
    rw [← Bool.not_eq_true, List.isPrefixOf_iff_prefix]
    exact h
  simp [read?, arguments?, hprefix]

end Atom

end HousePuzzle
