import HousePuzzle.Proofs.Compilation.Terms
import HousePuzzle.Proofs.Decoding.Atoms

/-!
Which values are put in quotes. A value is read back from its term whatever its characters are, as
long as no line feed ends it; and a name goes without quotes just when it stands for itself.
-/

namespace HousePuzzle

open Name (ValueForm ConstantForm EndsInLine)

variable {v : String}

theorem Name.ValueForm.not_endsInLine (h : ValueForm v.toList) : ¬ EndsInLine v :=
  fun hend => absurd (h.2 '\n' (List.mem_of_mem_getLast? hend)) (by decide)

namespace Term

section ReadBack

theorem valueForm_of_isPlain (hline : ¬ EndsInLine v) (h : isPlain v = true) :
    ValueForm v.toList := by
  obtain ⟨_, hconstant | hnumeral⟩ := (isPlain_iff hline).1 h
  · exact hconstant.valueForm
  · exact (Name.digitsForm_of_isNumeralForm hnumeral).valueForm

theorem unquote_ofValue (hline : ¬ EndsInLine v) : unquote (ofValue v).render = v := by
  cases hplain : isPlain v with
  | true => exact unquote_render (valueForm_of_isPlain hline hplain)
  | false =>
    rw [ofValue, hplain, if_neg Bool.false_ne_true]
    exact unquote_quoted v

/-- What goes without quotes has none in it. -/
theorem quote_notMem_of_isPlain (h : isPlain v = true) : '"' ∉ v.toList := by
  have hword {cs : List Char} (hcs : ValueForm cs)
      (hv : v.toList = cs ∨ v.toList = cs ++ ['\n']) : '"' ∉ v.toList := by
    have hquote : '"' ∉ cs := fun hmem => absurd (hcs.2 _ hmem) (by decide)
    rcases hv with hv | hv <;> simp [hv, hquote]
  simp only [isPlain, Bool.and_eq_true, Bool.or_eq_true,
    Name.hasForm_iff fun _ => Name.isConstantForm_iff, Name.hasForm_iff fun _ => Iff.rfl] at h
  obtain ⟨_, ⟨cs, hcs, hv⟩ | ⟨cs, hcs, hv⟩⟩ := h
  · exact hword hcs.valueForm hv
  · exact hword (Name.digitsForm_of_isNumeralForm hcs).valueForm hv

theorem render_ne_quoted (h : isPlain v = true) (w : String) : v ≠ (quoted w).render := by
  rintro rfl
  exact quote_notMem_of_isPlain h (by simp [render])

theorem render_ofValue_injective : Function.Injective fun v => (ofValue v).render := by
  intro v w h
  cases hv : isPlain v <;> cases hw : isPlain w <;> simp only [ofValue, hv, hw] at h
  · rw [← unquote_quoted v, ← unquote_quoted w]
    exact congrArg unquote h
  · exact absurd h.symm (render_ne_quoted hw v)
  · exact absurd h (render_ne_quoted hv w)
  · exact h

end ReadBack

section Needed

theorem render_eq_self_iff_isPlain : (ofValue v).render = v ↔ isPlain v = true := by
  cases hplain : isPlain v with
  | true => simp [ofValue, hplain, render]
  | false =>
    have hlength : (quoted v).render.length ≠ v.length := by
      have hquote : "\"".length = 1 := rfl
      simp only [render, String.length_append, hquote]
      omega
    simp only [ofValue, hplain, Bool.false_eq_true, if_false, iff_false]
    exact fun h => hlength (congrArg String.length h)

theorem render_of_not_isPlain (h : (ofValue v).render ≠ v) :
    (ofValue v).render = "\"" ++ v ++ "\"" := by
  rw [ne_eq, render_eq_self_iff_isPlain] at h
  rw [ofValue, if_neg h, render]

/-- Numerals and the names of predicates go without quotes. -/
theorem isPlain_iff_stands (hv : ValueForm v.toList) :
    isPlain v = true ↔ (∃ n, v = Numeral.writeNat n) ∨ Name.isPredicate v = true := by
  have hnegation : (∃ n, v = Numeral.writeNat n) → v ≠ Name.negation := by
    rintro hn rfl
    exact absurd (Numeral.isNumeralForm_iff.2 hn) (by decide)
  rw [isPlain_iff hv.not_endsInLine, Numeral.isNumeralForm_iff, Name.isPredicate,
    Name.hasForm_eq hv.not_endsInLine, Bool.and_eq_true, decide_eq_true_eq,
    Name.isConstantForm_iff]
  tauto

theorem symbol_ofValue_of_numeral (n : Nat) :
    (ofValue (Numeral.writeNat n)).symbol = .number n := by
  have hvalue : Name.ValueForm (Numeral.writeNat n).toList := by
    rw [Numeral.toList_writeNat]
    exact (Numeral.digitsForm_toDigits n).valueForm
  have hform := Numeral.isNumeralForm_iff.2 ⟨n, rfl⟩
  rw [ofValue, if_pos ((isPlain_iff_stands hvalue).2 (.inl ⟨n, rfl⟩)), symbol, if_pos hform,
    Numeral.toList_writeNat, Nat.ofDigitChars_ten_toDigits]

theorem symbol_ofValue_of_predicate (hv : ValueForm v.toList) (h : Name.isPredicate v = true) :
    (ofValue v).symbol = .constant v := by
  have hconstant : ConstantForm v.toList :=
    (Name.isPredicate_iff.1 h).1.whole hv.not_endsInLine
  rw [ofValue, if_pos ((isPlain_iff_stands hv).2 (.inr h)), symbol, hconstant.not_isNumeralForm,
    if_neg Bool.false_ne_true]

theorem symbol_ofValue_of_quoted (h : (ofValue v).render ≠ v) : (ofValue v).symbol = .text v := by
  rw [ne_eq, render_eq_self_iff_isPlain] at h
  rw [ofValue, if_neg h, symbol]

/-- The text of a value is taken for the value itself: it is one symbol, and none that belongs to
something else. -/
structure IsTaken (v text : String) : Prop where
  symbol : ∃ s, Asp.tokens text = some [.symbol s] ∧ (ofSymbol s).value = v
  number : ∀ n : Nat, v = Numeral.writeNat n → Asp.tokens text = some [.symbol (.number n)]
  constant : Name.isPredicate v = true → Asp.tokens text = some [.symbol (.constant v)]
  quoted : text ≠ v → Asp.tokens text = some [.symbol (.text v)]
  not_variable : ∀ x, Asp.tokens text ≠ some [.variable x]
  not_anonymous : text ≠ "_"
  not_keyword : text ≠ Name.negation
  not_other : ∀ n, Asp.tokens text = some [.symbol (.number n)] → v = Numeral.write n

theorem isTaken_ofValue (hv : ValueForm v.toList) : IsTaken v (ofValue v).render := by
  have htokens : Asp.tokens (ofValue v).render = some [.symbol (ofValue v).symbol] :=
    tokens_render (readable_ofValue hv hv.not_endsInLine)
  constructor
  case symbol => exact ⟨_, htokens, by rw [ofSymbol_symbol, value_ofValue]⟩
  case number =>
    rintro n rfl
    rw [htokens, symbol_ofValue_of_numeral]
  case constant =>
    intro h
    rw [htokens, symbol_ofValue_of_predicate hv h]
  case quoted =>
    intro h
    rw [htokens, symbol_ofValue_of_quoted h]
  case not_variable =>
    intro x h
    rw [htokens] at h
    cases h
  case not_anonymous =>
    intro h
    rw [h] at htokens
    cases htokens
  case not_keyword =>
    intro h
    rw [h] at htokens
    cases htokens
  case not_other =>
    intro n h
    have hsymbol : (ofValue v).symbol = .number n := by simpa [htokens] using h
    rw [← value_ofValue v, ← ofSymbol_symbol (ofValue v), hsymbol]
    rfl

end Needed

/-- A value that does not end in a line feed is read back from its term, and no two values have the
same term. A name stands for itself just when it is a numeral or could name a predicate; any other
is put in quotes, so that it is never taken for something else. -/
theorem quoted_where_needed :
    (∀ v, ¬ EndsInLine v → unquote (ofValue v).render = v) ∧
    Function.Injective (fun v => (ofValue v).render) ∧
    ∀ v, ValueForm v.toList →
      ((ofValue v).render = v ↔ (∃ n, v = Numeral.writeNat n) ∨ Name.isPredicate v = true) ∧
      ((ofValue v).render ≠ v → (ofValue v).render = "\"" ++ v ++ "\"") ∧
      IsTaken v (ofValue v).render := by
  refine ⟨fun v => unquote_ofValue, render_ofValue_injective, fun v hv => ⟨?_, ?_, ?_⟩⟩
  · rw [render_eq_self_iff_isPlain, isPlain_iff_stands hv]
  · exact render_of_not_isPlain
  · exact isTaken_ofValue hv

/-- A text of quotes and blanks, and a number with zeros in front. -/
theorem quoted_where_needed_zeros :
    (¬ EndsInLine "\n\"\t\"" ∧ unquote (ofValue "\n\"\t\"").render = "\n\"\t\"") ∧
    ValueForm "007".toList ∧ (ofValue "007").render = "\"007\"" ∧
      Asp.tokens (ofValue "007").render = some [.symbol (.text "007")] := by
  have hline : ¬ EndsInLine "\n\"\t\"" := by decide
  have hzeros : ValueForm "007".toList := Name.isValueForm_iff.1 rfl
  have hquoted : (ofValue "007").render ≠ "007" := by decide
  obtain ⟨hback, _, hnames⟩ := quoted_where_needed
  obtain ⟨_, hwritten, htaken⟩ := hnames "007" hzeros
  exact ⟨⟨hline, hback _ hline⟩, hzeros, hwritten hquoted, htaken.quoted hquoted⟩

end Term

end HousePuzzle
