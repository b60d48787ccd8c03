import HousePuzzle.Proofs.Compilation.Reading

/-! The terms of values: each is read as one symbol, and no two values have the same. -/

namespace HousePuzzle

open Name (ValueForm EndsInLine)

variable {s t v w : String}

theorem Name.hasForm_eq {form : List Char → Bool} (h : ¬ EndsInLine s) :
    hasForm form s = form s.toList := by
  have hlast : decide (s.toList.getLast? = some '\n') = false := decide_eq_false h
  rw [hasForm, hlast, Bool.false_and, Bool.or_false]

namespace Term

theorem tokens_render {t : Term} (h : t.Readable) :
    Asp.tokens t.render = some [.symbol t.symbol] := by
  apply Asp.tokens_of_scan
  rw [isToken_render h _ (Asp.stops_cons rfl _)]
  rfl

theorem isPlain_iff (hline : ¬ EndsInLine v) :
    isPlain v = true ↔ v ≠ Name.negation ∧
      (Name.ConstantForm v.toList ∨ Name.isNumeralForm v.toList = true) := by
  rw [isPlain, Name.hasForm_eq hline, Name.hasForm_eq hline, Bool.and_eq_true, Bool.or_eq_true,
    Name.isConstantForm_iff, decide_eq_true_eq]

theorem readable_ofValue (hform : ValueForm v.toList) (hline : ¬ EndsInLine v) :
    (ofValue v).Readable := by
  unfold ofValue
  split
  · next hplain =>
    obtain ⟨hnot, hconstant | hnumeral⟩ := (isPlain_iff hline).1 hplain
    · exact .inl ⟨hconstant, hnot⟩
    · exact .inr hnumeral
  · exact hform.2

/-- The term that a symbol is read from. -/
def ofSymbol : Asp.Symbol → Term
  | .number n => .plain (Numeral.write n)
  | .constant name => .plain name
  | .text s => .quoted s

theorem ofSymbol_symbol (t : Term) : ofSymbol t.symbol = t := by
  cases t with
  | plain v =>
    rw [symbol]
    split
    · next hv =>
      have hwrite : Numeral.writeNat (Nat.ofDigitChars 10 v.toList 0) = v := by
        apply String.toList_inj.1
        rw [Numeral.toList_writeNat, Numeral.toDigits_of_isNumeralForm hv]
      rw [ofSymbol, Numeral.write_natCast, hwrite]
    · rfl
  | quoted v => rfl

theorem symbol_injective : Function.Injective symbol :=
  Function.LeftInverse.injective ofSymbol_symbol

theorem ofValue_injective : Function.Injective ofValue := by
  intro v w h
  rw [← value_ofValue v, h, value_ofValue]

theorem symbol_ofValue_inj : (ofValue v).symbol = (ofValue w).symbol ↔ v = w :=
  (symbol_injective.comp ofValue_injective).eq_iff

end Term

end HousePuzzle
