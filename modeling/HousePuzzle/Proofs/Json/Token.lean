import HousePuzzle.Json.Text
import HousePuzzle.Json.Token
import HousePuzzle.Proofs.Numeral

/-!
The tokens of what is written: each text that stands for a token is read as that token, whatever
comes behind it.
-/

namespace HousePuzzle.Json

open Text (isAsciiDigit)

variable {c : Char} {cs rest : List Char} {position stop : Nat}

theorem tokens_space (hc : isSpace c = true) :
    tokens position (c :: rest) = tokens (position + 1) rest := by
  rw [tokens, hc, if_pos rfl]

theorem tokens_punctuation {t : Token} (hspace : isSpace c = false)
    (hc : punctuation? c = some t) :
    tokens position (c :: rest) = ⟨position, t⟩ :: tokens (position + 1) rest := by
  rw [tokens, hspace, if_neg Bool.false_ne_true, hc]

section Strings

theorem stringBody_quote : stringBody position ('"' :: rest) = .ok ([], position + 1) := by
  rw [stringBody]

theorem stringBody_escape {d : Char} (hd : simpleEscape? d = some c)
    (h : stringBody (position + 2) rest = .ok (cs, stop)) :
    stringBody position ('\\' :: d :: rest) = .ok (c :: cs, stop) := by
  have hu : d ≠ 'u' := by
    rintro rfl
    cases hd
  rw [stringBody, hd, h]
  · rfl
  · exact hu

theorem stringBody_plain (hquote : c ≠ '"') (hslash : c ≠ '\\') (hc : ¬ c.toNat < 0x20)
    (h : stringBody (position + 1) rest = .ok (cs, stop)) :
    stringBody position (c :: rest) = .ok (c :: cs, stop) := by
  rw [stringBody.eq_def]
  split <;> simp_all [bind, Except.bind, pure, Except.pure]

theorem hexFour?_append (h : cs.length = 4) : hexFour? (cs ++ rest) = hexFour? cs := by
  rw [hexFour?, hexFour?, List.take_left' h, List.take_of_length_le (Nat.le_of_eq h)]

/-- Control characters are written with four digits, which are read back. -/
theorem hex_of_control {n : Nat} (hn : n < 0x20) :
    (Text.hex 4 n).length = 4 ∧ hexFour? (Text.hex 4 n) = some n ∧ '\r' ∉ Text.hex 4 n := by
  have hall : (List.range 0x20).all (fun n => (Text.hex 4 n).length = 4 &&
      (hexFour? (Text.hex 4 n) = some n && !(Text.hex 4 n).contains '\r')) = true := by
    decide +kernel
  simpa using List.all_eq_true.1 hall n (List.mem_range.2 hn)

theorem stringBody_control (hc : c.toNat < 0x20)
    (h : stringBody (position + 6) rest = .ok (cs, stop)) :
    stringBody position ('\\' :: 'u' :: (Text.hex 4 c.toNat ++ rest)) = .ok (c :: cs, stop) := by
  obtain ⟨hlength, hhex, _⟩ := hex_of_control hc
  have hrest : rest ≠ [] := by
    rintro rfl
    rw [stringBody] at h
    cases h
  have hlong : ¬ (Text.hex 4 c.toNat ++ rest).length ≤ 4 := by
    have := List.length_pos_iff.2 hrest
    rw [List.length_append]
    omega
  have hhigh : (decide (0xD800 ≤ c.toNat) && decide (c.toNat < 0xDC00)) = false := by
    rw [decide_eq_false (by omega), Bool.false_and]
  have hchar : unitChar c.toNat = c := by
    have hlow : (decide (0xD800 ≤ c.toNat) && decide (c.toNat < 0xE000)) = false := by
      rw [decide_eq_false (by omega), Bool.false_and]
    rw [unitChar, hlow, if_neg Bool.false_ne_true, Char.ofNat_toNat]
  rw [stringBody, if_neg hlong, hexFour?_append hlength, hhex]
  simp only [hhigh, if_neg Bool.false_ne_true, List.drop_left' hlength, h, hchar]
  rfl

/-- A character is written with a short escape, with the number of a control character, or as it
is. -/
theorem escapedChar_cases (c : Char) :
    (∃ d, escapedChar c = ['\\', d] ∧ simpleEscape? d = some c) ∨
      (escapedChar c = '\\' :: 'u' :: Text.hex 4 c.toNat ∧ c.toNat < 0x20) ∨
        (escapedChar c = [c] ∧ c ≠ '"' ∧ c ≠ '\\' ∧ ¬ c.toNat < 0x20) := by
  unfold escapedChar
  split
  · next h =>
    simp only [Bool.or_eq_true, decide_eq_true_eq] at h
    rcases h with rfl | rfl <;> exact .inl ⟨_, rfl, rfl⟩
  · next h =>
    simp only [Bool.or_eq_true, decide_eq_true_eq, not_or] at h
    split
    · next hc => exact .inl ⟨_, rfl, by rw [hc]; rfl⟩
    · split
      · next hc => exact .inl ⟨_, rfl, by rw [hc]; rfl⟩
      · split
        · next hc => exact .inl ⟨_, rfl, by rw [hc]; rfl⟩
        · split
          · next hc => exact .inl ⟨_, rfl, by rw [hc]; rfl⟩
          · split
            · next hc => exact .inl ⟨_, rfl, by rw [hc]; rfl⟩
            · split
              · next hc => exact .inr (.inl ⟨rfl, hc⟩)
              · next hc => exact .inr (.inr ⟨rfl, h.1, h.2, hc⟩)

/-- A carriage return is always written with an escape. -/
theorem carriageReturn_notMem_escapedChar (c : Char) : '\r' ∉ escapedChar c := by
  rcases escapedChar_cases c with ⟨d, heq, hd⟩ | ⟨heq, hc⟩ | ⟨heq, _, _, hc⟩
  · rw [heq]
    simp only [List.mem_cons, List.not_mem_nil, or_false, not_or]
    refine ⟨by decide, ?_⟩
    rintro rfl
    cases hd
  · rw [heq]
    simp only [List.mem_cons, not_or]
    exact ⟨by decide, by decide, (hex_of_control hc).2.2⟩
  · rw [heq, List.mem_singleton]
    rintro rfl
    exact hc (by decide)

theorem carriageReturn_notMem_escaped (s : String) : '\r' ∉ (escaped s).toList := by
  have hbody : '\r' ∉ s.toList.flatMap escapedChar := by
    rw [List.mem_flatMap]
    rintro ⟨c, _, hc⟩
    exact carriageReturn_notMem_escapedChar c hc
  simpa [escaped] using hbody

theorem stringBody_escapedChar
    (h : stringBody (position + (escapedChar c).length) rest = .ok (cs, stop)) :
    stringBody position (escapedChar c ++ rest) = .ok (c :: cs, stop) := by
  rcases escapedChar_cases c with ⟨d, heq, hd⟩ | ⟨heq, hc⟩ | ⟨heq, hquote, hslash, hc⟩
  · rw [heq] at h ⊢
    exact stringBody_escape hd h
  · rw [heq] at h ⊢
    have hlength : ('\\' :: 'u' :: Text.hex 4 c.toNat).length = 6 := by
      simp [(hex_of_control hc).1]
    rw [hlength] at h
    exact stringBody_control hc h
  · rw [heq] at h ⊢
    exact stringBody_plain hquote hslash hc h

theorem stringBody_flatMap (cs : List Char) (position : Nat) (rest : List Char) :
    stringBody position (cs.flatMap escapedChar ++ '"' :: rest) =
      .ok (cs, position + (cs.flatMap escapedChar).length + 1) := by
  induction cs generalizing position with
  | nil => exact stringBody_quote
  | cons c cs ih =>
    have htail := ih (position + (escapedChar c).length)
    rw [List.flatMap_cons, List.append_assoc, stringBody_escapedChar htail, List.length_append,
      Nat.add_assoc position]

/-- A text between quotes is a token, whatever comes behind it. -/
theorem tokens_escaped (s : String) (position : Nat) (rest : List Char) :
    tokens position ((escaped s).toList ++ rest) =
      ⟨position, .str s⟩ :: tokens (position + (escaped s).toList.length) rest := by
  have htext : (escaped s).toList = '"' :: (s.toList.flatMap escapedChar ++ ['"']) := by
    simp [escaped]
  have hbody : stringBody (position + 1) (s.toList.flatMap escapedChar ++ ['"'] ++ rest) =
      .ok (s.toList, position + 1 + (s.toList.flatMap escapedChar).length + 1) := by
    rw [List.append_assoc]
    exact stringBody_flatMap s.toList (position + 1) rest
  have hspace : isSpace '"' = false := by decide
  have hpunctuation : punctuation? '"' = none := by rfl
  have hdrop : (s.toList.flatMap escapedChar ++ ['"'] ++ rest).drop
      (position + 1 + (s.toList.flatMap escapedChar).length + 1 - (position + 1)) = rest := by
    refine List.drop_left' ?_
    rw [List.length_append, List.length_singleton]
    omega
  have hstop : position + 1 + (s.toList.flatMap escapedChar).length + 1 =
      position + ('"' :: (s.toList.flatMap escapedChar ++ ['"'])).length := by
    simp only [List.length_cons, List.length_append, List.length_nil]
    omega
  rw [htext, List.cons_append, tokens]
  simp only [hspace, hpunctuation, hbody, Bool.false_eq_true, if_false, if_true, hdrop,
    String.ofList_toList]
  rw [hstop]

end Strings

section Scalars

/-- A character with which only a scalar begins. -/
def StartsScalar (c : Char) : Prop :=
  isSpace c = false ∧ punctuation? c = none ∧ c ≠ '"'

theorem startsScalar_of_isAsciiDigit (hc : isAsciiDigit c = true) : StartsScalar c := by
  have hne {d : Char} (hd : isAsciiDigit d = false) : c ≠ d := by
    rintro rfl
    rw [hc] at hd
    cases hd
  refine ⟨?_, ?_, hne rfl⟩
  · simp [isSpace, hne (d := ' ') rfl, hne (d := '\t') rfl, hne (d := '\n') rfl,
      hne (d := '\r') rfl]
  · unfold punctuation?
    split
    any_goals exact absurd rfl (hne rfl)
    rfl

theorem tokens_scalar {v : Json} (hc : StartsScalar c)
    (h : scalar? (c :: (cs ++ rest)) = some (.ok v, (c :: cs).length)) :
    tokens position (c :: (cs ++ rest)) =
      ⟨position, .scalar v⟩ :: tokens (position + (c :: cs).length) rest := by
  have hdrop : (cs ++ rest).drop ((c :: cs).length - 1) = rest := List.drop_left' rfl
  rw [tokens]
  simp only [hc.1, hc.2.1, if_neg hc.2.2, h, hdrop, Bool.false_eq_true, if_false]

theorem tokens_null : tokens position ("null".toList ++ rest) =
    ⟨position, .scalar .null⟩ :: tokens (position + "null".toList.length) rest := by
  have hscalar : scalar? ('n' :: (['u', 'l', 'l'] ++ rest)) = some (.ok .null, 4) := rfl
  exact tokens_scalar ⟨by decide, rfl, by decide⟩ hscalar

theorem tokens_true : tokens position ("true".toList ++ rest) =
    ⟨position, .scalar (.bool true)⟩ :: tokens (position + "true".toList.length) rest := by
  have hscalar : scalar? ('t' :: (['r', 'u', 'e'] ++ rest)) = some (.ok (.bool true), 4) := rfl
  exact tokens_scalar ⟨by decide, rfl, by decide⟩ hscalar

theorem tokens_false : tokens position ("false".toList ++ rest) =
    ⟨position, .scalar (.bool false)⟩ :: tokens (position + "false".toList.length) rest := by
  have hscalar : scalar? ('f' :: (['a', 'l', 's', 'e'] ++ rest)) = some (.ok (.bool false), 5) :=
    rfl
  exact tokens_scalar ⟨by decide, rfl, by decide⟩ hscalar

end Scalars

section Numbers

/-- What may stand behind a number: nothing that would go on with it. -/
def Stops (rest : List Char) : Prop :=
  ∀ c ∈ rest.head?, isAsciiDigit c = false ∧ c ≠ '.' ∧ c ≠ 'e' ∧ c ≠ 'E'

variable {n : Nat}

theorem isAsciiDigit_of_mem_toDigits (hc : c ∈ Nat.toDigits 10 n) : isAsciiDigit c = true :=
  (Numeral.digitsForm_toDigits n).2 c hc

theorem takeWhile_isAsciiDigit (hrest : Stops rest) :
    (Nat.toDigits 10 n ++ rest).takeWhile isAsciiDigit = Nat.toDigits 10 n ∧
      (Nat.toDigits 10 n ++ rest).dropWhile isAsciiDigit = rest := by
  have hall : ∀ c ∈ Nat.toDigits 10 n, isAsciiDigit c = true := fun c hc =>
    isAsciiDigit_of_mem_toDigits hc
  rw [List.takeWhile_append_of_pos hall, List.dropWhile_append_of_pos hall]
  cases rest with
  | nil => simp
  | cons c rest => simp [(hrest c rfl).1]

theorem wholePart_toDigits (hrest : Stops rest) :
    wholePart (Nat.toDigits 10 n ++ rest) = (Nat.toDigits 10 n, rest) := by
  obtain ⟨htake, hdrop⟩ := takeWhile_isAsciiDigit (n := n) hrest
  rcases Nat.eq_zero_or_pos n with rfl | hn
  · rfl
  · unfold wholePart
    split
    · next tail heq =>
      have hhead : (Nat.toDigits 10 n ++ rest).head? = (Nat.toDigits 10 n).head? :=
        List.head?_append_of_ne_nil _ Nat.toDigits_ne_nil
      rw [heq] at hhead
      exact absurd rfl (Numeral.head_toDigits_ne_zero hn '0' hhead.symm)
    · rw [htake, hdrop]

theorem fractionPart_of_stops (hrest : Stops rest) : fractionPart rest = ([], rest) := by
  unfold fractionPart
  split
  · exact absurd rfl (hrest '.' rfl).2.1
  · rfl

theorem exponentPart_of_stops (hrest : Stops rest) : exponentPart rest = (none, rest) := by
  cases rest with
  | nil => rfl
  | cons c rest =>
    have hmark : (decide (c = 'e') || decide (c = 'E')) = false := by
      simp [(hrest c rfl).2.2]
    rw [exponentPart, hmark, if_neg Bool.false_ne_true]

theorem spelling?_toDigits (hrest : Stops rest) :
    spelling? (Nat.toDigits 10 n ++ rest) = some (⟨Nat.toDigits 10 n, [], none⟩, rest) := by
  rw [spelling?, wholePart_toDigits hrest]
  split
  · next heq => exact absurd (Prod.mk.inj heq).1 Nat.toDigits_ne_nil
  · next heq =>
    obtain ⟨rfl, rfl⟩ := Prod.mk.inj heq
    simp only [fractionPart_of_stops hrest, exponentPart_of_stops hrest]

theorem digitsNat_toDigits (n : Nat) : digitsNat (Nat.toDigits 10 n) = n := by
  change Text.digitsValue ((Nat.toDigits 10 n).map (·.toNat - 48)) = n
  rw [Numeral.digitsValue_map_toNat, Nat.ofDigitChars_ten_toDigits]

/-- No keyword has a digit for its first letter, nor for its second. -/
theorem keyword_letters : ∀ k ∈ keywords, ∃ a b tail, k.1 = a :: b :: tail ∧
    isAsciiDigit a = false ∧ isAsciiDigit b = false := by
  simp only [keywords, List.forall_mem_cons, List.not_mem_nil, false_imp_iff, implies_true,
    and_true]
  exact ⟨⟨_, _, _, rfl, rfl, rfl⟩, ⟨_, _, _, rfl, rfl, rfl⟩, ⟨_, _, _, rfl, rfl, rfl⟩,
    ⟨_, _, _, rfl, rfl, rfl⟩, ⟨_, _, _, rfl, rfl, rfl⟩, ⟨_, _, _, rfl, rfl, rfl⟩⟩

theorem find?_keywords_eq_none {d : Char} (hd : isAsciiDigit d = true)
    (hcs : cs.head? = some d ∨ (cs.drop 1).head? = some d) :
    keywords.find? (fun k => k.1.isPrefixOf cs) = none := by
  refine List.find?_eq_none.2 fun k hk hprefix => ?_
  obtain ⟨a, b, tail, heq, ha, hb⟩ := keyword_letters k hk
  obtain ⟨behind, rfl⟩ := List.isPrefixOf_iff_prefix.1 hprefix
  rw [heq] at hcs
  rcases hcs with hcs | hcs
  · obtain rfl := Option.some.inj hcs
    rw [ha] at hd
    cases hd
  · obtain rfl := Option.some.inj hcs
    rw [hb] at hd
    cases hd

theorem exists_head_toDigits (n : Nat) :
    ∃ d tail, Nat.toDigits 10 n = d :: tail ∧ isAsciiDigit d = true := by
  cases h : Nat.toDigits 10 n with
  | nil => exact absurd h Nat.toDigits_ne_nil
  | cons d tail =>
    exact ⟨d, tail, rfl, isAsciiDigit_of_mem_toDigits (h ▸ List.mem_cons_self)⟩

theorem value_toDigits (negative : Bool) (hn : (Nat.toDigits 10 n).length ≤ Numeral.digitLimit) :
    Spelling.value negative ⟨Nat.toDigits 10 n, [], none⟩ =
      .ok (.int (Numeral.signed negative n)) := by
  simp only [Spelling.value, if_neg (Nat.not_lt.2 hn), digitsNat_toDigits]

theorem scalar?_digits (hrest : Stops rest) :
    scalar? (Nat.toDigits 10 n ++ rest) =
      some (Spelling.value false ⟨Nat.toDigits 10 n, [], none⟩, (Nat.toDigits 10 n).length) := by
  obtain ⟨d, tail, heq, hd⟩ := exists_head_toDigits n
  have hkeyword : keywords.find? (fun k => k.1.isPrefixOf (Nat.toDigits 10 n ++ rest)) = none :=
    find?_keywords_eq_none hd (.inl (by rw [heq]; rfl))
  have hlength : (Nat.toDigits 10 n ++ rest).length - rest.length = (Nat.toDigits 10 n).length := by
    rw [List.length_append]
    omega
  rw [scalar?, hkeyword]
  · simp only [spelling?_toDigits hrest, Option.map_some, hlength]
  · intro after hminus
    rw [heq] at hminus
    obtain rfl := (List.cons.inj hminus).1
    cases hd

theorem scalar?_toDigits (hn : (Nat.toDigits 10 n).length ≤ Numeral.digitLimit)
    (hrest : Stops rest) :
    scalar? (Nat.toDigits 10 n ++ rest) = some (.ok (.int n), (Nat.toDigits 10 n).length) := by
  rw [scalar?_digits hrest, value_toDigits false hn, Numeral.signed, if_neg Bool.false_ne_true]

/-- Nothing is read behind a number that is too long. -/
theorem tokens_longNumeral (hn : Numeral.digitLimit < (Nat.toDigits 10 n).length)
    (hrest : Stops rest) :
    tokens position (Nat.toDigits 10 n ++ rest) =
      [⟨position, .longNumeral (Nat.toDigits 10 n).length⟩] := by
  obtain ⟨d, tail, heq, hd⟩ := exists_head_toDigits n
  have hscalar := scalar?_digits (n := n) hrest
  have hvalue : Spelling.value false ⟨Nat.toDigits 10 n, [], none⟩ =
      .error (Nat.toDigits 10 n).length := by
    simp only [Spelling.value, if_pos hn]
  obtain ⟨hspace, hpunctuation, hquote⟩ := startsScalar_of_isAsciiDigit hd
  rw [hvalue, heq, List.cons_append] at hscalar
  rw [heq, List.cons_append, tokens]
  simp only [hspace, hpunctuation, if_neg hquote, hscalar, Bool.false_eq_true, if_false]

theorem scalar?_neg_toDigits (hn : (Nat.toDigits 10 n).length ≤ Numeral.digitLimit)
    (hrest : Stops rest) :
    scalar? ('-' :: (Nat.toDigits 10 n ++ rest)) =
      some (.ok (.int (-n)), (Nat.toDigits 10 n).length + 1) := by
  obtain ⟨d, tail, heq, hd⟩ := exists_head_toDigits n
  have hkeyword :
      keywords.find? (fun k => k.1.isPrefixOf ('-' :: (Nat.toDigits 10 n ++ rest))) = none :=
    find?_keywords_eq_none hd (.inr (by rw [heq]; rfl))
  have hlength : ('-' :: (Nat.toDigits 10 n ++ rest)).length - rest.length =
      (Nat.toDigits 10 n).length + 1 := by
    rw [List.length_cons, List.length_append]
    omega
  rw [scalar?, hkeyword]
  simp only [spelling?_toDigits hrest, value_toDigits true hn, Option.map_some, hlength,
    Numeral.signed, if_true]

/-- How many digits a number has, its sign apart. -/
def digitCount (n : Int) : Nat :=
  (Nat.toDigits 10 n.natAbs).length

theorem writeShort_eq_ok {n : Int} (h : digitCount n ≤ Numeral.digitLimit) :
    Numeral.writeShort n = .ok (Numeral.write n) :=
  if_neg (Nat.not_lt.2 h)

theorem writeShort_eq_error {n : Int} (h : Numeral.digitLimit < digitCount n) :
    Numeral.writeShort n = .error .unwritable :=
  if_pos h

theorem scalar?_write {n : Int} (hn : digitCount n ≤ Numeral.digitLimit) (hrest : Stops rest) :
    scalar? ((Numeral.write n).toList ++ rest) =
      some (.ok (.int n), (Numeral.write n).toList.length) := by
  cases n with
  | ofNat n =>
    rw [Numeral.write, Numeral.toList_writeNat]
    exact scalar?_toDigits hn hrest
  | negSucc n =>
    have htext : (Numeral.write (.negSucc n)).toList = '-' :: Nat.toDigits 10 (n + 1) := by
      rw [Numeral.write, String.toList_append, Numeral.toList_writeNat]
      rfl
    rw [htext]
    exact scalar?_neg_toDigits hn hrest

theorem tokens_write {n : Int} (hn : digitCount n ≤ Numeral.digitLimit) (hrest : Stops rest) :
    tokens position ((Numeral.write n).toList ++ rest) =
      ⟨position, .scalar (.int n)⟩ ::
        tokens (position + (Numeral.write n).toList.length) rest := by
  have hstart : ∃ c cs, (Numeral.write n).toList = c :: cs ∧ StartsScalar c := by
    cases n with
    | ofNat n =>
      obtain ⟨d, tail, heq, hd⟩ := exists_head_toDigits n
      exact ⟨d, tail, by rw [Numeral.write, Numeral.toList_writeNat, heq],
        startsScalar_of_isAsciiDigit hd⟩
    | negSucc n =>
      refine ⟨'-', Nat.toDigits 10 (n + 1), ?_, by decide, rfl, by decide⟩
      rw [Numeral.write, String.toList_append, Numeral.toList_writeNat]
      rfl
  obtain ⟨c, cs, heq, hc⟩ := hstart
  have hscalar := scalar?_write hn hrest
  rw [heq] at hscalar ⊢
  exact tokens_scalar hc hscalar

end Numbers

end HousePuzzle.Json
