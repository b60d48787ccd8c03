import HousePuzzle.Proofs.Asp.Reading
import HousePuzzle.Proofs.Numeral

/-! What the tokens of a text are, piece by piece: names, numerals, quoted texts, fixed phrases. -/

namespace HousePuzzle.Asp

open Name (isWordChar isDigit isSmall)

variable {cs rest : List Char} {ts : List Token}

def prepend (ts : List Token) (o : Option (List Token × Mode)) : Option (List Token × Mode) :=
  o.map fun p => (ts ++ p.1, p.2)

@[simp] theorem prepend_nil (o : Option (List Token × Mode)) : prepend [] o = o := by
  cases o <;> rfl

@[simp] theorem prepend_prepend (ts us : List Token) (o : Option (List Token × Mode)) :
    prepend ts (prepend us o) = prepend (ts ++ us) o := by
  cases o with
  | none => rfl
  | some p => simp [prepend]

theorem scan_cons {m n : Mode} {c : Char} (h : m.step c = some (ts, n)) :
    scan m (c :: cs) = prepend ts (scan n cs) := by
  cases hscan : scan n cs <;> simp [scan, h, hscan, prepend]

theorem scan_append_eq (m : Mode) (cs rest : List Char) :
    scan m (cs ++ rest) = (scan m cs).bind fun p => prepend p.1 (scan p.2 rest) := by
  induction cs generalizing m with
  | nil =>
    rw [List.nil_append, scan, Option.bind_some, prepend_nil]
  | cons c cs ih =>
    rw [List.cons_append, scan, scan]
    cases hstep : m.step c with
    | none => rfl
    | some p =>
      cases hscan : scan p.2 cs with
      | none => simp [ih, hscan]
      | some q =>
        cases hrest : scan q.2 rest <;> simp [ih, hscan, hrest, prepend]

theorem scan_append {m n : Mode} (h : scan m cs = some (ts, n)) :
    scan m (cs ++ rest) = prepend ts (scan n rest) := by
  rw [scan_append_eq, h, Option.bind_some]

/-- The end of a text ends a token as a blank would. -/
theorem finish_of_step {m : Mode} (h : m.step ' ' = some (ts, .idle)) : m.finish = some ts := by
  cases m with
  | idle =>
    cases h
    rfl
  | percent => cases h
  | comment => cases h
  | word cs =>
    change Mode.leave (Token.ofWord? cs) ' ' = some (ts, .idle) at h
    cases hword : Token.ofWord? cs with
    | none => simp [hword, Mode.leave] at h
    | some t =>
      rw [hword] at h
      cases h
      simp [Mode.finish, hword]
  | digits n =>
    cases h
    rfl
  | text cs => cases h
  | directive cs =>
    cases h
    rfl
  | sign c =>
    by_cases hcolon : c = ':'
    · subst hcolon
      cases h
      rfl
    · by_cases hdot : c = '.'
      · subst hdot
        cases h
        rfl
      · by_cases hbang : c = '!'
        · subst hbang
          cases h
        · simp [Mode.step] at h

theorem tokens_of_scan {text : String} (h : scan .idle (text.toList ++ [' ']) = some (ts, .idle)) :
    tokens text = some ts := by
  rw [scan_append_eq] at h
  cases hscan : scan .idle text.toList with
  | none => simp [hscan] at h
  | some p =>
    obtain ⟨us, m⟩ := p
    cases hstep : m.step ' ' with
    | none => simp [hscan, scan, hstep, prepend] at h
    | some q =>
      obtain ⟨vs, n⟩ := q
      rw [hscan, Option.bind_some, scan_cons hstep, scan] at h
      have heq : us ++ vs = ts ∧ n = .idle := by simpa [prepend] using h
      have hfinish : m.finish = some vs := finish_of_step (heq.2 ▸ hstep)
      simp [tokens, hscan, hfinish, heq.1]

/-- The next character is no part of a word, so that a word ends before it. -/
def Stops (rest : List Char) : Prop :=
  ∃ c cs, rest = c :: cs ∧ isWordChar c = false

theorem stops_cons {c : Char} (h : isWordChar c = false) (cs : List Char) : Stops (c :: cs) :=
  ⟨c, cs, rfl, h⟩

theorem scan_leave {m : Mode} {t : Token} {c : Char} (h : m.step c = Mode.leave (some t) c) :
    scan m (c :: cs) = prepend [t] (scan .idle (c :: cs)) := by
  rw [scan, scan, h, Mode.step]
  cases hc : Mode.enter c with
  | none => simp [Mode.leave, hc, prepend]
  | some p =>
    cases hscan : scan p.2 cs <;> simp [Mode.leave, hc, hscan, prepend]

theorem scan_word {r : List Char} (h : ∀ c ∈ cs, isWordChar c = true) :
    scan (.word r) cs = some ([], .word (r ++ cs)) := by
  induction cs generalizing r with
  | nil => simp [scan]
  | cons c cs ih =>
    have hstep : (Mode.word r).step c = some ([], .word (r ++ [c])) := by
      simp [Mode.step, h c]
    rw [scan_cons hstep, ih fun d hd => h d (List.mem_cons_of_mem _ hd)]
    simp [prepend]

theorem ofWord?_of_constantForm (h : Name.ConstantForm cs) (hnot : cs ≠ ['n', 'o', 't']) :
    Token.ofWord? cs = some (.symbol (.constant (String.ofList cs))) := by
  have hform := Name.isConstantForm_iff.2 h
  unfold Name.isConstantForm at hform
  unfold Token.ofWord?
  cases hdrop : cs.dropWhile (· = '_') with
  | nil => simp [hdrop] at hform
  | cons c tail =>
    simp only [hdrop, Bool.and_eq_true] at hform
    simp [hform.1, hnot]

theorem scan_ofWord {c : Char} {t : Token} (hword : ∀ d ∈ c :: cs, isWordChar d = true)
    (hc : isDigit c = false) (ht : Token.ofWord? (c :: cs) = some t) (hrest : Stops rest) :
    scan .idle (c :: cs ++ rest) = prepend [t] (scan .idle rest) := by
  have hstep : Mode.step c .idle = some ([], .word [c]) := by
    simp [Mode.step, Mode.enter, hc, hword c]
  have hscan : scan (.word [c]) cs = some ([], .word (c :: cs)) :=
    scan_word fun d hd => hword d (List.mem_cons_of_mem _ hd)
  obtain ⟨d, ds, rfl, hd⟩ := hrest
  have hleave : (Mode.word (c :: cs)).step d = Mode.leave (some t) d := by
    simp [Mode.step, hd, ht]
  rw [List.cons_append, scan_cons hstep, scan_append hscan, scan_leave hleave]
  simp

theorem scan_constant (h : Name.ConstantForm cs) (hnot : cs ≠ ['n', 'o', 't'])
    (hrest : Stops rest) : scan .idle (cs ++ rest) =
      prepend [.symbol (.constant (String.ofList cs))] (scan .idle rest) := by
  cases cs with
  | nil => exact absurd rfl h.valueForm.1
  | cons c cs =>
    exact scan_ofWord h.valueForm.2 h.isDigit_head
      (ofWord?_of_constantForm h hnot) hrest

theorem scan_digits {n : Nat} (h : ∀ c ∈ cs, isDigit c = true) :
    scan (.digits n) cs = some ([], .digits (Nat.ofDigitChars 10 cs n)) := by
  induction cs generalizing n with
  | nil => simp [scan]
  | cons c cs ih =>
    have hstep : (Mode.digits n).step c = some ([], .digits (10 * n + Mode.digit c)) := by
      simp [Mode.step, h c]
    rw [scan_cons hstep, ih fun d hd => h d (List.mem_cons_of_mem _ hd), Nat.ofDigitChars_cons]
    rfl

theorem scan_number (h : Name.DigitsForm cs) (hrest : Stops rest) :
    scan .idle (cs ++ rest) =
      prepend [.symbol (.number (Nat.ofDigitChars 10 cs 0))] (scan .idle rest) := by
  cases cs with
  | nil => exact absurd rfl h.1
  | cons c cs =>
    have hstep : Mode.step c .idle = some ([], .digits (Mode.digit c)) := by
      simp [Mode.step, Mode.enter, h.2 c]
    have hdigits := scan_digits (n := Mode.digit c) fun d hd => h.2 d (List.mem_cons_of_mem _ hd)
    obtain ⟨d, ds, rfl, hd⟩ := hrest
    have hnodigit : isDigit d = false := by
      cases hdigit : isDigit d with
      | false => rfl
      | true => simp [Name.isWordChar_of_isDigit hdigit] at hd
    have hleave : (Mode.digits (Nat.ofDigitChars 10 cs (Mode.digit c))).step d =
        Mode.leave (some (.symbol (.number (Nat.ofDigitChars 10 cs (Mode.digit c))))) d := by
      simp [Mode.step, hnodigit]
    have hvalue : Nat.ofDigitChars 10 (c :: cs) 0 = Nat.ofDigitChars 10 cs (Mode.digit c) := by
      simp [Nat.ofDigitChars_cons, Mode.digit]
    rw [List.cons_append, scan_cons hstep, scan_append hdigits, scan_leave hleave, hvalue]
    simp

theorem scan_text {r : List Char} (h : ∀ c ∈ cs, isWordChar c = true) :
    scan (.text r) cs = some ([], .text (r ++ cs)) := by
  induction cs generalizing r with
  | nil => simp [scan]
  | cons c cs ih =>
    have hc := h c List.mem_cons_self
    have hquote : c ≠ '"' := Name.ne_of_isWordChar (by decide) hc
    have hslash : c ≠ '\\' := Name.ne_of_isWordChar (by decide) hc
    have hline : c ≠ '\n' := Name.ne_of_isWordChar (by decide) hc
    have hstep : (Mode.text r).step c = some ([], .text (r ++ [c])) := by
      simp [Mode.step, hquote, hslash, hline]
    rw [scan_cons hstep, ih fun d hd => h d (List.mem_cons_of_mem _ hd)]
    simp [prepend]

theorem scan_quoted (h : ∀ c ∈ cs, isWordChar c = true) :
    scan .idle ('"' :: (cs ++ '"' :: rest)) =
      prepend [.symbol (.text (String.ofList cs))] (scan .idle rest) := by
  have hopen : Mode.step '"' .idle = some ([], .text []) := rfl
  have hclose : (Mode.text cs).step '"' = some ([.symbol (.text (String.ofList cs))], .idle) := rfl
  rw [scan_cons hopen, scan_append (scan_text h), List.nil_append, scan_cons hclose]
  simp

theorem scan_comment (h : '\n' ∉ cs) : scan .comment (cs ++ '\n' :: rest) = scan .idle rest := by
  induction cs with
  | nil =>
    have hstep : Mode.comment.step '\n' = some ([], .idle) := rfl
    rw [List.nil_append, scan_cons hstep, prepend_nil]
  | cons c cs ih =>
    have hc : c ≠ '\n' := fun hc => h (hc ▸ List.mem_cons_self)
    have hstep : Mode.comment.step c = some ([], .comment) := by
      simp [Mode.step, hc]
    rw [List.cons_append, scan_cons hstep, prepend_nil,
      ih fun hmem => h (List.mem_cons_of_mem _ hmem)]

end HousePuzzle.Asp
