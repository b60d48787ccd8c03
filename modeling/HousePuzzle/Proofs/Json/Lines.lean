import HousePuzzle.Proofs.Json.Numbers
import HousePuzzle.Proofs.Json.Strings

/-!
A document is the same however its lines end. Line ends stand between tokens only: no string and no
number goes on over one, so the tokens are the same, at other positions.
-/

namespace HousePuzzle.Json

open Text (isAsciiDigit)
open Utf8 (unifyLines)

section Scalars

variable {cs t : List Char}

/-- A text that has come to the end of a line, or to its own end. -/
def EndsLine (t : List Char) : Prop :=
  ∀ c ∈ t.head?, c = '\n' ∨ c = '\r'

theorem exists_oneLine_append (cs : List Char) :
    ∃ pre t, cs = pre ++ t ∧ OneLine pre ∧ EndsLine t := by
  induction cs with
  | nil => exact ⟨[], [], rfl, by simp [OneLine], by simp [EndsLine]⟩
  | cons c cs ih =>
    by_cases hc : c = '\n' ∨ c = '\r'
    · exact ⟨[], c :: cs, rfl, by simp [OneLine], by simpa [EndsLine] using hc⟩
    · obtain ⟨pre, t, rfl, hpre, ht⟩ := ih
      exact ⟨c :: pre, t, rfl, List.forall_mem_cons.2 ⟨not_or.1 hc, hpre⟩, ht⟩

theorem EndsLine.cases (ht : EndsLine t) :
    t = [] ∨ (∃ rest, t = '\n' :: rest) ∨ ∃ rest, t = '\r' :: rest := by
  cases t with
  | nil => exact .inl rfl
  | cons c rest =>
    rcases ht c rfl with rfl | rfl
    · exact .inr (.inl ⟨rest, rfl⟩)
    · exact .inr (.inr ⟨rest, rfl⟩)

/-! No number goes on over the end of a line. -/

theorem EndsLine.digits (ht : EndsLine t) (cs : List Char) :
    (cs ++ t).takeWhile isAsciiDigit = cs.takeWhile isAsciiDigit ∧
      (cs ++ t).dropWhile isAsciiDigit = cs.dropWhile isAsciiDigit ++ t := by
  induction cs with
  | nil => rcases ht.cases with rfl | ⟨rest, rfl⟩ | ⟨rest, rfl⟩ <;> exact ⟨rfl, rfl⟩
  | cons c cs ih =>
    cases hc : isAsciiDigit c with
    | true => simp [hc, ih]
    | false => simp [hc]

theorem EndsLine.ne_cons (ht : EndsLine t) {d : Char} (hd : d ≠ '\n' ∧ d ≠ '\r')
    (hcs : ∀ rest, cs = d :: rest → False) : ∀ rest, cs ++ t = d :: rest → False := by
  intro rest heq
  cases cs with
  | nil =>
    rw [List.nil_append] at heq
    subst heq
    rcases ht d rfl with rfl | rfl
    · exact hd.1 rfl
    · exact hd.2 rfl
  | cons c cs =>
    obtain ⟨rfl, _⟩ := List.cons.inj heq
    exact hcs cs rfl

theorem EndsLine.wholePart_append (ht : EndsLine t) (cs : List Char) :
    wholePart (cs ++ t) = ((wholePart cs).1, (wholePart cs).2 ++ t) := by
  fun_cases wholePart cs with
  | case1 => rfl
  | case2 _ hzero =>
    rw [wholePart, (ht.digits cs).1, (ht.digits cs).2]
    exact ht.ne_cons (by decide) hzero

theorem EndsLine.fractionPart_append (ht : EndsLine t) (cs : List Char) :
    fractionPart (cs ++ t) = ((fractionPart cs).1, (fractionPart cs).2 ++ t) := by
  fun_cases fractionPart cs with
  | case1 rest hnone =>
    rw [List.cons_append, fractionPart, (ht.digits rest).1, hnone]
  | case2 rest hsome =>
    rw [List.cons_append, fractionPart, (ht.digits rest).1, (ht.digits rest).2]
    split
    · next hnone => exact absurd hnone hsome
    · rfl
  | case3 _ hdot =>
    rw [fractionPart]
    exact ht.ne_cons (by decide) hdot

theorem EndsLine.exponentSign_append (ht : EndsLine t) (cs : List Char) :
    exponentSign (cs ++ t) = ((exponentSign cs).1, (exponentSign cs).2 ++ t) := by
  fun_cases exponentSign cs with
  | case1 | case2 => rfl
  | case3 _ hminus hplus =>
    rw [exponentSign]
    · exact ht.ne_cons (by decide) hminus
    · exact ht.ne_cons (by decide) hplus

theorem EndsLine.exponentPart_append (ht : EndsLine t) (cs : List Char) :
    exponentPart (cs ++ t) = ((exponentPart cs).1, (exponentPart cs).2 ++ t) := by
  cases cs with
  | nil => rcases ht.cases with rfl | ⟨rest, rfl⟩ | ⟨rest, rfl⟩ <;> rfl
  | cons c cs =>
    rw [List.cons_append, exponentPart, exponentPart, ht.exponentSign_append]
    by_cases hc : (decide (c = 'e') || decide (c = 'E')) = true
    · simp only [if_pos hc, (ht.digits _).1, (ht.digits _).2]
      cases (exponentSign cs).2.takeWhile isAsciiDigit <;> rfl
    · simp only [if_neg hc]
      rfl

theorem EndsLine.spelling?_append (ht : EndsLine t) (cs : List Char) :
    spelling? (cs ++ t) = (spelling? cs).map fun x => (x.1, x.2 ++ t) := by
  unfold spelling?
  rw [ht.wholePart_append]
  rcases wholePart cs with ⟨_ | ⟨d, ds⟩, rest⟩
  · rfl
  · simp only [ht.fractionPart_append, ht.exponentPart_append, Option.map_some]

theorem oneLine_of_mem_keywords : ∀ k ∈ keywords, OneLine k.1 := by
  have hall : keywords.all (fun k => k.1.all fun c => c ≠ '\n' && c ≠ '\r') = true := by decide
  simpa [OneLine] using hall

theorem EndsLine.prefix_append_iff (ht : EndsLine t) {k : List Char} (hk : OneLine k) :
    k <+: cs ++ t ↔ k <+: cs := by
  induction k generalizing cs with
  | nil => simp
  | cons c k ih =>
    obtain ⟨hc, hk⟩ := List.forall_mem_cons.1 hk
    cases cs with
    | nil =>
      have hnot : ¬ c :: k <+: t := by
        rintro ⟨rest, rfl⟩
        rcases ht c rfl with h | h
        · exact hc.1 h
        · exact hc.2 h
      simpa using hnot
    | cons d cs => rw [List.cons_append, List.cons_prefix_cons, List.cons_prefix_cons, ih hk]

theorem EndsLine.find?_append (ht : EndsLine t) (cs : List Char) :
    keywords.find? (fun k => k.1.isPrefixOf (cs ++ t)) =
      keywords.find? (fun k => k.1.isPrefixOf cs) := by
  have hkeywords := oneLine_of_mem_keywords
  generalize keywords = ks at hkeywords
  induction ks with
  | nil => rfl
  | cons k ks ih =>
    obtain ⟨hk, hks⟩ := List.forall_mem_cons.1 hkeywords
    have hfits : k.1.isPrefixOf (cs ++ t) = k.1.isPrefixOf cs := by
      rw [Bool.eq_iff_iff, List.isPrefixOf_iff_prefix, List.isPrefixOf_iff_prefix,
        ht.prefix_append_iff hk]
    rw [List.find?_cons, List.find?_cons, hfits, ih hks]

/-- The sign of a number, and what is behind it. -/
def signPart (cs : List Char) : Bool × List Char :=
  match cs with
  | '-' :: rest => (true, rest)
  | _ => (false, cs)

theorem scalar?_eq (cs : List Char) :
    scalar? cs = match keywords.find? fun k => k.1.isPrefixOf cs with
      | some (k, v) => some (.ok v, k.length)
      | none => (spelling? (signPart cs).2).map fun x =>
          (x.1.value (signPart cs).1, cs.length - x.2.length) := by
  rfl

theorem EndsLine.signPart_append (ht : EndsLine t) (cs : List Char) :
    signPart (cs ++ t) = ((signPart cs).1, (signPart cs).2 ++ t) := by
  fun_cases signPart cs with
  | case1 => rfl
  | case2 _ hminus =>
    rw [signPart]
    exact ht.ne_cons (by decide) hminus

/-- What is read as a keyword or a number does not depend on what is behind the line. -/
theorem EndsLine.scalar?_append (ht : EndsLine t) (cs : List Char) :
    scalar? (cs ++ t) = scalar? cs := by
  rw [scalar?_eq, scalar?_eq, ht.find?_append, ht.signPart_append]
  cases keywords.find? fun k => k.1.isPrefixOf cs with
  | some k => rfl
  | none =>
    simp only [ht.spelling?_append, Option.map_map, List.length_append]
    refine congrArg (Option.map · (spelling? (signPart cs).2)) (funext fun x => ?_)
    simp only [Function.comp_apply, List.length_append, Nat.add_sub_add_right]

theorem length_le_of_scalar? {r : Except Nat Json} {count : Nat}
    (h : scalar? cs = some (r, count)) : count ≤ cs.length := by
  rw [scalar?_eq] at h
  split at h
  · next k v hfind =>
    obtain ⟨_, rfl⟩ := Prod.mk.inj (Option.some.inj h)
    have hfits := List.find?_some (p := fun k : List Char × Json => k.1.isPrefixOf cs) hfind
    exact (List.isPrefixOf_iff_prefix.1 hfits).length_le
  · obtain ⟨x, _, hx⟩ := Option.map_eq_some_iff.1 h
    obtain ⟨_, rfl⟩ := Prod.mk.inj hx
    exact Nat.sub_le ..

end Scalars

section Lines

variable {cs pre rest t xs : List Char} {c : Char} {p q stop : Nat}

theorem unifyLines_cons (hc : c ≠ '\r') : unifyLines (c :: rest) = c :: unifyLines rest := by
  rw [unifyLines]
  · exact fun _ h => absurd h hc
  · exact hc

theorem unifyLines_append (hpre : OneLine pre) (t : List Char) :
    unifyLines (pre ++ t) = pre ++ unifyLines t := by
  induction pre with
  | nil => rfl
  | cons c pre ih =>
    obtain ⟨hc, hpre⟩ := List.forall_mem_cons.1 hpre
    rw [List.cons_append, unifyLines_cons hc.2, ih hpre, List.cons_append]

/-- A carriage return ends a line, with a line feed or without. -/
theorem unifyLines_carriageReturn (rest : List Char) :
    ∃ behind, unifyLines ('\r' :: rest) = '\n' :: unifyLines behind ∧
      (rest = behind ∨ rest = '\n' :: behind) := by
  by_cases h : ∃ behind, rest = '\n' :: behind
  · obtain ⟨behind, rfl⟩ := h
    exact ⟨behind, rfl, .inr rfl⟩
  · refine ⟨rest, ?_, .inl rfl⟩
    rw [unifyLines]
    exact fun behind heq => h ⟨behind, heq⟩

theorem exists_of_unifyLines_eq (hpre : OneLine pre) (h : unifyLines cs = pre ++ rest) :
    ∃ t, cs = pre ++ t ∧ unifyLines t = rest := by
  induction pre generalizing cs with
  | nil => exact ⟨cs, rfl, h⟩
  | cons d pre ih =>
    obtain ⟨hd, hline⟩ := List.forall_mem_cons.1 hpre
    cases cs with
    | nil => cases h
    | cons c cs =>
      by_cases hc : c = '\r'
      · subst hc
        obtain ⟨behind, hunified, _⟩ := unifyLines_carriageReturn cs
        rw [hunified] at h
        exact absurd (List.cons.inj h).1.symm hd.1
      · rw [unifyLines_cons hc] at h
        obtain ⟨rfl, htail⟩ := List.cons.inj h
        obtain ⟨t, rfl, ht⟩ := ih hline htail
        exact ⟨t, rfl, ht⟩

theorem EndsLine.unifyLines (ht : EndsLine t) : EndsLine (unifyLines t) := by
  rcases ht.cases with rfl | ⟨rest, rfl⟩ | ⟨rest, rfl⟩
  · exact ht
  · exact fun c hc => .inl (Option.some.inj hc).symm
  · obtain ⟨behind, hline, _⟩ := unifyLines_carriageReturn rest
    rw [hline]
    exact fun c hc => .inl (Option.some.inj hc).symm

theorem scalar?_unifyLines (cs : List Char) : scalar? (unifyLines cs) = scalar? cs := by
  obtain ⟨pre, t, rfl, hpre, ht⟩ := exists_oneLine_append cs
  rw [unifyLines_append hpre, ht.unifyLines.scalar?_append, ht.scalar?_append]

/-- What is behind a keyword or a number. -/
theorem drop_unifyLines {r : Except Nat Json} {count : Nat} (h : scalar? cs = some (r, count)) :
    (unifyLines cs).drop count = unifyLines (cs.drop count) := by
  obtain ⟨pre, t, rfl, hpre, ht⟩ := exists_oneLine_append cs
  rw [ht.scalar?_append] at h
  have hcount := length_le_of_scalar? h
  have hdrop : OneLine (pre.drop count) := fun c hc => hpre c (List.mem_of_mem_drop hc)
  rw [unifyLines_append hpre, List.drop_append_of_le_length hcount,
    List.drop_append_of_le_length hcount, unifyLines_append hdrop]

end Lines

section Tokens

/-- A token without its place: a malformed string is refused like anything else. -/
def Token.bare : Token → Token
  | .badString _ _ => .junk
  | t => t

variable {cs pre rest xs : List Char} {p q : Nat}

theorem tokens_closed (h : Closed pre xs) :
    tokens p ('"' :: (pre ++ rest)) =
      ⟨p, .str (String.ofList xs)⟩ :: tokens (p + 1 + pre.length) rest := by
  have hspace : isSpace '"' = false := by decide
  have hpunctuation : punctuation? '"' = none := rfl
  have hdrop : (pre ++ rest).drop (p + 1 + pre.length - (p + 1)) = rest := by
    rw [Nat.add_sub_cancel_left, List.drop_left]
  rw [tokens]
  simp only [hspace, hpunctuation, h.read (p + 1) _ rest rfl, hdrop, Bool.false_eq_true, if_false,
    if_true]

/-- A string that has no closing quote is no token. -/
theorem bare_tokens_badString (h : ∀ pre rest xs, cs = pre ++ rest → ¬ Closed pre xs) :
    (tokens p ('"' :: cs)).map (·.token.bare) = [.junk] := by
  have hspace : isSpace '"' = false := by decide
  have hpunctuation : punctuation? '"' = none := rfl
  rw [tokens]
  simp only [hspace, hpunctuation, Bool.false_eq_true, if_false, if_true]
  split
  · rfl
  · rfl
  · next xs stop hbody =>
    obtain ⟨pre, rest, heq, hclosed, _⟩ := exists_closed_of_stringBody hbody
    exact absurd hclosed (h pre rest xs heq)

theorem not_closed_of_stringBody {e : StringFault × Nat} (h : stringBody q cs = .error e) :
    ∀ pre rest xs, unifyLines cs = pre ++ rest → ¬ Closed pre xs := by
  intro pre rest xs heq hclosed
  obtain ⟨t, rfl, _⟩ := exists_of_unifyLines_eq hclosed.oneLine heq
  rw [hclosed.read q _ t rfl] at h
  cases h

/-- The tokens do not depend on how lines end. -/
theorem bare_tokens_unifyLines (p q : Nat) (cs : List Char) :
    (tokens p (unifyLines cs)).map (·.token.bare) = (tokens q cs).map (·.token.bare) := by
  have hinner {c : Char} (hspace : ¬ isSpace c = true) (rest : List Char) :
      unifyLines (c :: rest) = c :: unifyLines rest := by
    refine unifyLines_cons ?_
    rintro rfl
    exact hspace (by decide)
  fun_induction tokens q cs generalizing p with
  | case1 => rw [unifyLines, tokens]
  | case2 q c rest hspace ih =>
    by_cases hc : c = '\r'
    · subst hc
      obtain ⟨behind, hunified, rfl | rfl⟩ := unifyLines_carriageReturn rest
      · rw [hunified, tokens_space (by decide)]
        exact ih (p + 1)
      · rw [hunified, ← unifyLines_cons (by decide)]
        exact ih p
    · rw [unifyLines_cons hc, tokens_space hspace]
      exact ih (p + 1)
  | case3 q c rest hspace token htoken ih =>
    rw [hinner hspace, tokens_punctuation (Bool.eq_false_iff.2 hspace) htoken, List.map_cons,
      List.map_cons, ih (p + 1)]
  | case4 q rest _ herror hspace | case5 q rest _ _ _ herror hspace =>
    rw [hinner hspace, bare_tokens_badString (not_closed_of_stringBody herror)]
    rfl
  | case6 q rest xs stop hbody hspace _ ih =>
    obtain ⟨pre, behind, rfl, hclosed, rfl⟩ := exists_closed_of_stringBody hbody
    have hdrop : (pre ++ behind).drop (q + 1 + pre.length - (q + 1)) = behind := by
      rw [Nat.add_sub_cancel_left, List.drop_left]
    rw [hdrop] at ih ⊢
    rw [hinner hspace, unifyLines_append hclosed.oneLine, tokens_closed hclosed, List.map_cons,
      List.map_cons, ih]
  | case7 q c rest hspace hpunctuation hquote hscalar =>
    rw [← scalar?_unifyLines, hinner hspace] at hscalar
    rw [hinner hspace, tokens]
    simp only [if_neg hspace, hpunctuation, if_neg hquote, hscalar]
    rfl
  | case8 q c rest hspace hpunctuation hquote digits count hscalar =>
    rw [← scalar?_unifyLines, hinner hspace] at hscalar
    rw [hinner hspace, tokens]
    simp only [if_neg hspace, hpunctuation, if_neg hquote, hscalar]
    rfl
  | case9 q c rest hspace hpunctuation hquote v count hscalar ih =>
    have hdrop : (unifyLines rest).drop (count - 1) = unifyLines (rest.drop (count - 1)) := by
      have hbehind := drop_unifyLines hscalar
      rw [hinner hspace] at hbehind
      cases count with
      | zero => rfl
      | succ n => exact hbehind
    rw [← scalar?_unifyLines, hinner hspace] at hscalar
    rw [hinner hspace, tokens]
    simp only [if_neg hspace, hpunctuation, if_neg hquote, hscalar, hdrop, List.map_cons, ih]

end Tokens

section Reader

def Refusal.digits? : Refusal → Option Nat
  | .fault _ _ => none
  | .longNumeral digits => some digits

/-- A number that is too long is told from what is no document. -/
def ParseError.digits? : ParseError → Option Nat
  | .syntaxFault _ _ _ _ => none
  | .longNumeral digits => some digits

theorem Refusal.digits?_locate (cs : List Char) (r : Refusal) :
    (r.locate cs).digits? = r.digits? := by
  cases r <;> rfl

variable {l l' : Lexeme} {ls ls' : List Lexeme}

theorem step_bare (s : State) (l : Lexeme) (position : Nat) :
    (s.step l).mapError Refusal.digits? =
      (s.step ⟨position, l.token.bare⟩).mapError Refusal.digits? := by
  obtain ⟨_, token⟩ := l
  cases token <;> cases s <;> rfl

theorem step_of_bare_eq (s : State) (h : l.token.bare = l'.token.bare) :
    (s.step l).mapError Refusal.digits? = (s.step l').mapError Refusal.digits? := by
  rw [step_bare s l 0, step_bare s l' 0, h]

theorem foldlM_of_bare_eq (s : State) (h : ls.map (·.token.bare) = ls'.map (·.token.bare)) :
    (ls.foldlM State.step s).mapError Refusal.digits? =
      (ls'.foldlM State.step s).mapError Refusal.digits? := by
  induction ls generalizing ls' s with
  | nil =>
    obtain rfl := List.map_eq_nil_iff.1 h.symm
    rfl
  | cons l ls ih =>
    cases ls' with
    | nil => cases h
    | cons l' ls' =>
      obtain ⟨hl, hls⟩ := List.cons.inj h
      have hstep := step_of_bare_eq s hl
      rw [List.foldlM_cons, List.foldlM_cons]
      cases hs : s.step l with
      | ok t =>
        rw [hs] at hstep
        rw [Except.mapError_eq_ok_iff.1 hstep.symm]
        exact ih t hls
      | error r =>
        rw [hs] at hstep
        obtain ⟨r', hr', hdigits⟩ := Except.mapError_eq_error_iff.1 hstep.symm
        rw [hr']
        exact congrArg Except.error hdigits.symm

/-- What is read, by where the tokens lead. -/
def State.result : Except (Option Nat) State → Except (Option Nat) Json
  | .ok (.done v) => .ok v
  | .ok _ => .error none
  | .error digits => .error digits

theorem mapError_parseChars (cs : List Char) :
    (parseChars cs).mapError ParseError.digits? =
      if cs.head? = some '\uFEFF' then .error none
      else
        State.result (((tokens 0 cs).foldlM State.step (.value [])).mapError Refusal.digits?) := by
  unfold parseChars
  split
  · rfl
  · cases (tokens 0 cs).foldlM State.step (.value []) with
    | error r => exact congrArg Except.error (r.digits?_locate cs)
    | ok s => cases s <;> rfl

theorem head?_unifyLines (cs : List Char) :
    (unifyLines cs).head? = some '\uFEFF' ↔ cs.head? = some '\uFEFF' := by
  cases cs with
  | nil => rw [unifyLines]
  | cons c rest =>
    by_cases hc : c = '\r'
    · subst hc
      obtain ⟨behind, hunified, _⟩ := unifyLines_carriageReturn rest
      rw [hunified]
      exact iff_of_false (by simp) (by simp)
    · rw [unifyLines_cons hc, List.head?_cons, List.head?_cons]

/-- Nor does the document: neither what is read, nor that a number is too long. -/
theorem parseChars_unifyLines (cs : List Char) :
    (parseChars (unifyLines cs)).mapError ParseError.digits? =
      (parseChars cs).mapError ParseError.digits? := by
  rw [mapError_parseChars, mapError_parseChars,
    foldlM_of_bare_eq (.value []) (bare_tokens_unifyLines 0 0 cs)]
  by_cases hmark : cs.head? = some '\uFEFF'
  · rw [if_pos ((head?_unifyLines cs).2 hmark), if_pos hmark]
  · rw [if_neg (mt (head?_unifyLines cs).1 hmark), if_neg hmark]

variable {cs : List Char}

theorem parseChars_unifyLines_eq_ok_iff {v : Json} :
    parseChars (unifyLines cs) = .ok v ↔ parseChars cs = .ok v := by
  rw [← Except.mapError_eq_ok_iff (g := ParseError.digits?), parseChars_unifyLines,
    Except.mapError_eq_ok_iff]

theorem ParseError.digits?_eq_some_iff {e : ParseError} {digits : Nat} :
    e.digits? = some digits ↔ e = .longNumeral digits := by
  cases e <;> simp [digits?]

theorem parseChars_unifyLines_longNumeral_iff {digits : Nat} :
    parseChars (unifyLines cs) = .error (.longNumeral digits) ↔
      parseChars cs = .error (.longNumeral digits) := by
  have hdigits (o : Except ParseError Json) :
      o.mapError ParseError.digits? = .error (some digits) ↔ o = .error (.longNumeral digits) := by
    simp [Except.mapError_eq_error_iff, ParseError.digits?_eq_some_iff]
  rw [← hdigits, ← hdigits, parseChars_unifyLines]

end Reader

end HousePuzzle.Json
