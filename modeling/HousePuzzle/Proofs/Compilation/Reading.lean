import HousePuzzle.Proofs.Asp.Scanning
import HousePuzzle.Proofs.Compilation.Meaning

/-! The text of a program is read as what its statements mean. -/

namespace HousePuzzle

open Asp (Token scan prepend Stops stops_cons scan_append)

variable {rest : List Char} {x : String}

/-- A text that is one token wherever it stands before something that is no part of a word. -/
def IsToken (s : String) (t : Token) : Prop :=
  ∀ rest, Stops rest → scan .idle (s.toList ++ rest) = prepend [t] (scan .idle rest)

theorem stops_text (s : String) (h : s.toList.head?.map Name.isWordChar = some false) :
    Stops (s.toList ++ rest) := by
  cases hs : s.toList with
  | nil => simp [hs] at h
  | cons c cs =>
    rw [hs] at h
    exact stops_cons (Option.some.inj h) _

theorem isToken_constant {c : String} (h : Statement.IsCategory c) :
    IsToken c (.symbol (.constant c)) := by
  intro rest hrest
  have hnot : c.toList ≠ ['n', 'o', 't'] := fun hc => h.2 (String.toList_inj.1 hc)
  rw [Asp.scan_constant h.1 hnot hrest, String.ofList_toList]

theorem isToken_write {n : Int} (h : 0 ≤ n) : IsToken (Numeral.write n) (.symbol (.number n)) := by
  intro rest hrest
  cases n with
  | ofNat n =>
    rw [Numeral.write, Numeral.toList_writeNat,
      Asp.scan_number (Numeral.digitsForm_toDigits n) hrest, Nat.ofDigitChars_ten_toDigits]
    rfl
  | negSucc n => exact absurd h (by omega)

theorem isToken_variable (c : Char) (cs : List Char) (hc : Name.isDigit c = false)
    (hword : (c :: cs).all Name.isWordChar = true)
    (ht : Token.ofWord? (c :: cs) = some (.variable (String.ofList (c :: cs)))) :
    IsToken (String.ofList (c :: cs)) (.variable (String.ofList (c :: cs))) := by
  intro rest hrest
  rw [String.toList_ofList]
  exact Asp.scan_ofWord (List.all_eq_true.1 hword) hc ht hrest

theorem isToken_H : IsToken "H" (.variable "H") :=
  isToken_variable 'H' [] rfl rfl rfl

theorem isToken_H1 : IsToken "H1" (.variable "H1") :=
  isToken_variable 'H' ['1'] rfl rfl rfl

theorem isToken_H2 : IsToken "H2" (.variable "H2") :=
  isToken_variable 'H' ['2'] rfl rfl rfl

theorem scan_comma : scan .idle ", ".toList = some ([.comma], .idle) := rfl

theorem scan_rparen : scan .idle ")".toList = some ([.rparen], .idle) := rfl

namespace Term

theorem isToken_render {t : Term} (h : t.Readable) : IsToken t.render (.symbol t.symbol) := by
  cases t with
  | plain text =>
    cases h with
    | inl h =>
      rw [symbol, h.1.not_isNumeralForm]
      exact isToken_constant h
    | inr h =>
      intro rest hrest
      rw [symbol, if_pos h]
      exact Asp.scan_number (Name.digitsForm_of_isNumeralForm h) hrest
  | quoted text =>
    intro rest hrest
    have hsplit : (Term.quoted text).render.toList ++ rest =
        '"' :: (text.toList ++ '"' :: rest) := by
      simp [render]
    rw [hsplit, Asp.scan_quoted h, String.ofList_toList]
    rfl

theorem scan_assigned {t : Term} (h : t.Readable) (hx : IsToken x (.variable x)) :
    scan .idle ((t.assigned x).toList ++ rest) =
      prepend (t.assignmentTokens x) (scan .idle rest) := by
  have hopen : scan .idle "assign(".toList =
      some ([.symbol (.constant "assign"), .lparen], .idle) := rfl
  simp only [assigned, String.toList_append, List.append_assoc]
  rw [scan_append hopen, isToken_render h _ (stops_text ", " rfl), scan_append scan_comma,
    hx _ (stops_text ")" rfl), scan_append scan_rparen]
  simp [assignmentTokens]

end Term

namespace Place

theorem isToken_render {l : Place} (h : l.Readable) (hx : IsToken x (.variable x)) :
    IsToken (l.render x) (l.token x) := by
  cases l with
  | ofTerm t => exact hx
  | house n => exact isToken_write h

theorem scan_binding {l : Place} (h : l.Readable) (hx : IsToken x (.variable x)) :
    scan .idle ((l.binding x).toList ++ rest) = prepend (l.bindingTokens x) (scan .idle rest) := by
  cases l with
  | ofTerm t =>
    rw [binding, String.toList_append, List.append_assoc, Term.scan_assigned h hx,
      scan_append scan_comma, Asp.prepend_prepend]
    rfl
  | house n => simp [binding, bindingTokens]

end Place

/-- The comparison of a house with the one before or behind another. -/
theorem Relation.scan_shifted {l r sign : String} {t u o : Token} (hl : IsToken l t)
    (hr : IsToken r u) (hsign : scan .idle sign.toList = some ([o], .idle))
    (hstops : sign.toList.head?.map Name.isWordChar = some false) (hrest : Stops rest) :
    scan .idle ((l ++ " != " ++ r ++ sign ++ Numeral.write 1).toList ++ rest) =
      prepend [t, .differ, u, o, .symbol (.number 1)] (scan .idle rest) := by
  have hone : IsToken (Numeral.write 1) (.symbol (.number 1)) := isToken_write (by decide)
  have hdiffer : scan .idle " != ".toList = some ([.differ], .idle) := rfl
  simp only [String.toList_append, List.append_assoc]
  rw [hl _ (stops_text " != " rfl), scan_append hdiffer, hr _ (stops_text sign hstops),
    scan_append hsign, hone _ hrest]
  simp only [Asp.prepend_prepend]
  rfl

theorem Relation.scan_violation {relation : Relation} {l r : String} {t u : Token}
    (hl : IsToken l t) (hr : IsToken r u) (hrest : Stops rest) :
    scan .idle ((relation.violation l r).toList ++ rest) =
      prepend (relation.violationTokens t u) (scan .idle rest) := by
  cases relation with
  | adjacent =>
    have hline : violation l r adjacent = "not next_to(" ++ l ++ ", " ++ r ++ ")" := rfl
    have hopen : scan .idle "not next_to(".toList =
        some ([.negation, .symbol (.constant "next_to"), .lparen], .idle) := rfl
    simp only [hline, String.toList_append, List.append_assoc]
    rw [scan_append hopen, hl _ (stops_text ", " rfl), scan_append scan_comma,
      hr _ (stops_text ")" rfl), scan_append scan_rparen]
    simp only [Asp.prepend_prepend]
    rfl
  | rightOf =>
    have hline : violation l r rightOf = l ++ " != " ++ r ++ " + " ++ Numeral.write 1 := by
      rw [String.append_assoc]
      rfl
    rw [hline]
    exact scan_shifted hl hr rfl rfl hrest
  | leftOf =>
    have hline : violation l r leftOf = l ++ " != " ++ r ++ " - " ++ Numeral.write 1 := by
      rw [String.append_assoc]
      rfl
    rw [hline]
    exact scan_shifted hl hr rfl rfl hrest

/-- A line that ends in a fixed way. -/
theorem scan_line {line : List Char} {ts : List Token}
    (h : scan .idle (line ++ ['\n']) = some (ts, .idle)) :
    scan .idle (line ++ '\n' :: rest) = prepend ts (scan .idle rest) := by
  rw [← scan_append h, List.append_assoc, List.singleton_append]

theorem scan_dot : scan .idle (".".toList ++ '\n' :: rest) = prepend [.dot] (scan .idle rest) :=
  scan_line rfl

theorem Constraint.scan_render {c : Constraint} (h : c.Readable) :
    scan .idle (c.render.toList ++ '\n' :: rest) =
      prepend (c.tokens ++ [.dot]) (scan .idle rest) := by
  have hopen : scan .idle ":- ".toList = some ([.implied], .idle) := rfl
  cases c with
  | together l r =>
    have hclose : scan .idle (", H1 != H2.".toList ++ ['\n']) =
        some ([.comma, .variable "H1", .differ, .variable "H2", .dot], .idle) := rfl
    simp only [render, String.toList_append, List.append_assoc]
    rw [scan_append hopen, Term.scan_assigned h.1 isToken_H1, scan_append scan_comma,
      Term.scan_assigned h.2 isToken_H2, scan_line hclose]
    simp [tokens]
  | «at» t n =>
    have hdiffer : scan .idle ", H != ".toList = some ([.comma, .variable "H", .differ], .idle) :=
      rfl
    simp only [render, String.toList_append, List.append_assoc]
    rw [scan_append hopen, Term.scan_assigned h.1 isToken_H, scan_append hdiffer,
      isToken_write h.2 _ (stops_text "." rfl), scan_dot]
    simp [tokens]
  | related relation l r =>
    have hl := Place.isToken_render h.1 isToken_H1
    have hr := Place.isToken_render h.2 isToken_H2
    simp only [render, String.toList_append, List.append_assoc]
    rw [scan_append hopen, Place.scan_binding h.1 isToken_H1, Place.scan_binding h.2 isToken_H2,
      Relation.scan_violation hl hr (stops_text "." rfl), scan_dot]
    simp [tokens]

theorem Term.scan_terms {terms : List Term} (hne : terms ≠ []) (h : ∀ t ∈ terms, t.Readable)
    (hrest : Stops rest) :
    scan .idle (("; ".intercalate (terms.map render)).toList ++ rest) =
      prepend ([Token.semicolon].intercalate (terms.map fun t => [.symbol t.symbol]))
        (scan .idle rest) := by
  have hsemicolon : scan .idle "; ".toList = some ([.semicolon], .idle) := rfl
  induction terms with
  | nil => exact absurd rfl hne
  | cons t terms ih =>
    have ht : IsToken t.render _ := isToken_render (h t List.mem_cons_self)
    cases terms with
    | nil => simpa using ht rest hrest
    | cons u terms =>
      have htail := ih (by simp) fun v hv => h v (List.mem_cons_of_mem _ hv)
      simp only [List.map_cons, String.intercalate_cons_cons, String.toList_append,
        List.append_assoc, List.intercalate_cons_cons] at htail ⊢
      rw [ht _ (stops_text "; " rfl), scan_append hsemicolon, htail]
      simp

namespace Statement

theorem scan_comment {text : String} (h : '\n' ∉ text.toList) :
    scan .idle ((comment text).render.toList ++ '\n' :: rest) = scan .idle rest := by
  have hline : (comment text).render = "% " ++ text := rfl
  have hopen : scan .idle "% ".toList = some ([], .comment) := rfl
  rw [hline, String.toList_append, List.append_assoc, scan_append hopen, Asp.scan_comment h,
    Asp.prepend_nil]

/-- Every line is read by itself. -/
theorem scan_render {s : Statement} (h : s.Readable) :
    scan .idle (s.render.toList ++ '\n' :: rest) = prepend s.lineTokens (scan .idle rest) := by
  cases s with
  | comment text =>
    rw [scan_comment h]
    exact (Asp.prepend_nil _).symm
  | blank => exact scan_line rfl
  | houses count =>
    have hline : (houses count).render =
        "house(1.." ++ Numeral.write count ++ ")." := rfl
    have hopen : scan .idle "house(1..".toList =
        some ([.symbol (.constant "house"), .lparen, .symbol (.number 1), .range], .idle) := rfl
    have hclose : scan .idle (").".toList ++ ['\n']) = some ([.rparen, .dot], .idle) := rfl
    simp only [hline, String.toList_append, List.append_assoc]
    rw [scan_append hopen, isToken_write h _ (stops_text ")." rfl), scan_line hclose]
    simp [lineTokens, tokens, meaning?, rule?]
  | pool category terms =>
    have hline : (pool category terms).render =
        category ++ "(" ++ "; ".intercalate (terms.map Term.render) ++ ")." := rfl
    have hopen : scan .idle "(".toList = some ([.lparen], .idle) := rfl
    have hclose : scan .idle (").".toList ++ ['\n']) = some ([.rparen, .dot], .idle) := rfl
    simp only [hline, String.toList_append, List.append_assoc]
    rw [isToken_constant h.1 _ (stops_text "(" rfl), scan_append hopen,
      Term.scan_terms h.2.1 h.2.2 (stops_text ")." rfl), scan_line hclose]
    simp [lineTokens, tokens, meaning?, rule?]
  | placeEach category =>
    have hline : (placeEach category).render =
        "1 \x7b assign(A, H) : house(H) \x7d 1 :- " ++ category ++ "(A)." := rfl
    have hopen : scan .idle "1 \x7b assign(A, H) : house(H) \x7d 1 :- ".toList =
        some ([.symbol (.number 1), .lbrace, .symbol (.constant "assign"), .lparen, .variable "A",
          .comma, .variable "H", .rparen, .colon, .symbol (.constant "house"), .lparen,
          .variable "H", .rparen, .rbrace, .symbol (.number 1), .implied], .idle) := rfl
    have hclose : scan .idle ("(A).".toList ++ ['\n']) =
        some ([.lparen, .variable "A", .rparen, .dot], .idle) := rfl
    simp only [hline, String.toList_append, List.append_assoc]
    rw [scan_append hopen, isToken_constant h _ (stops_text "(A)." rfl), scan_line hclose]
    simp [lineTokens, tokens, meaning?, rule?]
  | fillEach category =>
    have hline : (fillEach category).render =
        ":- house(H), #count \x7b X : assign(X, H), " ++ category ++ "(X) \x7d != 1." := rfl
    have hopen : scan .idle ":- house(H), #count \x7b X : assign(X, H), ".toList =
        some ([.implied, .symbol (.constant "house"), .lparen, .variable "H", .rparen, .comma,
          .directive "count", .lbrace, .variable "X", .colon, .symbol (.constant "assign"), .lparen,
          .variable "X", .comma, .variable "H", .rparen, .comma], .idle) := rfl
    have hclose : scan .idle ("(X) \x7d != 1.".toList ++ ['\n']) =
        some ([.lparen, .variable "X", .rparen, .rbrace, .differ, .symbol (.number 1), .dot],
          .idle) := rfl
    simp only [hline, String.toList_append, List.append_assoc]
    rw [scan_append hopen, isToken_constant h _ (stops_text "(X) \x7d != 1." rfl),
      scan_line hclose]
    simp [lineTokens, tokens, meaning?, rule?]
  | neighbour side =>
    cases side with
    | left => exact scan_line rfl
    | right => exact scan_line rfl
  | constraint c =>
    exact Constraint.scan_render h
  | showAssignments => exact scan_line rfl

end Statement

namespace Asp

theorem cutAt?_eq_none {t : Token} {ts : List Token} (h : t ∉ ts) : cutAt? t ts = none := by
  induction ts with
  | nil => rfl
  | cons u ts ih =>
    have hu : u ≠ t := fun hu => h (hu ▸ List.mem_cons_self)
    rw [cutAt?, if_neg hu, ih fun hts => h (List.mem_cons_of_mem _ hts)]
    rfl

theorem cutAt?_append {t : Token} {before : List Token} (h : t ∉ before) (behind : List Token) :
    cutAt? t (before ++ t :: behind) = some (before, behind) := by
  induction before with
  | nil => simp [cutAt?]
  | cons u before ih =>
    have hu : u ≠ t := fun hu => h (hu ▸ List.mem_cons_self)
    rw [List.cons_append, cutAt?, if_neg hu, ih fun hmem => h (List.mem_cons_of_mem _ hmem)]
    rfl

/-- The first statement ends at the first dot. -/
theorem Read.statements_dot {before ts rest : List Token} (h : .dot ∉ ts) :
    statements before (ts ++ .dot :: rest) =
      (statement (before ++ ts)).bind fun s => (statements [] rest).map (s :: ·) := by
  induction ts generalizing before with
  | nil =>
    rw [List.nil_append, List.append_nil, statements]
    cases statement before with
    | none => rfl
    | some s => cases statements [] rest <;> rfl
  | cons t ts ih =>
    have ht : t ≠ .dot := fun ht => h (ht ▸ List.mem_cons_self)
    rw [List.cons_append, statements, ih fun hts => h (List.mem_cons_of_mem _ hts),
      List.append_assoc, List.singleton_append]
    exact ht

end Asp

namespace Statement

open Asp (Read.statement)

theorem mem_poolTokens {terms : List Term} {u : Token}
    (h : u ∈ [Token.semicolon].intercalate (terms.map fun t => [.symbol t.symbol])) :
    u = .semicolon ∨ ∃ t, u = .symbol t := by
  induction terms with
  | nil => simp at h
  | cons t terms ih =>
    cases terms with
    | nil =>
      simp only [List.map_cons, List.map_nil, List.intercalate_singleton, List.mem_singleton] at h
      exact .inr ⟨_, h⟩
    | cons v terms =>
      simp only [List.map_cons, List.intercalate_cons_cons, List.cons_append, List.nil_append,
        List.mem_cons] at h ih
      cases h with
      | inl h => exact .inr ⟨_, h⟩
      | inr h =>
        cases h with
        | inl h => exact .inl h
        | inr h => exact ih h

theorem notMem_poolTokens {terms : List Term} {u : Token} (hsemicolon : u ≠ .semicolon)
    (hsymbol : ∀ t, u ≠ .symbol t) :
    u ∉ [Token.semicolon].intercalate (terms.map fun t => [.symbol t.symbol]) := by
  intro h
  cases mem_poolTokens h with
  | inl h => exact hsemicolon h
  | inr h => exact hsymbol _ h.choose_spec

theorem statement_pool {category : String} {terms : List Term} (hne : terms ≠ []) :
    Asp.Read.statement (pool category terms).tokens = (pool category terms).meaning? := by
  have hrparen : Token.rparen ∉
      [Token.semicolon].intercalate (terms.map fun t => [.symbol t.symbol]) :=
    notMem_poolTokens (by simp) (by simp)
  have himplied : Token.implied ∉ (pool category terms).tokens := by
    simp [tokens, notMem_poolTokens]
  have happlied : Asp.Read.applied (pool category terms).tokens = some (category,
      [Token.semicolon].intercalate (terms.map fun t => [.symbol t.symbol])) := by
    rw [tokens, Asp.Read.applied, Asp.cutAt?_append hrparen]
  have hsplit : ([Token.semicolon].intercalate
      (terms.map fun t => [Token.symbol t.symbol])).splitOn .semicolon =
      terms.map fun t => [.symbol t.symbol] :=
    List.splitOn_intercalate _ (by simp) (by simpa using hne)
  have halternatives : (terms.map fun t => [Token.symbol t.symbol]).mapM Asp.Read.alternative =
      some (terms.map fun t => .single t.expr) := by
    clear hne hrparen himplied happlied hsplit
    induction terms with
    | nil => rfl
    | cons t terms ih =>
      rw [List.map_cons, List.mapM_cons, ih]
      rfl
  have hhead : Asp.Read.head (pool category terms).tokens =
      some (.pool category (terms.map fun t => .single t.expr)) := by
    unfold Asp.Read.head
    split
    · next h => cases h
    · simp only [happlied, Option.bind_eq_bind, Option.bind_some, hsplit, halternatives]
      rfl
  unfold Asp.Read.statement
  split
  · next h => cases h
  · rw [Asp.Read.rule, Asp.cutAt?_eq_none himplied, hhead]
    rfl

theorem statement_constraint (c : Constraint) :
    Asp.Read.statement c.tokens = some (.rule ⟨.none, c.literals⟩) := by
  cases c with
  | together l r => rfl
  | «at» t n => rfl
  | related relation l r => cases relation <;> cases l <;> cases r <;> rfl

/-- The tokens of a statement form what it means. -/
theorem statement_tokens {s : Statement} {a : Asp.Statement} (h : s.Readable)
    (ha : s.meaning? = some a) : Asp.Read.statement s.tokens = some a := by
  rw [← ha]
  cases s with
  | comment text => cases ha
  | blank => cases ha
  | houses count => rfl
  | pool category terms => exact statement_pool h.2.1
  | placeEach category => rfl
  | fillEach category => rfl
  | neighbour side => cases side <;> rfl
  | constraint c => exact statement_constraint c
  | showAssignments => rfl

theorem dot_notMem_tokens (s : Statement) : Token.dot ∉ s.tokens := by
  cases s with
  | pool category terms => simp [tokens, notMem_poolTokens]
  | neighbour side => cases side <;> simp [tokens, neighbourTokens]
  | constraint c =>
    cases c with
    | together l r => simp [tokens, Constraint.tokens, Term.assignmentTokens]
    | «at» t n => simp [tokens, Constraint.tokens, Term.assignmentTokens]
    | related relation l r =>
      cases relation <;> cases l <;> cases r <;>
        simp [tokens, Constraint.tokens, Term.assignmentTokens, Place.bindingTokens, Place.token,
          Relation.violationTokens]
  | _ => simp [tokens]

end Statement

namespace Program

theorem scan_render {p : Program} (h : p.Readable) :
    scan .idle p.render.toList = some (p.flatMap Statement.lineTokens, .idle) := by
  induction p with
  | nil => rfl
  | cons s p ih =>
    have hp : Readable p := fun t ht => h t (List.mem_cons_of_mem _ ht)
    have hsplit : (render (s :: p)).toList = s.render.toList ++ '\n' :: (render p).toList := by
      simp [render]
    rw [hsplit, Statement.scan_render (h s List.mem_cons_self), ih hp]
    rfl

theorem statements_lineTokens {p : Program} (h : p.Readable) :
    Asp.Read.statements [] (p.flatMap Statement.lineTokens) = some p.meaning := by
  induction p with
  | nil => rfl
  | cons s p ih =>
    have hp : Readable p := fun t ht => h t (List.mem_cons_of_mem _ ht)
    rw [List.flatMap_cons, Statement.lineTokens, meaning]
    cases hs : s.meaning? with
    | none =>
      rw [List.filterMap_cons_none hs, Option.isSome_none, if_neg Bool.false_ne_true,
        List.nil_append]
      exact ih hp
    | some a =>
      have hread := Statement.statement_tokens (h s List.mem_cons_self) hs
      rw [List.filterMap_cons_some hs, Option.isSome_some, if_pos rfl, List.append_assoc,
        List.singleton_append, Asp.Read.statements_dot (Statement.dot_notMem_tokens s),
        List.nil_append, hread, ih hp]
      rfl

/-- The text of a program is read as the statements that it means. -/
theorem read_render {p : Program} (h : p.Readable) : Asp.read p.render = some p.meaning := by
  have htokens : Asp.tokens p.render = some (p.flatMap Statement.lineTokens) := by
    rw [Asp.tokens, scan_render h]
    exact congrArg some (List.append_nil _)
  rw [Asp.read, htokens]
  exact statements_lineTokens h

end Program

end HousePuzzle
