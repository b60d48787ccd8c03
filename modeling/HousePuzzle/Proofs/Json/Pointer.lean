import HousePuzzle.Proofs.Json.Token
import HousePuzzle.Proofs.Registry
import HousePuzzle.Proofs.Text.Split
import HousePuzzle.Schema

/-!
Pointers into documents (RFC 6901): tokens with a slash in front of each, in which a tilde is
written `~0` and a slash `~1`. A pointer of tokens without slashes and tildes leads where its tokens
say; one token with a slash or a tilde, written as it stands, leads elsewhere or nowhere.
-/

namespace HousePuzzle

open Schema (Step)

/-- What stands in a document at a place. -/
def Json.at? : List Step → Json → Option Json
  | [], d => some d
  | .field name :: place, .obj fields => (Assoc.get? name fields).bind (at? place)
  | .item i :: place, .arr items => items[i]?.bind (at? place)
  | _, _ => none

namespace Pointer

/-- A tilde stands before a zero, for itself, or before a one, for a slash. -/
def unescape? : List Char → Option (List Char)
  | [] => some []
  | '~' :: '0' :: cs => (unescape? cs).map ('~' :: ·)
  | '~' :: '1' :: cs => (unescape? cs).map ('/' :: ·)
  | c :: cs => if c = '~' then none else (unescape? cs).map (c :: ·)

def token? (piece : List Char) : Option String :=
  (unescape? piece).map String.ofList

/-- The empty pointer is that of the whole document. -/
def tokens? (text : String) : Option (List String) :=
  match text.toList with
  | [] => some []
  | c :: cs => if c = '/' then (Text.splitAtChar '/' cs).mapM token? else none

/-- Items are counted from zero, without a zero in front of the number. -/
def index? (token : String) : Option Nat :=
  if Name.isNumeralForm token.toList then some (Nat.ofDigitChars 10 token.toList 0) else none

def member? (token : String) : Json → Option (Step × Json)
  | .obj fields => (Assoc.get? token fields).map (.field token, ·)
  | .arr items => (index? token).bind fun i => items[i]?.map (.item i, ·)
  | _ => none

def follow? : List String → Json → Option (List Step × Json)
  | [], d => some ([], d)
  | token :: tokens, d =>
    (member? token d).bind fun m => (follow? tokens m.2).map fun found => (m.1 :: found.1, found.2)

/-- The place in a document that a pointer leads to, with what stands there. -/
def resolve? (text : String) (d : Json) : Option (List Step × Json) :=
  (tokens? text).bind (follow? · d)

/-- A token that is written as it stands. -/
def IsPlain (token : String) : Prop :=
  '/' ∉ token.toList ∧ '~' ∉ token.toList

instance (token : String) : Decidable (IsPlain token) :=
  inferInstanceAs (Decidable (_ ∧ _))

/-- The tokens as they stand, each behind a slash. -/
def written : List String → List Char
  | [] => []
  | token :: tokens => '/' :: (token.toList ++ written tokens)

variable {cs ds : List Char} {text token : String} {tokens : List String} {d v : Json}
  {place : List Step}

section Tokens

theorem unescape?_cons_of_ne {c : Char} (hc : c ≠ '~') (cs : List Char) :
    unescape? (c :: cs) = (unescape? cs).map (c :: ·) := by
  rw [unescape?, if_neg hc]
  · exact fun _ heq => absurd heq hc
  · exact fun _ heq => absurd heq hc

theorem unescape?_of_notMem (h : '~' ∉ cs) : unescape? cs = some cs := by
  induction cs with
  | nil => rfl
  | cons c cs ih =>
    obtain ⟨hc, hcs⟩ := not_or.1 (mt List.mem_cons.2 h)
    rw [unescape?_cons_of_ne (Ne.symm hc), ih hcs]
    rfl

/-- A tilde and the digit behind it are one character less when they are read. -/
theorem length_of_unescape? (h : unescape? cs = some ds) :
    ds.length + cs.count '~' = cs.length := by
  fun_induction unescape? cs generalizing ds with
  | case1 => simp_all
  | case2 cs ih | case3 cs ih =>
    obtain ⟨es, hes, rfl⟩ := Option.map_eq_some_iff.1 h
    have hlength := ih hes
    simp only [List.length_cons, List.count_cons_self]
    rw [List.count_cons_of_ne (by decide)]
    omega
  | case4 => cases h
  | case5 c cs _ _ hc ih =>
    obtain ⟨es, hes, rfl⟩ := Option.map_eq_some_iff.1 h
    rw [List.count_cons_of_ne hc, List.length_cons, List.length_cons, ← ih hes]
    omega

theorem token?_of_isPlain (h : IsPlain token) : token? token.toList = some token := by
  rw [token?, unescape?_of_notMem h.2, Option.map_some, String.ofList_toList]

theorem notMem_of_token? (h : token? token.toList = some token) : '~' ∉ token.toList := by
  obtain ⟨cs, hcs, htoken⟩ := Option.map_eq_some_iff.1 h
  have hlength := length_of_unescape? hcs
  rw [← htoken, String.toList_ofList] at hlength ⊢
  exact List.count_eq_zero.1 (by omega)

theorem mapM_token?_of_isPlain (htoken : IsPlain token) (h : ∀ t ∈ tokens, IsPlain t) :
    (Text.splitAtChar '/' (token.toList ++ written tokens)).mapM token? =
      some (token :: tokens) := by
  induction tokens generalizing token with
  | nil =>
    rw [written, List.append_nil, Text.splitAtChar_of_notMem htoken.1, List.mapM_cons,
      token?_of_isPlain htoken]
    rfl
  | cons t tokens ih =>
    obtain ⟨ht, h⟩ := List.forall_mem_cons.1 h
    rw [written, Text.splitAtChar_append htoken.1, List.mapM_cons, token?_of_isPlain htoken,
      ih ht h]
    rfl

/-- Tokens that are written as they stand are read as they stand. -/
theorem tokens?_of_written (htext : text.toList = written tokens) (h : ∀ t ∈ tokens, IsPlain t) :
    tokens? text = some tokens := by
  cases tokens with
  | nil => rw [tokens?, htext, written]
  | cons t tokens =>
    obtain ⟨ht, h⟩ := List.forall_mem_cons.1 h
    rw [tokens?, htext, written]
    exact (if_pos rfl).trans (mapM_token?_of_isPlain ht h)

theorem length_of_mapM_token? {pieces : List (List Char)} (h : pieces.mapM token? = some tokens) :
    pieces.length = tokens.length := by
  induction pieces generalizing tokens with
  | nil =>
    obtain rfl := Option.some.inj h
    rfl
  | cons piece pieces ih =>
    rw [List.mapM_cons] at h
    obtain ⟨t, _, h⟩ := Option.bind_eq_some_iff.1 h
    obtain ⟨ts, hts, h⟩ := Option.bind_eq_some_iff.1 h
    obtain rfl := Option.some.inj h
    rw [List.length_cons, List.length_cons, ih hts]

/-- A token behind a plain one is not read as it stands unless it is plain too. -/
theorem isPlain_of_tokens? {front : String} (htext : text.toList = written [front, token])
    (hfront : IsPlain front) (h : tokens? text = some [front, token]) : IsPlain token := by
  have hpieces : (Text.splitAtChar '/' token.toList).mapM token? = some [token] := by
    rw [tokens?, htext, written, written, written, List.append_nil] at h
    have hall := (if_pos rfl).symm.trans h
    rw [Text.splitAtChar_append hfront.1, List.mapM_cons, token?_of_isPlain hfront,
      Option.bind_eq_bind, Option.bind_some] at hall
    obtain ⟨ts, hts, hall⟩ := Option.bind_eq_some_iff.1 hall
    obtain rfl : ts = [token] := by simpa using hall
    exact hts
  have hone := length_of_mapM_token? hpieces
  rw [Text.length_splitAtChar, List.length_singleton, Nat.add_eq_right, List.count_eq_zero] at hone
  rw [Text.splitAtChar_of_notMem hone, List.mapM_cons] at hpieces
  obtain ⟨t, ht, hpieces⟩ := Option.bind_eq_some_iff.1 hpieces
  obtain rfl : t = token := by simpa using hpieces
  exact ⟨hone, notMem_of_token? ht⟩

end Tokens

section Follow

theorem index?_writeNat (i : Nat) : index? (Numeral.writeNat i) = some i := by
  rw [index?, Numeral.toList_writeNat, if_pos (Numeral.isNumeralForm_toDigits i),
    Nat.ofDigitChars_ten_toDigits]

theorem writeNat_of_index? {i : Nat} (h : index? token = some i) : Numeral.writeNat i = token := by
  unfold index? at h
  split at h
  · next hform =>
    obtain rfl := Option.some.inj h
    rw [Numeral.writeNat, Numeral.toDigits_of_isNumeralForm hform, String.ofList_toList]
  · cases h

theorem text_of_member? {m : Step × Json} (h : member? token d = some m) : m.1.text = token := by
  unfold member? at h
  split at h
  · obtain ⟨v, _, rfl⟩ := Option.map_eq_some_iff.1 h
    rfl
  · obtain ⟨i, hi, h⟩ := Option.bind_eq_some_iff.1 h
    obtain ⟨v, _, rfl⟩ := Option.map_eq_some_iff.1 h
    exact writeNat_of_index? hi
  · cases h

/-- A pointer leads along its tokens. -/
theorem text_of_follow? {found : List Step × Json} (h : follow? tokens d = some found) :
    found.1.map Step.text = tokens := by
  induction tokens generalizing d found with
  | nil =>
    obtain rfl := Option.some.inj h
    rfl
  | cons token tokens ih =>
    obtain ⟨m, hm, h⟩ := Option.bind_eq_some_iff.1 h
    obtain ⟨rest, hrest, rfl⟩ := Option.map_eq_some_iff.1 h
    rw [List.map_cons, text_of_member? hm, ih hrest]

theorem follow?_of_at? (h : d.at? place = some v) :
    follow? (place.map Step.text) d = some (place, v) := by
  induction place generalizing d with
  | nil =>
    obtain rfl := Option.some.inj h
    rfl
  | cons step place ih =>
    cases step with
    | field name =>
      cases d with
      | obj fields =>
        obtain ⟨w, hw, h⟩ := Option.bind_eq_some_iff.1 h
        have hmember : member? name (.obj fields) = some (.field name, w) := by
          rw [member?, hw, Option.map_some]
        rw [List.map_cons, follow?, Step.text, hmember, Option.bind_some, ih h, Option.map_some]
      | _ => cases h
    | item i =>
      cases d with
      | arr items =>
        obtain ⟨w, hw, h⟩ := Option.bind_eq_some_iff.1 h
        have hmember : member? (Numeral.writeNat i) (.arr items) = some (.item i, w) := by
          rw [member?, index?_writeNat, Option.bind_some, hw, Option.map_some]
        rw [List.map_cons, follow?, Step.text, hmember, Option.bind_some, ih h, Option.map_some]
      | _ => cases h

theorem resolve?_of_at? (htext : text.toList = written (place.map Step.text))
    (hplain : ∀ step ∈ place, IsPlain step.text) (h : d.at? place = some v) :
    resolve? text d = some (place, v) := by
  rw [resolve?, tokens?_of_written htext (by simpa using hplain), Option.bind_some,
    follow?_of_at? h]

theorem tokens?_of_resolve? (h : resolve? text d = some (place, v)) :
    tokens? text = some (place.map Step.text) := by
  obtain ⟨tokens, htokens, h⟩ := Option.bind_eq_some_iff.1 h
  rw [htokens, ← text_of_follow? h]

end Follow

end Pointer

end HousePuzzle
