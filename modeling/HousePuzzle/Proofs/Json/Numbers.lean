import HousePuzzle.Json.Shape
import HousePuzzle.Proofs.Binary64.Range
import HousePuzzle.Proofs.Json.Text
import HousePuzzle.Proofs.Traversal
import Mathlib.Data.Nat.Digits.Defs

/-!
Numbers in documents that are read. A whole number comes from one token, and the token is refused
if it has too many digits.
-/

namespace HousePuzzle.Json

open Text (isAsciiDigit)

/-- Documents in which no number is too long to be read: whole numbers have no more digits than the
limit, and all others have 64 bits. -/
inductive Short : Json → Prop
  | null : Short .null
  | bool (b : Bool) : Short (.bool b)
  | int {n : Int} : digitCount n ≤ Numeral.digitLimit → Short (.int n)
  | float {x : Binary64} : x.Normal → Short (.float x)
  | str (s : String) : Short (.str s)
  | arr {items : List Json} : (∀ v ∈ items, Short v) → Short (.arr items)
  | obj {fields : List (String × Json)} : (∀ f ∈ fields, Short f.2) → Short (.obj fields)

variable {cs ds rest : List Char} {v : Json} {position count : Nat} {negative : Bool}

section Numerals

theorem digitsNat_lt (h : ∀ c ∈ ds, isAsciiDigit c = true) : digitsNat ds < 10 ^ ds.length := by
  have hdigits : ∀ d ∈ ds.map fun c => c.toNat - '0'.toNat, d < 10 := by
    intro d hd
    obtain ⟨c, hc, rfl⟩ := List.mem_map.1 hd
    obtain ⟨_, hhigh⟩ := Name.isDigit_iff_toNat.1 (h c hc)
    have hzero : '0'.toNat = 48 := rfl
    omega
  have hlt := Numeral.digitsValue_lt hdigits
  rw [List.length_map] at hlt
  exact hlt

theorem digitCount_le {n : Int} {k : Nat} (hk : 0 < k) (h : n.natAbs < 10 ^ k) :
    digitCount n ≤ k :=
  (Nat.length_toDigits_le_iff (by decide) hk).2 h

/-- A power of ten has one digit more than its exponent says. -/
theorem lt_length_toDigits (k : Nat) : k < (Nat.toDigits 10 (10 ^ k)).length := by
  have hlt := digitsNat_lt fun c hc => isAsciiDigit_of_mem_toDigits (n := 10 ^ k) hc
  rw [digitsNat_toDigits] at hlt
  exact (Nat.pow_lt_pow_iff_right (by decide)).1 hlt

theorem digitCount_signed (n : Nat) :
    digitCount (Numeral.signed negative n) = (Nat.toDigits 10 n).length := by
  rw [digitCount, Numeral.natAbs_signed]

theorem forall_mem_wholePart (cs : List Char) : ∀ c ∈ (wholePart cs).1, isAsciiDigit c = true := by
  unfold wholePart
  split
  · exact List.forall_mem_singleton.2 rfl
  · exact List.all_eq_true.1 List.all_takeWhile

theorem whole_of_spelling? {s : Spelling} (h : spelling? cs = some (s, rest)) :
    s.whole ≠ [] ∧ ∀ c ∈ s.whole, isAsciiDigit c = true := by
  have hwhole := forall_mem_wholePart cs
  unfold spelling? at h
  split at h
  · cases h
  · next hne heq =>
    obtain ⟨rfl, _⟩ := Prod.mk.inj (Option.some.inj h)
    rw [heq] at hwhole
    exact ⟨hne, hwhole⟩

theorem short_of_value {s : Spelling} (hne : s.whole ≠ [])
    (hs : ∀ c ∈ s.whole, isAsciiDigit c = true) (h : s.value negative = .ok v) : v.Short := by
  unfold Spelling.value at h
  split at h
  · split at h
    · cases h
    · next hlength =>
      obtain rfl := Except.ok.inj h
      refine .int ?_
      rw [digitCount_signed]
      exact (Nat.toDigits_length _ _ _ (List.length_pos_of_ne_nil hne) (digitsNat_lt hs)).trans
        (Nat.not_lt.1 hlength)
  · obtain rfl := Except.ok.inj h
    exact .float (Binary64.normal_ofDecimal ..)

theorem short_of_scalar? (h : scalar? cs = some (.ok v, count)) : v.Short := by
  unfold scalar? at h
  split at h
  · next k w hfind =>
    obtain ⟨hk, _⟩ := Prod.mk.inj (Option.some.inj h)
    obtain rfl := Except.ok.inj hk
    have hkeywords : ∀ k ∈ keywords, k.2.Short := by
      simp only [keywords, List.forall_mem_cons]
      exact ⟨.null, .bool _, .bool _, .float trivial, .float trivial, .float trivial, by simp⟩
    exact hkeywords _ (List.mem_of_find?_eq_some hfind)
  · simp only at h
    obtain ⟨⟨s, behind⟩, hs, heq⟩ := Option.map_eq_some_iff.1 h
    obtain ⟨hne, hdigits⟩ := whole_of_spelling? hs
    exact short_of_value hne hdigits (Prod.mk.inj heq).1

end Numerals

def Token.Short : Token → Prop
  | .scalar v => v.Short
  | _ => True

theorem short_of_punctuation? {c : Char} {token : Token} (h : punctuation? c = some token) :
    token.Short := by
  unfold punctuation? at h
  split at h
  all_goals cases h
  all_goals trivial

theorem short_of_mem_tokens : ∀ l ∈ tokens position cs, l.token.Short := by
  fun_induction tokens position cs with
  | case1 => simp
  | case2 position c rest _ ih => exact ih
  | case3 position c rest _ token htoken ih =>
    exact List.forall_mem_cons.2 ⟨short_of_punctuation? htoken, ih⟩
  | case4 | case5 | case7 | case8 => exact List.forall_mem_singleton.2 trivial
  | case6 _ _ _ _ _ _ _ ih => exact List.forall_mem_cons.2 ⟨trivial, ih⟩
  | case9 _ _ _ _ _ _ _ _ hscalar ih =>
    exact List.forall_mem_cons.2 ⟨short_of_scalar? hscalar, ih⟩

def Frame.Short : Frame → Prop
  | .arr items => ∀ v ∈ items, v.Short
  | .obj fields _ => ∀ f ∈ fields, f.2.Short

def State.Short : State → Prop
  | .value stack | .firstItem stack | .firstKey stack => ∀ f ∈ stack, f.Short
  | .key fields stack | .colon fields _ stack | .afterField fields stack =>
    (∀ f ∈ fields, f.2.Short) ∧ ∀ f ∈ stack, f.Short
  | .afterItem items stack => (∀ v ∈ items, v.Short) ∧ ∀ f ∈ stack, f.Short
  | .done v => v.Short

variable {s t : State} {stack : List Frame} {fields : List (String × Json)} {l : Lexeme}

theorem State.Short.complete (hv : v.Short) (hstack : ∀ f ∈ stack, f.Short) :
    (State.complete v stack).Short := by
  cases stack with
  | nil => exact hv
  | cons f stack =>
    obtain ⟨hf, hbehind⟩ := List.forall_mem_cons.1 hstack
    cases f with
    | arr items => exact ⟨List.forall_mem_append.2 ⟨hf, List.forall_mem_singleton.2 hv⟩, hbehind⟩
    | obj fields k =>
      refine ⟨fun g hg => ?_, hbehind⟩
      rcases Assoc.mem_alter hg with hg | rfl
      · exact hf g hg
      · exact hv

theorem State.Short.startValue (hstack : ∀ f ∈ stack, f.Short) (hl : l.token.Short)
    (h : State.startValue stack l = .ok t) : t.Short := by
  obtain ⟨position, token⟩ := l
  cases token with
  | str s => exact Except.ok.inj h ▸ State.Short.complete (.str s) hstack
  | scalar v => exact Except.ok.inj h ▸ State.Short.complete hl hstack
  | openArr => exact Except.ok.inj h ▸ hstack
  | openObj => exact Except.ok.inj h ▸ hstack
  | _ => cases h

theorem State.Short.startKey (hfields : ∀ f ∈ fields, f.2.Short) (hstack : ∀ f ∈ stack, f.Short)
    (h : State.startKey fields stack l = .ok t) : t.Short := by
  obtain ⟨position, token⟩ := l
  cases token with
  | str s => exact Except.ok.inj h ▸ ⟨hfields, hstack⟩
  | _ => cases h

theorem State.Short.step (hs : s.Short) (hl : l.token.Short) (h : s.step l = .ok t) : t.Short := by
  unfold State.step at h
  split at h
  · exact State.Short.startValue hs hl h
  · exact Except.ok.inj h ▸ State.Short.complete (.arr (by simp)) hs
  · exact State.Short.startValue (List.forall_mem_cons.2 ⟨by simp [Frame.Short], hs⟩) hl h
  · exact State.Short.startKey hs.1 hs.2 h
  · exact Except.ok.inj h ▸ State.Short.complete (.obj (by simp)) hs
  · exact State.Short.startKey (by simp) hs h
  · exact Except.ok.inj h ▸ List.forall_mem_cons.2 hs
  · exact Except.ok.inj h ▸ List.forall_mem_cons.2 hs
  · exact Except.ok.inj h ▸ State.Short.complete (.arr hs.1) hs.2
  · exact Except.ok.inj h ▸ hs
  · exact Except.ok.inj h ▸ State.Short.complete (.obj hs.1) hs.2
  · cases h

theorem short_of_parseChars (h : parseChars cs = .ok v) : v.Short := by
  have hfold (ls : List Lexeme) (hls : ∀ l ∈ ls, l.token.Short) (s t : State) (hs : s.Short)
      (h : ls.foldlM State.step s = .ok t) : t.Short := by
    induction ls generalizing s with
    | nil => exact Except.ok.inj h ▸ hs
    | cons l ls ih =>
      obtain ⟨hl, hls⟩ := List.forall_mem_cons.1 hls
      rw [List.foldlM_cons] at h
      obtain ⟨u, hu, h⟩ := Except.bind_eq_ok_iff.1 h
      exact ih hls u (hs.step hl hu) h
  unfold parseChars at h
  split at h
  · cases h
  · split at h
    · cases h
    · next w hw =>
      obtain rfl := Except.ok.inj h
      exact hfold _ short_of_mem_tokens (.value []) (.done _) (by simp [State.Short]) hw
    · cases h

/-- The whole number that such a value stands for: its digits, or those that it is spelled with, or
the whole part of a number of 64 bits. -/
theorem Short.digitCount_toInt {n : Int} (hv : v.Short) (h : v.toInt = .ok n) :
    digitCount n ≤ Numeral.digitLimit := by
  have hlimit : 0 < Numeral.digitLimit := by decide
  unfold toInt at h
  split at h
  · obtain rfl := Except.ok.inj h
    cases hv with
    | int hn => exact hn
  · next b =>
    obtain rfl := Except.ok.inj h
    cases b <;> decide
  · next negative m q =>
    obtain rfl := Except.ok.inj h
    have hrange : 2 ^ (53 + Binary64.greatestExponent.toNat) ≤ 10 ^ Numeral.digitLimit :=
      (Nat.pow_le_pow_left (by decide) _).trans (Nat.pow_le_pow_right (by decide) (by decide))
    cases hv with
    | float hx =>
      exact digitCount_le hlimit ((Binary64.natAbs_truncate_lt hx negative).trans_le hrange)
  · cases h
  · cases h
  · split at h
    · next hread =>
      obtain rfl := Except.ok.inj h
      exact digitCount_le hlimit (Numeral.natAbs_lt_of_read hread)
    · cases h
  · cases h

section TooLong

/-- What stands in front of the first number of an object that is the first in another. -/
def openings (outer inner : String) : List Char :=
  ['\x7b'] ++ (newline 1).toList ++ (escaped outer).toList ++ ": ".toList ++ (['\x7b'] ++
    (newline 2).toList ++ (escaped inner).toList ++ ": ".toList)

variable {outer inner : String} {n : Nat}

/-- What stands behind that number. -/
def closings (m : String × Json) (ms fs : List (String × Json)) : List Char :=
  ',' :: ((newline 2).toList ++ (fieldText 2 m).toList ++ ms.flatMap (separated 2 (fieldText 2)) ++
    (newline 1).toList ++ ['\x7d'] ++ fs.flatMap (separated 1 (fieldText 1)) ++
      (newline 0).toList ++ ['\x7d'])

theorem toList_indentedAt_nested (outer inner : String) (n : Int) (m : String × Json)
    (ms fs : List (String × Json)) :
    ((Json.obj ((outer, .obj ((inner, .int n) :: m :: ms)) :: fs)).indentedAt 0).toList =
      openings outer inner ++ ((Numeral.write n).toList ++ closings m ms fs) := by
  have hnumber : indentedAt 2 (.int n) = Numeral.write n := rfl
  have hinner : (indentedAt 1 (.obj ((inner, .int n) :: m :: ms))).toList =
      ['\x7b'] ++ ((newline 2).toList ++ ((escaped inner).toList ++ (": ".toList ++
        (Numeral.write n).toList)) ++ (separated 2 (fieldText 2) m ++
          ms.flatMap (separated 2 (fieldText 2)) ++ (newline 1).toList ++ ['\x7d'])) := by
    rw [indentedAt, indentedFields_eq, toList_block_cons]
    simp [fieldText, hnumber, toList_newline]
  rw [indentedAt, indentedFields_eq, toList_block_cons]
  simp only [fieldText, String.toList_append, hinner]
  simp [openings, closings, separated, toList_newline]

theorem passes_openings (outer inner : String) :
    Passes (openings outer inner) (.value []) (.value [.obj [] inner, .obj [] outer]) := by
  have hopen (s : State) (stack : List Frame) (hs : Awaits s stack) (depth : Nat) :
      Passes (['\x7b'] ++ (newline depth).toList) s (.firstKey stack) :=
    (passes_punctuation (c := '\x7b') rfl rfl fun position => hs ⟨position, .openObj⟩ (by simp)).append
      (passes_newline depth)
  have houter := (hopen (.value []) [] awaits_value 1).append
    (awaitsKey_firstKey.passes_key outer)
  have hinner := (hopen (.value [.obj [] outer]) [.obj [] outer] awaits_value 2).append
    (awaitsKey_firstKey.passes_key inner)
  have h := houter.append hinner
  simpa [openings] using h

/-- A document is not read if a number in it is too long. -/
theorem parseChars_longNumeral (hn : Numeral.digitLimit < (Nat.toDigits 10 n).length)
    (hrest : Stops rest) :
    parseChars (openings outer inner ++ (Nat.toDigits 10 n ++ rest)) =
      .error (.longNumeral (Nat.toDigits 10 n).length) := by
  have hhead : (openings outer inner ++ (Nat.toDigits 10 n ++ rest)).head? ≠ some '\uFEFF' := by
    simp [openings]
  have hread : (tokens 0 (openings outer inner ++ (Nat.toDigits 10 n ++ rest))).foldlM State.step
      (.value []) = .error (.longNumeral (Nat.toDigits 10 n).length) := by
    rw [passes_openings, tokens_longNumeral hn hrest]
    rfl
  rw [parseChars, if_neg hhead, hread]
  rfl

end TooLong

end HousePuzzle.Json
