import HousePuzzle.Proofs.Console.Markup
import HousePuzzle.Proofs.Text.Quoted
import HousePuzzle.Proofs.Text.Width
import Mathlib.Data.List.Chain

/-!
Texts that are shown as they are: their brackets open no tags, their colons begin no names of
pictures, and every character takes columns.
-/

namespace HousePuzzle.Markup

open Text (IsVisible isVisible_append charWidth)

/-- Characters that may stand side by side without being taken for anything else. -/
def Beside (c d : Char) : Prop :=
  (c = '[' → isTagStart d = false) ∧ (c = '\\' → d ≠ '[') ∧ (c = ':' → Text.isBlank d = true)

instance (c d : Char) : Decidable (Beside c d) :=
  inferInstanceAs (Decidable (_ ∧ _ ∧ _))

/-- Characters that mean nothing, whatever stands behind them. -/
def IsNeutral (c : Char) : Prop :=
  c ≠ '[' ∧ c ≠ '\\' ∧ c ≠ ':'

instance (c : Char) : Decidable (IsNeutral c) :=
  inferInstanceAs (Decidable (_ ∧ _ ∧ _))

/-- A text that is shown as it is, whatever plain text stands behind it. -/
structure IsPlain (cs : List Char) : Prop where
  visible : IsVisible cs
  beside : cs.IsChain Beside
  closed : ∀ c ∈ cs.getLast?, IsNeutral c

instance (cs : List Char) : Decidable (∀ c ∈ cs.getLast?, IsNeutral c) :=
  Option.decidableForallMem cs.getLast?

instance (cs : List Char) : Decidable (IsPlain cs) :=
  decidable_of_iff (IsVisible cs ∧ cs.IsChain Beside ∧ ∀ c ∈ cs.getLast?, IsNeutral c)
    ⟨fun h => ⟨h.1, h.2.1, h.2.2⟩, fun h => ⟨h.visible, h.beside, h.closed⟩⟩

variable {c : Char} {cs ds : List Char} {text : String}

theorem IsNeutral.beside (h : IsNeutral c) (d : Char) : Beside c d :=
  ⟨fun heq => absurd heq h.1, fun heq => absurd heq h.2.1, fun heq => absurd heq h.2.2⟩

theorem IsPlain.append (h : IsPlain cs) (h' : IsPlain ds) : IsPlain (cs ++ ds) := by
  refine ⟨isVisible_append.2 ⟨h.visible, h'.visible⟩, List.isChain_append.2 ⟨h.beside, h'.beside,
    fun c hc d _ => (h.closed c hc).beside d⟩, fun c hc => ?_⟩
  rw [List.getLast?_append] at hc
  cases hlast : ds.getLast? with
  | none =>
    rw [hlast] at hc
    exact h.closed c hc
  | some d =>
    rw [hlast] at hc
    exact h'.closed c (by rwa [hlast])

/-- A text without brackets, backslashes and colons, each of whose characters takes columns. -/
def IsInert (cs : List Char) : Prop :=
  ∀ c ∈ cs, charWidth c ≠ 0 ∧ IsNeutral c

instance (cs : List Char) : Decidable (IsInert cs) :=
  List.decidableBAll _ _

theorem IsInert.isPlain (h : IsInert cs) : IsPlain cs := by
  refine ⟨fun c hc => (h c hc).1, ?_, fun c hc => (h c (List.mem_of_mem_getLast? hc)).2⟩
  induction cs with
  | nil => exact .nil
  | cons c cs ih =>
    obtain ⟨hc, hcs⟩ := List.forall_mem_cons.1 h
    exact (ih hcs).cons fun d _ => hc.2.beside d

theorem isPlain_ofList (h : IsPlain cs) : IsPlain (String.ofList cs).toList := by
  rwa [String.toList_ofList]

theorem isInert_ofList (h : IsInert cs) : IsInert (String.ofList cs).toList := by
  rwa [String.toList_ofList]

theorem IsInert.isUntagged (h : IsInert cs) : IsUntagged cs :=
  fun c hc => ⟨(h c hc).2.1, (h c hc).2.2.1⟩

theorem isInert_append : IsInert (cs ++ ds) ↔ IsInert cs ∧ IsInert ds :=
  List.forall_mem_append

theorem isInert_of_isDigit (h : Name.isDigit c = true) : charWidth c ≠ 0 ∧ IsNeutral c := by
  have hrange := Name.isDigit_iff_toNat.1 h
  have hlow : ¬ c.toNat < 0x20 := by omega
  have hascii : c.toNat < 0x7F := by omega
  refine ⟨by rw [charWidth, if_pos hascii, if_neg hlow]; decide, ?_⟩
  refine ⟨?_, ?_, ?_⟩ <;> rintro rfl <;> cases h

theorem isInert_write (n : Int) : IsInert (Numeral.write n).toList :=
  Numeral.forall_mem_write (fun _ => isInert_of_isDigit) (by decide) n

theorem isInert_writeNat (n : Nat) : IsInert (Numeral.writeNat n).toList := by
  rw [Numeral.toList_writeNat]
  exact Numeral.forall_mem_toDigits (fun _ => isInert_of_isDigit) n

section Quoted

/-- Characters that begin no tag and no name of a picture. A backslash may be among them. -/
def IsMild (c : Char) : Prop :=
  charWidth c ≠ 0 ∧ c ≠ '[' ∧ c ≠ ':'

instance (c : Char) : Decidable (IsMild c) :=
  inferInstanceAs (Decidable (_ ∧ _ ∧ _))

theorem isChain_of_isMild (h : ∀ c ∈ cs, IsMild c) : cs.IsChain Beside := by
  induction cs with
  | nil => exact .nil
  | cons c cs ih =>
    obtain ⟨hc, hcs⟩ := List.forall_mem_cons.1 h
    refine (ih hcs).cons fun d hd => ⟨fun heq => absurd heq hc.2.1, fun _ => ?_,
      fun heq => absurd heq hc.2.2⟩
    exact (hcs d (List.mem_of_mem_head? hd)).2.1

theorem isMild_of_mem_quotedChars (h : IsInert cs) : ∀ c ∈ Text.quotedChars cs, IsMild c :=
  Text.forall_mem_quotedChars (by decide) fun c hc => ⟨(h c hc).1, (h c hc).2.1, (h c hc).2.2.2⟩

/-- A list of quoted texts opens no tag: behind its bracket there is a quote or the other bracket. -/
theorem isPlain_quotedList {items : List String} (h : ∀ item ∈ items, IsInert item.toList) :
    IsPlain (Text.quotedList items).toList := by
  have hmild (item : String) (hitem : item ∈ items) : ∀ c ∈ (Text.quoted item).toList, IsMild c := by
    rw [Text.quoted, String.toList_ofList]
    exact isMild_of_mem_quotedChars (h item hitem)
  have hbody : ∀ c ∈ (", ".intercalate (items.map Text.quoted)).toList, IsMild c := by
    cases items with
    | nil => simp
    | cons item items =>
      rw [List.map_cons, Text.toList_intercalate_cons, List.forall_mem_append]
      refine ⟨hmild item List.mem_cons_self, fun c hc => ?_⟩
      obtain ⟨quoted, hquoted, hmem⟩ := List.mem_flatMap.1 hc
      obtain ⟨other, hother, rfl⟩ := List.mem_map.1 hquoted
      rcases List.mem_append.1 hmem with hmem | hmem
      · exact (by decide : ∀ d ∈ ", ".toList, IsMild d) c hmem
      · exact hmild other (List.mem_cons_of_mem item hother) c hmem
  have hhead : ∀ c ∈ ((", ".intercalate (items.map Text.quoted)).toList ++ [']']).head?,
      isTagStart c = false := by
    cases items with
    | nil =>
      intro c hc
      obtain rfl : ']' = c := Option.some.inj hc
      decide
    | cons item items =>
      have hquote : isTagStart (Text.quoteFor item.toList) = false := by
        unfold Text.quoteFor
        split <;> decide
      rw [List.map_cons, Text.toList_intercalate_cons, Text.quoted, String.toList_ofList,
        Text.quotedChars]
      simpa using hquote
  have htext : (Text.quotedList items).toList =
      '[' :: ((", ".intercalate (items.map Text.quoted)).toList ++ [']']) := by
    simp [Text.quotedList]
  have hrest : ∀ c ∈ (", ".intercalate (items.map Text.quoted)).toList ++ [']'], IsMild c :=
    List.forall_mem_append.2 ⟨hbody, by decide⟩
  rw [htext]
  refine ⟨List.forall_mem_cons.2 ⟨by decide, fun c hc => (hrest c hc).1⟩, ?_, ?_⟩
  · exact (isChain_of_isMild hrest).cons fun d hd => ⟨fun _ => hhead d hd,
      fun heq => absurd heq (by decide), fun heq => absurd heq (by decide)⟩
  · rw [← List.cons_append, List.getLast?_concat]
    rintro c ⟨⟩
    decide

end Quoted

section Shown

/-- Next to each other no characters open a tag. -/
theorem isTagless_of_beside (h : cs.IsChain Beside) : IsTagless cs := by
  intro ds hds
  have hchain : ds.IsChain Beside := by
    obtain ⟨front, rfl⟩ := hds
    exact h.right_of_append
  unfold tagBody?
  split
  · next d rest =>
    have hstart : isTagStart d = false := (List.isChain_cons_cons.1 hchain).1.1 rfl
    simp [hstart]
  · rfl

theorem unescape_of_beside (h : cs.IsChain Beside) : unescape cs = cs := by
  fun_induction unescape cs with
  | case1 rest ih =>
    exact absurd rfl ((List.isChain_cons_cons.1 h).1.2.1 rfl)
  | case2 c rest hne ih => rw [ih h.tail]
  | case3 => rfl

/-- Behind a colon there is a blank or nothing, so no name of a picture. -/
theorem replace_of_beside (h : cs.IsChain Beside) : Emoji.replace cs = cs := by
  fun_induction Emoji.replace cs with
  | case1 => rfl
  | case2 c rest code hname ih =>
    simp only [Bool.and_eq_true, decide_eq_true_eq, Bool.not_eq_true'] at hname
    obtain ⟨⟨rfl, hlength⟩, hblank⟩ := hname
    cases rest with
    | nil => exact absurd hlength (by simp)
    | cons d rest =>
      have hd : Text.isBlank d = true := (List.isChain_cons_cons.1 h).1.2.2 rfl
      have hne : d ≠ ':' := by
        rintro rfl
        exact absurd hd (by decide)
      have hcode : code = d :: rest.takeWhile (· ≠ ':') := List.takeWhile_cons_of_pos (by simpa)
      rw [hcode, List.any_cons, hd] at hblank
      cases hblank
  | case3 c rest code hname ih => rw [ih h.tail]

theorem isShown_of_charWidth (h : charWidth c ≠ 0) : isShown c = true := by
  refine Bool.of_not_eq_false fun hhidden => h ?_
  simp only [isShown, Bool.not_eq_false', List.contains_iff_mem, List.mem_cons, List.not_mem_nil,
    or_false] at hhidden
  have hlow : c.toNat < 0x20 := by omega
  have hascii : c.toNat < 0x7F := by omega
  rw [charWidth, if_pos hascii, if_pos hlow]

theorem addText_of_isPlain (t : StyledText) (h : cs.IsChain Beside) (hvisible : IsVisible cs) :
    addText t (unescape cs) = { t with chars := t.chars ++ cs } := by
  have hfilter : cs.filter isShown = cs :=
    List.filter_eq_self.2 fun c hc => isShown_of_charWidth (hvisible c hc)
  rw [addText, unescape_of_beside h, replace_of_beside h, hfilter]

theorem render_of_isPlain (h : IsPlain text.toList) : render text = .ok (.plain text.toList) := by
  have hshown : shown (.plain []) [] [] (pieces [] 0 text.toList) = .ok (.plain text.toList, []) := by
    rw [pieces_tagless (isTagless_of_beside h.beside), shown, List.reverse_nil, List.nil_append,
      addText_of_isPlain _ h.beside h.visible, shown]
    rfl
  exact render_of_shown hshown (by simp)

/-- A tag that is not closed vanishes, and what is around it stays. -/
theorem exists_render_unclosed (text : String) {front body back : List Char} (hfront : IsInert front)
    (hback : IsPlain back) (hstart : isTagStart c = true) (hslash : c ≠ '/')
    (hbody : ∀ d ∈ c :: body, d ≠ ']' ∧ d ≠ '[' ∧ d ≠ '=')
    (hname : normalName (c :: body) = .ok (String.ofList (c :: body)))
    (htext : text.toList = front ++ ('[' :: (c :: body) ++ ']' :: back)) :
    ∃ t, render text = .ok t ∧ t.chars = front ++ back := by
  have hsplit : Markup.split (c :: body) = (c :: body, none) :=
    split_of_notMem fun hmem => (hbody _ hmem).2.2 rfl
  have hpieces : pieces [] 0 text.toList = [.text (unescape front), .text [],
      .tag front.length (c :: body), .text (unescape back)] := by
    rw [htext, pieces_append hfront.isUntagged, List.append_nil, Nat.zero_add,
      pieces_tag hstart fun d hd => ⟨(hbody d hd).1, (hbody d hd).2.1⟩,
      pieces_tagless (isTagless_of_beside hback.beside), List.reverse_reverse]
    rfl
  have hshown : shown (.plain []) [] [] (pieces [] 0 text.toList) =
      .ok (⟨front ++ back, [(front.length, (front ++ back).length)]⟩,
        [⟨String.ofList (c :: body), none, front.length⟩]) := by
    have hempty (t : StyledText) : addText t [] = t := by
      simp [addText, Emoji.replace]
    rw [hpieces, shown, addText_of_isPlain _ hfront.isPlain.beside hfront.isPlain.visible, shown,
      hempty, shown.eq_def]
    simp only [hsplit]
    split
    · next heq => exact absurd (List.cons.inj (Prod.mk.inj heq).1).1 hslash
    · next heq =>
      obtain ⟨rfl, rfl⟩ := Prod.mk.inj heq
      simp only [hname, bind, Except.bind, shown,
        addText_of_isPlain _ hback.beside hback.visible]
      rfl
  refine ⟨_, render_of_read hshown (List.forall_mem_singleton.2 ⟨String.ofList (c :: body), ?_⟩),
    rfl⟩
  rw [Tag.style, String.toList_ofList]
  simpa using hname

end Shown

end HousePuzzle.Markup
