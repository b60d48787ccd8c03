import HousePuzzle.Console.Markup
import HousePuzzle.Proofs.Binary64
import HousePuzzle.Proofs.Traversal

/-!
Texts whose brackets are all those of tags, where each tag is closed before the next is opened. Such
a text can be shown, whatever stands between the tags.
-/

namespace HousePuzzle

/-- Only shares of red, green and blue may be unreadable. -/
theorem Colour.exists_isColour {cs : List Char} (h : argument? "rgb(" cs = none) :
    ∃ b, isColour cs = .ok b := by
  unfold isColour
  split
  · exact ⟨_, rfl⟩
  · split
    · exact ⟨true, rfl⟩
    · exact ⟨false, by rw [isMixed, h]⟩

namespace Style

variable {s : Style} {word : String} {b : Bool}

theorem addWords_word (hlower : Text.lower word = word) (hspecial : word ∉ ["on", "not", "link"])
    (hproperty : property? word = none) (hcolour : Colour.isColour word.toList = .ok b) :
    s.addWords [word] = .ok (if b then some { s with colour? := some word } else none) := by
  simp only [List.mem_cons, List.not_mem_nil, or_false, not_or] at hspecial
  obtain ⟨hon, hnot, hlink⟩ := hspecial
  unfold addWords
  rw [hlower]
  split
  · next hword => cases hword
  · next hword => cases hword
  · next hword => cases hword
  · exact absurd rfl hon
  · exact absurd rfl hnot
  · exact absurd rfl hlink
  · rw [hproperty]
    simp only [hcolour]
    cases b <;> rfl

/-- A word goes by itself, whether or not it is a colour. -/
theorem normalName_word (hwords : words word.toList = [word.toList])
    (htrim : Text.trimChars word.toList = word.toList) (hlower : Text.lower word = word)
    (hnone : word.toList ≠ "none".toList) (hspecial : word ∉ ["on", "not", "link"])
    (hproperty : property? word = none) (hcolour : Colour.argument? "rgb(" word.toList = none) :
    normalName word.toList = .ok word := by
  obtain ⟨b, hb⟩ := Colour.exists_isColour hcolour
  have hread : read? word.toList = .ok (if b then some ⟨[], some word, none, none⟩ else none) := by
    rw [read?, htrim, if_neg hnone, hwords, List.map_singleton, String.ofList_toList,
      addWords_word hlower hspecial hproperty hb]
  rw [normalName, hread]
  cases b with
  | true => simp [bind, Except.bind, pure, Except.pure, name]
  | false => simp [bind, Except.bind, htrim, hlower, pure, Except.pure]

end Style

namespace Markup

/-- Characters that neither open a tag nor keep one from being opened. -/
def IsOrdinary (c : Char) : Prop :=
  c ≠ '[' ∧ c ≠ '\\'

instance (c : Char) : Decidable (IsOrdinary c) :=
  inferInstanceAs (Decidable (_ ∧ _))

/-- A text without tags, whatever stands before or behind it. -/
def IsUntagged (cs : List Char) : Prop :=
  ∀ c ∈ cs, IsOrdinary c

-- Over the text, not over all characters: there are too many of them to be looked at.
instance (cs : List Char) : Decidable (IsUntagged cs) :=
  List.decidableBAll _ _

/-- The name of a style in small letters, the one that the style goes by. -/
structure IsStyle (s : List Char) : Prop where
  nonempty : s ≠ []
  small : ∀ c ∈ s, Name.isSmall c = true
  named : normalName s = .ok (String.ofList s)

/-- A stretch of a text: characters, in a style or in none. -/
inductive Span
  | plain (cs : List Char)
  | styled (style cs : List Char)

def Span.write : Span → List Char
  | .plain cs => cs
  | .styled s cs => '[' :: s ++ ']' :: (cs ++ ('[' :: ('/' :: s) ++ [']']))

/-- The characters of a span do not read as tags. -/
inductive Span.WellFormed : Span → Prop
  | plain {cs : List Char} : IsUntagged cs → WellFormed (.plain cs)
  | styled {s cs : List Char} : IsStyle s → IsUntagged cs → WellFormed (.styled s cs)

/-- A tag without parameters, with the name of a style. -/
def Tag.IsNamed (tag : Tag) : Prop :=
  ∃ s, IsStyle s ∧ tag.name = String.ofList s ∧ tag.parameters? = none

/-- The text since the last tag, and no slashes before the next. -/
def addRun (t : StyledText) (run : List Char) : StyledText :=
  addText (addText t (unescape run.reverse)) []

variable {c : Char} {cs s rest run : List Char} {position place : Nat} {t : StyledText}
  {opened behind : List Tag} {tag : Tag}

section Pieces

theorem pieces_cons (h : IsOrdinary c) :
    pieces run position (c :: rest) = pieces (c :: run) (position + 1) rest := by
  have hslashes : (c :: rest).takeWhile (· = '\\') = [] := by simp [h.2]
  have hbody : tagBody? (c :: rest) = none := by
    unfold tagBody?
    split
    · next heq => exact absurd (List.cons.inj heq).1 h.1
    · rfl
  rw [pieces]
  simp only [hslashes, List.length_nil, List.drop_zero, hbody]

/-- Between tags the text since the last of them grows. -/
theorem pieces_append (h : IsUntagged cs) :
    pieces run position (cs ++ rest) =
      pieces (cs.reverse ++ run) (position + cs.length) rest := by
  induction cs generalizing run position with
  | nil => rfl
  | cons c cs ih =>
    obtain ⟨hc, hcs⟩ := List.forall_mem_cons.1 h
    rw [List.cons_append, pieces_cons hc, ih hcs, List.reverse_cons, List.append_assoc,
      List.length_cons, Nat.add_assoc, Nat.add_comm 1]
    rfl

theorem tagBody?_eq_some (hc : isTagStart c = true) (h : ∀ d ∈ c :: cs, d ≠ ']' ∧ d ≠ '[') :
    tagBody? ('[' :: c :: (cs ++ ']' :: rest)) = some (c :: cs) := by
  have hbody : ∀ d ∈ c :: cs, (d ≠ ']' && d ≠ '[') = true := by simpa using h
  have htake : (c :: (cs ++ ']' :: rest)).takeWhile (fun d => d ≠ ']' && d ≠ '[') = c :: cs := by
    rw [← List.cons_append, List.takeWhile_append_of_pos hbody]
    simp
  simp only [tagBody?, htake, hc]
  simp

theorem pieces_tag (hc : isTagStart c = true) (h : ∀ d ∈ c :: cs, d ≠ ']' ∧ d ≠ '[') :
    pieces run position ('[' :: (c :: cs) ++ ']' :: rest) =
      .text (unescape run.reverse) :: .text [] :: .tag position (c :: cs) ::
        pieces [] (position + (c :: cs).length + 2) rest := by
  rw [List.cons_append, List.cons_append, pieces]
  simp [tagBody?_eq_some hc h]

end Pieces

theorem split_of_notMem (h : '=' ∉ cs) : Markup.split cs = (cs, none) := by
  unfold split
  split
  · next hcut =>
    refine absurd ?_ h
    rw [(Text.cutAtChar?_eq_some hcut).1]
    exact List.mem_append_right _ List.mem_cons_self
  · rfl

namespace IsStyle

theorem ne (h : IsStyle s) (hc : c ∈ s) : c ≠ '[' ∧ c ≠ ']' ∧ c ≠ '=' ∧ c ≠ '/' := by
  have hsmall := h.small c hc
  refine ⟨?_, ?_, ?_, ?_⟩ <;> rintro rfl <;> cases hsmall

theorem trimChars_eq (h : IsStyle s) : Text.trimChars s = s :=
  Text.trimChars_eq_self fun c hc =>
    Numeral.isBlank_of_isWordChar (Name.isWordChar_of_isSmall (h.small c hc))

theorem pieces_opening (h : IsStyle s) :
    pieces run position ('[' :: s ++ ']' :: rest) =
      .text (unescape run.reverse) :: .text [] :: .tag position s ::
        pieces [] (position + s.length + 2) rest := by
  cases s with
  | nil => exact absurd rfl h.nonempty
  | cons c cs =>
    have hc : isTagStart c = true := by
      have hsmall : ('a' ≤ c && c ≤ 'z') = true := h.small c List.mem_cons_self
      rw [isTagStart, hsmall, Bool.true_or, Bool.true_or, Bool.true_or]
    exact pieces_tag hc fun d hd => ⟨(h.ne hd).2.1, (h.ne hd).1⟩

theorem pieces_closing (h : IsStyle s) :
    pieces run position ('[' :: ('/' :: s) ++ ']' :: rest) =
      .text (unescape run.reverse) :: .text [] :: .tag position ('/' :: s) ::
        pieces [] (position + ('/' :: s).length + 2) rest := by
  refine pieces_tag rfl fun d hd => ?_
  rcases List.mem_cons.1 hd with rfl | hd
  · decide
  · exact ⟨(h.ne hd).2.1, (h.ne hd).1⟩

theorem split_closing (h : IsStyle s) : Markup.split ('/' :: s) = ('/' :: s, none) := by
  refine split_of_notMem fun hs => ?_
  rcases List.mem_cons.1 hs with hs | hs
  · cases hs
  · exact (h.ne hs).2.2.1 rfl

/-- The text before a tag is shown before the tag is opened. -/
theorem shown_opening (h : IsStyle s) :
    shown t opened behind (pieces run position ('[' :: s ++ ']' :: rest)) =
      shown (addRun t run) (⟨String.ofList s, none, (addRun t run).chars.length⟩ :: opened) behind
        (pieces [] (position + s.length + 2) rest) := by
  have hsplit : Markup.split s = (s, none) := split_of_notMem fun hs => (h.ne hs).2.2.1 rfl
  rw [h.pieces_opening, shown, shown, shown.eq_def]
  simp only [hsplit]
  split
  · next heq =>
    obtain ⟨rfl, _⟩ := Prod.mk.inj heq
    exact absurd rfl (h.ne List.mem_cons_self).2.2.2
  · next heq =>
    obtain ⟨rfl, rfl⟩ := Prod.mk.inj heq
    simp only [h.named, bind, Except.bind, addRun]

/-- A tag is closed when it is the last that was opened. -/
theorem shown_closing (h : IsStyle s) :
    shown t (⟨String.ofList s, none, place⟩ :: opened) behind
        (pieces run position ('[' :: ('/' :: s) ++ ']' :: rest)) =
      shown (close (addRun t run) ⟨String.ofList s, none, place⟩) opened
        (⟨String.ofList s, none, place⟩ :: behind)
        (pieces [] (position + ('/' :: s).length + 2) rest) := by
  have hname : (Text.trimChars s).isEmpty = false := by
    rw [h.trimChars_eq, List.isEmpty_eq_false_iff]
    exact h.nonempty
  have hclosed : closed? (⟨String.ofList s, none, place⟩ :: opened) (String.ofList s) =
      some (⟨String.ofList s, none, place⟩, opened) := by simp [closed?]
  rw [h.pieces_closing, shown, shown, shown.eq_def]
  simp only [h.split_closing, hname, h.named, hclosed, checked, bind, Except.bind, Bool.false_eq_true,
    if_false, addRun]

end IsStyle

/-- A closing tag closes nothing when no tag is open. -/
theorem IsStyle.shown_unmatched (h : IsStyle s) :
    shown t [] behind (pieces run position ('[' :: ('/' :: s) ++ ']' :: rest)) =
      .error (.unmatched ('/' :: s) position) := by
  have hname : (Text.trimChars s).isEmpty = false := by
    rw [h.trimChars_eq, List.isEmpty_eq_false_iff]
    exact h.nonempty
  rw [h.pieces_closing, shown, shown, shown.eq_def]
  simp only [h.split_closing, hname, h.named, closed?, List.find?_nil, Option.map_none, bind,
    Except.bind, Bool.false_eq_true, if_false]

/-- The spans of a text are shown one after the other, whatever stands behind them, and all their
tags are behind then. -/
theorem exists_shown_append {spans : List Span} (h : ∀ span ∈ spans, span.WellFormed)
    (hbehind : ∀ tag ∈ behind, tag.IsNamed) :
    ∃ t' tags run' position', (∀ tag ∈ tags, tag.IsNamed) ∧
      shown t [] behind (pieces run position (spans.flatMap Span.write ++ rest)) =
        shown t' [] tags (pieces run' position' rest) := by
  induction spans generalizing run position t behind with
  | nil => exact ⟨t, behind, run, position, hbehind, rfl⟩
  | cons span spans ih =>
    obtain ⟨hspan, hspans⟩ := List.forall_mem_cons.1 h
    rw [List.flatMap_cons, List.append_assoc]
    cases hspan with
    | plain hcs =>
      rw [Span.write, pieces_append hcs]
      exact ih hspans hbehind
    | @styled s cs hs hcs =>
      have hwrite (rest : List Char) : (Span.styled s cs).write ++ rest =
          '[' :: s ++ ']' :: (cs ++ ('[' :: ('/' :: s) ++ ']' :: rest)) := by simp [Span.write]
      rw [hwrite, hs.shown_opening, pieces_append hcs, hs.shown_closing]
      exact ih hspans (List.forall_mem_cons.2 ⟨⟨s, hs, rfl, rfl⟩, hbehind⟩)

/-- A text that begins with such spans. -/
theorem exists_shown_spans {spans : List Span} (h : ∀ span ∈ spans, span.WellFormed)
    (rest : List Char) :
    ∃ t tags run position, (∀ tag ∈ tags, tag.IsNamed) ∧
      shown (.plain []) [] [] (pieces [] 0 (spans.flatMap Span.write ++ rest)) =
        shown t [] tags (pieces run position rest) :=
  exists_shown_append h (by simp)

/-- No tag starts anywhere in the text. -/
def IsTagless (cs : List Char) : Prop :=
  ∀ ds, ds <:+ cs → tagBody? ds = none

theorem isTagless_of_notMem (h : '[' ∉ cs) : IsTagless cs := by
  intro ds hds
  unfold tagBody?
  split
  · exact absurd (hds.subset List.mem_cons_self) h
  · rfl

theorem pieces_tagless (h : IsTagless cs) :
    pieces run position cs = [.text (unescape (run.reverse ++ cs))] := by
  induction cs generalizing run position with
  | nil => rw [pieces, List.append_nil]
  | cons c cs ih =>
    have hnone := h _ (List.drop_suffix ((c :: cs).takeWhile (· = '\\')).length (c :: cs))
    have hcs : IsTagless cs := fun ds hds => h ds (hds.trans (List.suffix_cons c cs))
    rw [pieces]
    simp only [hnone]
    rw [ih hcs, List.reverse_cons, List.append_assoc, List.singleton_append]

theorem Tag.IsNamed.normalName_style (h : tag.IsNamed) : normalName tag.style = .ok tag.name := by
  obtain ⟨s, hs, hname, hparameters⟩ := h
  simp [Tag.style, hname, hparameters, hs.named]

/-- What has been shown is rendered, if the styles that are behind can be read. -/
theorem render_of_read {text : String} {tags : List Tag}
    (hshown : shown (.plain []) [] [] (pieces [] 0 text.toList) = .ok (t, tags))
    (htags : ∀ tag ∈ tags, ∃ name, normalName tag.style = .ok name) : render text = .ok t := by
  have hstyles : ∀ drawn ∈ ((tags.zip t.stretches.reverse).filter (isDrawn t ·.2)).mergeSort
      (·.2.1 ≤ ·.2.1), discard (normalName drawn.1.style) = .ok () := by
    intro drawn hdrawn
    have hmem : drawn ∈ tags.zip t.stretches.reverse :=
      List.mem_of_mem_filter (List.mem_mergeSort.1 hdrawn)
    obtain ⟨name, hname⟩ := htags _ (List.of_mem_zip hmem).1
    rw [hname]
    rfl
  rw [render, hshown]
  simp only [bind, Except.bind, forM_eq_ok_iff.2 hstyles]
  rfl

theorem render_of_shown {text : String} {tags : List Tag}
    (hshown : shown (.plain []) [] [] (pieces [] 0 text.toList) = .ok (t, tags))
    (htags : ∀ tag ∈ tags, tag.IsNamed) : render text = .ok t :=
  render_of_read hshown fun tag htag => ⟨tag.name, (htags tag htag).normalName_style⟩

/-- A text of such spans can be shown, with any text behind them that has no tags. -/
theorem exists_render_append (text : String) {spans : List Span}
    (h : ∀ span ∈ spans, span.WellFormed) (hrest : IsTagless rest)
    (htext : text.toList = spans.flatMap Span.write ++ rest) : ∃ t, render text = .ok t := by
  obtain ⟨t, tags, run, position, htags, hshown⟩ := exists_shown_spans h rest
  rw [← htext, pieces_tagless hrest, shown, shown] at hshown
  exact ⟨_, render_of_shown hshown htags⟩

theorem exists_render (text : String) {spans : List Span} (h : ∀ span ∈ spans, span.WellFormed)
    (htext : text.toList = spans.flatMap Span.write) : ∃ t, render text = .ok t :=
  exists_render_append text h (isTagless_of_notMem List.not_mem_nil) (by rw [htext, List.append_nil])

/-- A text without tags can be shown. -/
theorem exists_render_untagged {text : String} (h : IsUntagged text.toList) :
    ∃ t, render text = .ok t :=
  exists_render text (List.forall_mem_singleton.2 (.plain h)) (by simp [Span.write])

/-- A text in which a closing tag stands behind such spans cannot be shown. -/
theorem exists_render_eq_unmatched (text : String) (rest : List Char) {spans : List Span}
    (h : ∀ span ∈ spans, span.WellFormed) (hs : IsStyle s)
    (htext : text.toList = spans.flatMap Span.write ++ ('[' :: ('/' :: s) ++ ']' :: rest)) :
    ∃ position, render text = .error (.unmatched ('/' :: s) position) := by
  obtain ⟨t, tags, run, position, _, hshown⟩ :=
    exists_shown_spans h ('[' :: ('/' :: s) ++ ']' :: rest)
  rw [← htext, hs.shown_unmatched] at hshown
  exact ⟨position, by rw [render, hshown]; rfl⟩

theorem isUntagged_append : IsUntagged (cs ++ rest) ↔ IsUntagged cs ∧ IsUntagged rest :=
  List.forall_mem_append

/-- A text that is written out is judged by its characters, not by its bytes. -/
theorem isUntagged_ofList (h : IsUntagged cs) : IsUntagged (String.ofList cs).toList := by
  rwa [String.toList_ofList]

theorem isOrdinary_of_isDigit (h : Name.isDigit c = true) : IsOrdinary c := by
  constructor <;> rintro rfl <;> cases h

theorem isUntagged_write (n : Int) : IsUntagged (Numeral.write n).toList :=
  Numeral.forall_mem_write (fun _ => isOrdinary_of_isDigit) (by decide) n

theorem isUntagged_writeNat (n : Nat) : IsUntagged (Numeral.writeNat n).toList := by
  rw [Numeral.toList_writeNat]
  exact Numeral.forall_mem_toDigits (fun _ => isOrdinary_of_isDigit) n

theorem isUntagged_writeBinary (x : Binary64) : IsUntagged x.write.toList :=
  have hmarks : IsUntagged Binary64.marks := by decide
  Binary64.forall_mem_write (fun _ => isOrdinary_of_isDigit) hmarks x

theorem isStyle_bold : IsStyle "bold".toList :=
  ⟨by decide, List.all_eq_true.1 (by decide), by decide +kernel⟩

theorem isStyle_dim : IsStyle "dim".toList :=
  ⟨by decide, List.all_eq_true.1 (by decide), by decide +kernel⟩

/-- The name of a colour, and of nothing else. -/
theorem isStyle_of_colour {word : String} (hne : word.toList ≠ [])
    (hsmall : word.toList.all Name.isSmall = true)
    (hname : Style.normalName word.toList = .ok word) : IsStyle word.toList :=
  ⟨hne, List.all_eq_true.1 hsmall, by rw [normalName, hname, String.ofList_toList]; rfl⟩

theorem isStyle_green : IsStyle "green".toList :=
  isStyle_of_colour (by decide) (by decide) (Style.normalName_word (by decide) (by decide)
    (by decide) (by decide) (by decide) (by decide) (by decide))

theorem isStyle_red : IsStyle "red".toList :=
  isStyle_of_colour (by decide) (by decide) (Style.normalName_word (by decide) (by decide)
    (by decide) (by decide) (by decide) (by decide) (by decide))

theorem isStyle_yellow : IsStyle "yellow".toList :=
  isStyle_of_colour (by decide) (by decide) (Style.normalName_word (by decide) (by decide)
    (by decide) (by decide) (by decide) (by decide) (by decide))

theorem isStyle_magenta : IsStyle "magenta".toList :=
  isStyle_of_colour (by decide) (by decide) (Style.normalName_word (by decide) (by decide)
    (by decide) (by decide) (by decide) (by decide) (by decide))

end Markup

end HousePuzzle
