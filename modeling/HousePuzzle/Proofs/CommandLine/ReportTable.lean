import HousePuzzle.Proofs.CommandLine.Valid
import HousePuzzle.Proofs.Console.Grid
import HousePuzzle.Proofs.Console.Plain

/-!
The table of errors. Where the names in a puzzle have no brackets, backslashes and colons, each error
is a row of its own, with its texts as they are; only the form of a category name loses the brackets
that stand for small letters.
-/

namespace HousePuzzle

open Markup (IsInert IsPlain isInert_ofList isInert_write isInert_writeNat isPlain_ofList
  isPlain_quotedList)

/-- What an error quotes has no brackets, backslashes and colons. Violations of the schema quote all
kinds of documents; of them it is said that the whole text is plain. -/
def Defect.IsInert : Defect → Prop
  | .schema v => IsPlain v.place.toList ∧ IsPlain v.fault.message.toList
  | .unreadable e => IsPlain e.message.toList
  | .houseCount given => Markup.IsInert given.quotedText.toList
  | .reservedCategory c => Markup.IsInert c.toList
  | .categoryName c => Markup.IsInert c.toList ∧ Markup.IsInert (Text.lower c).toList
  | .emptyDomain c houses => Markup.IsInert c.toList ∧ Markup.IsInert houses.plainText.toList
  | .valueName p | .valueIsCategory p =>
    Markup.IsInert p.category.toList ∧ Markup.IsInert p.value.toList
  | .ambiguousValue p owner => Markup.IsInert p.category.toList ∧ Markup.IsInert p.value.toList ∧
      Markup.IsInert owner.toList
  | .positionRange p houses =>
    Markup.IsInert p.operand.value.toList ∧ Markup.IsInert houses.plainText.toList
  | .unknownCategory p known =>
    Markup.IsInert p.operand.category.toList ∧ ∀ c ∈ known, Markup.IsInert c.toList
  | .foreignValue p domain => Markup.IsInert p.operand.category.toList ∧
      Markup.IsInert p.operand.value.toList ∧ ∀ v ∈ domain, Markup.IsInert v.toList

/-- A puzzle whose names have no brackets, backslashes and colons. -/
structure Puzzle.IsInert (p : Puzzle) : Prop where
  categories : ∀ e ∈ p.domains.domains,
    Markup.IsInert e.1.toList ∧ Markup.IsInert (Text.lower e.1).toList
  values : ∀ e ∈ p.domains.domains, ∀ v ∈ e.2, Markup.IsInert v.toList
  operands : ∀ r ∈ p.rules, ∀ side, Markup.IsInert (r.operand side).category.toList ∧
    Markup.IsInert (r.operand side).value.toList

instance (p : Puzzle) : Decidable p.IsInert :=
  decidable_of_iff
    ((∀ e ∈ p.domains.domains, Markup.IsInert e.1.toList ∧ Markup.IsInert (Text.lower e.1).toList) ∧
      (∀ e ∈ p.domains.domains, ∀ v ∈ e.2, Markup.IsInert v.toList) ∧
      ∀ r ∈ p.rules,
        (Markup.IsInert r.left.category.toList ∧ Markup.IsInert r.left.value.toList) ∧
        (Markup.IsInert r.right.category.toList ∧ Markup.IsInert r.right.value.toList))
    ⟨fun h => ⟨h.1, h.2.1, fun r hr side => match side with
      | .left => (h.2.2 r hr).1
      | .right => (h.2.2 r hr).2⟩,
    fun h => ⟨h.categories, h.values, fun r hr => ⟨h.operands r hr .left, h.operands r hr .right⟩⟩⟩

theorem Puzzle.IsInert.isUntagged {p : Puzzle} (h : p.IsInert) : p.IsUntagged :=
  ⟨fun e he => (h.categories e he).1.isUntagged, fun r hr side =>
    ⟨(h.operands r hr side).1.isUntagged, (h.operands r hr side).2.isUntagged⟩⟩

/-- Errors quote no more of a puzzle than its names and numbers. -/
theorem Puzzle.IsInert.defect {p : Puzzle} {d : Defect} (hp : p.IsInert)
    (h : d.Concerns (.int p.houses) p.domains p.rules) : d.IsInert := by
  have hcategory (c : String) (hc : c ∈ Assoc.keys p.domains.domains) :
      Markup.IsInert c.toList ∧ Markup.IsInert (Text.lower c).toList := by
    obtain ⟨e, he, rfl⟩ := List.mem_map.1 hc
    exact hp.categories e he
  have hvalue (place : ValuePlace) (hplace : place.IsIn p.domains) :
      Markup.IsInert place.category.toList ∧ Markup.IsInert place.value.toList := by
    obtain ⟨vs, hmem, hv⟩ := hplace
    exact ⟨(hp.categories _ hmem).1, hp.values _ hmem _ (List.mem_of_getElem? hv)⟩
  have hoperand (place : RulePlace) (hplace : place.IsIn p.rules) :
      Markup.IsInert place.operand.category.toList ∧
        Markup.IsInert place.operand.value.toList := by
    obtain ⟨r, hr, hoperand⟩ := hplace
    rw [hoperand]
    exact hp.operands r (List.mem_of_getElem? hr) place.side
  have hhouses : Markup.IsInert (Json.int p.houses).plainText.toList := isInert_write p.houses
  cases h with
  | houseCount => exact isInert_write p.houses
  | reservedCategory hc => exact (hcategory _ hc).1
  | categoryName hc => exact hcategory _ hc
  | emptyDomain hc => exact ⟨(hcategory _ hc).1, hhouses⟩
  | valueName hplace => exact hvalue _ hplace
  | valueIsCategory hplace => exact hvalue _ hplace
  | ambiguousValue hplace howner =>
    exact ⟨(hvalue _ hplace).1, (hvalue _ hplace).2, (hcategory _ howner).1⟩
  | positionRange hplace => exact ⟨(hoperand _ hplace).2, hhouses⟩
  | unknownCategory hplace =>
    refine ⟨(hoperand _ hplace).1, List.forall_mem_append.2 ⟨fun c hc => ?_,
      List.forall_mem_singleton.2 (isInert_ofList (by decide))⟩⟩
    exact (hcategory c (List.mem_filter.1 hc).1).1
  | foreignValue hplace hdomain =>
    exact ⟨(hoperand _ hplace).1, (hoperand _ hplace).2, hp.values _ hdomain⟩

namespace Defect

variable {d : Defect}

theorem isPlain_code (d : Defect) : IsPlain d.code.toList := by
  cases d <;> exact isPlain_ofList (by decide)

theorem isPlain_domainPath {c : String} (h : Markup.IsInert c.toList) :
    IsPlain (domainPath c).toList := by
  rw [domainPath, String.toList_append]
  exact .append (isPlain_ofList (by decide)) h.isPlain

theorem isPlain_valuePath {p : ValuePlace} (h : Markup.IsInert p.category.toList) :
    IsPlain p.path.toList := by
  rw [ValuePlace.path, String.toList_append, String.toList_append]
  refine .append (.append (isPlain_domainPath h) ?_) (isInert_writeNat _).isPlain
  exact isPlain_ofList (by decide)

theorem isPlain_side (side : Side) : IsPlain side.name.toList := by
  cases side <;> exact isPlain_ofList (by decide)

theorem isPlain_rulePath (index : Nat) (side : Side) (words : String) (h : IsPlain words.toList) :
    IsPlain (rulePath index ++ "/" ++ side.name ++ words).toList := by
  simp only [rulePath, String.toList_append]
  refine .append (.append (.append (.append ?_ (isInert_writeNat _).isPlain) ?_)
    (isPlain_side side)) h <;>
    exact isPlain_ofList (by decide)

theorem IsInert.isPlain_path (h : d.IsInert) : IsPlain d.path.toList := by
  cases d with
  | schema v => exact h.1
  | unreadable e => exact isPlain_ofList (by decide)
  | houseCount given => exact isPlain_ofList (by decide)
  | reservedCategory c => exact isPlain_domainPath h
  | categoryName c => exact isPlain_domainPath h.1
  | emptyDomain c houses => exact isPlain_domainPath h.1
  | valueName p => exact isPlain_valuePath h.1
  | valueIsCategory p => exact isPlain_valuePath h.1
  | ambiguousValue p owner => exact isPlain_valuePath h.1
  | positionRange p houses =>
    exact isPlain_rulePath p.index p.side "Value" (isPlain_ofList (by decide))
  | unknownCategory p known =>
    exact isPlain_rulePath p.index p.side "Category" (isPlain_ofList (by decide))
  | foreignValue p domain =>
    exact isPlain_rulePath p.index p.side "Value" (isPlain_ofList (by decide))

/-- What a table shows of the words of an error. In brackets `a-z` is taken for a tag. -/
def shownMessage : Defect → String
  | categoryName c =>
    "Nazwa kategorii '" ++ c ++
      "' nie jest nazwą predykatu ASP (^_*[A-Za-z0-9_]*$, różna od 'not')."
  | d => d.message

theorem IsInert.isPlain_message (h : d.IsInert) : IsPlain d.shownMessage.toList := by
  cases d with
  | schema v => exact h.2
  | unreadable e => exact h
  | houseCount given =>
    unfold shownMessage message
    simp only [String.toList_append]
    refine .append (.append ?_ h.isPlain) ?_ <;>
      exact isPlain_ofList (by decide)
  | reservedCategory c =>
    have hreserved : IsPlain (Text.quotedList Name.reserved).toList :=
      isPlain_quotedList <| by
        simp only [Name.reserved, Name.position, List.forall_mem_cons]
        exact ⟨isInert_ofList (by decide), isInert_ofList (by decide), isInert_ofList (by decide),
          isInert_ofList (by decide), by simp⟩
    unfold shownMessage message
    simp only [String.toList_append]
    refine .append (.append (.append (.append ?_ h.isPlain) ?_) hreserved) ?_ <;>
      exact isPlain_ofList (by decide)
  | categoryName c =>
    unfold shownMessage
    simp only [String.toList_append]
    refine .append (.append ?_ h.1.isPlain) ?_ <;>
      exact isPlain_ofList (by decide +kernel)
  | emptyDomain c houses =>
    unfold shownMessage message
    simp only [String.toList_append]
    refine .append (.append ?_ h.1.isPlain) ?_ <;>
      exact isPlain_ofList (by decide)
  | valueName p =>
    unfold shownMessage message
    simp only [String.toList_append]
    refine .append (.append (.append (.append ?_ h.2.isPlain) ?_) h.1.isPlain) ?_ <;>
      exact isPlain_ofList (by decide)
  | valueIsCategory p =>
    unfold shownMessage message
    simp only [String.toList_append]
    refine .append (.append ?_ h.2.isPlain) ?_ <;>
      exact isPlain_ofList (by decide)
  | ambiguousValue p owner =>
    unfold shownMessage message
    simp only [String.toList_append]
    refine .append (.append (.append (.append (.append (.append ?_ h.2.1.isPlain) ?_)
      h.2.2.isPlain) ?_) h.1.isPlain) ?_ <;>
      exact isPlain_ofList (by decide)
  | positionRange p houses =>
    unfold shownMessage message
    simp only [String.toList_append]
    refine .append (.append (.append (.append (.append (.append (.append (.append ?_
      (isInert_writeNat _).isPlain) ?_) h.1.isPlain) ?_) (isPlain_side p.side)) ?_) h.2.isPlain)
      ?_ <;>
      exact isPlain_ofList (by decide)
  | unknownCategory p known =>
    unfold shownMessage message
    simp only [String.toList_append]
    refine .append (.append (.append (.append (.append (.append ?_ (isInert_writeNat _).isPlain)
      ?_) h.1.isPlain) ?_) (isPlain_side p.side)) ?_ <;>
      exact isPlain_ofList (by decide)
  | foreignValue p domain =>
    unfold shownMessage message
    simp only [String.toList_append]
    refine .append (.append (.append (.append (.append (.append (.append (.append ?_
      (isInert_writeNat _).isPlain) ?_) h.2.1.isPlain) ?_) (isPlain_side p.side)) ?_) h.1.isPlain)
      ?_ <;>
      exact isPlain_ofList (by decide)

theorem IsInert.isPlain_expectedFix (h : d.IsInert) : IsPlain d.expectedFix.toList := by
  unfold expectedFix
  cases d with
  | schema v =>
    simp only [String.toList_append]
    refine .append (.append ?_ h.1) ?_ <;>
      exact isPlain_ofList (by decide)
  | unreadable e => exact isPlain_ofList (by decide)
  | houseCount given => exact isPlain_ofList (by decide)
  | reservedCategory c =>
    dsimp only
    split
    · exact isPlain_ofList (by decide +kernel)
    · simp only [String.toList_append]
      refine .append (.append ?_ h.isPlain) ?_ <;>
        exact isPlain_ofList (by decide)
  | categoryName c =>
    simp only [String.toList_append]
    refine .append (.append ?_ h.2.isPlain) ?_ <;>
      exact isPlain_ofList (by decide +kernel)
  | emptyDomain c houses =>
    simp only [String.toList_append]
    refine .append (.append (.append (.append ?_ h.2.isPlain) ?_) h.1.isPlain) ?_ <;>
      exact isPlain_ofList (by decide)
  | valueName p => exact isPlain_ofList (by decide)
  | valueIsCategory p => exact isPlain_ofList (by decide)
  | ambiguousValue p owner => exact isPlain_ofList (by decide)
  | positionRange p houses =>
    simp only [String.toList_append]
    refine .append (.append ?_ h.2.isPlain) ?_ <;>
      exact isPlain_ofList (by decide)
  | unknownCategory p known =>
    simp only [String.toList_append]
    refine .append (.append (.append (.append ?_ h.1.isPlain) ?_) (isPlain_quotedList h.2)) ?_ <;>
      exact isPlain_ofList (by decide)
  | foreignValue p domain =>
    simp only [String.toList_append]
    refine .append (.append ?_ (isPlain_quotedList h.2.2)) ?_ <;>
      exact isPlain_ofList (by decide)

section Shown

open Table (Shows)

theorem shows_of_isPlain {text : String} (h : IsPlain text.toList) :
    Shows (.markup text) text.toList :=
  ⟨.plain text.toList, Markup.render_of_isPlain h, rfl, h.visible⟩

theorem normalName_letters : Markup.normalName "a-z".toList = .ok (String.ofList "a-z".toList) := by
  have hname : Style.normalName "a-z".toList = .ok "a-z" :=
    Style.normalName_word (by decide) (by decide) (by decide) (by decide) (by decide) (by decide)
      (by decide)
  rw [Markup.normalName, hname]
  rfl

/-- The form of a category name loses its first brackets, whatever the name. -/
theorem shows_categoryName {c : String} (h : Markup.IsInert c.toList) :
    Shows (.markup (message (.categoryName c))) (shownMessage (.categoryName c)).toList := by
  have hfront : Markup.IsInert
      ("Nazwa kategorii '" ++ c ++ "' nie jest nazwą predykatu ASP (^_*").toList := by
    simp only [String.toList_append, Markup.isInert_append]
    exact ⟨⟨isInert_ofList (by decide), h⟩, isInert_ofList (by decide)⟩
  have hback : IsPlain "[A-Za-z0-9_]*$, różna od 'not').".toList :=
    isPlain_ofList (by decide)
  have htext : (message (.categoryName c)).toList =
      ("Nazwa kategorii '" ++ c ++ "' nie jest nazwą predykatu ASP (^_*").toList ++
        ('[' :: ('a' :: "-z".toList) ++ ']' :: "[A-Za-z0-9_]*$, różna od 'not').".toList) := by
    have hform : "' nie jest nazwą predykatu ASP (^_*[a-z][A-Za-z0-9_]*$, różna od 'not').".toList =
        "' nie jest nazwą predykatu ASP (^_*".toList ++
          ('[' :: ('a' :: "-z".toList) ++ ']' :: "[A-Za-z0-9_]*$, różna od 'not').".toList) := by
      change (String.ofList _).toList = (String.ofList _).toList ++
        ('[' :: ('a' :: (String.ofList _).toList) ++ ']' :: (String.ofList _).toList)
      simp only [String.toList_ofList]
      rfl
    unfold message
    simp only [String.toList_append, hform, List.append_assoc]
  obtain ⟨t, ht, hchars⟩ := Markup.exists_render_unclosed (message (.categoryName c)) hfront hback
    (by decide) (by decide) (by decide) normalName_letters htext
  have hshown : (shownMessage (.categoryName c)).toList = t.chars := by
    have hform : "' nie jest nazwą predykatu ASP (^_*[A-Za-z0-9_]*$, różna od 'not').".toList =
        "' nie jest nazwą predykatu ASP (^_*".toList ++
          "[A-Za-z0-9_]*$, różna od 'not').".toList := by
      change (String.ofList _).toList = (String.ofList _).toList ++ (String.ofList _).toList
      simp only [String.toList_ofList]
      rfl
    rw [hchars]
    unfold shownMessage
    simp only [String.toList_append, hform, List.append_assoc]
  rw [hshown]
  refine ⟨t, ht, rfl, ?_⟩
  rw [hchars]
  exact (hfront.isPlain.append hback).visible

theorem IsInert.shows_message (h : d.IsInert) :
    Shows (.markup d.message) d.shownMessage.toList := by
  cases d with
  | categoryName c => exact shows_categoryName h.1
  | _ => exact shows_of_isPlain h.isPlain_message

end Shown

end Defect

namespace CommandLine

open Table (Shows room padding)

variable {errors : List Defect}

/-- What the columns of the table show, the heading first. -/
def reportColumns (errors : List Defect) : List (List (List Char)) :=
  let column (heading : String) (text : Defect → String) : List (List Char) :=
    heading.toList :: errors.map fun d => (text d).toList
  [column "Kod" Defect.code, column "Ścieżka" Defect.path, column "Komunikat" Defect.shownMessage,
    column "Poprawka" Defect.expectedFix]

/-- The width of the widest text of each column. -/
def reportRooms (errors : List Defect) : List Nat :=
  (reportColumns errors).map room

/-- A line of the table with these texts. -/
def reportRow (errors : List Defect) (texts : List String) : List Char :=
  Table.line (((reportRooms errors).zip texts).map fun (n, text) => Table.padded n text.toList)

theorem forall₂_shows {heading : String} {text shownText : Defect → String}
    (hheading : IsPlain heading.toList)
    (h : ∀ d ∈ errors, Shows (.markup (text d)) (shownText d).toList) :
    List.Forall₂ Shows (.markup heading :: errors.map fun d => .markup (text d))
      (heading.toList :: errors.map fun d => (shownText d).toList) :=
  .cons (Defect.shows_of_isPlain hheading)
    (List.forall₂_map_left_iff.2 (List.forall₂_map_right_iff.2 (List.forall₂_same.2 h)))

theorem shows_reportColumns (h : ∀ d ∈ errors, d.IsInert) :
    List.Forall₂ (fun c texts => c.alignment = .left ∧ List.Forall₂ Shows c.texts texts)
      (reportTable errors) (reportColumns errors) := by
  refine .cons ⟨rfl, forall₂_shows ?_ fun d _ => ?_⟩ (.cons ⟨rfl, forall₂_shows ?_ fun d hd => ?_⟩
    (.cons ⟨rfl, forall₂_shows ?_ fun d hd => ?_⟩
      (.cons ⟨rfl, forall₂_shows ?_ fun d hd => ?_⟩ .nil)))
  · exact isPlain_ofList (by decide)
  · exact Defect.shows_of_isPlain d.isPlain_code
  · exact isPlain_ofList (by decide)
  · exact Defect.shows_of_isPlain (h d hd).isPlain_path
  · exact isPlain_ofList (by decide)
  · exact (h d hd).shows_message
  · exact isPlain_ofList (by decide)
  · exact Defect.shows_of_isPlain (h d hd).isPlain_expectedFix

theorem pos_room_reportColumns :
    ∀ texts ∈ reportColumns errors, 0 < room texts ∧ texts.length = errors.length + 1 := by
  have hcolumn (heading : List Char) (text : Defect → String) (h : 0 < Text.width heading) :
      0 < room ((String.ofList heading).toList :: errors.map fun d => (text d).toList) ∧
        ((String.ofList heading).toList :: errors.map fun d => (text d).toList).length =
          errors.length + 1 := by
    rw [String.toList_ofList]
    exact ⟨Nat.lt_of_lt_of_le h (Table.width_le_room List.mem_cons_self), by simp⟩
  unfold reportColumns
  simp only [List.forall_mem_cons]
  exact ⟨hcolumn _ _ (by decide), hcolumn _ _ (by decide),
    hcolumn _ _ (by decide), hcolumn _ _ (by decide), by simp⟩

theorem rowOf_reportColumns {i : Nat} (h : i < errors.length) :
    Table.rowOf (reportColumns errors) (i + 1) = reportRow errors [errors[i].code, errors[i].path,
      errors[i].shownMessage, errors[i].expectedFix] := by
  simp [Table.rowOf, reportRow, reportRooms, reportColumns, List.getD, h]

/-- One row for each error, in their order, each text in its column. -/
theorem displayedTable_reportTable (h : ∀ d ∈ errors, d.IsInert)
    (hroom : Text.total ((reportRooms errors).map (· + padding)) + 5 ≤ columns) :
    displayedTable columns (reportTable errors) = lineTexts
      ([] :: reportRow errors ["Kod", "Ścieżka", "Komunikat", "Poprawka"] ::
        Table.rule ((reportRooms errors).map (· + padding)) ::
          (errors.map fun d => reportRow errors [d.code, d.path, d.shownMessage, d.expectedFix]) ++
            [[]]) := by
  have hwidths : (reportColumns errors).map (fun texts => room texts + padding) =
      (reportRooms errors).map (· + padding) := by
    rw [reportRooms, List.map_map]
    rfl
  have hfits : Text.total ((reportColumns errors).map fun texts => room texts + padding) +
      ((reportColumns errors).length + 1) ≤ columns := by
    rw [hwidths]
    exact hroom
  have hrender := Table.render_eq_ok (t := reportTable errors) (List.cons_ne_nil _ _)
    (shows_reportColumns h) pos_room_reportColumns hfits
  have hrows : (List.range errors.length).map (fun i => Table.rowOf (reportColumns errors) (i + 1)) =
      errors.map fun d => reportRow errors [d.code, d.path, d.shownMessage, d.expectedFix] := by
    refine List.ext_getElem (by simp) fun i hi _ => ?_
    rw [List.length_map, List.length_range] at hi
    rw [List.getElem_map, List.getElem_range, List.getElem_map, rowOf_reportColumns hi]
  rw [displayedTable, hrender, hwidths, hrows]
  rfl

end CommandLine

end HousePuzzle
