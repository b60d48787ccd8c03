import HousePuzzle.Proofs.Puzzle.Acceptance

/-!
Normalising once is enough. Names, values and operators that are in canonical spelling are left as
they are, and of domains without repetitions nothing is merged and nothing dropped; so a normalised
document, whatever is wrong with it, is its own normal form.
-/

namespace HousePuzzle.Normalization

variable {aliases : Aliases} {fields : List (String × Json)} {bucket vs : List Json}

section Domains

/-- Values that all differ are all kept, in their order. -/
theorem foldl_addValue_of_differ (h : Differ (bucket ++ vs)) :
    vs.foldl addValue bucket = bucket ++ vs := by
  induction vs generalizing bucket with
  | nil => exact (List.append_nil bucket).symm
  | cons v vs ih =>
    have hnew : bucket.any (Json.same · v) = false := by
      refine List.any_eq_false.2 fun w hw => ?_
      simp [(List.pairwise_append.1 h).2.2 w hw v List.mem_cons_self]
    have hnext : Differ (bucket ++ [v] ++ vs) := by rwa [List.append_assoc]
    rw [List.foldl_cons, addValue, hnew, if_neg Bool.false_ne_true, ih hnext, List.append_assoc]
    rfl

theorem addValues_of_differ (htrim : ∀ v ∈ vs, trimText v = v) (h : Differ vs) :
    addValues [] (.arr vs) = vs := by
  have hmap : vs.map trimText = vs := (List.map_congr_left htrim).trans (List.map_id _)
  rw [addValues, hmap]
  exact foldl_addValue_of_differ h

/-- Categories with canonical names, none twice, stay as they are. -/
theorem domains_of_differ {es : List (String × List Json)} (hkeys : (Assoc.keys es).Nodup)
    (hnames : ∀ e ∈ es, aliases.rename e.1 = e.1)
    (htrim : ∀ e ∈ es, ∀ v ∈ e.2, trimText v = v) (hdiffer : ∀ e ∈ es, Differ e.2) :
    domains aliases (es.map fun e => (e.1, .arr e.2)) = es := by
  have hrenamed : es.map (fun e => aliases.rename e.1) = Assoc.keys es :=
    List.map_congr_left hnames
  have hnodup : (Assoc.keys ([] : List (String × List Json)) ++
      es.map fun e => aliases.rename e.1).Nodup := by
    rwa [hrenamed]
  rw [domains, List.foldl_map]
  calc es.foldl (fun merged e => Assoc.alter (aliases.rename e.1)
          (fun old => addValues (old.getD []) (.arr e.2)) merged) []
      = [] ++ es.map fun e => (aliases.rename e.1, addValues [] (.arr e.2)) :=
        Assoc.foldl_alter_of_nodup (f := fun e old => addValues (old.getD []) (.arr e.2)) hnodup
    _ = es.map id :=
        List.map_congr_left fun e he => by
          rw [hnames e he, addValues_of_differ (htrim e he) (hdiffer e he), id]
    _ = es := List.map_id _

theorem domains_domains (ha : aliases.Settled) :
    domains aliases ((domains aliases fields).map fun e => (e.1, .arr e.2)) =
      domains aliases fields := by
  refine domains_of_differ (Assoc.nodup_keys_foldl_alter List.nodup_nil) (fun e he => ?_)
    (fun e he => (tidy_of_mem_domains he).2) (fun e he => differ_of_mem_domains he)
  obtain ⟨name, hname⟩ := (tidy_of_mem_domains he).1
  rw [hname, ha.rename_rename]

end Domains

section Rules

theorem category_category (ha : aliases.Settled) (v : Json) :
    category aliases (category aliases v) = category aliases v := by
  cases v with
  | str s => exact congrArg Json.str (ha.rename_rename s)
  | _ => rfl

/-- The digits that a number is replaced by have no blanks around them. -/
theorem value_value (v : Json) : value (value v) = value v := by
  cases v with
  | str s => exact congrArg Json.str (Text.trim_trim s)
  | int n => exact congrArg Json.str (Text.trim_eq_self (Numeral.noBlank_write n))
  | _ => rfl

theorem operator_operator (v : Json) : operator (operator v) = operator v := by
  cases v with
  | str s => exact congrArg Json.str (Aliases.canonical_canonical s)
  | _ => rfl

theorem ruleField_ruleField (ha : aliases.Settled) (f : String × Json) :
    ruleField aliases (ruleField aliases f) = ruleField aliases f := by
  unfold ruleField
  split
  · simp only [category_category ha]
  · split
    · simp only [value_value]
    · split
      · simp only [operator_operator]
      · rfl

theorem rule_rule (ha : aliases.Settled) (v : Json) :
    rule aliases (rule aliases v) = rule aliases v := by
  cases v with
  | obj fields =>
    simp only [rule, List.map_map]
    exact congrArg Json.obj (List.map_congr_left fun f _ => ruleField_ruleField ha f)
  | _ => rfl

end Rules

theorem puzzleField_puzzleField (ha : aliases.Settled) (f : String × Json) :
    puzzleField aliases (puzzleField aliases f) = puzzleField aliases f := by
  fun_cases puzzleField aliases f with
  | case1 given => simp only [puzzleField, domains_domains ha]
  | case2 rules =>
    simp only [puzzleField, List.map_map]
    exact congrArg (fun rules => ("rules", Json.arr rules))
      (List.map_congr_left fun v _ => rule_rule ha v)
  | case3 => rw [puzzleField] <;> assumption

theorem puzzle_puzzle (ha : aliases.Settled) (fields : List (String × Json)) :
    puzzle aliases (puzzle aliases fields) = puzzle aliases fields := by
  rw [puzzle, puzzle, List.map_map]
  exact List.map_congr_left fun f _ => puzzleField_puzzleField ha f

/-- The normal form of a document is its own normal form, in the same order throughout; what is no
object is refused again. -/
theorem document_idempotent (ha : aliases.Settled) (d : Json) :
    (document aliases d).bind (document aliases) = document aliases d := by
  cases d with
  | obj fields =>
    exact congrArg (fun fields => Except.ok (Json.obj fields)) (puzzle_puzzle ha fields)
  | _ => rfl

/-- One category under two names, one without a list, values that are the same number or the same
list, and fields of the wrong sort. -/
def untidy : Json :=
  .obj [("rules", .arr [.null, .obj [("operator", .str "Same\n"), ("rightValue", .int (-7)),
      ("leftCategory", .str " Drink"), ("leftValue", .bool true), ("rightCategory", .int 3)]]),
    ("domains", .obj [("DRINK", .arr [.int 0, .bool false, .str " tea"]), ("Pet", .int 5),
      ("beverage ", .arr [.arr [.int 1], .str "tea", .arr [.bool true], .str "\u2003milk"])])]

def tidied : Json :=
  .obj [("rules", .arr [.null, .obj [("operator", .str "same"), ("rightValue", .str "-7"),
      ("leftCategory", .str "beverage"), ("leftValue", .bool true), ("rightCategory", .int 3)]]),
    ("domains", .obj [("beverage", .arr [.int 0, .str "tea", .arr [.int 1], .str "milk"]),
      ("pet", .arr [])])]

theorem document_idempotent_untidy :
    Aliases.Settled .standard ∧ document .standard untidy = .ok tidied ∧
      document .standard tidied = .ok tidied := by
  have hnormal : document .standard untidy = .ok tidied := rfl
  have hagain := document_idempotent Aliases.settled_standard untidy
  rw [hnormal] at hagain
  exact ⟨Aliases.settled_standard, hnormal, hagain⟩

end HousePuzzle.Normalization
