import HousePuzzle.Proofs.Normalization

/-!
What the rules of a document refer to. The spelling of categories and values is changed in the
domains, where categories are merged, and in every rule for itself; a rule refers to a value of a
category in the normalised document where it did so before, up to spelling.
-/

namespace HousePuzzle.Normalization

variable {aliases : Aliases} {fields : List (String × Json)} {ds : Domains} {c v : String}

theorem get?_domains_puzzle (h : Assoc.get? "domains" fields = some (Domains.toJson ds)) :
    Assoc.get? "domains" (puzzle aliases fields) =
      some (Registry.ofPairs (respelled aliases ds)).toJson := by
  rw [get?_puzzle, h, Option.map_some, Domains.toJson, puzzleField, domains_strings, List.map_map]
  rfl

/-- The registry that is read from a normalised document is the one to which the categories of the
document are added one after the other, by their new names and with their values trimmed. -/
theorem ofPairs_domains_puzzle (aliases : Aliases)
    (h : Assoc.get? "domains" fields = some (Domains.toJson ds)) :
    ∃ d pairs, Assoc.get? "domains" (puzzle aliases fields) = some d ∧ d.domainPairs = .ok pairs ∧
      Registry.ofPairs pairs =
        Registry.ofPairs (ds.map fun e => (aliases.rename e.1, e.2.map Text.trim)) := by
  refine ⟨_, (Registry.ofPairs (respelled aliases ds)).domains, get?_domains_puzzle h, ?_, ?_⟩
  · rw [Registry.toJson_eq, Json.domainPairs_toJson]
  · exact Registry.ofPairs_domains _

/-- One category under two names, another one between them, and values that are the same but for
blanks. -/
def scatteredDrinks : Domains :=
  [("DRINK", ["tea"]), (" Color", ["red ", "red"]), ("beverage ", ["milk", "tea\n", " 7"])]

/-- A number for a value that is listed, and a value that is not. -/
def thirstyRule : List (String × Json) :=
  [("leftCategory", .str "Drink"), ("leftValue", .int 7), ("operator", .str "same"),
    ("rightCategory", .str "beverage"), ("rightValue", .str "juice ")]

def thirstyFields : List (String × Json) :=
  [("domains", scatteredDrinks.toJson), ("rules", .arr ([thirstyRule].map .obj))]

theorem ofPairs_domains_puzzle_thirstyFields :
    Assoc.get? "domains" thirstyFields = some scatteredDrinks.toJson ∧
    ∃ d pairs, Assoc.get? "domains" (puzzle .standard thirstyFields) = some d ∧
      d.domainPairs = .ok pairs ∧
      (Registry.ofPairs pairs).domains =
        [("beverage", ["tea", "milk", "7"]), ("color", ["red"])] := by
  have hdomains : Assoc.get? "domains" thirstyFields = some scatteredDrinks.toJson := rfl
  obtain ⟨d, pairs, hd, hpairs, hregistry⟩ := ofPairs_domains_puzzle .standard hdomains
  refine ⟨hdomains, d, pairs, hd, hpairs, ?_⟩
  rw [hregistry]
  decide +kernel

/-- A category with a list that has the value. -/
def Lists (ds : List (String × Json)) (c v : String) : Prop :=
  ∃ items, Assoc.get? c ds = some (.arr items) ∧ .str v ∈ items

theorem lists_iff {d : Registry} :
    Lists (d.domains.map fun e => (e.1, .arr (e.2.map .str))) c v ↔ d.Has c v := by
  rw [Lists, Assoc.get?_map_snd fun vs : List String => Json.arr (vs.map .str)]
  constructor
  · rintro ⟨items, hget, hv⟩
    obtain ⟨vs, hvs, hitems⟩ := Option.map_eq_some_iff.1 hget
    obtain rfl := Json.arr.inj hitems
    obtain ⟨w, hw, hwv⟩ := List.mem_map.1 hv
    obtain rfl := Json.str.inj hwv
    exact ⟨vs, Registry.values?_eq_some_iff.1 hvs, hw⟩
  · rintro ⟨vs, hmem, hv⟩
    refine ⟨vs.map .str, ?_, List.mem_map_of_mem hv⟩
    exact Option.map_eq_some_iff.2 ⟨vs, Registry.values?_eq_some_iff.2 hmem, rfl⟩

/-- What a side of a rule in a document names. -/
structure Names (fields : List (String × Json)) (side : Side) (c : String) (v : Json) : Prop where
  hasCategory : Assoc.get? side.categoryField fields = some (.str c)
  hasValue : Assoc.get? side.valueField fields = some v

/-- The text that a value of a rule stands for: blanks around it do not count, and a number stands
for its digits. -/
inductive StandsFor : Json → String → Prop
  | text (s : String) : StandsFor (.str s) (Text.trim s)
  | number (n : Int) : StandsFor (.int n) (Numeral.write n)

theorem StandsFor.value_eq {w : Json} (h : StandsFor w v) : value w = .str v := by
  cases h <;> rfl

theorem Names.respelled {side : Side} {w : Json} (h : Names fields side c w) :
    Names (fields.map (ruleField aliases)) side (aliases.rename c) (value w) := by
  refine ⟨?_, ?_⟩
  · rw [get?_category, h.hasCategory]
    rfl
  · rw [get?_value, h.hasValue]
    rfl

theorem get?_rules_puzzle {rules : List (List (String × Json))}
    (h : Assoc.get? "rules" fields = some (.arr (rules.map .obj))) :
    Assoc.get? "rules" (puzzle aliases fields) =
      some (.arr ((rules.map (List.map (ruleField aliases))).map .obj)) := by
  rw [get?_puzzle, h, Option.map_some, puzzleField, List.map_map, List.map_map]
  rfl

/-- A rule refers to a value of a category in the normalised document exactly where, before, a
category with the same new name was there and one such category had that value. -/
theorem references_kept (aliases : Aliases) {rules : List (List (String × Json))}
    (hdomains : Assoc.get? "domains" fields = some (Domains.toJson ds))
    (hrules : Assoc.get? "rules" fields = some (.arr (rules.map .obj))) :
    ∃ ds' rules', Assoc.get? "domains" (puzzle aliases fields) = some (.obj ds') ∧
      Assoc.get? "rules" (puzzle aliases fields) = some (.arr (rules'.map .obj)) ∧
      List.Forall₂ (fun r r' => ∀ side c w text, Names r side c w → StandsFor w text →
        ∃ c' v', Names r' side c' (.str v') ∧
          (Lists ds' c' v' ↔
            (∃ e ∈ ds, aliases.rename e.1 = aliases.rename c) ∧
              ∃ e ∈ ds, aliases.rename e.1 = aliases.rename c ∧
                ∃ s ∈ e.2, Text.trim s = text)) rules rules' := by
  refine ⟨_, rules.map (List.map (ruleField aliases)), get?_domains_puzzle hdomains,
    get?_rules_puzzle hrules, ?_⟩
  rw [List.forall₂_map_right_iff, List.forall₂_same]
  intro r _ side c w text hnames htext
  refine ⟨aliases.rename c, text, htext.value_eq ▸ hnames.respelled, ?_⟩
  have hlists : Lists ((Registry.ofPairs (respelled aliases ds)).domains.map
        fun e => (e.1, .arr (e.2.map .str))) (aliases.rename c) text ↔
      ∃ e ∈ ds, aliases.rename e.1 = aliases.rename c ∧ ∃ s ∈ e.2, Text.trim s = text := by
    rw [lists_iff, Registry.has_ofPairs_iff]
    simp only [respelled, List.mem_map, exists_exists_and_eq_and]
  refine hlists.trans ⟨fun h => ⟨?_, h⟩, And.right⟩
  obtain ⟨e, he, hname, _⟩ := h
  exact ⟨e, he, hname⟩

theorem references_kept_thirstyFields :
    (Assoc.get? "domains" thirstyFields = some scatteredDrinks.toJson ∧
      Assoc.get? "rules" thirstyFields = some (.arr ([thirstyRule].map .obj))) ∧
    ∃ ds' r', Assoc.get? "domains" (puzzle .standard thirstyFields) = some (.obj ds') ∧
      Assoc.get? "rules" (puzzle .standard thirstyFields) = some (.arr [.obj r']) ∧
      (∃ c v, Names r' .left c (.str v) ∧ Lists ds' c v) ∧
      ∃ c v, Names r' .right c (.str v) ∧ ¬ Lists ds' c v := by
  have hdomains : Assoc.get? "domains" thirstyFields = some scatteredDrinks.toJson := rfl
  have hrules : Assoc.get? "rules" thirstyFields = some (.arr ([thirstyRule].map .obj)) := rfl
  obtain ⟨ds', rules', hdomains', hrules', hall⟩ := references_kept .standard hdomains hrules
  obtain ⟨r', rest, hr, hrest, rfl⟩ := List.forall₂_cons_left_iff.1 hall
  obtain rfl := List.forall₂_nil_left_iff.1 hrest
  refine ⟨⟨hdomains, hrules⟩, ds', r', hdomains', hrules', ?_, ?_⟩
  · obtain ⟨c, v, hnames, hiff⟩ := hr .left "Drink" (.int 7) _ ⟨rfl, rfl⟩ (.number 7)
    exact ⟨c, v, hnames, hiff.2 (by decide +kernel)⟩
  · obtain ⟨c, v, hnames, hiff⟩ := hr .right "beverage" (.str "juice ") _ ⟨rfl, rfl⟩ (.text _)
    exact ⟨c, v, hnames, hiff.not.2 (by decide +kernel)⟩

end HousePuzzle.Normalization
