import HousePuzzle.Proofs.Puzzle.Document

/-!
Canonical documents. Reading forgives much, so one puzzle is read from many documents; the main
statement is that just one of them is canonical, the document of the puzzle. Which documents are
canonical is said without reading or writing any: all three fields are there, in their order and
with no others, every name and value is a text, and nothing is given twice that a puzzle has once.
-/

namespace HousePuzzle

namespace Json

variable {v d : Json}

/-- Categories with their values, each of them given once. -/
inductive IsDomains : Json → Prop
  | intro {fields : List (String × Json)} : (Assoc.keys fields).Nodup →
      (∀ f ∈ fields, ∃ vs : List String, vs.Nodup ∧ f.2 = .arr (vs.map .str)) →
      IsDomains (.obj fields)

/-- All five fields are texts, and the operator is in lower case. -/
inductive IsRule : Json → Prop
  | intro (leftCategory leftValue rightCategory rightValue : String) {operator : String} :
      operator ∈ ["same", "next", "right", "left"] →
      IsRule (.obj [("leftCategory", .str leftCategory), ("leftValue", .str leftValue),
        ("operator", .str operator), ("rightCategory", .str rightCategory),
        ("rightValue", .str rightValue)])

inductive IsCanonical : Json → Prop
  | intro (houses : Int) {domains : Json} {rules : List Json} :
      domains.IsDomains → (∀ rule ∈ rules, rule.IsRule) →
      IsCanonical (.obj [("houses", .int houses), ("domains", domains), ("rules", .arr rules)])

theorem str_injective : Function.Injective Json.str :=
  fun _ _ => Json.str.inj

theorem isDomains_iff : v.IsDomains ↔ ∃ r : Registry, r.toJson = v := by
  constructor
  · intro h
    cases h with
    | @intro fields hkeys hvalues =>
      have hlists : ∃ ds, Json.obj fields = Domains.toJson ds := by
        refine Schema.accepts_domains_iff.1 (.map fun f hf => ?_)
        obtain ⟨vs, _, hvs⟩ := hvalues f hf
        exact Schema.accepts_texts_iff.2 ⟨vs, hvs⟩
      obtain ⟨ds, hds⟩ := hlists
      obtain rfl := Json.obj.inj hds
      -- The schema gives `ds`, but does not say that no value is repeated.
      refine ⟨⟨ds, Domains.keys_fields ds ▸ hkeys, fun e he => ?_⟩, rfl⟩
      obtain ⟨vs, hnodup, hvs⟩ := hvalues _ (List.mem_map_of_mem he)
      obtain rfl := List.map_injective_iff.2 str_injective (Json.arr.inj hvs)
      exact hnodup
  · rintro ⟨r, rfl⟩
    refine .intro (r.domains.keys_fields ▸ r.distinct.1) fun f hf => ?_
    obtain ⟨e, he, rfl⟩ := List.mem_map.1 hf
    exact ⟨e.2, r.distinct.2 e he, rfl⟩

theorem isRule_iff : v.IsRule ↔ ∃ r : Rule, r.toJson = v := by
  constructor
  · intro h
    cases h with
    | intro leftCategory leftValue rightCategory rightValue hoperator =>
      obtain ⟨o, _, rfl⟩ : ∃ o ∈ Operator.all, o.name = _ := List.mem_map.1 hoperator
      exact ⟨⟨⟨leftCategory, leftValue⟩, o, ⟨rightCategory, rightValue⟩⟩, rfl⟩
  · rintro ⟨r, rfl⟩
    exact .intro _ _ _ _ (by cases r.operator <;> decide)

/-- The canonical documents are those of puzzles. -/
theorem isCanonical_iff : d.IsCanonical ↔ ∃ p : Puzzle, p.toJson = d := by
  constructor
  · intro h
    cases h with
    | @intro houses _ _ hdomains hrules =>
      obtain ⟨domains, rfl⟩ := isDomains_iff.1 hdomains
      obtain ⟨rules, rfl⟩ :=
        (Set.range_list_map Rule.toJson).ge fun v hv => isRule_iff.1 (hrules v hv)
      exact ⟨⟨houses, domains, rules⟩, rfl⟩
  · rintro ⟨p, rfl⟩
    refine .intro p.houses (isDomains_iff.2 ⟨p.domains, rfl⟩) fun v hv => ?_
    obtain ⟨r, _, rfl⟩ := List.mem_map.1 hv
    exact isRule_iff.2 ⟨r, rfl⟩

end Json

namespace Puzzle

variable {c : Json} {p : Puzzle}

theorem eq_toJson_iff : c = p.toJson ↔ c.IsCanonical ∧ Puzzle.ofJson c = .ok p := by
  constructor
  · rintro rfl
    exact ⟨Json.isCanonical_iff.2 ⟨p, rfl⟩, p.ofJson_toJson⟩
  · rintro ⟨hcanonical, hread⟩
    obtain ⟨q, rfl⟩ := Json.isCanonical_iff.1 hcanonical
    rw [q.ofJson_toJson] at hread
    rw [Except.ok.inj hread]

/-- Every puzzle is read from its document as it was, with its categories, values and rules in the
same order. Whatever document a puzzle was read from, the document of the puzzle is read alike and
is written again as it stands, and no other document that is read alike is canonical. -/
theorem toJson_canonical :
    (∀ p : Puzzle, Puzzle.ofJson p.toJson = .ok p) ∧
    ∀ (d : Json) (p : Puzzle), Puzzle.ofJson d = .ok p →
      Puzzle.ofJson p.toJson = Puzzle.ofJson d ∧
      (Puzzle.ofJson p.toJson).map Puzzle.toJson = .ok p.toJson ∧
      ∀ c : Json, c = p.toJson ↔ c.IsCanonical ∧ Puzzle.ofJson c = Puzzle.ofJson d := by
  refine ⟨ofJson_toJson, fun d p hread => ?_⟩
  have hsame : Puzzle.ofJson p.toJson = .ok p := p.ofJson_toJson
  refine ⟨hsame.trans hread.symm, ?_, fun c => ?_⟩
  · rw [hsame]
    rfl
  · rw [hread]
    exact eq_toJson_iff

/-- The fields in any order and one too many, a number of houses and values of all sorts, a text
for a list, and an operator in capitals. -/
def looseSpelling : Json :=
  .obj [("title", .null),
    ("rules", .arr [.obj [("operator", .str "RIGHT"), ("rightCategory", .bool true),
      ("rightValue", .float (.finite false (2 ^ 52) (-52))), ("leftCategory", .str "colour"),
      ("leftValue", .str "a")]]),
    ("domains", .obj [("True", .arr [.int 1, .str "1", .float (.finite false (2 ^ 52) (-52)), .null]),
      ("colour", .str "abba")]),
    ("houses", .str " +0_2")]

def looseRow : Puzzle :=
  ⟨2, .ofPairs [("True", ["1", "1.0", "None"]), ("colour", ["a", "b"])],
    [⟨⟨"colour", "a"⟩, .right, ⟨"True", "1.0"⟩⟩]⟩

theorem toJson_canonical_looseSpelling :
    Puzzle.ofJson looseSpelling = .ok looseRow ∧
    looseRow.toJson = .obj [("houses", .int 2),
      ("domains", .obj [("True", .arr [.str "1", .str "1.0", .str "None"]),
        ("colour", .arr [.str "a", .str "b"])]),
      ("rules", .arr [.obj [("leftCategory", .str "colour"), ("leftValue", .str "a"),
        ("operator", .str "right"), ("rightCategory", .str "True"), ("rightValue", .str "1.0")]])] ∧
    Puzzle.ofJson looseRow.toJson = Puzzle.ofJson looseSpelling ∧
    (Puzzle.ofJson looseRow.toJson).map Puzzle.toJson = .ok looseRow.toJson ∧
    ∀ c : Json, c = looseRow.toJson ↔
      c.IsCanonical ∧ Puzzle.ofJson c = Puzzle.ofJson looseSpelling := by
  have hread : Puzzle.ofJson looseSpelling = .ok looseRow := by decide +kernel
  exact ⟨hread, rfl, toJson_canonical.2 looseSpelling looseRow hread⟩

end Puzzle

end HousePuzzle
