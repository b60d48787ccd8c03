import HousePuzzle.CommandLine.Run
import HousePuzzle.Proofs.Normalization
import HousePuzzle.Proofs.Validation

/-!
Puzzles that come out of documents: they are in canonical spelling, and the document of such a
puzzle gives the puzzle and its report again.
-/

namespace HousePuzzle

variable {aliases : Aliases} {fields : List (String × Json)} {c : Checked} {p : Puzzle} {r : Report}
  {s : Schema}

namespace Checked

theorem build_eq_ok_iff {d : Json} :
    build d = .ok ⟨some p, r⟩ ↔ Puzzle.ofJson d = .ok p ∧ p.validate = .ok r := by
  unfold build
  split
  · next h => simp [h]
  · next h => simp [h, malformed]
  · next q h =>
    rw [Except.map_eq_ok_iff, h]
    simp only [mk.injEq, Option.some.injEq, Except.ok.injEq]
    constructor
    · rintro ⟨_, hr, rfl, rfl⟩
      exact ⟨rfl, hr⟩
    · rintro ⟨rfl, hr⟩
      exact ⟨r, hr, rfl, rfl⟩

/-- A document whose normal form is accepted is read on. -/
theorem ofFields_of_accepts (h : s.Accepts (.obj (Normalization.puzzle aliases fields))) :
    ofFields (some s) aliases fields = build (.obj (Normalization.puzzle aliases fields)) := by
  have hnil : Schema.violations [] (.obj (Normalization.puzzle aliases fields)) s = [] :=
    (Schema.violations_eq_nil_iff s).2 h
  simp only [ofFields, Option.map_some, Option.getD_some, hnil]

theorem ofFields_of_not_accepts (h : ¬ s.Accepts (.obj (Normalization.puzzle aliases fields))) :
    ofFields (some s) aliases fields = .ok (malformed
      ((Schema.violations [] (.obj (Normalization.puzzle aliases fields)) s).map .schema)) := by
  simp only [ofFields, Option.map_some, Option.getD_some]
  split
  · next hnil => exact absurd ((Schema.violations_eq_nil_iff s).1 hnil) h
  · rfl

/-- A document holds a puzzle when its normal form is accepted and can be read. -/
theorem ofFields_eq_ok_iff :
    ofFields (some s) aliases fields = .ok ⟨some p, r⟩ ↔
      s.Accepts (.obj (Normalization.puzzle aliases fields)) ∧
        Puzzle.ofJson (.obj (Normalization.puzzle aliases fields)) = .ok p ∧
          p.validate = .ok r := by
  by_cases h : s.Accepts (.obj (Normalization.puzzle aliases fields))
  · rw [ofFields_of_accepts h, build_eq_ok_iff]
    simp [h]
  · simp [ofFields_of_not_accepts h, h, malformed]

theorem exists_puzzle_of_build {d : Json} (h : build d = .ok c) (hvalid : c.report.isValid = true) :
    ∃ p, c.puzzle? = some p := by
  unfold build at h
  split at h
  · cases h
  · obtain rfl := Except.ok.inj h
    cases hvalid
  · next p _ =>
    obtain ⟨r, _, rfl⟩ := Except.map_eq_ok_iff.1 h
    exact ⟨p, rfl⟩

theorem schema_notMem_of_build {d : Json} {x : Schema.Violation} (h : build d = .ok ⟨none, r⟩) :
    Defect.schema x ∉ r.errors := by
  unfold build at h
  split at h
  · cases h
  · obtain rfl := (Checked.mk.inj (Except.ok.inj h)).2
    intro hx
    cases List.mem_singleton.1 hx
  · obtain ⟨_, _, hmk⟩ := Except.map_eq_ok_iff.1 h
    cases hmk

/-- The report of a malformed document has errors. -/
theorem exists_puzzle_of_isValid (h : ofFields (some s) aliases fields = .ok c)
    (hvalid : c.report.isValid = true) : ∃ p, c.puzzle? = some p := by
  by_cases haccepts : s.Accepts (.obj (Normalization.puzzle aliases fields))
  · rw [ofFields_of_accepts haccepts] at h
    exact exists_puzzle_of_build h hvalid
  · rw [ofFields_of_not_accepts haccepts] at h
    obtain rfl := Except.ok.inj h
    refine absurd ?_ haccepts
    simpa [malformed, Report.isValid, Schema.violations_eq_nil_iff] using hvalid

end Checked

/-- Names that have their forms over their whole length, categories in small letters, and sides of
rules that belong to one category. -/
structure Puzzle.Canonical (p : Puzzle) : Prop where
  categories : ∀ e ∈ p.domains.domains,
    Name.SmallForm e.1.toList ∧ e.1 ≠ Name.negation ∧ e.1 ∉ Name.reserved
  values : ∀ e ∈ p.domains.domains, ∀ v ∈ e.2, Name.ValueForm v.toList
  positions : ∀ r ∈ p.rules, ∀ side, (r.operand side).isPosition = true →
    Name.DigitsForm (r.operand side).value.toList
  owners : ∀ r ∈ p.rules, ∀ side, (r.operand side).isPosition = false →
    ∃ e ∈ p.domains.domains, e.1 = (r.operand side).category ∧
      ∀ f ∈ p.domains.domains, (r.operand side).value ∈ f.2 ↔ f = e

theorem Puzzle.Normal.canonical (h : p.Normal aliases) (ha : aliases.Canonical)
    (hp : p.WellFormed) : p.Canonical := by
  refine ⟨fun e he => ⟨?_, (hp.predicates e he).2, hp.free e he⟩, fun e he v hv => ?_,
    fun r hr side hposition => ?_, fun r hr side hposition => ?_⟩
  · obtain ⟨name, hname⟩ := h.categories e he
    have hcanonical : Aliases.canonical e.1 = e.1 := by rw [hname, ha.canonical_rename]
    have hlower := Aliases.isLower_canonical e.1
    have htrimmed := Aliases.isTrimmed_canonical e.1
    rw [hcanonical] at hlower htrimmed
    exact ((hp.predicates e he).1.whole_of_isTrimmed htrimmed).smallForm hlower
  · exact (hp.values e he v hv).1.whole_of_isTrimmed (Text.trim_eq_self_iff.1 (h.values e he v hv))
  · have htrimmed := Text.trim_eq_self_iff.1 (h.operands r hr side).2
    rcases hp.rules r hr side with ⟨_, hvalue⟩ | ⟨vs, hmem, _⟩
    · exact (hvalue.whole_of_isTrimmed htrimmed).1
    · exact absurd (Operand.mem_reserved hposition) (hp.free _ hmem)
  · rcases hp.rules r hr side with ⟨hcontra, _⟩ | ⟨vs, hmem, hv⟩
    · rw [hposition] at hcontra
      cases hcontra
    · refine ⟨_, hmem, rfl, fun f hf => ⟨fun hvf => hp.owners f hf _ hmem _ hvf hv, ?_⟩⟩
      rintro rfl
      exact hv

/-- What is valid in a document is canonical, with the standard aliases and with all that can be
given. -/
theorem Checked.canonical_of_isValid
    (ha : aliases = .standard ∨ ∃ text, Aliases.parse text = .ok aliases)
    (h : ofFields (some .puzzle) aliases fields = .ok c) (hvalid : c.report.isValid = true) :
    ∃ p, c.puzzle? = some p ∧ p.Canonical := by
  have hcanonical : aliases.Canonical := by
    rcases ha with rfl | ⟨text, htext⟩
    · exact Aliases.canonical_standard
    · exact Aliases.canonical_of_parse htext
  obtain ⟨p, hp⟩ := exists_puzzle_of_isValid h hvalid
  obtain ⟨puzzle?, r⟩ := c
  obtain rfl : puzzle? = some p := hp
  obtain ⟨haccepts, hread, hvalidate⟩ := ofFields_eq_ok_iff.1 h
  have hnormal := Normalization.normal_of_accepts haccepts hread
  have hwellFormed := (Puzzle.wellFormed_of_validate hvalidate hvalid).1
  exact ⟨p, rfl, hnormal.canonical hcanonical hwellFormed⟩

/-- A category with the sign of degrees Kelvin for its first letter, one category under two names,
blanks of other scripts, and a number for a text. -/
def mixedSpelling : List (String × Json) :=
  [("houses", .int 2),
    ("domains", .obj [("\u212aolor", .arr [.str "\u2003Red", .str "blue\n"]),
      ("DRINK", .arr [.str "tea"]), ("beverage ", .arr [.str "milk", .str "tea\n"])]),
    ("rules", .arr [.obj [("leftCategory", .str "KOLOR"), ("leftValue", .str "Red"),
      ("operator", .str "Same"), ("rightCategory", .str " Position"), ("rightValue", .int 1)]])]

theorem Checked.canonical_of_isValid_mixedSpelling :
    (Aliases.standard = .standard ∨ ∃ text, Aliases.parse text = .ok Aliases.standard) ∧
    ∃ c, ofFields (some .puzzle) .standard mixedSpelling = .ok c ∧ c.report.isValid = true ∧
      ∃ p, c.puzzle? = some p ∧ p.Canonical := by
  have hvalid : (ofFields (some .puzzle) .standard mixedSpelling).toOption.map
      (·.report.isValid) = some true := by decide +kernel
  cases h : ofFields (some .puzzle) .standard mixedSpelling with
  | error e => simp [h, Except.toOption] at hvalid
  | ok c =>
    have hc : c.report.isValid = true := by simpa [h, Except.toOption] using hvalid
    exact ⟨.inl rfl, c, rfl, hc, canonical_of_isValid (.inl rfl) h hc⟩

/-- The text of a document in a file is read as that document. -/
theorem Loading.readObject_indentedAt {given : List (String × Json)} {depth : Nat} {file : String}
    {octets : List Nat} (h : (Json.obj given).Writable)
    (hfile : Utf8.decode octets = .ok (Json.indentedAt depth (.obj given)).toList) :
    readObject file octets = .ok given := by
  have hlines : Utf8.unifyLines (Json.indentedAt depth (.obj given)).toList =
      (Json.indentedAt depth (.obj given)).toList :=
    Utf8.unifyLines_eq_self (h.carriageReturn_notMem depth)
  have hparse : Json.parseChars (Json.indentedAt depth (.obj given)).toList = .ok (.obj given) :=
    h.parse_indentedAt depth
  have hjson : readJson file octets = .ok (.obj given) := by
    rw [readJson, hfile]
    simp only [Except.mapError, bind, Except.bind, hlines, hparse]
  rw [readObject, hjson]
  rfl

namespace Checked

/-- The document of a puzzle that was loaded is loaded with the same report. -/
theorem ofFields_fields (ha : aliases.Settled)
    (h : ofFields (some .puzzle) aliases fields = .ok ⟨some p, r⟩) :
    ofFields (some .puzzle) aliases p.fields = .ok ⟨some p, r⟩ := by
  obtain ⟨haccepts, hread, hvalidate⟩ := ofFields_eq_ok_iff.1 h
  have hnormal := Normalization.normal_of_accepts haccepts hread
  rw [ofFields_eq_ok_iff, Normalization.puzzle_fields ha hnormal, ← Puzzle.toJson_eq]
  exact ⟨Schema.accepts_puzzle p, p.ofJson_toJson, hvalidate⟩

theorem loadPuzzle_indentedAt {depth : Nat} {file : String} {octets : List Nat}
    (ha : aliases.Settled) (h : ofFields (some .puzzle) aliases fields = .ok ⟨some p, r⟩)
    (hhouses : Json.digitCount p.houses ≤ Numeral.digitLimit)
    (hfile : Utf8.decode octets = .ok (p.toJson.indentedAt depth).toList) :
    Loading.loadPuzzle file octets aliases = .ok ⟨some p, r⟩ := by
  have hwritable : (Json.obj p.fields).Writable := Puzzle.writable_toJson hhouses
  rw [Puzzle.toJson_eq] at hfile
  rw [Loading.loadPuzzle, Loading.readObject_indentedAt hwritable hfile]
  simp only [Except.mapError, bind, Except.bind, ofFields_fields ha h]

end Checked

/-- The document of a puzzle that was loaded, which is the one that is printed, gives the same
puzzle with the same report. So does a file with its text; a number of houses with more digits than
are read is not written either. -/
theorem Checked.ofFields_toJson (ha : aliases.Settled)
    (h : ofFields (some .puzzle) aliases fields = .ok ⟨some p, r⟩) :
    (CommandLine.documentOf ⟨some p, r⟩ true).field "normalized_puzzle" = .ok p.toJson ∧
    (∃ given, p.toJson = .obj given ∧
      ofFields (some .puzzle) aliases given = .ok ⟨some p, r⟩) ∧
    (Json.digitCount p.houses ≤ Numeral.digitLimit → ∀ depth file octets,
      Utf8.decode octets = .ok (p.toJson.indentedAt depth).toList →
        Loading.loadPuzzle file octets aliases = .ok ⟨some p, r⟩) := by
  refine ⟨rfl, ⟨p.fields, p.toJson_eq, ofFields_fields ha h⟩, ?_⟩
  intro hhouses depth file octets hfile
  exact loadPuzzle_indentedAt ha h hhouses hfile

theorem Checked.ofFields_toJson_mixedSpelling :
    Aliases.Settled .standard ∧
    ∃ p r, ofFields (some .puzzle) .standard mixedSpelling = .ok ⟨some p, r⟩ ∧
      (CommandLine.documentOf ⟨some p, r⟩ true).field "normalized_puzzle" = .ok p.toJson ∧
      (∃ given, p.toJson = .obj given ∧
        ofFields (some .puzzle) .standard given = .ok ⟨some p, r⟩) ∧
      ∀ depth file octets, Utf8.decode octets = .ok (p.toJson.indentedAt depth).toList →
        Loading.loadPuzzle file octets .standard = .ok ⟨some p, r⟩ := by
  have hsome : (ofFields (some .puzzle) .standard mixedSpelling).toOption.map
      (fun c => c.puzzle?.map fun p => decide (Json.digitCount p.houses ≤ Numeral.digitLimit)) =
      some (some true) := by decide +kernel
  cases h : ofFields (some .puzzle) .standard mixedSpelling with
  | error e => simp [h, Except.toOption] at hsome
  | ok c =>
    obtain ⟨puzzle?, r⟩ := c
    cases puzzle? with
    | none => simp [h, Except.toOption] at hsome
    | some p =>
      have hhouses : Json.digitCount p.houses ≤ Numeral.digitLimit := by
        simpa [h, Except.toOption] using hsome
      obtain ⟨hprinted, hgiven, hsaved⟩ := ofFields_toJson Aliases.settled_standard h
      exact ⟨Aliases.settled_standard, p, r, rfl, hprinted, hgiven, hsaved hhouses⟩

/-- A category without a list counts as one with an empty list: the document gives what it gives
with the empty lists written out, and a malformed one is not reported at any category. -/
theorem Checked.ofFields_withLists (aliases : Aliases) (fields : List (String × Json)) :
    (∀ s?, ofFields s? aliases (fields.map Normalization.withLists) =
      ofFields s? aliases fields) ∧
    ∀ r, ofFields (some .puzzle) aliases fields = .ok ⟨none, r⟩ →
      ∀ x, Defect.schema x ∈ r.errors → ∀ name, x.path ≠ [.field "domains", .field name] := by
  refine ⟨fun s? => ?_, fun r h x hx name => ?_⟩
  · rw [ofFields, ofFields, Normalization.puzzle_withLists]
  · by_cases haccepts : Schema.puzzle.Accepts (.obj (Normalization.puzzle aliases fields))
    · rw [ofFields_of_accepts haccepts] at h
      exact absurd hx (schema_notMem_of_build h)
    · rw [ofFields_of_not_accepts haccepts] at h
      obtain rfl := (Checked.mk.inj (Except.ok.inj h)).2
      obtain ⟨y, hy, heq⟩ := List.mem_map.1 hx
      obtain rfl := Defect.schema.inj heq
      exact Normalization.path_ne_of_mem_violations hy name

/-- One category under two names; under one of them it has a number for its values. -/
def collidingCategories : List (String × Json) :=
  [("houses", .int 1), ("domains", .obj [("color", .arr [.str "red"]), ("Color", .int 5)])]

theorem Checked.not_reported_collidingCategories :
    ¬ ∀ (aliases : Aliases) (fields ds : List (String × Json)) (name : String) (v : Json),
      Assoc.get? "domains" fields = some (.obj ds) → (name, v) ∈ ds → (∀ items, v ≠ .arr items) →
        ∃ r, ofFields (some .puzzle) aliases fields = .ok ⟨none, r⟩ ∧
          ∃ x, Defect.schema x ∈ r.errors := by
  intro h
  obtain ⟨r, hr, _⟩ := h .standard collidingCategories _ "Color" (.int 5) rfl (by simp) (by simp)
  have hsome : (ofFields (some .puzzle) .standard collidingCategories).toOption.map
      (·.puzzle?.isSome) = some true := by decide +kernel
  rw [hr] at hsome
  cases hsome

end HousePuzzle
