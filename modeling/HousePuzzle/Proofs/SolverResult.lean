import HousePuzzle.Loading
import HousePuzzle.Proofs.Json.Numbers

/-! Answers of a solver in a file: what is saved is what is loaded. -/

namespace HousePuzzle

variable {R : SolverResult} {fields : List (String × Json)} {file : String} {octets : List Nat}

/-- A witness among others: the texts of its atoms under their key. -/
def Json.IsWitness (v : Json) (atoms : List String) : Prop :=
  ∃ given, v = .obj given ∧ Assoc.get? "Value" given = some (.arr (atoms.map .str))

namespace SolverResult

/-- The fields in which a document holds the answer. It may have others. -/
structure IsHeldBy (R : SolverResult) (fields : List (String × Json)) : Prop where
  status : Assoc.get? "Result" fields = some (.str R.status.name)
  witnesses : ∃ call rest given, Assoc.get? "Call" fields = some (.arr (.obj call :: rest)) ∧
    Assoc.get? "Witnesses" call = some (.arr given) ∧ List.Forall₂ Json.IsWitness given R.witnesses
  models : ∃ given, Assoc.get? "Models" fields = some (.obj given) ∧
    Assoc.get? "Number" given = some (.int R.modelsCount) ∧
    Assoc.get? "More" given = some (.str (if R.moreModels then "yes" else "no"))

theorem readWitness_eq_ok {v : Json} {atoms : List String} (h : v.IsWitness atoms) :
    readWitness v = .ok atoms := by
  obtain ⟨given, rfl, hvalue⟩ := h
  have hatoms : (atoms.map Json.str).map Json.plainText = atoms := by
    rw [List.map_map]
    exact List.map_id _
  simp only [readWitness, Json.fieldD, hvalue, Option.getD_some, Json.members, bind, Except.bind,
    pure, Except.pure, hatoms]

theorem ofJson_of_isHeldBy (h : R.IsHeldBy fields) : ofJson (.obj fields) = .ok R := by
  obtain ⟨call, rest, given, hcall, hgiven, hwitnesses⟩ := h.witnesses
  obtain ⟨models, hmodels, hnumber, hmore⟩ := h.models
  have hread : readWitnesses (.obj call :: rest) = .ok R.witnesses := by
    have hmapM : given.mapM readWitness = .ok R.witnesses :=
      mapM_eq_ok_iff.2 (hwitnesses.imp fun _ _ => readWitness_eq_ok)
    simp only [readWitnesses, Json.fieldD, hgiven, Option.getD_some, Json.members, bind,
      Except.bind, hmapM]
  have hcalls (other : Json) : calls (.arr (.obj call :: rest)) other = .obj call :: rest := rfl
  have hmoreModels : (Json.str (if R.moreModels then "yes" else "no")).same (.str "yes") =
      R.moreModels := by
    cases R.moreModels <;> rfl
  have hbody : readBody R.status (.obj fields) = .ok R := by
    simp only [readBody, Json.fieldD, hcall, hmodels, hnumber, hmore, Option.getD_some, Json.toInt,
      bind, Except.bind, pure, Except.pure, hcalls, hread, hmoreModels]
  have hstatus : readStatus? (.str R.status.name) = some R.status := SolveStatus.ofName?_name R.status
  simp only [ofJson, Json.fieldD, h.status, Option.getD_some, hstatus, hbody, Except.mapError]

end SolverResult

namespace Loading

theorem loadResult_of_isHeldBy (hread : readObject file octets = .ok fields)
    (h : R.IsHeldBy fields) : loadResult file octets = .ok R := by
  simp only [loadResult, hread, SolverResult.ofJson_of_isHeldBy h, Except.mapError, bind,
    Except.bind]

theorem short_of_readObject (h : readObject file octets = .ok fields) :
    (Json.obj fields).Short := by
  obtain ⟨v, hv, hobject⟩ := Except.bind_eq_ok_iff.1 h
  obtain ⟨cs, _, hparse⟩ := Except.bind_eq_ok_iff.1 hv
  have hshort := Json.short_of_parseChars (Except.mapError_eq_ok_iff.1 hparse)
  split at hobject
  · exact Except.ok.inj hobject ▸ hshort
  · cases hobject

/-- A count of models that was read is short enough to be written. -/
theorem digitCount_of_isHeldBy (hread : readObject file octets = .ok fields)
    (h : R.IsHeldBy fields) : Json.digitCount R.modelsCount ≤ Numeral.digitLimit := by
  obtain ⟨models, hmodels, hnumber, _⟩ := h.models
  cases short_of_readObject hread with
  | obj hfields =>
    cases hfields _ (Assoc.mem_of_get?_eq_some hmodels) with
    | obj hmodels =>
      cases hmodels _ (Assoc.mem_of_get?_eq_some hnumber) with
      | int hcount => exact hcount

/-- No model, however many there are said to be. -/
def noModels (count : Nat) : SolverResult :=
  ⟨.unsatisfiable, [], count, false⟩

def noModelsFields (count : Nat) : List (String × Json) :=
  [("Models", .obj [("Number", .int count), ("More", .str "no")]),
    ("Result", .str "UNSATISFIABLE"), ("Call", .arr [.obj [("Witnesses", .arr [])]])]

theorem isHeldBy_noModels (count : Nat) : (noModels count).IsHeldBy (noModelsFields count) :=
  ⟨rfl, ⟨_, _, [], rfl, rfl, .nil⟩, ⟨_, rfl, rfl, rfl⟩⟩

/-- The file of an answer whose count has too many digits is not read. -/
theorem exists_octets_noModels {count : Nat}
    (hcount : Numeral.digitLimit < (Nat.toDigits 10 count).length) (file : String) :
    ∃ octets, Utf8.decode octets = .ok ((Json.obj (noModelsFields count)).indentedAt 0).toList ∧
      loadResult file octets = .error (.file (.json file
        (.longNumeral (Nat.toDigits 10 count).length))) := by
  obtain ⟨behind, hbehind, hstops, htext⟩ : ∃ behind : List Char,
      (∀ c ∈ behind, c.toNat < 128 ∧ c ≠ '\r') ∧ Json.Stops behind ∧
        ((Json.obj (noModelsFields count)).indentedAt 0).toList =
          Json.openings "Models" "Number" ++ (Nat.toDigits 10 count ++ behind) := by
    refine ⟨Json.closings ("More", .str "no") [] [("Result", .str "UNSATISFIABLE"),
      ("Call", .arr [.obj [("Witnesses", .arr [])]])], by decide +kernel, Json.stops_comma, ?_⟩
    rw [noModelsFields, Json.toList_indentedAt_nested, ← Numeral.toList_writeNat]
    rfl
  have hfront : ∀ c ∈ Json.openings "Models" "Number", c.toNat < 128 ∧ c ≠ '\r' := by
    decide +kernel
  have hdigits : ∀ c ∈ Nat.toDigits 10 count, c.toNat < 128 ∧ c ≠ '\r' :=
    Numeral.forall_mem_toDigits (fun c hc => by
      have hrange := Name.isDigit_iff_toNat.1 hc
      exact ⟨by omega, fun heq => by simp [heq] at hrange⟩) count
  have hchars : ∀ c ∈ Json.openings "Models" "Number" ++ (Nat.toDigits 10 count ++ behind),
      c.toNat < 128 ∧ c ≠ '\r' :=
    List.forall_mem_append.2 ⟨hfront, List.forall_mem_append.2 ⟨hdigits, hbehind⟩⟩
  have hdecode := Utf8.decode_ascii fun c hc => (hchars c hc).1
  have hlines := Utf8.unifyLines_eq_self fun hmem => (hchars '\r' hmem).2 rfl
  refine ⟨_, by rw [htext, hdecode], ?_⟩
  simp only [loadResult, readObject, readJson, hdecode, hlines,
    Json.parseChars_longNumeral hcount hstops, Except.mapError, bind, Except.bind]

theorem not_loaded_noModels :
    ¬ ∀ (R : SolverResult) (fields : List (String × Json)) (file : String) (octets : List Nat),
      R.IsHeldBy fields → Utf8.decode octets = .ok ((Json.obj fields).indentedAt 0).toList →
        loadResult file octets = .ok R := by
  intro hclaim
  obtain ⟨octets, hdecode, hload⟩ :=
    exists_octets_noModels (Json.lt_length_toDigits Numeral.digitLimit) "result.json"
  have hread := hclaim _ _ "result.json" octets (isHeldBy_noModels _) hdecode
  rw [hload] at hread
  cases hread

end Loading

end HousePuzzle
