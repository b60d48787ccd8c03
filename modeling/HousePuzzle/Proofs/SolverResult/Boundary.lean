import HousePuzzle.Proofs.Puzzle.Reading
import HousePuzzle.SolverResult

/-!
The boundary to the solver. A document without a known status is a failure of the solver. One with
a known status gives an answer where it holds one; where it does not, it is refused as a document
of the wrong shape, and no failure of the solver is reported.
-/

namespace HousePuzzle

variable {fields : List (String × Json)}

namespace Json

variable {d : Json} {key : String} {items : List Json} {P : Json → Prop}

/-- What an object lists under a key, one by one; nothing where the key is missing. -/
def ListsUnder (d : Json) (key : String) (items : List Json) : Prop :=
  ∃ fields, d = .obj fields ∧ ((Assoc.get? key fields).getD (.arr [])).members = .ok items

/-- An object that has what is asked for under a key, where it has the key. -/
def HoldsUnder (P : Json → Prop) (key : String) (d : Json) : Prop :=
  ∃ fields, d = .obj fields ∧ ∀ v, Assoc.get? key fields = some v → P v

theorem getD_iff {default : Json} (hdefault : P default) :
    P ((Assoc.get? key fields).getD default) ↔ ∀ v, Assoc.get? key fields = some v → P v := by
  cases Assoc.get? key fields <;> simp [hdefault]

theorem getD_null_eq_arr_iff :
    (Assoc.get? key fields).getD .null = .arr items ↔
      Assoc.get? key fields = some (.arr items) := by
  cases Assoc.get? key fields <;> simp

theorem not_isPresent_getD_null_iff :
    ((Assoc.get? key fields).getD .null).isPresent = false ↔
      ∀ v, Assoc.get? key fields = some v → v.isPresent = false := by
  have hnull : Json.isPresent .null = false := rfl
  exact getD_iff (P := fun v => v.isPresent = false) hnull

theorem not_holdsUnder_str (s : String) : ¬ HoldsUnder P key (.str s) := by
  rintro ⟨_, hobj, _⟩
  cases hobj

theorem exists_listsUnder_iff :
    (∃ items, d.ListsUnder key items) ↔ d.HoldsUnder HasMembers key := by
  constructor
  · rintro ⟨items, fields, rfl, hitems⟩
    exact ⟨fields, rfl, (getD_iff (.arr [])).1 (exists_members_iff.1 ⟨items, hitems⟩)⟩
  · rintro ⟨fields, rfl, hheld⟩
    obtain ⟨items, hitems⟩ := exists_members_iff.2 ((getD_iff (.arr [])).2 hheld)
    exact ⟨items, fields, rfl, hitems⟩

theorem exists_listsUnder_forall_iff (htext : ∀ s, ¬ P (.str s)) :
    (∃ items, d.ListsUnder key items ∧ ∀ item ∈ items, P item) ↔
      d.HoldsUnder (HoldsEach P) key := by
  have hnothing : HoldsEach P (.arr []) := .arr (by simp)
  constructor
  · rintro ⟨items, ⟨fields, rfl, hitems⟩, hall⟩
    exact ⟨fields, rfl,
      (getD_iff hnothing).1 ((exists_forall_members_iff htext).1 ⟨items, hitems, hall⟩)⟩
  · rintro ⟨fields, rfl, hheld⟩
    obtain ⟨items, hitems, hall⟩ :=
      (exists_forall_members_iff htext).2 ((getD_iff hnothing).2 hheld)
    exact ⟨items, ⟨fields, rfl, hitems⟩, hall⟩

theorem bind_members_eq_ok_iff :
    (d.fieldD key (.arr []) >>= members) = .ok items ↔ d.ListsUnder key items := by
  cases d <;> simp [ListsUnder, fieldD, bind, Except.bind]

/-- A witness gives the texts of its atoms. -/
def GivesAtoms (w : Json) (atoms : List String) : Prop :=
  ∃ items, w.ListsUnder "Value" items ∧ items.map plainText = atoms

theorem same_getD_null_str_iff {s : String} :
    ((Assoc.get? key fields).getD .null).same (.str s) = true ↔
      Assoc.get? key fields = some (.str s) := by
  have hsame {v : Json} : v.same (.str s) = true ↔ v = .str s := by
    cases v <;> simp [same, sameScalar, asInt?]
  rw [hsame]
  cases Assoc.get? key fields <;> simp

end Json

namespace SolverResult

variable {R : SolverResult} {c : Json}

theorem ofName?_eq_some_iff {s : String} {status : SolveStatus} :
    SolveStatus.ofName? s = some status ↔ s = status.name := by
  constructor
  · intro h
    have hname := List.find?_some (p := fun t : SolveStatus => t.name = s) h
    exact (of_decide_eq_true hname).symm
  · rintro rfl
    exact SolveStatus.ofName?_name status

/-- The document names a status that is known. -/
def NamesStatus (fields : List (String × Json)) (status : SolveStatus) : Prop :=
  Assoc.get? "Result" fields = some (.str status.name)

theorem readStatus?_eq_some_iff {status : SolveStatus} :
    readStatus? ((Assoc.get? "Result" fields).getD .null) = some status ↔
      NamesStatus fields status := by
  unfold NamesStatus
  cases h : Assoc.get? "Result" fields with
  | none => simp [readStatus?]
  | some v => cases v <;> simp [readStatus?, ofName?_eq_some_iff]

/-- The first of the calls, which alone counts. They may have another name where there are none
under the usual one. -/
inductive FirstCall (fields : List (String × Json)) (c : Json) : Prop
  | call {rest : List Json} : Assoc.get? "Call" fields = some (.arr (c :: rest)) →
      FirstCall fields c
  | calls {rest : List Json} : (∀ v, Assoc.get? "Call" fields = some v → v.isPresent = false) →
      Assoc.get? "Calls" fields = some (.arr (c :: rest)) → FirstCall fields c

/-- The calls that are looked at. -/
def givenCalls (fields : List (String × Json)) : List Json :=
  calls ((Assoc.get? "Call" fields).getD .null) ((Assoc.get? "Calls" fields).getD .null)

theorem head?_givenCalls_iff : (givenCalls fields).head? = some c ↔ FirstCall fields c := by
  have hhead {call calls' : Json} : (calls call calls').head? = some c ↔
      ∃ rest, (if call.isPresent then call else calls') = .arr (c :: rest) := by
    unfold calls
    cases (if call.isPresent then call else calls') <;> simp [List.head?_eq_some_iff]
  rw [givenCalls, hhead]
  constructor
  · rintro ⟨rest, h⟩
    split at h
    · exact .call (Json.getD_null_eq_arr_iff.1 h)
    · next habsent =>
      exact .calls (Json.not_isPresent_getD_null_iff.1 (Bool.eq_false_of_not_eq_true habsent))
        (Json.getD_null_eq_arr_iff.1 h)
  · intro h
    cases h with
    | @call rest hcall =>
      refine ⟨rest, ?_⟩
      rw [Json.getD_null_eq_arr_iff.2 hcall]
      rfl
    | @calls rest habsent hcalls =>
      refine ⟨rest, ?_⟩
      rw [Json.not_isPresent_getD_null_iff.2 habsent, Json.getD_null_eq_arr_iff.2 hcalls]
      rfl

/-- The witnesses are those of the first call, or none where there is no call. -/
def GivesWitnesses (fields : List (String × Json)) (given : List Json) : Prop :=
  (∀ c, FirstCall fields c → c.ListsUnder "Witnesses" given) ∧
    ((∀ c, ¬ FirstCall fields c) → given = [])

/-- The answer that a document gives. Without a count the witnesses are counted. -/
structure IsGivenBy (R : SolverResult) (fields : List (String × Json)) : Prop where
  status : NamesStatus fields R.status
  witnesses : ∃ given, GivesWitnesses fields given ∧
    List.Forall₂ Json.GivesAtoms given R.witnesses
  models : ∃ given, (Assoc.get? "Models" fields).getD (.obj []) = .obj given ∧
    ((Assoc.get? "Number" given).getD (.int R.witnesses.length)).toInt = .ok R.modelsCount ∧
    (R.moreModels = true ↔ Assoc.get? "More" given = some (.str "yes"))

/-- A document that holds an answer: it names a status, the first call has witnesses whose atoms
can be looked at, and there is a number where the models are counted. -/
structure HoldsAnswer (fields : List (String × Json)) : Prop where
  status : ∃ s, NamesStatus fields s
  witnesses : ∀ c, FirstCall fields c →
    c.HoldsUnder (Json.HoldsEach (Json.HoldsUnder Json.HasMembers "Value")) "Witnesses"
  models : ∀ v, Assoc.get? "Models" fields = some v → v.HoldsUnder Json.IsCount "Number"

theorem readWitness_eq_ok_iff {w : Json} {atoms : List String} :
    readWitness w = .ok atoms ↔ w.GivesAtoms atoms := by
  have hread : readWitness w = (w.fieldD "Value" (.arr []) >>= Json.members) >>= fun items =>
      pure (items.map Json.plainText) := by
    rw [readWitness, bind_assoc]
  rw [hread, Except.bind_eq_ok_iff, Json.GivesAtoms]
  simp [Json.bind_members_eq_ok_iff, pure, Except.pure]

theorem readWitnesses_eq_ok_iff {ws : List (List String)} :
    readWitnesses (givenCalls fields) = .ok ws ↔
      ∃ given, GivesWitnesses fields given ∧ List.Forall₂ Json.GivesAtoms given ws := by
  unfold GivesWitnesses
  simp only [← head?_givenCalls_iff]
  cases givenCalls fields with
  | nil => simp [readWitnesses, eq_comm]
  | cons call rest =>
    have hread : readWitnesses (call :: rest) =
        (call.fieldD "Witnesses" (.arr []) >>= Json.members) >>= fun items =>
          items.mapM readWitness := by
      rw [readWitnesses, bind_assoc]
    rw [hread, Except.bind_eq_ok_iff]
    simp [Json.bind_members_eq_ok_iff, mapM_eq_ok_iff, readWitness_eq_ok_iff]

/-- What is said about the models, behind the witnesses. -/
def readModels (status : SolveStatus) (ws : List (List String)) (models : Json) :
    Except Json.ShapeError SolverResult := do
  let count ← (← models.fieldD "Number" (.int ws.length)).toInt
  let more ← models.fieldD "More" .null
  return ⟨status, ws, count, more.same (.str "yes")⟩

theorem readBody_eq (status : SolveStatus) (fields : List (String × Json)) :
    readBody status (.obj fields) = readWitnesses (givenCalls fields) >>= fun ws =>
      readModels status ws ((Assoc.get? "Models" fields).getD (.obj [])) :=
  rfl

theorem readModels_eq_ok_iff {status : SolveStatus} {ws : List (List String)} {models : Json} :
    readModels status ws models = .ok R ↔ (R.status = status ∧ R.witnesses = ws) ∧
      ∃ given, models = .obj given ∧
        ((Assoc.get? "Number" given).getD (.int ws.length)).toInt = .ok R.modelsCount ∧
        (R.moreModels = true ↔ Assoc.get? "More" given = some (.str "yes")) := by
  cases models with
  | obj given =>
    have hmodels : readModels status ws (.obj given) =
        ((Assoc.get? "Number" given).getD (.int ws.length)).toInt >>= fun count =>
          pure ⟨status, ws, count, ((Assoc.get? "More" given).getD .null).same (.str "yes")⟩ := rfl
    rw [hmodels, Except.bind_eq_ok_iff]
    constructor
    · rintro ⟨count, hcount, hR⟩
      obtain rfl := Except.ok.inj hR
      exact ⟨⟨rfl, rfl⟩, given, rfl, hcount, Json.same_getD_null_str_iff⟩
    · rintro ⟨⟨rfl, rfl⟩, _, hobj, hcount, hmore⟩
      obtain rfl := Json.obj.inj hobj
      refine ⟨R.modelsCount, hcount, ?_⟩
      rw [Bool.eq_iff_iff.2 (Json.same_getD_null_str_iff.trans hmore.symm)]
      rfl
  | _ =>
    refine iff_of_false (by simp [readModels, Json.fieldD, bind, Except.bind]) ?_
    rintro ⟨_, _, hobj, _⟩
    cases hobj

theorem ofJson_of_namesStatus {status : SolveStatus} (h : NamesStatus fields status) :
    ofJson (.obj fields) = (readBody status (.obj fields)).mapError .shape := by
  have hread := readStatus?_eq_some_iff.2 h
  simp only [ofJson, Json.fieldD, hread]

theorem ofJson_of_not_namesStatus (h : ∀ status, ¬ NamesStatus fields status) :
    ofJson (.obj fields) = .error (.unexpected (failureDetail
      ((Assoc.get? "Result" fields).getD .null) ((Assoc.get? "Error" fields).getD .null))) := by
  have hread : readStatus? ((Assoc.get? "Result" fields).getD .null) = none :=
    Option.eq_none_iff_forall_ne_some.2 fun status hstatus =>
      h status (readStatus?_eq_some_iff.1 hstatus)
  simp only [ofJson, Json.fieldD, hread]

theorem NamesStatus.eq {s t : SolveStatus} (hs : NamesStatus fields s)
    (ht : NamesStatus fields t) : s = t := by
  have hsome := (readStatus?_eq_some_iff.2 hs).symm.trans (readStatus?_eq_some_iff.2 ht)
  exact Option.some.inj hsome

theorem readBody_eq_ok_iff {status : SolveStatus} (hstatus : NamesStatus fields status) :
    readBody status (.obj fields) = .ok R ↔ R.IsGivenBy fields := by
  rw [readBody_eq, Except.bind_eq_ok_iff]
  constructor
  · rintro ⟨ws, hws, h⟩
    obtain ⟨⟨rfl, rfl⟩, hmodels⟩ := readModels_eq_ok_iff.1 h
    exact ⟨hstatus, readWitnesses_eq_ok_iff.1 hws, hmodels⟩
  · rintro ⟨hgiven, hws, hmodels⟩
    exact ⟨R.witnesses, readWitnesses_eq_ok_iff.2 hws,
      readModels_eq_ok_iff.2 ⟨⟨hgiven.eq hstatus, rfl⟩, hmodels⟩⟩

theorem ofJson_eq_ok_iff : ofJson (.obj fields) = .ok R ↔ R.IsGivenBy fields := by
  by_cases hstatus : ∃ s, NamesStatus fields s
  · obtain ⟨s, hs⟩ := hstatus
    rw [ofJson_of_namesStatus hs, Except.mapError_eq_ok_iff, readBody_eq_ok_iff hs]
  · rw [ofJson_of_not_namesStatus (not_exists.1 hstatus)]
    exact iff_of_false (by simp) fun h => hstatus ⟨_, h.status⟩

theorem exists_givesWitnesses_iff :
    (∃ given ws, GivesWitnesses fields given ∧ List.Forall₂ Json.GivesAtoms given ws) ↔
      ∀ c, FirstCall fields c →
        c.HoldsUnder (Json.HoldsEach (Json.HoldsUnder Json.HasMembers "Value")) "Witnesses" := by
  have hatoms {given : List Json} : (∃ ws, List.Forall₂ Json.GivesAtoms given ws) ↔
      ∀ w ∈ given, w.HoldsUnder Json.HasMembers "Value" := by
    rw [exists_forall₂_iff]
    refine forall₂_congr fun w _ => ?_
    rw [← Json.exists_listsUnder_iff]
    exact ⟨fun ⟨_, items, h, _⟩ => ⟨items, h⟩, fun ⟨items, h⟩ => ⟨_, items, h, rfl⟩⟩
  simp only [← Json.exists_listsUnder_forall_iff Json.not_holdsUnder_str, exists_and_left, hatoms]
  constructor
  · rintro ⟨given, ⟨hlisted, _⟩, hall⟩ c hc
    exact ⟨given, hlisted c hc, hall⟩
  · intro h
    by_cases hcall : ∃ c, FirstCall fields c
    · obtain ⟨c, hc⟩ := hcall
      obtain ⟨given, hgiven, hall⟩ := h c hc
      refine ⟨given, ⟨fun c' hc' => ?_, fun hnone => absurd hc (hnone c)⟩, hall⟩
      have hsame := (head?_givenCalls_iff.2 hc).symm.trans (head?_givenCalls_iff.2 hc')
      rwa [← Option.some.inj hsame]
    · exact ⟨[], ⟨fun c hc => absurd ⟨c, hc⟩ hcall, fun _ => rfl⟩, by simp⟩

/-- Whether there is an answer can be told without reading it. -/
theorem exists_isGivenBy_iff :
    (∃ R : SolverResult, R.IsGivenBy fields) ↔ HoldsAnswer fields := by
  have hmodels {ws : List (List String)} : (∃ given n,
      (Assoc.get? "Models" fields).getD (.obj []) = .obj given ∧
        ((Assoc.get? "Number" given).getD (.int ws.length)).toInt = .ok n) ↔
      ∀ v, Assoc.get? "Models" fields = some v → v.HoldsUnder Json.IsCount "Number" := by
    rw [← Json.getD_iff (P := Json.HoldsUnder Json.IsCount "Number") ⟨[], rfl, by simp⟩]
    refine exists_congr fun given => ?_
    rw [exists_and_left, Json.exists_toInt_iff, Json.getD_iff (P := Json.IsCount) (.int _)]
  constructor
  · rintro ⟨R, hstatus, ⟨given, hgiven, hatoms⟩, models, hobj, hcount, _⟩
    exact ⟨⟨_, hstatus⟩, exists_givesWitnesses_iff.1 ⟨given, _, hgiven, hatoms⟩,
      hmodels.1 ⟨models, _, hobj, hcount⟩⟩
  · rintro ⟨⟨status, hstatus⟩, hwitnesses, hcounted⟩
    obtain ⟨given, ws, hgiven, hatoms⟩ := exists_givesWitnesses_iff.2 hwitnesses
    obtain ⟨models, n, hobj, hcount⟩ := hmodels.2 hcounted
    exact ⟨⟨status, ws, n, ((Assoc.get? "More" models).getD .null).same (.str "yes")⟩, hstatus,
      ⟨given, hgiven, hatoms⟩, models, hobj, hcount, Json.same_getD_null_str_iff⟩

theorem ofJson_eq_unexpected_iff {detail : String} :
    ofJson (.obj fields) = .error (.unexpected detail) ↔
      (∀ s, ¬ NamesStatus fields s) ∧
        detail = failureDetail ((Assoc.get? "Result" fields).getD .null)
          ((Assoc.get? "Error" fields).getD .null) := by
  by_cases hstatus : ∃ s, NamesStatus fields s
  · obtain ⟨s, hs⟩ := hstatus
    rw [ofJson_of_namesStatus hs]
    refine iff_of_false (fun h => ?_) fun h => h.1 s hs
    obtain ⟨_, _, hshape⟩ := Except.mapError_eq_error_iff.1 h
    cases hshape
  · have hnone := not_exists.1 hstatus
    rw [ofJson_of_not_namesStatus hnone]
    constructor
    · intro h
      cases h
      exact ⟨hnone, rfl⟩
    · rintro ⟨_, rfl⟩
      rfl

theorem exists_ofJson_eq_shape_iff :
    (∃ cause, ofJson (.obj fields) = .error (.shape cause)) ↔
      (∃ s, NamesStatus fields s) ∧ ¬ ∃ R, ofJson (.obj fields) = .ok R := by
  by_cases hstatus : ∃ s, NamesStatus fields s
  · obtain ⟨s, hs⟩ := hstatus
    rw [ofJson_of_namesStatus hs]
    cases readBody s (.obj fields) with
    | ok R => exact iff_of_false (by simp [Except.mapError]) fun h => h.2 ⟨R, rfl⟩
    | error cause => exact iff_of_true ⟨cause, rfl⟩ ⟨⟨s, hs⟩, by simp [Except.mapError]⟩
  · rw [ofJson_of_not_namesStatus (not_exists.1 hstatus)]
    exact iff_of_false (by simp) fun h => hstatus h.1

/-- A document without a known status is a failure of the solver, and no other is. One with a known
status gives its answer where it holds one; else it is refused for its shape, which is no failure of
the solver. -/
theorem ofJson_outcome (fields : List (String × Json)) :
    (∀ R, ofJson (.obj fields) = .ok R ↔ R.IsGivenBy fields) ∧
    ((∃ R, ofJson (.obj fields) = .ok R) ↔ HoldsAnswer fields) ∧
    (∀ detail, ofJson (.obj fields) = .error (.unexpected detail) ↔
      (∀ s, ¬ NamesStatus fields s) ∧
        detail = failureDetail ((Assoc.get? "Result" fields).getD .null)
          ((Assoc.get? "Error" fields).getD .null)) ∧
    ((∃ cause, ofJson (.obj fields) = .error (.shape cause)) ↔
      (∃ s, NamesStatus fields s) ∧ ¬ HoldsAnswer fields) := by
  have hanswer : (∃ R, ofJson (.obj fields) = .ok R) ↔ HoldsAnswer fields := by
    simp only [ofJson_eq_ok_iff]
    exact exists_isGivenBy_iff
  refine ⟨fun R => ofJson_eq_ok_iff, hanswer, fun detail => ofJson_eq_unexpected_iff, ?_⟩
  rw [← hanswer]
  exact exists_ofJson_eq_shape_iff

/-- A call of which nothing is told. -/
def nullCall : List (String × Json) :=
  [("Result", .str "SATISFIABLE"), ("Call", .arr [.null])]

theorem not_closed_nullCall :
    ¬ ∀ fields : List (String × Json), (∃ R, ofJson (.obj fields) = .ok R) ∨
      ∃ detail, ofJson (.obj fields) = .error (.unexpected detail) := by
  intro h
  have hread : ofJson (.obj nullCall) = .error (.shape (.noMember .null "get")) := rfl
  rcases h nullCall with ⟨R, hR⟩ | ⟨detail, hdetail⟩
  · rw [hread] at hR
    cases hR
  · rw [hread] at hdetail
    cases hdetail

end SolverResult

end HousePuzzle
