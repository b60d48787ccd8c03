import HousePuzzle.Proofs.Checking
import HousePuzzle.Proofs.SolverResult
import HousePuzzle.Proofs.Validation.Findings

/-!
Numbers in puzzles from files. No number in a document that was read is too long, and none becomes
so on the way: not in canonical spelling, not in the puzzle, and not in what a report quotes. What
is written of such a document is written under the limit.
-/

namespace HousePuzzle

open Json (digitCount)
open Numeral (digitLimit)

variable {aliases : Aliases} {fields : List (String × Json)} {v : Json}

namespace Normalization

theorem short_trimText (h : v.Short) : (trimText v).Short := by
  unfold trimText
  split
  · exact .str _
  · exact h

/-- The text of a whole number in a rule is the one that is written under the limit. -/
theorem map_writeShort_of_short {n : Int} (h : (Json.int n).Short) :
    (Numeral.writeShort n).map Json.str = .ok (value (.int n)) := by
  cases h with
  | int hn =>
    rw [Json.writeShort_eq_ok hn]
    rfl

theorem short_of_mem_domains (hfields : ∀ f ∈ fields, f.2.Short) :
    ∀ e ∈ domains aliases fields, ∀ w ∈ e.2, w.Short := by
  refine Assoc.forall_mem_foldl_alter (m := [])
    (f := fun (f : String × Json) old => addValues (old.getD []) f.2)
    (P := fun e => ∀ w ∈ e.2, w.Short)
    (fun _ hd => absurd hd List.not_mem_nil) fun f hf old hold w hw => ?_
  rcases mem_addValues hw with hw | ⟨items, hitems, x, hx, rfl⟩
  · cases old with
    | none => cases hw
    | some bucket => exact hold bucket rfl w hw
  · have hlist : f.2.Short := hfields f hf
    rw [hitems] at hlist
    cases hlist with
    | arr hall => exact short_trimText (hall x hx)

/-- A field of a rule is left as it is, or its value becomes a text. -/
theorem cases_of_ruleField (f : String × Json) :
    (ruleField aliases f).2 = f.2 ∨ ∃ s, (ruleField aliases f).2 = .str s := by
  obtain ⟨name, v⟩ := f
  unfold ruleField
  split_ifs
  · cases v <;> simp [category]
  · cases v <;> simp [value]
  · cases v <;> simp [operator]
  · exact .inl rfl

theorem short_ruleField {f : String × Json} (h : f.2.Short) : (ruleField aliases f).2.Short := by
  rcases cases_of_ruleField f with heq | ⟨s, heq⟩
  · rwa [heq]
  · rw [heq]
    exact .str s

theorem short_rule (h : v.Short) : (rule aliases v).Short := by
  unfold rule
  split
  · cases h with
    | obj hfields =>
      exact .obj (List.forall_mem_map.2 fun f hf => short_ruleField (hfields f hf))
  · exact h

theorem short_puzzleField {f : String × Json} (h : f.2.Short) :
    (puzzleField aliases f).2.Short := by
  unfold puzzleField
  split
  · cases h with
    | obj hfields =>
      exact .obj (List.forall_mem_map.2 fun e he => .arr (short_of_mem_domains hfields e he))
  · cases h with
    | arr hrules =>
      exact .arr (List.forall_mem_map.2 fun r hr => short_rule (hrules r hr))
  · exact h

/-- Canonical spelling makes no number longer. -/
theorem short_puzzle (h : (Json.obj fields).Short) : (Json.obj (puzzle aliases fields)).Short := by
  cases h with
  | obj hfields =>
    exact .obj (List.forall_mem_map.2 fun f hf => short_puzzleField (hfields f hf))

end Normalization

theorem Json.Short.of_get? {name : String} (h : (Json.obj fields).Short)
    (hv : Assoc.get? name fields = some v) : v.Short := by
  cases h with
  | obj hfields => exact hfields _ (Assoc.mem_of_get?_eq_some hv)

theorem Puzzle.digitCount_of_ofJson {p : Puzzle} (h : (Json.obj fields).Short)
    (hp : Puzzle.ofJson (.obj fields) = .ok p) : digitCount p.houses ≤ digitLimit := by
  obtain ⟨houses, _, _, _, _, ⟨hhouses, hn⟩, _⟩ := Puzzle.ofJson_eq_ok_iff.1 hp
  exact (h.of_get? (Json.field_eq_ok_iff.1 hhouses)).digitCount_toInt hn

section Quoted

/-- The values of the document that are quoted in the message, in the fix or in the details. -/
def Defect.quoted : Defect → List Json
  | .schema x => x.fault.quoted
  | .houseCount given => [given]
  | .emptyDomain _ houses | .positionRange _ houses => [houses]
  | _ => []

def Warning.quoted : Warning → List Json
  | .sizeMismatch _ _ houses => [houses]
  | .voidRule _ _ => []

theorem Schema.Reaches.short {start path : List Schema.Step} {d : Json}
    (h : Schema.Reaches start d path v) (hd : d.Short) : v.Short := by
  induction h with
  | start => exact hd
  | item _ hmem ih =>
    cases ih with
    | arr hall => exact hall _ (List.fst_mem_of_mem_zipIdx hmem)
  | field _ hmem ih =>
    cases ih with
    | obj hfields => exact hfields _ hmem

theorem Schema.short_of_mem_violations {x : Schema.Violation} {path : List Schema.Step}
    {s : Schema} (h : x ∈ Schema.violations path v s) (hv : v.Short) :
    ∀ w ∈ x.fault.quoted, w.Short := by
  obtain ⟨u, hu, hquoted⟩ := Schema.reaches_of_mem_violations .start s h
  intro w hw
  rw [hquoted w hw]
  exact hu.short hv

variable {houses : Json} {d : Registry} {rs : List Rule}

/-- A finding of a puzzle quotes no value but the number of houses. -/
theorem Defect.Concerns.short_quoted {e : Defect} (h : e.Concerns houses d rs)
    (hhouses : houses.Short) : ∀ w ∈ e.quoted, w.Short := by
  cases h with
  | houseCount | emptyDomain | positionRange => exact List.forall_mem_singleton.2 hhouses
  | _ => exact fun w hw => absurd hw List.not_mem_nil

theorem Warning.Concerns.short_quoted {w : Warning} (h : w.Concerns houses d rs)
    (hhouses : houses.Short) : ∀ u ∈ w.quoted, u.Short := by
  cases h with
  | sizeMismatch => exact List.forall_mem_singleton.2 hhouses
  | voidRule => exact fun u hu => absurd hu List.not_mem_nil

end Quoted

/-- What comes of a document without long numbers has none: not the number of houses of its puzzle,
and nothing that is quoted in its report. -/
structure Checked.Short (c : Checked) : Prop where
  houses : ∀ p, c.puzzle? = some p → digitCount p.houses ≤ digitLimit
  errors : ∀ e ∈ c.report.errors, ∀ w ∈ e.quoted, w.Short
  warnings : ∀ w ∈ c.report.warnings, ∀ u ∈ w.quoted, u.Short

theorem Checked.short_of_ofFields {c : Checked} (hfields : (Json.obj fields).Short)
    (h : ofFields (some .puzzle) aliases fields = .ok c) : c.Short := by
  have hnormal : (Json.obj (Normalization.puzzle aliases fields)).Short :=
    Normalization.short_puzzle hfields
  by_cases haccepts : Schema.puzzle.Accepts (.obj (Normalization.puzzle aliases fields))
  · obtain ⟨p, hp, heq⟩ := exists_ofFields_eq haccepts
    rw [heq] at h
    obtain ⟨r, hr, rfl⟩ := Except.map_eq_ok_iff.1 h
    have hhouses : digitCount p.houses ≤ digitLimit := Puzzle.digitCount_of_ofJson hnormal hp
    obtain ⟨herrors, hwarnings⟩ := Validation.concerns_of_validate hr
    refine ⟨fun q hq => ?_, fun e he => (herrors e he).short_quoted (.int hhouses),
      fun w hw => (hwarnings w hw).short_quoted (.int hhouses)⟩
    obtain rfl := Option.some.inj hq
    exact hhouses
  · rw [ofFields_of_not_accepts haccepts] at h
    obtain rfl := Except.ok.inj h
    refine ⟨by simp [malformed], fun e he => ?_, by simp [malformed]⟩
    obtain ⟨x, hx, rfl⟩ := List.mem_map.1 he
    exact Schema.short_of_mem_violations hx hnormal

namespace Loading

variable {file : String} {octets : List Nat} {c : Checked} {f : Validation.Failure} {p : Puzzle}
  {r : Report}

theorem loadPuzzle_eq_ok_iff :
    loadPuzzle file octets aliases = .ok c ↔
      ∃ fields, readObject file octets = .ok fields ∧
        Checked.ofFields (some .puzzle) aliases fields = .ok c := by
  rw [loadPuzzle, Except.bind_eq_ok_iff]
  simp only [Except.mapError_eq_ok_iff]

theorem loadPuzzle_eq_failure_iff :
    loadPuzzle file octets aliases = .error (.failure f) ↔
      ∃ fields, readObject file octets = .ok fields ∧
        Checked.ofFields (some .puzzle) aliases fields = .error f := by
  rw [loadPuzzle, Except.bind_eq_error_iff]
  simp [Except.mapError_eq_ok_iff, Except.mapError_eq_error_iff]

theorem short_of_loadPuzzle (h : loadPuzzle file octets aliases = .ok c) : c.Short := by
  obtain ⟨fields, hread, hc⟩ := loadPuzzle_eq_ok_iff.1 h
  exact Checked.short_of_ofFields (short_of_readObject hread) hc

/-- A file with an object has a report, unless its puzzle is one in which the first side that does
not fit is a position with more digits than are read. No other number in it is that long. -/
theorem loadPuzzle_eq_failure_iff_tooLong :
    loadPuzzle file octets aliases = .error (.failure f) ↔
      ∃ fields p, readObject file octets = .ok fields ∧ (Json.obj fields).Short ∧
        Schema.puzzle.Accepts (.obj (Normalization.puzzle aliases fields)) ∧
        Puzzle.ofJson (.obj (Normalization.puzzle aliases fields)) = .ok p ∧
        digitCount p.houses ≤ digitLimit ∧
        (Validation.earlyDefects (.int p.houses) p.domains).length < Validation.errorLimit ∧
        ∃ o, Validation.ComesTo (Validation.SideFits p.houses p.domains)
            (Validation.sides p.rules) o ∧
          o.IsTooLong ∧ f = .numeral (.tooLong o.value.toList.length) := by
  rw [loadPuzzle_eq_failure_iff]
  constructor
  · rintro ⟨fields, hread, hf⟩
    obtain ⟨p, haccepts, hp, hv⟩ := Checked.ofFields_eq_error_iff.1 hf
    have hshort := short_of_readObject hread
    have hhouses := Puzzle.digitCount_of_ofJson (Normalization.short_puzzle hshort) hp
    exact ⟨fields, p, hread, hshort, haccepts, hp, hhouses,
      (Puzzle.validate_eq_error_iff (Normalization.normal_of_accepts haccepts hp)).1 hv⟩
  · rintro ⟨fields, p, hread, _, haccepts, hp, _, hv⟩
    refine ⟨fields, hread, Checked.ofFields_eq_error_iff.2 ⟨p, haccepts, hp, ?_⟩⟩
    exact (Puzzle.validate_eq_error_iff (Normalization.normal_of_accepts haccepts hp)).2 hv

/-- A puzzle from a file is loaded again, with its report, from any file with the text of its
document: the document can always be written. -/
theorem loadPuzzle_toJson (ha : aliases.Settled)
    (h : loadPuzzle file octets aliases = .ok ⟨some p, r⟩) (depth : Nat) (copy : String)
    (written : List Nat) (hwritten : Utf8.decode written = .ok (p.toJson.indentedAt depth).toList) :
    loadPuzzle copy written aliases = .ok ⟨some p, r⟩ := by
  obtain ⟨fields, _, hc⟩ := loadPuzzle_eq_ok_iff.1 h
  exact Checked.loadPuzzle_indentedAt ha hc ((short_of_loadPuzzle h).houses p rfl) hwritten

end Loading

end HousePuzzle
