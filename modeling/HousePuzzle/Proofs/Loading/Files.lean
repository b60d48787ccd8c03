import HousePuzzle.Loading
import HousePuzzle.Proofs.Json.Lines
import HousePuzzle.Proofs.Utf8

/-!
Documents from files. An object is read from a file just where the octets are a text and the text
is an object, however its lines end. Not all other files are called malformed: octets that are no
text are not, nor is a text with a number that is too long.
-/

namespace HousePuzzle.Loading

open Utf8 (octetsOf)

variable {file text : String} {octets : List Nat} {fields : List (String × Json)} {e : Error}

theorem readJson_octetsOf (file text : String) :
    readJson file (octetsOf text) =
      (Json.parseChars (Utf8.unifyLines text.toList)).mapError (.json file) := by
  rw [readJson, Utf8.decode_eq_ok_iff.2 rfl]
  rfl

theorem readObject_octetsOf_eq_ok_iff :
    readObject file (octetsOf text) = .ok fields ↔ Json.parse text = .ok (.obj fields) := by
  rw [readObject, Except.bind_eq_ok_iff, readJson_octetsOf, Json.parse]
  simp only [Except.mapError_eq_ok_iff, Json.parseChars_unifyLines_eq_ok_iff]
  constructor
  · rintro ⟨v, hv, hobject⟩
    cases v with
    | obj given =>
      obtain rfl := Except.ok.inj hobject
      exact hv
    | _ => cases hobject
  · intro h
    exact ⟨.obj fields, h, rfl⟩

/-- Of a text only a number that is too long is not called malformed. -/
theorem isMalformedFile_octetsOf (h : readObject file (octetsOf text) = .error e) :
    e.isMalformedFile = false ↔ ∃ digits, Json.parse text = .error (.longNumeral digits) := by
  have hparse : ∀ digits, Json.parse text = .error (.longNumeral digits) ↔
      Json.parseChars (Utf8.unifyLines text.toList) = .error (.longNumeral digits) := fun _ =>
    Json.parseChars_unifyLines_longNumeral_iff.symm
  rw [readObject, Except.bind_eq_error_iff, readJson_octetsOf] at h
  rw [exists_congr hparse]
  rcases h with h | ⟨v, hv, hobject⟩
  · obtain ⟨cause, hcause, rfl⟩ := Except.mapError_eq_error_iff.1 h
    rw [hcause]
    cases cause <;> simp [Error.isMalformedFile]
  · rw [Except.mapError_eq_ok_iff] at hv
    have hmalformed : e.isMalformedFile = true := by
      cases v with
      | obj given => cases hobject
      | _ =>
        obtain rfl := Except.error.inj hobject
        rfl
    rw [hv, hmalformed]
    simp

theorem decode_eq_error_of_ne (h : ∀ text, octets ≠ octetsOf text) :
    ∃ fault, Utf8.decode octets = .error fault := by
  cases hdecode : Utf8.decode octets with
  | error fault => exact ⟨fault, rfl⟩
  | ok cs =>
    refine absurd (Utf8.decode_eq_ok_iff.1 ?_) (h (String.ofList cs))
    rw [hdecode, String.toList_ofList]

/-- An object is read just where the octets are a text that is one. Any other file is called
malformed, but where the octets are no text, or the text has a number that is too long. -/
theorem readObject_octets (file : String) (octets : List Nat) :
    (∀ fields, readObject file octets = .ok fields ↔
      ∃ text, octets = octetsOf text ∧ Json.parse text = .ok (.obj fields)) ∧
    ∀ e, readObject file octets = .error e → (e.isMalformedFile = false ↔
      (∀ text, octets ≠ octetsOf text) ∨
        ∃ text digits, octets = octetsOf text ∧
          Json.parse text = .error (.longNumeral digits)) := by
  by_cases htext : ∃ text, octets = octetsOf text
  · obtain ⟨text, rfl⟩ := htext
    refine ⟨fun fields => ?_, fun e he => ?_⟩
    · rw [readObject_octetsOf_eq_ok_iff]
      constructor
      · intro h
        exact ⟨text, rfl, h⟩
      · rintro ⟨other, heq, h⟩
        rwa [Utf8.octetsOf_injective heq]
    · rw [isMalformedFile_octetsOf he]
      constructor
      · rintro ⟨digits, h⟩
        exact .inr ⟨text, digits, rfl, h⟩
      · rintro (hne | ⟨other, digits, heq, h⟩)
        · exact absurd rfl (hne text)
        · rw [← Utf8.octetsOf_injective heq] at h
          exact ⟨digits, h⟩
  · have hne : ∀ text, octets ≠ octetsOf text := fun text heq => htext ⟨text, heq⟩
    obtain ⟨fault, hfault⟩ := decode_eq_error_of_ne hne
    have herror : readObject file octets = .error (.encoding fault) := by
      rw [readObject, readJson, hfault]
      rfl
    refine ⟨fun fields => ?_, fun e he => ?_⟩
    · rw [herror]
      refine iff_of_false (by simp) ?_
      rintro ⟨text, heq, _⟩
      exact hne text heq
    · rw [herror] at he
      obtain rfl := Except.error.inj he
      exact iff_of_true rfl (.inl hne)

/-- An octet with which no character begins. -/
theorem not_malformed_strayOctet :
    ¬ ∀ (file : String) (octets : List Nat), (∃ fields, readObject file octets = .ok fields) ∨
      ∃ e, readObject file octets = .error e ∧ e.isMalformedFile = true := by
  intro h
  have herror : readObject "p.json" [0xFF] = .error (.encoding ⟨0xFF, 0, 1, .start⟩) := rfl
  rcases h "p.json" [0xFF] with ⟨fields, hfields⟩ | ⟨e, he, hmalformed⟩
  · rw [herror] at hfields
    cases hfields
  · rw [herror] at he
    obtain rfl := Except.error.inj he
    cases hmalformed

end HousePuzzle.Loading
