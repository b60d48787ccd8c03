import HousePuzzle.Aliases
import HousePuzzle.Proofs.Registry
import HousePuzzle.Proofs.Text.Case
import HousePuzzle.Proofs.Traversal

/-!
Canonical names of categories. A name is canonical when nothing is left to be trimmed or made
small in it; the names that aliases lead to are canonical too, where the aliases were read.
-/

namespace HousePuzzle

namespace Name

/-- Underscores, a small letter, then small letters, digits and underscores. -/
def SmallForm (cs : List Char) : Prop :=
  ∃ n c rest, cs = List.replicate n '_' ++ c :: rest ∧ isSmall c = true ∧
    ∀ d ∈ rest, (isSmall d || isDigit d || d = '_') = true

theorem ConstantForm.smallForm {cs : List Char} (h : ConstantForm cs)
    (hlower : ∀ c ∈ cs, Text.IsLower c) : SmallForm cs := by
  obtain ⟨n, c, rest, rfl, hc, hrest⟩ := h
  refine ⟨n, c, rest, rfl, hc, fun d hd => ?_⟩
  exact (hlower d (by simp [hd])).isWordChar (hrest d hd)

/-- A text without blanks at its ends has the whole of a form that it fits. -/
theorem Fits.whole_of_isTrimmed {form : List Char → Prop} {s : String} (h : Fits form s)
    (hs : Text.IsTrimmed s.toList) : form s.toList :=
  h.whole fun hend => absurd (hs.2 _ hend) (by decide)

end Name

namespace Aliases

variable {aliases : Aliases} {name : String}

@[simp] theorem toList_canonical (name : String) :
    (canonical name).toList = Text.lowerChars (Text.trimChars name.toList) := by
  simp [canonical]

theorem isLower_canonical (name : String) : ∀ c ∈ (canonical name).toList, Text.IsLower c := by
  rw [toList_canonical]
  exact fun c hc => Text.isLower_of_mem_lowerChars hc

theorem isTrimmed_canonical (name : String) : Text.IsTrimmed (canonical name).toList := by
  rw [toList_canonical]
  exact (Text.isTrimmed_trimChars _).lowerChars

@[simp] theorem canonical_canonical (name : String) : canonical (canonical name) = canonical name := by
  have htrim : Text.trim (canonical name) = canonical name :=
    Text.trim_eq_self_iff.2 (isTrimmed_canonical name)
  rw [canonical, htrim, Text.lower, Text.lowerChars_eq_self (isLower_canonical name),
    String.ofList_toList]

/-- Aliases whose targets have no other name. -/
def Settled (aliases : Aliases) : Prop :=
  ∀ old new, Assoc.get? old aliases = some new → aliases.rename new = new

theorem Settled.rename_rename (h : aliases.Settled) (name : String) :
    aliases.rename (aliases.rename name) = aliases.rename name := by
  cases hget : Assoc.get? (canonical name) aliases with
  | some new =>
    have hnew : aliases.rename name = new := by rw [rename, hget, Option.getD_some]
    rw [hnew]
    exact h _ _ hget
  | none =>
    have hnone : aliases.rename name = canonical name := by rw [rename, hget, Option.getD_none]
    rw [hnone, rename, canonical_canonical, hget, Option.getD_none]

theorem settled_standard : Settled standard := by
  intro old new h
  have hmem := Assoc.mem_of_get?_eq_some h
  obtain ⟨_, rfl⟩ : old = "drink" ∧ new = "beverage" := by simpa [standard] using hmem
  decide +kernel

/-- Aliases that lead to canonical names. -/
def Canonical (aliases : Aliases) : Prop :=
  ∀ e ∈ aliases, canonical e.2 = e.2

theorem Canonical.canonical_rename (h : aliases.Canonical) (name : String) :
    canonical (aliases.rename name) = aliases.rename name := by
  cases hget : Assoc.get? (canonical name) aliases with
  | some new =>
    rw [rename, hget, Option.getD_some]
    exact h (canonical name, new) (Assoc.mem_of_get?_eq_some hget)
  | none => rw [rename, hget, Option.getD_none, canonical_canonical]

theorem canonical_standard : Canonical standard := by
  intro e he
  obtain rfl : e = ("drink", "beverage") := by simpa [standard] using he
  decide +kernel

theorem canonical_readItem {item : List Char} {e : String × String} (h : readItem item = .ok e) :
    canonical e.2 = e.2 := by
  unfold readItem at h
  split at h
  · cases h
  · next old new _ =>
    split at h
    · cases h
    · obtain rfl := Except.ok.inj h
      exact canonical_canonical (String.ofList new)

theorem canonical_of_parse {text : String} (h : parse text = .ok aliases) :
    aliases.Canonical := by
  obtain ⟨entries, hentries, hok⟩ := Except.bind_eq_ok_iff.1 h
  cases hok
  intro e he
  obtain ⟨item, _, hitem⟩ := exists_of_mem_mapM hentries (Assoc.mem_of_mem_ofList he)
  exact canonical_readItem hitem

end Aliases

end HousePuzzle
