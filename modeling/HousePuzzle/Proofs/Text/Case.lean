import HousePuzzle.Proofs.Name
import HousePuzzle.Proofs.Text.Blank
import HousePuzzle.Text.Case

/-!
Laws of small letters: there is no capital left to make small, and what is no blank does not become
one. What the table of capitals has to satisfy for that is checked run by run.
-/

namespace HousePuzzle.Text

variable {c d : Char} {cs : List Char}

namespace CaseRun

variable {r s : CaseRun} {m n : Nat}

def Has (r : CaseRun) (n : Nat) : Prop :=
  r.first ≤ n ∧ n ≤ r.last ∧ (n - r.first) % r.step = 0

instance : Decidable (r.Has n) :=
  inferInstanceAs (Decidable (_ ∧ _ ∧ _))

theorem lower?_eq_some_iff : r.lower? n = some m ↔ r.Has n ∧ m = (n + r.shift).toNat := by
  rw [lower?, Option.ite_none_right_eq_some, Option.some.injEq, Has, eq_comm (a := m)]

def low (r : CaseRun) : Nat :=
  (r.first + r.shift).toNat

def high (r : CaseRun) : Nat :=
  (r.last + r.shift).toNat

/-- The small letters of the first run are beside the second run, or fall between its members. -/
def apart (r s : CaseRun) : Bool :=
  Nat.blt r.high s.first || Nat.blt s.last r.low ||
    ((r.step == 2 || r.first == r.last) && s.step == 2 && (r.low + s.first) % 2 == 1)

theorem not_has_of_apart (h : r.apart s = true) (hpos : 0 < r.first + r.shift)
    (hm : r.lower? n = some m) : ¬ s.Has m := by
  obtain ⟨⟨hfirst, hlast, hstep⟩, rfl⟩ := lower?_eq_some_iff.1 hm
  simp only [apart, low, high, Bool.or_eq_true, Bool.and_eq_true, beq_iff_eq, Nat.blt_eq] at h
  rintro ⟨hsfirst, hslast, hsstep⟩
  rcases h with (h | h) | ⟨⟨hr, hs⟩, h⟩
  · omega
  · omega
  · rw [hs] at hsstep
    rcases hr with hr | hr
    · rw [hr] at hstep
      omega
    · omega

end CaseRun

/-- Capitals: those of the table, and the two that need more. -/
def capitals : List CaseRun :=
  ⟨0x130, 0x130, 1, 0⟩ :: ⟨0x3A3, 0x3A3, 1, 0⟩ :: lowerRuns

def blankRuns : List CaseRun :=
  blanks.map fun b => ⟨b.1, b.2, 1, 0⟩

/-- No small letter of the table is a capital or a blank. -/
theorem all_apart : (lowerRuns.all fun r => (capitals ++ blankRuns).all r.apart) = true := by
  decide +kernel

/-- The small letters of the table are characters, beyond all ASCII capitals. -/
theorem bounds_of_mem_lowerRuns : ∀ r ∈ lowerRuns, 97 ≤ r.first + r.shift ∧
    (r.last + r.shift < 0xD800 ∨ 0xDFFF < r.first + r.shift ∧ r.last + r.shift < 0x110000) := by
  decide +kernel

theorem CharSet.exists_of_has {set : CharSet} (h : set.has c = true) :
    ∃ b ∈ set, b.1 ≤ c.toNat ∧ c.toNat ≤ b.2 := by
  induction set with
  | nil => cases h
  | cons b set ih =>
    obtain ⟨first, last⟩ := b
    simp only [CharSet.has_cons, Bool.and_eq_true, Bool.or_eq_true, decide_eq_true_eq] at h
    rcases h with ⟨hfirst, hlast | h⟩
    · exact ⟨_, List.mem_cons_self, hfirst, hlast⟩
    · obtain ⟨a, ha, hrange⟩ := ih h
      exact ⟨a, List.mem_cons_of_mem _ ha, hrange⟩

def IsLower (c : Char) : Prop :=
  ∀ r ∈ capitals, ¬ r.Has c.toNat

instance : Decidable (IsLower c) :=
  inferInstanceAs (Decidable (∀ r ∈ capitals, ¬ r.Has c.toNat))

theorem IsLower.ne_sigma (h : IsLower c) : c ≠ 'Σ' := by
  rintro rfl
  exact h ⟨0x3A3, 0x3A3, 1, 0⟩ (by simp [capitals]) (by simp [CaseRun.Has])

theorem IsLower.ne_dotted (h : IsLower c) : c ≠ 'İ' := by
  rintro rfl
  exact h ⟨0x130, 0x130, 1, 0⟩ (by simp [capitals]) (by simp [CaseRun.Has])

/-- A word character that is no capital. -/
theorem IsLower.isWordChar (h : IsLower c) (hword : Name.isWordChar c = true) :
    (Name.isSmall c || Name.isDigit c || c = '_') = true := by
  have hascii : ⟨0x41, 0x5A, 1, 32⟩ ∈ lowerRuns := List.Mem.head _
  have hcapital : ¬ (65 ≤ c.toNat ∧ c.toNat ≤ 90) := fun hrange =>
    h _ (List.mem_cons_of_mem _ (List.mem_cons_of_mem _ hascii))
      ⟨hrange.1, hrange.2, Nat.mod_one _⟩
  simp only [Name.isWordChar, Bool.or_eq_true, decide_eq_true_eq,
    Name.between_iff_toNat (a := 'A')] at hword ⊢
  rcases hword with ((hword | hword) | hword) | hword
  · exact .inl (.inl hword)
  · exact absurd hword hcapital
  · exact .inl (.inr hword)
  · exact .inr hword

/-- A character stays as it is or is at a capital of the table. -/
theorem lowerChar_cases (c : Char) :
    (lowerChar c = c ∧ ∀ r ∈ lowerRuns, ¬ r.Has c.toNat) ∨
      ∃ r ∈ lowerRuns, r.lower? c.toNat = some (lowerChar c).toNat := by
  unfold lowerChar
  cases hfind : lowerRuns.findSome? (·.lower? c.toNat) with
  | none =>
    refine .inl ⟨rfl, fun r hr hhas => ?_⟩
    have hnone := List.findSome?_eq_none_iff.1 hfind r hr
    rw [CaseRun.lower?_eq_some_iff.2 ⟨hhas, rfl⟩] at hnone
    cases hnone
  | some m =>
    obtain ⟨r, hr, hm⟩ := List.exists_of_findSome?_eq_some hfind
    refine .inr ⟨r, hr, ?_⟩
    obtain ⟨⟨hfirst, hlast, _⟩, hmeq⟩ := CaseRun.lower?_eq_some_iff.1 hm
    have hbounds := bounds_of_mem_lowerRuns r hr
    have hvalid : m.isValidChar := by
      rw [Nat.isValidChar]
      omega
    have hchar : (Char.ofNat m).toNat = m := by
      rw [Char.ofNat, dif_pos hvalid]
      rfl
    rw [hchar, hm]

theorem not_has_lowerChar {r s : CaseRun} {n : Nat} (hr : r ∈ lowerRuns)
    (hs : s ∈ capitals ++ blankRuns) (h : r.lower? n = some c.toNat) : ¬ s.Has c.toNat := by
  have hall := List.all_eq_true.1 (List.all_eq_true.1 all_apart r hr) s hs
  have hpos := (bounds_of_mem_lowerRuns r hr).1
  exact CaseRun.not_has_of_apart hall (by omega) h

theorem isLower_lowerChar (hsigma : c ≠ 'Σ') (hdotted : c ≠ 'İ') : IsLower (lowerChar c) := by
  intro s hs
  rcases lowerChar_cases c with ⟨heq, hnone⟩ | ⟨r, hr, hm⟩
  · rw [heq]
    rcases List.mem_cons.1 hs with rfl | hs
    · rintro ⟨hlo, hhi, _⟩
      exact hdotted (Char.toNat_inj.1 (Nat.le_antisymm hhi hlo))
    · rcases List.mem_cons.1 hs with rfl | hs
      · rintro ⟨hlo, hhi, _⟩
        exact hsigma (Char.toNat_inj.1 (Nat.le_antisymm hhi hlo))
      · exact hnone s hs
  · exact not_has_lowerChar hr (List.mem_append_left _ hs) hm

theorem isBlank_lowerChar (h : isBlank c = false) : isBlank (lowerChar c) = false := by
  rcases lowerChar_cases c with ⟨heq, _⟩ | ⟨r, hr, hm⟩
  · rw [heq, h]
  · rw [← Bool.not_eq_true]
    intro hblank
    obtain ⟨b, hb, hlo, hhi⟩ := CharSet.exists_of_has hblank
    have hs : ⟨b.1, b.2, 1, 0⟩ ∈ capitals ++ blankRuns :=
      List.mem_append_right _ (List.mem_map.2 ⟨b, hb, rfl⟩)
    exact not_has_lowerChar hr hs hm ⟨hlo, hhi, Nat.mod_one _⟩

theorem lowerChar_of_isLower (h : IsLower c) : lowerChar c = c := by
  rcases lowerChar_cases c with ⟨heq, _⟩ | ⟨r, hr, hm⟩
  · exact heq
  · exact absurd (CaseRun.lower?_eq_some_iff.1 hm).1
      (h r (List.mem_cons_of_mem _ (List.mem_cons_of_mem _ hr)))

/-- What becomes of the first character, whatever comes before it and behind it. -/
theorem lowerFrom_cons (inWord : Bool) (c : Char) (rest : List Char) :
    ∃ here before, lowerFrom inWord (c :: rest) = here ++ lowerFrom before rest ∧ here ≠ [] ∧
      (∀ d ∈ here, IsLower d) ∧ (isBlank c = false → ∀ d ∈ here, isBlank d = false) := by
  refine ⟨_, _, rfl, ?_⟩
  split
  · have hfinal : IsLower 'ς' ∧ isBlank 'ς' = false := by decide +kernel
    have hinner : IsLower 'σ' ∧ isBlank 'σ' = false := by decide +kernel
    split <;> simp [hfinal, hinner]
  · split
    · have hletter : IsLower 'i' ∧ isBlank 'i' = false := by decide +kernel
      have hdot : IsLower '\u0307' ∧ isBlank '\u0307' = false := by decide +kernel
      simp [hletter, hdot]
    · next hsigma hdotted =>
      simpa using ⟨isLower_lowerChar hsigma hdotted, isBlank_lowerChar⟩

theorem isLower_of_mem_lowerFrom {inWord : Bool} (h : d ∈ lowerFrom inWord cs) : IsLower d := by
  induction cs generalizing inWord with
  | nil => cases h
  | cons c cs ih =>
    obtain ⟨here, before, heq, _, hlower, _⟩ := lowerFrom_cons inWord c cs
    rw [heq] at h
    rcases List.mem_append.1 h with h | h
    · exact hlower d h
    · exact ih h

theorem lowerFrom_eq_self {inWord : Bool} (h : ∀ c ∈ cs, IsLower c) : lowerFrom inWord cs = cs := by
  induction cs generalizing inWord with
  | nil => rfl
  | cons c cs ih =>
    obtain ⟨hc, hcs⟩ := List.forall_mem_cons.1 h
    rw [lowerFrom, if_neg hc.ne_sigma, if_neg hc.ne_dotted, lowerChar_of_isLower hc, ih hcs]
    rfl

theorem isLower_of_mem_lowerChars (h : d ∈ lowerChars cs) : IsLower d :=
  isLower_of_mem_lowerFrom h

theorem lowerChars_eq_self (h : ∀ c ∈ cs, IsLower c) : lowerChars cs = cs :=
  lowerFrom_eq_self h

/-- No small letter of the table is of the ASCII characters before the small letters. -/
theorem eq_of_lowerChar_lt (h : (lowerChar c).toNat < 97) : lowerChar c = c := by
  rcases lowerChar_cases c with ⟨heq, _⟩ | ⟨r, hr, hm⟩
  · exact heq
  · obtain ⟨⟨hfirst, _, _⟩, hc⟩ := CaseRun.lower?_eq_some_iff.1 hm
    have hbound := (bounds_of_mem_lowerRuns r hr).1
    omega

theorem mem_of_mem_lowerFrom {inWord : Bool} (hd : d.toNat < 97) (h : d ∈ lowerFrom inWord cs) :
    d ∈ cs := by
  induction cs generalizing inWord with
  | nil => cases h
  | cons c cs ih =>
    have hne {e : Char} (he : 97 ≤ e.toNat) : d ≠ e := by
      rintro rfl
      omega
    rw [lowerFrom] at h
    rcases List.mem_append.1 h with h | h
    · split at h
      · split at h <;> exact absurd (List.mem_singleton.1 h) (hne (by decide))
      · split at h
        · rcases List.mem_pair.1 h with h | h <;> exact absurd h (hne (by decide))
        · obtain rfl := List.mem_singleton.1 h
          rw [eq_of_lowerChar_lt hd]
          exact List.mem_cons_self
    · exact List.mem_cons_of_mem _ (ih h)

theorem mem_of_mem_lowerChars (hd : d.toNat < 97) (h : d ∈ lowerChars cs) : d ∈ cs :=
  mem_of_mem_lowerFrom hd h

theorem lowerChars_ne_nil (h : cs ≠ []) : lowerChars cs ≠ [] := by
  cases cs with
  | nil => exact absurd rfl h
  | cons c cs =>
    obtain ⟨here, before, heq, hne, _⟩ := lowerFrom_cons false c cs
    rw [lowerChars, heq]
    exact List.append_ne_nil_of_left_ne_nil hne _

theorem isBlank_last_lowerFrom {inWord : Bool} (h : ∀ c ∈ cs.getLast?, isBlank c = false) :
    ∀ d ∈ (lowerFrom inWord cs).getLast?, isBlank d = false := by
  induction cs generalizing inWord with
  | nil => simp [lowerFrom]
  | cons c cs ih =>
    obtain ⟨here, before, heq, hne, _, hblank⟩ := lowerFrom_cons inWord c cs
    intro d hd
    rw [heq] at hd
    cases cs with
    | nil =>
      rw [lowerFrom, List.append_nil] at hd
      exact hblank (h c rfl) d (List.mem_of_mem_getLast? hd)
    | cons e cs =>
      obtain ⟨there, _, heq', hne', _⟩ := lowerFrom_cons before e cs
      have hrest : lowerFrom before (e :: cs) ≠ [] := by
        rw [heq']
        exact List.append_ne_nil_of_left_ne_nil hne' _
      rw [List.getLast?_append_of_ne_nil _ hrest] at hd
      exact ih (by simpa using h) d hd

/-- Where no end is blank, none is in small letters. -/
theorem IsTrimmed.lowerChars (h : IsTrimmed cs) : IsTrimmed (lowerChars cs) := by
  refine ⟨?_, isBlank_last_lowerFrom h.2⟩
  cases cs with
  | nil => simp
  | cons c cs =>
    obtain ⟨here, before, heq, hne, _, hblank⟩ := lowerFrom_cons false c cs
    intro d hd
    rw [Text.lowerChars, heq, List.head?_append_of_ne_nil _ hne] at hd
    exact hblank (h.1 c rfl) d (List.mem_of_mem_head? hd)

end HousePuzzle.Text
