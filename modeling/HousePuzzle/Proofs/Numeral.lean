import HousePuzzle.Numeral
import HousePuzzle.Proofs.Name
import HousePuzzle.Proofs.Text.Blank
import Mathlib.Algebra.Group.Nat.Defs

/-!
Numbers in ASCII digits: what they are read as, and that a number that is written is read back.
-/

namespace HousePuzzle.Numeral

open Text

variable {c : Char} {ds : List Char} {s : String}

@[simp] theorem write_natCast (n : Nat) : write (n : Int) = writeNat n := rfl

theorem writeNat_injective : Function.Injective writeNat := by
  intro m n h
  have hdigits := congrArg String.toList h
  rw [toList_writeNat, toList_writeNat] at hdigits
  rw [← Nat.ofDigitChars_ten_toDigits (n := m), hdigits, Nat.ofDigitChars_ten_toDigits]

/-- A number has no more digits than a greater one. -/
theorem length_toDigits_mono {m n : Nat} (h : m ≤ n) :
    (Nat.toDigits 10 m).length ≤ (Nat.toDigits 10 n).length := by
  have hbase : 1 < 10 := by decide
  have hpos : 0 < (Nat.toDigits 10 n).length := Nat.length_toDigits_pos
  have hlt := (Nat.length_toDigits_le_iff hbase hpos).1 le_rfl
  exact (Nat.length_toDigits_le_iff hbase hpos).2 (h.trans_lt hlt)

theorem natAbs_signed (negative : Bool) (n : Nat) : (signed negative n).natAbs = n := by
  cases negative <;> simp [signed]

theorem digitValue?_lt {d : Nat} (h : digitValue? c = some d) : d < 10 := by
  obtain ⟨z, hz, rfl⟩ := Option.map_eq_some_iff.1 h
  have hrange := List.find?_some hz
  simp only [Bool.and_eq_true, decide_eq_true_eq] at hrange
  omega

theorem digitsValue_lt {digits : List Nat} (h : ∀ d ∈ digits, d < 10) :
    digitsValue digits < 10 ^ digits.length := by
  induction digits using List.reverseRecOn with
  | nil => decide
  | append_singleton digits d ih =>
    obtain ⟨hdigits, hd⟩ := List.forall_mem_append.1 h
    have hlt := ih hdigits
    have hlast : d < 10 := hd d List.mem_cons_self
    rw [digitsValue_append_singleton, List.length_append, List.length_singleton, Nat.pow_succ]
    omega

/-- What is read has no more digits than the limit. -/
theorem natAbs_lt_of_read {n : Int} (h : read s = .ok n) : n.natAbs < 10 ^ digitLimit := by
  unfold read at h
  obtain ⟨negative, body⟩ := splitSign (s.toList.dropWhile isPadding)
  dsimp only at h
  split_ifs at h with _ hlength
  obtain rfl := Except.ok.inj h
  rw [natAbs_signed]
  refine (digitsValue_lt fun d hd => ?_).trans_le
    (Nat.pow_le_pow_right (by decide) (Nat.not_lt.1 hlength))
  obtain ⟨c, _, hc⟩ := List.mem_filterMap.1 hd
  exact digitValue?_lt hc

theorem digitValue?_of_isDigit (h : Name.isDigit c = true) :
    digitValue? c = some (c.toNat - 48) := by
  obtain ⟨hlo, hhi⟩ := Name.isDigit_iff_toNat.1 h
  have hzero : zeros.find? (fun z => z ≤ c.toNat && c.toNat < z + 10) = some 0x30 := by
    refine List.find?_cons_of_pos ?_
    simp only [Bool.and_eq_true, decide_eq_true_eq]
    omega
  rw [digitValue?, hzero]
  rfl

theorem isRunChar_of_isDigit (h : Name.isDigit c = true) : isRunChar c = true := by
  simp [isRunChar, digitValue?_of_isDigit h]

theorem isBlank_of_isWordChar (h : Name.isWordChar c = true) : isBlank c = false := by
  obtain ⟨hlo, hhi⟩ := Name.toNat_of_isWordChar h
  simp [isBlank, blanks]
  omega

theorem isPadding_of_isDigit (h : Name.isDigit c = true) : isPadding c = false := by
  simp [isPadding, isBlank_of_isWordChar (Name.isWordChar_of_isDigit h)]

theorem isGrouped_digits (hne : ds ≠ []) (h : ∀ c ∈ ds, Name.isDigit c = true) :
    isGrouped ds = true := by
  induction ds with
  | nil => exact absurd rfl hne
  | cons c ds ih =>
    have hc : c ≠ '_' := by
      rintro rfl
      exact absurd (h '_' List.mem_cons_self) (by decide)
    cases ds with
    | nil => simp [isGrouped]
    | cons d ds =>
      have hd : d ≠ '_' := by
        rintro rfl
        exact absurd (h '_' (by simp)) (by decide)
      have hrest : isGrouped (d :: ds) = true :=
        ih (by simp) fun e he => h e (List.mem_cons_of_mem _ he)
      simpa [isGrouped, hc, hd] using hrest

theorem filterMap_digitValue? (h : ∀ c ∈ ds, Name.isDigit c = true) :
    ds.filterMap digitValue? = ds.map (·.toNat - 48) := by
  induction ds with
  | nil => rfl
  | cons c ds ih =>
    rw [List.filterMap_cons_some (digitValue?_of_isDigit (h c List.mem_cons_self)),
      ih fun d hd => h d (List.mem_cons_of_mem _ hd), List.map_cons]

theorem digitsValue_map_toNat (ds : List Char) :
    digitsValue (ds.map (·.toNat - 48)) = Nat.ofDigitChars 10 ds 0 := by
  rw [digitsValue, List.foldl_map, Nat.ofDigitChars_eq_foldl]
  rfl

theorem splitSign_of_isDigit (h : Name.isDigit c = true) (cs : List Char) :
    splitSign (c :: cs) = (false, c :: cs) := by
  have hminus : c ≠ '-' := by
    rintro rfl
    exact absurd h (by decide)
  have hplus : c ≠ '+' := by
    rintro rfl
    exact absurd h (by decide)
  unfold splitSign
  split
  · next heq => exact absurd (List.cons.inj heq).1 hminus
  · next heq => exact absurd (List.cons.inj heq).1 hplus
  · rfl

/-- Digits are read in base ten; a line feed behind them does not count. -/
theorem read_digits (hds : Name.DigitsForm ds) (hs : s.toList = ds ∨ s.toList = ds ++ ['\n']) :
    read s = if digitLimit < ds.length then .error (.tooLong ds.length)
      else .ok (Nat.ofDigitChars 10 ds 0 : Nat) := by
  obtain ⟨tail, hs, hpad, hrun⟩ : ∃ tail, s.toList = ds ++ tail ∧ tail.all isPadding = true ∧
      ∀ t ∈ tail.head?, isRunChar t = false := by
    rcases hs with hs | hs
    · exact ⟨[], by simpa using hs, rfl, by simp⟩
    · refine ⟨['\n'], hs, rfl, fun t ht => ?_⟩
      cases ht
      rfl
  obtain ⟨hne, hdigit⟩ := hds
  have hbody : splitSign (s.toList.dropWhile isPadding) = (false, ds ++ tail) := by
    cases ds with
    | nil => exact absurd rfl hne
    | cons c ds =>
      have hc := hdigit c List.mem_cons_self
      rw [hs, List.cons_append, List.dropWhile_cons_of_neg (by simp [isPadding_of_isDigit hc]),
        splitSign_of_isDigit hc]
  have hall : ∀ c ∈ ds, isRunChar c = true := fun c hc => isRunChar_of_isDigit (hdigit c hc)
  have htake : (ds ++ tail).takeWhile isRunChar = ds := by
    rw [List.takeWhile_append_of_pos hall]
    cases tail with
    | nil => simp
    | cons t tail => simp [hrun t (by simp)]
  have hdrop : (ds ++ tail).dropWhile isRunChar = tail := by
    rw [List.dropWhile_append_of_pos hall]
    cases tail with
    | nil => simp
    | cons t tail => simp [hrun t (by simp)]
  simp only [read, hbody, htake, hdrop, hpad, isGrouped_digits hne hdigit,
    filterMap_digitValue? hdigit, digitsValue_map_toNat, List.length_map, signed]
  rfl

theorem digitsForm_toDigits (n : Nat) : Name.DigitsForm (Nat.toDigits 10 n) := by
  refine ⟨Nat.toDigits_ne_nil, fun c hc => Name.isDigit_iff_toNat.2 ?_⟩
  have h := Nat.isDigit_of_mem_toDigits (by decide) (by decide) hc
  exact Name.between_iff_toNat.1 h

section Written

variable {P : Char → Prop} (hdigit : ∀ c, Name.isDigit c = true → P c)

include hdigit

theorem forall_mem_toDigits (n : Nat) : ∀ c ∈ Nat.toDigits 10 n, P c :=
  fun c hc => hdigit c ((digitsForm_toDigits n).2 c hc)

theorem forall_mem_write (hsign : P '-') (n : Int) : ∀ c ∈ (write n).toList, P c := by
  cases n with
  | ofNat n =>
    rw [write, toList_writeNat]
    exact forall_mem_toDigits hdigit n
  | negSucc n =>
    rw [write, String.toList_append, toList_writeNat]
    exact List.forall_mem_cons.2 ⟨hsign, forall_mem_toDigits hdigit (n + 1)⟩

end Written

theorem isBlank_of_isDigit (h : Name.isDigit c = true) : isBlank c = false :=
  isBlank_of_isWordChar (Name.isWordChar_of_isDigit h)

theorem noBlank_write (n : Int) : ∀ c ∈ (write n).toList, isBlank c = false :=
  forall_mem_write (fun _ => isBlank_of_isDigit) (by decide) n

theorem read_writeNat {n : Nat} (h : (writeNat n).toList.length ≤ digitLimit) :
    read (writeNat n) = .ok n := by
  rw [toList_writeNat] at h
  rw [read_digits (digitsForm_toDigits n) (.inl (toList_writeNat n)), if_neg (by omega),
    Nat.ofDigitChars_ten_toDigits]

theorem digitChar_of_isDigit (h : Name.isDigit c = true) : Nat.digitChar (c.toNat - 48) = c := by
  obtain ⟨hlo, hhi⟩ := Name.isDigit_iff_toNat.1 h
  apply Char.toNat_inj.1
  rw [Nat.toNat_digitChar_of_lt_ten (by omega)]
  omega

/-- Digits behind a number that is not zero make the number written with them behind it. -/
theorem toDigits_ofDigitChars {n : Nat} (hn : 0 < n) (h : ∀ c ∈ ds, Name.isDigit c = true) :
    Nat.toDigits 10 (Nat.ofDigitChars 10 ds n) = Nat.toDigits 10 n ++ ds := by
  induction ds generalizing n with
  | nil => simp
  | cons c ds ih =>
    have hc := h c List.mem_cons_self
    have hlt : c.toNat - 48 < 10 := by
      have := Name.isDigit_iff_toNat.1 hc
      omega
    have hsnoc : Nat.toDigits 10 (10 * n + (c.toNat - 48)) = Nat.toDigits 10 n ++ [c] := by
      rw [← Nat.toDigits_append_toDigits (by decide) hn hlt, Nat.toDigits_of_lt_base hlt,
        digitChar_of_isDigit hc]
    have hpos : 0 < 10 * n + (c.toNat - 48) := by omega
    have hrest := ih hpos fun d hd => h d (List.mem_cons_of_mem _ hd)
    rw [hsnoc, List.append_assoc, List.singleton_append] at hrest
    rw [Nat.ofDigitChars_cons]
    exact hrest

/-- A numeral is how its number is written. -/
theorem toDigits_of_isNumeralForm (h : Name.isNumeralForm ds = true) :
    Nat.toDigits 10 (Nat.ofDigitChars 10 ds 0) = ds := by
  unfold Name.isNumeralForm at h
  split at h
  · rfl
  · next c ds _ =>
    simp only [ne_eq, decide_not, Bool.and_eq_true, Bool.not_eq_eq_eq_not, Bool.not_true,
      decide_eq_false_iff_not, List.all_eq_true] at h
    obtain ⟨⟨hzero, hc⟩, hds⟩ := h
    obtain ⟨hlo, hhi⟩ := Name.isDigit_iff_toNat.1 hc
    have hne : c.toNat ≠ 48 := fun heq => hzero (Char.toNat_inj.1 heq)
    have hlt : c.toNat - 48 < 10 := by omega
    have hpos : 0 < c.toNat - 48 := by omega
    have hfirst : Nat.ofDigitChars 10 (c :: ds) 0 = Nat.ofDigitChars 10 ds (c.toNat - 48) := by
      simp [Nat.ofDigitChars_cons]
    rw [hfirst, toDigits_ofDigitChars hpos hds, Nat.toDigits_of_lt_base hlt,
      digitChar_of_isDigit hc, List.singleton_append]
  · cases h

theorem head_toDigits_ne_zero {n : Nat} (hn : 0 < n) :
    ∀ c ∈ (Nat.toDigits 10 n).head?, c ≠ '0' := by
  induction n using Nat.strongRecOn with
  | ind n ih =>
    by_cases hlt : n < 10
    · rw [Nat.toDigits_of_lt_base hlt]
      rintro c ⟨⟩ hzero
      have hvalue := congrArg Char.toNat hzero
      rw [Nat.toNat_digitChar_of_lt_ten hlt] at hvalue
      change 48 + n = 48 at hvalue
      omega
    · -- The first digit is that of the number without its last digit.
      have hsplit : 10 * (n / 10) + n % 10 = n := Nat.div_add_mod n 10
      have hpos : 0 < n / 10 := by omega
      rw [← hsplit, ← Nat.toDigits_append_toDigits (by decide) hpos (Nat.mod_lt n (by decide)),
        List.head?_append_of_ne_nil _ Nat.toDigits_ne_nil]
      exact ih (n / 10) (by omega) hpos

theorem isNumeralForm_toDigits (n : Nat) : Name.isNumeralForm (Nat.toDigits 10 n) = true := by
  rcases Nat.eq_zero_or_pos n with rfl | hn
  · rfl
  · obtain ⟨_, hdigits⟩ := digitsForm_toDigits n
    have hhead := head_toDigits_ne_zero hn
    cases hn : Nat.toDigits 10 n with
    | nil => exact absurd hn Nat.toDigits_ne_nil
    | cons c cs =>
      rw [hn] at hdigits hhead
      obtain ⟨hc, hcs⟩ := List.forall_mem_cons.1 hdigits
      have hne : c ≠ '0' := hhead c rfl
      unfold Name.isNumeralForm
      split
      · rfl
      · next heq =>
        cases heq
        simp [hne, hc, List.all_eq_true.2 hcs]
      · next heq => cases heq

theorem isNumeralForm_iff : Name.isNumeralForm s.toList = true ↔ ∃ n, s = writeNat n := by
  constructor
  · intro h
    refine ⟨Nat.ofDigitChars 10 s.toList 0, ?_⟩
    rw [writeNat, toDigits_of_isNumeralForm h, String.ofList_toList]
  · rintro ⟨n, rfl⟩
    rw [toList_writeNat]
    exact isNumeralForm_toDigits n

end HousePuzzle.Numeral
