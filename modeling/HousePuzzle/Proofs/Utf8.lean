import HousePuzzle.Proofs.Traversal
import HousePuzzle.Utf8

/-!
Octets are decoded just where they are the encoding of a text, and then as that text: the bounds
for the octets of a character leave out all but its shortest form.
-/

namespace HousePuzzle.Utf8

/-- The octets of a text. -/
def octetsOf (text : String) : List Nat :=
  text.toUTF8.data.toList.map UInt8.toNat

/-- The octets of a character. -/
def charOctets (c : Char) : List Nat :=
  (String.utf8EncodeChar c).map UInt8.toNat

theorem octetsOf_eq (text : String) : octetsOf text = text.toList.flatMap charOctets := by
  rw [octetsOf, String.toUTF8, ← String.utf8Encode_toList, List.utf8Encode,
    List.toList_data_toByteArray, List.map_flatMap]
  rfl

/-- The octets of a character by its number. -/
def codeOctets (n : Nat) : List Nat :=
  if n ≤ 0x7F then [n]
  else if n ≤ 0x7FF then [n / 0x40 + 0xC0, n % 0x40 + 0x80]
  else if n ≤ 0xFFFF then [n / 0x1000 + 0xE0, n / 0x40 % 0x40 + 0x80, n % 0x40 + 0x80]
  else [n / 0x40000 + 0xF0, n / 0x1000 % 0x40 + 0x80, n / 0x40 % 0x40 + 0x80, n % 0x40 + 0x80]

theorem toNat_cases (c : Char) : c.toNat < 0xD800 ∨ (0xDFFF < c.toNat ∧ c.toNat < 0x110000) :=
  c.valid

theorem charOctets_eq (c : Char) : charOctets c = codeOctets c.toNat := by
  have hvalid := toNat_cases c
  have hval : c.val.toNat = c.toNat := rfl
  unfold charOctets String.utf8EncodeChar codeOctets
  simp only [hval]
  generalize c.toNat = n at hvalid
  split_ifs
  all_goals
    simp only [List.map_cons, List.map_nil, UInt8.toNat_ofNat', List.cons.injEq, and_true]
    omega

section Reading

variable {first lead taken owed value low high n b : Nat} {rest octets : List Nat} {p : Pending}
  {cs : List Char}

theorem decodeFrom_begin (hp : begin? b = some p) (howed : p.owed ≠ 0) :
    decodeFrom first none (b :: rest) = decodeFrom first (some p) rest := by
  rw [decodeFrom, hp]
  exact if_neg howed

/-- The next six bits of a number are in the next octet. -/
theorem decodeFrom_continue (hvalue : n / 0x40 = value)
    (hbounds : low ≤ n % 0x40 + 0x80 ∧ n % 0x40 + 0x80 ≤ high) :
    decodeFrom first (some ⟨lead, taken, owed + 1, value, low, high⟩)
        ((n % 0x40 + 0x80) :: rest) =
      if owed = 0 then (Char.ofNat n :: ·) <$> decodeFrom (first + (taken + 1)) none rest
      else decodeFrom first (some ⟨lead, taken + 1, owed, n, 0x80, 0xBF⟩) rest := by
  have hn : value * 0x40 + (n % 0x40 + 0x80 - 0x80) = n := by omega
  have hnext : Pending.next? ⟨lead, taken, owed + 1, value, low, high⟩ (n % 0x40 + 0x80) =
      some ⟨lead, taken + 1, owed, n, 0x80, 0xBF⟩ := by
    rw [Pending.next?, if_pos hbounds, hn, Nat.add_sub_cancel]
  rw [decodeFrom, hnext]

theorem begin?_two (h : 0x7F < n) (h' : n ≤ 0x7FF) :
    begin? (n / 0x40 + 0xC0) = some ⟨n / 0x40 + 0xC0, 1, 1, n / 0x40, 0x80, 0xBF⟩ := by
  unfold begin?
  rw [if_neg (by omega), if_neg (by omega), if_pos (by omega), Nat.add_sub_cancel]

/-- The bounds for the second octet of three leave out surrogates and what is shorter. -/
theorem begin?_three (h : 0x7FF < n) (h' : n ≤ 0xFFFF) (hvalid : n < 0xD800 ∨ 0xDFFF < n) :
    ∃ low high, begin? (n / 0x1000 + 0xE0) =
        some ⟨n / 0x1000 + 0xE0, 1, 2, n / 0x1000, low, high⟩ ∧
      low ≤ n / 0x40 % 0x40 + 0x80 ∧ n / 0x40 % 0x40 + 0x80 ≤ high := by
  refine ⟨if n / 0x1000 + 0xE0 = 0xE0 then 0xA0 else 0x80,
    if n / 0x1000 + 0xE0 = 0xED then 0x9F else 0xBF, ?_, ?_, ?_⟩
  · unfold begin?
    rw [if_neg (by omega), if_neg (by omega), if_neg (by omega), if_pos (by omega),
      Nat.add_sub_cancel]
  · split <;> omega
  · split <;> omega

theorem begin?_four (h : 0xFFFF < n) (h' : n < 0x110000) :
    ∃ low high, begin? (n / 0x40000 + 0xF0) =
        some ⟨n / 0x40000 + 0xF0, 1, 3, n / 0x40000, low, high⟩ ∧
      low ≤ n / 0x1000 % 0x40 + 0x80 ∧ n / 0x1000 % 0x40 + 0x80 ≤ high := by
  refine ⟨if n / 0x40000 + 0xF0 = 0xF0 then 0x90 else 0x80,
    if n / 0x40000 + 0xF0 = 0xF4 then 0x8F else 0xBF, ?_, ?_, ?_⟩
  · unfold begin?
    rw [if_neg (by omega), if_neg (by omega), if_neg (by omega), if_neg (by omega),
      if_pos (by omega), Nat.add_sub_cancel]
  · split <;> omega
  · split <;> omega

/-- A character is read from its octets, whatever comes behind them. -/
theorem decodeFrom_charOctets (c : Char) (first : Nat) (rest : List Nat) :
    decodeFrom first none (charOctets c ++ rest) =
      (c :: ·) <$> decodeFrom (first + (charOctets c).length) none rest := by
  have hvalid := toNat_cases c
  have hchar : Char.ofNat c.toNat = c := Char.ofNat_toNat c
  rw [charOctets_eq]
  generalize c.toNat = n at hvalid hchar
  unfold codeOctets
  split
  · have hbegin : begin? n = some ⟨n, 1, 0, n, 0x80, 0xBF⟩ := if_pos (by omega)
    simp only [List.singleton_append, decodeFrom, hbegin, if_true, hchar]
    rfl
  · split
    · have hbegin := begin?_two (n := n) (by omega) (by omega)
      simp only [List.cons_append, List.nil_append]
      rw [decodeFrom_begin hbegin Nat.one_ne_zero, decodeFrom_continue rfl (by omega), if_pos rfl,
        hchar]
      rfl
    · split
      · obtain ⟨low, high, hbegin, hbounds⟩ :=
          begin?_three (n := n) (by omega) (by omega) (by omega)
        simp only [List.cons_append, List.nil_append]
        rw [decodeFrom_begin hbegin (Nat.succ_ne_zero 1),
          decodeFrom_continue (by omega) hbounds, if_neg Nat.one_ne_zero,
          decodeFrom_continue rfl (by omega), if_pos rfl, hchar]
        rfl
      · obtain ⟨low, high, hbegin, hbounds⟩ := begin?_four (n := n) (by omega) (by omega)
        simp only [List.cons_append, List.nil_append]
        rw [decodeFrom_begin hbegin (Nat.succ_ne_zero 2),
          decodeFrom_continue (by omega) hbounds, if_neg (Nat.succ_ne_zero 1),
          decodeFrom_continue (by omega) (by omega), if_neg Nat.one_ne_zero,
          decodeFrom_continue rfl (by omega), if_pos rfl, hchar]
        rfl

/-- A character that has begun goes on with an octet between its bounds. -/
theorem exists_of_decodeFrom_some
    (h : decodeFrom first (some ⟨lead, taken, owed + 1, value, low, high⟩) octets = .ok cs) :
    ∃ b rest, octets = b :: rest ∧ (low ≤ b ∧ b ≤ high) ∧ (owed ≠ 0 → decodeFrom first
      (some ⟨lead, taken + 1, owed, value * 0x40 + (b - 0x80), 0x80, 0xBF⟩) rest = .ok cs) := by
  cases octets with
  | nil => cases h
  | cons b rest =>
    by_cases hbounds : low ≤ b ∧ b ≤ high
    · have hnext : Pending.next? ⟨lead, taken, owed + 1, value, low, high⟩ b =
          some ⟨lead, taken + 1, owed, value * 0x40 + (b - 0x80), 0x80, 0xBF⟩ := if_pos hbounds
      refine ⟨b, rest, rfl, hbounds, fun howed => ?_⟩
      rw [decodeFrom, hnext] at h
      exact (if_neg howed).symm.trans h
    · have hnext : Pending.next? ⟨lead, taken, owed + 1, value, low, high⟩ b = none :=
        if_neg hbounds
      rw [decodeFrom, hnext] at h
      cases h

/-- The first octet says how many come behind it, and between which bounds the next one lies. -/
theorem cases_of_begin? (h : begin? b = some p) :
    (b < 0x80 ∧ p.owed = 0) ∨
    (0xC2 ≤ b ∧ b < 0xE0 ∧ p = ⟨b, 1, 1, b - 0xC0, 0x80, 0xBF⟩) ∨
    (0xE0 ≤ b ∧ b < 0xF0 ∧ ∃ low high, p = ⟨b, 1, 2, b - 0xE0, low, high⟩ ∧ 0x80 ≤ low ∧
      high ≤ 0xBF ∧ (b = 0xE0 → 0xA0 ≤ low) ∧ (b = 0xED → high ≤ 0x9F)) ∨
    (0xF0 ≤ b ∧ b < 0xF5 ∧ ∃ low high, p = ⟨b, 1, 3, b - 0xF0, low, high⟩ ∧ 0x80 ≤ low ∧
      high ≤ 0xBF ∧ (b = 0xF0 → 0x90 ≤ low) ∧ (b = 0xF4 → high ≤ 0x8F)) := by
  unfold begin? at h
  by_cases hone : b < 0x80
  · rw [if_pos hone] at h
    obtain rfl := Option.some.inj h
    exact .inl ⟨hone, rfl⟩
  rw [if_neg hone] at h
  by_cases hlong : b < 0xC2
  · rw [if_pos hlong] at h
    cases h
  rw [if_neg hlong] at h
  by_cases htwo : b < 0xE0
  · rw [if_pos htwo] at h
    exact .inr (.inl ⟨Nat.not_lt.1 hlong, htwo, (Option.some.inj h).symm⟩)
  rw [if_neg htwo] at h
  by_cases hthree : b < 0xF0
  · rw [if_pos hthree] at h
    refine .inr (.inr (.inl ⟨Nat.not_lt.1 htwo, hthree, _, _, (Option.some.inj h).symm, ?_⟩))
    refine ⟨?_, ?_, fun hb => Nat.le_of_eq (if_pos hb).symm,
      fun hb => Nat.le_of_eq (if_pos hb)⟩
    · split <;> decide
    · split <;> decide
  rw [if_neg hthree] at h
  by_cases hfour : b < 0xF5
  · rw [if_pos hfour] at h
    refine .inr (.inr (.inr ⟨Nat.not_lt.1 hthree, hfour, _, _, (Option.some.inj h).symm, ?_⟩))
    refine ⟨?_, ?_, fun hb => Nat.le_of_eq (if_pos hb).symm,
      fun hb => Nat.le_of_eq (if_pos hb)⟩
    · split <;> decide
    · split <;> decide
  rw [if_neg hfour] at h
  cases h

/-- What is decoded begins with the octets of a character. -/
theorem exists_charOctets_of_decodeFrom (h : decodeFrom first none (b :: rest) = .ok cs) :
    ∃ c behind, b :: rest = charOctets c ++ behind := by
  have hchar (n : Nat) (hn : n.isValidChar) : charOctets (Char.ofNat n) = codeOctets n := by
    rw [charOctets_eq, Char.ofNat, dif_pos hn]
    rfl
  cases hbegin : begin? b with
  | none => simp [decodeFrom, hbegin] at h
  | some p =>
    rcases cases_of_begin? hbegin with ⟨hone, _⟩ | ⟨hlow, hhigh, rfl⟩ |
      ⟨hlow, hhigh, low, high, rfl, hfrom, hto, hlong, hsurrogate⟩ |
      ⟨hlow, hhigh, low, high, rfl, hfrom, hto, hlong, hlast⟩
    · refine ⟨Char.ofNat b, rest, ?_⟩
      rw [hchar b (.inl (by omega)), codeOctets, if_pos (by omega)]
      rfl
    · rw [decodeFrom_begin hbegin Nat.one_ne_zero] at h
      obtain ⟨x, rest, rfl, hx, _⟩ := exists_of_decodeFrom_some h
      refine ⟨Char.ofNat ((b - 0xC0) * 0x40 + (x - 0x80)), rest, ?_⟩
      rw [hchar _ (.inl (by omega)), codeOctets, if_neg (by omega), if_pos (by omega)]
      simp only [List.cons_append, List.nil_append, List.cons.injEq, and_true]
      omega
    · rw [decodeFrom_begin hbegin (Nat.succ_ne_zero 1)] at h
      obtain ⟨x, rest, rfl, hx, h⟩ := exists_of_decodeFrom_some h
      obtain ⟨y, rest, rfl, hy, _⟩ := exists_of_decodeFrom_some (h Nat.one_ne_zero)
      refine ⟨Char.ofNat (((b - 0xE0) * 0x40 + (x - 0x80)) * 0x40 + (y - 0x80)), rest, ?_⟩
      have hvalid : (((b - 0xE0) * 0x40 + (x - 0x80)) * 0x40 + (y - 0x80)).isValidChar := by
        rw [Nat.isValidChar]
        omega
      rw [hchar _ hvalid, codeOctets, if_neg (by omega), if_neg (by omega), if_pos (by omega)]
      simp only [List.cons_append, List.nil_append, List.cons.injEq, and_true]
      omega
    · rw [decodeFrom_begin hbegin (Nat.succ_ne_zero 2)] at h
      obtain ⟨x, rest, rfl, hx, h⟩ := exists_of_decodeFrom_some h
      obtain ⟨y, rest, rfl, hy, h⟩ := exists_of_decodeFrom_some (h (Nat.succ_ne_zero 1))
      obtain ⟨z, rest, rfl, hz, _⟩ := exists_of_decodeFrom_some (h Nat.one_ne_zero)
      refine ⟨Char.ofNat ((((b - 0xF0) * 0x40 + (x - 0x80)) * 0x40 + (y - 0x80)) * 0x40 +
        (z - 0x80)), rest, ?_⟩
      have hvalid : ((((b - 0xF0) * 0x40 + (x - 0x80)) * 0x40 + (y - 0x80)) * 0x40 +
          (z - 0x80)).isValidChar := by
        rw [Nat.isValidChar]
        omega
      rw [hchar _ hvalid, codeOctets, if_neg (by omega), if_neg (by omega), if_neg (by omega)]
      simp only [List.cons_append, List.nil_append, List.cons.injEq, and_true]
      omega

theorem decodeFrom_eq_ok_iff (first : Nat) (octets : List Nat) (cs : List Char) :
    decodeFrom first none octets = .ok cs ↔ octets = cs.flatMap charOctets := by
  constructor
  · intro h
    induction hn : octets.length using Nat.strongRecOn generalizing first octets cs with
    | ind n ih =>
      subst hn
      cases octets with
      | nil =>
        obtain rfl := Except.ok.inj h
        rfl
      | cons b rest =>
        obtain ⟨c, behind, heq⟩ := exists_charOctets_of_decodeFrom h
        rw [heq, decodeFrom_charOctets] at h
        obtain ⟨ds, hds, rfl⟩ := Except.map_eq_ok_iff.1 h
        have hshorter : behind.length < (b :: rest).length := by
          have hpos : (charOctets c).length ≠ 0 := by
            rw [charOctets_eq, codeOctets]
            split_ifs <;> simp
          rw [heq, List.length_append]
          omega
        rw [heq, List.flatMap_cons, ← ih _ hshorter _ _ _ hds rfl]
  · rintro rfl
    induction cs generalizing first with
    | nil => rfl
    | cons c cs ih =>
      rw [List.flatMap_cons, decodeFrom_charOctets, ih]
      rfl

/-- Octets are decoded as the text that they are the octets of, and only as that. -/
theorem decode_eq_ok_iff {octets : List Nat} {text : String} :
    decode octets = .ok text.toList ↔ octets = octetsOf text := by
  rw [decode, decodeFrom_eq_ok_iff, octetsOf_eq]

theorem octetsOf_injective : Function.Injective octetsOf := by
  intro text other h
  have hother := decode_eq_ok_iff.2 h
  rw [decode_eq_ok_iff.2 rfl] at hother
  exact String.toList_injective (Except.ok.inj hother)

end Reading

end HousePuzzle.Utf8
