import HousePuzzle.Proofs.Json.Token
import HousePuzzle.Proofs.Traversal

/-!
Strings of a document up to their closing quotes. What is read of such a string is read whatever
comes behind it, and no string goes on over the end of a line.
-/

namespace HousePuzzle.Json

/-- Text on one line. -/
def OneLine (cs : List Char) : Prop :=
  ∀ c ∈ cs, c ≠ '\n' ∧ c ≠ '\r'

variable {cs xs pre rest hs : List Char} {c d : Char} {n l position stop : Nat}

theorem ne_lineEnd_of_hexValue? (h : hexValue? c = some n) : c ≠ '\n' ∧ c ≠ '\r' := by
  constructor <;> rintro rfl <;> cases h

theorem ne_lineEnd_of_simpleEscape? (h : simpleEscape? d = some c) : d ≠ '\n' ∧ d ≠ '\r' := by
  constructor <;> rintro rfl <;> cases h

/-- Four digits that are read are on one line. -/
theorem exists_of_hexFour? (h : hexFour? cs = some n) :
    ∃ hs rest, cs = hs ++ rest ∧ hs.length = 4 ∧ OneLine hs ∧ hexFour? hs = some n := by
  have hread : ∃ a b c d, (cs.take 4).mapM hexValue? = some [a, b, c, d] := by
    unfold hexFour? at h
    split at h
    · next hread => exact ⟨_, _, _, _, hread⟩
    · cases h
  obtain ⟨_, _, _, _, hread⟩ := hread
  obtain ⟨hlength, hdigits⟩ := forall_of_mapM_eq_some hread
  refine ⟨cs.take 4, cs.drop 4, (List.take_append_drop 4 cs).symm, hlength, fun c hc => ?_, ?_⟩
  · obtain ⟨_, hvalue⟩ := hdigits c hc
    exact ne_lineEnd_of_hexValue? hvalue
  · rw [← h, hexFour?, hexFour?, List.take_take, Nat.min_self]

/-- A string with its closing quote: it is on one line, and its characters are read whatever comes
behind it. -/
structure Closed (pre xs : List Char) : Prop where
  oneLine : OneLine pre
  read : ∀ position stop rest, stop = position + pre.length →
    stringBody position (pre ++ rest) = .ok (xs, stop)

theorem closed_quote : Closed ['"'] [] where
  oneLine := by simp [OneLine]
  read := by
    rintro position _ rest rfl
    exact stringBody_quote

theorem Closed.escape (h : Closed pre xs) (hd : simpleEscape? d = some c) :
    Closed ('\\' :: d :: pre) (c :: xs) where
  oneLine := by
    simp only [OneLine, List.forall_mem_cons]
    exact ⟨by decide, ne_lineEnd_of_simpleEscape? hd, h.oneLine⟩
  read := by
    rintro position stop rest hstop
    simp only [List.length_cons] at hstop
    exact stringBody_escape hd (h.read _ _ rest (by omega))

theorem Closed.plain (h : Closed pre xs) (hquote : c ≠ '"') (hslash : c ≠ '\\')
    (hc : ¬ c.toNat < 0x20) : Closed (c :: pre) (c :: xs) where
  oneLine := by
    simp only [OneLine, List.forall_mem_cons]
    refine ⟨⟨?_, ?_⟩, h.oneLine⟩ <;> rintro rfl <;> exact hc (by decide)
  read := by
    rintro position stop rest hstop
    simp only [List.length_cons] at hstop
    exact stringBody_plain hquote hslash hc (h.read _ _ rest (by omega))

theorem Closed.ne_nil (h : Closed pre xs) : pre ≠ [] := by
  rintro rfl
  have hnil := h.read 0 0 [] rfl
  rw [List.nil_append, stringBody] at hnil
  cases hnil

/-- In front of what is read there are four digits behind `u`. -/
theorem exists_hexFour?_of_stringBody {r : List Char × Nat}
    (h : stringBody position ('\\' :: 'u' :: cs) = .ok r) :
    4 < cs.length ∧ ∃ n, hexFour? cs = some n := by
  rw [stringBody] at h
  by_cases hlength : cs.length ≤ 4
  · rw [if_pos hlength] at h
    cases h
  · rw [if_neg hlength] at h
    cases hn : hexFour? cs with
    | none =>
      rw [hn] at h
      cases h
    | some n => exact ⟨Nat.not_le.1 hlength, n, rfl⟩

theorem lowSurrogate?_eq_none (h : ∀ rest, cs ≠ '\\' :: 'u' :: rest) :
    lowSurrogate? cs = none := by
  unfold lowSurrogate?
  split
  · exact absurd rfl (h _)
  · rfl

/-- Whether a low surrogate comes next is seen before the string ends. -/
theorem Closed.lowSurrogate?_append (h : Closed pre xs) (rest : List Char) :
    lowSurrogate? (pre ++ rest) = lowSurrogate? pre := by
  have hread := h.read 0 _ [] rfl
  rw [List.append_nil] at hread
  by_cases hescape : ∃ tail, pre = '\\' :: 'u' :: tail
  · obtain ⟨tail, rfl⟩ := hescape
    obtain ⟨hlength, n, hn⟩ := exists_hexFour?_of_stringBody hread
    obtain ⟨hs, behind, rfl, hfour, _, _⟩ := exists_of_hexFour? hn
    have hlong : ¬ (hs ++ behind ++ rest).length ≤ 4 := by
      rw [List.length_append]
      omega
    simp only [List.cons_append, lowSurrogate?, if_neg hlong, if_neg (Nat.not_le.2 hlength)]
    rw [List.append_assoc, hexFour?_append hfour, hexFour?_append hfour]
  · have hnone : lowSurrogate? pre = none :=
      lowSurrogate?_eq_none fun tail heq => hescape ⟨tail, heq⟩
    rw [hnone]
    refine lowSurrogate?_eq_none fun tail heq => ?_
    rcases pre with _ | ⟨a, _ | ⟨b, tail⟩⟩
    · exact absurd rfl h.ne_nil
    · obtain ⟨rfl, _⟩ := List.cons.inj heq
      rw [stringBody] at hread
      cases hread
    · obtain ⟨rfl, hbehind⟩ := List.cons.inj heq
      obtain ⟨rfl, _⟩ := List.cons.inj hbehind
      exact hescape ⟨tail, rfl⟩

/-- Four digits that stand for a character by themselves. -/
theorem Closed.unit (h : Closed pre xs) (hfour : hs.length = 4) (hline : OneLine hs)
    (hn : hexFour? hs = some n)
    (hlow : (if 0xD800 ≤ n && n < 0xDC00 then lowSurrogate? pre else none) = none) :
    Closed ('\\' :: 'u' :: (hs ++ pre)) (unitChar n :: xs) where
  oneLine := by
    simp only [OneLine, List.forall_mem_cons, List.forall_mem_append]
    exact ⟨by decide, by decide, hline, h.oneLine⟩
  read := by
    rintro position stop rest hstop
    simp only [List.length_cons, List.length_append] at hstop
    have hlong : ¬ (hs ++ (pre ++ rest)).length ≤ 4 := by
      have hpos := List.length_pos_iff.2 h.ne_nil
      simp only [List.length_append]
      omega
    have hread := h.read (position + 6) stop rest (by omega)
    rw [List.cons_append, List.cons_append, List.append_assoc, stringBody, if_neg hlong,
      hexFour?_append hfour, hn]
    simp only [List.drop_left' hfour, h.lowSurrogate?_append, hlow, hread]
    rfl

/-- Four digits and four more that stand for one character together. -/
theorem Closed.pair {ls : List Char} (h : Closed pre xs) (hfour : hs.length = 4)
    (hline : OneLine hs) (hn : hexFour? hs = some n) (hfour' : ls.length = 4) (hline' : OneLine ls)
    (hl : hexFour? ls = some l) (hhigh : (0xD800 ≤ n && n < 0xDC00) = true)
    (hlow : (0xDC00 ≤ l && l < 0xE000) = true) :
    Closed ('\\' :: 'u' :: (hs ++ '\\' :: 'u' :: (ls ++ pre)))
      (Char.ofNat (0x10000 + (n - 0xD800) * 0x400 + (l - 0xDC00)) :: xs) where
  oneLine := by
    simp only [OneLine, List.forall_mem_cons, List.forall_mem_append]
    exact ⟨by decide, by decide, hline, by decide, by decide, hline', h.oneLine⟩
  read := by
    rintro position stop rest hstop
    simp only [List.length_cons, List.length_append] at hstop
    have hlong : ¬ (ls ++ (pre ++ rest)).length ≤ 4 := by
      have hpos := List.length_pos_iff.2 h.ne_nil
      simp only [List.length_append]
      omega
    have hlong' : ¬ (hs ++ '\\' :: 'u' :: (ls ++ (pre ++ rest))).length ≤ 4 := by
      simp only [List.length_append, List.length_cons]
      omega
    have hnext : lowSurrogate? ('\\' :: 'u' :: (ls ++ (pre ++ rest))) = some (.ok l) := by
      rw [lowSurrogate?, if_neg hlong, hexFour?_append hfour', hl]
      simp only [hlow, if_true]
    have hdrop : (hs ++ '\\' :: 'u' :: (ls ++ (pre ++ rest))).drop 10 = pre ++ rest := by
      rw [List.drop_append, hfour, List.drop_of_length_le (by omega)]
      exact List.drop_left' hfour'
    have hread := h.read (position + 12) stop rest (by omega)
    simp only [List.cons_append, List.append_assoc]
    rw [stringBody, if_neg hlong', hexFour?_append hfour, hn]
    simp only [List.drop_left' hfour, hhigh, if_true, hnext, hdrop, hread]
    rfl

theorem exists_of_lowSurrogate? (h : lowSurrogate? cs = some (.ok l)) :
    ∃ tail, cs = '\\' :: 'u' :: tail ∧ hexFour? tail = some l ∧
      (0xDC00 ≤ l && l < 0xE000) = true := by
  unfold lowSurrogate? at h
  split at h
  · next tail =>
    split at h
    · cases h
    · split at h
      · cases h
      · next m hm =>
        split at h
        · next hrange =>
          obtain rfl := Except.ok.inj (Option.some.inj h)
          exact ⟨tail, rfl, hm, hrange⟩
        · cases h
  · cases h

/-- One more character in front of a string. -/
theorem exists_of_bind_cons {ε : Type} {r : Except ε (List Char × Nat)}
    (h : (do let (cs, stop) ← r; pure (c :: cs, stop)) = .ok (xs, stop)) :
    ∃ ys, xs = c :: ys ∧ r = .ok (ys, stop) := by
  obtain ⟨⟨ys, _⟩, hbody, hpure⟩ := Except.bind_eq_ok_iff.1 h
  obtain ⟨rfl, rfl⟩ := Prod.mk.inj (Except.ok.inj hpure)
  exact ⟨ys, rfl, hbody⟩

/-- A string that is read comes to its closing quote. -/
theorem exists_closed_of_stringBody (h : stringBody position cs = .ok (xs, stop)) :
    ∃ pre rest, cs = pre ++ rest ∧ Closed pre xs ∧ stop = position + pre.length := by
  fun_induction stringBody position cs generalizing xs stop with
  | case1 | case3 | case4 | case5 | case6 | case9 | case11 => cases h
  | case2 position rest =>
    obtain ⟨rfl, rfl⟩ := Prod.mk.inj (Except.ok.inj h)
    exact ⟨['"'], rest, rfl, closed_quote, rfl⟩
  | case7 position tail _ n hn _ l hlow =>
    rename_i ih
    obtain ⟨ys, rfl, hbody⟩ := exists_of_bind_cons h
    obtain ⟨hs, behind, rfl, hfour, hline, hhex⟩ := exists_of_hexFour? hn
    by_cases hhigh : (0xD800 ≤ n && n < 0xDC00) = true
    · obtain ⟨next, hnext, hl, hrange⟩ := exists_of_lowSurrogate? ((dif_pos hhigh).symm.trans hlow)
      rw [List.drop_left' hfour] at hnext
      obtain ⟨ls, more, rfl, hfour', hline', hhex'⟩ := exists_of_hexFour? hl
      obtain ⟨pre, rest, hrest, hclosed, rfl⟩ := ih hbody
      have hdrop : (hs ++ behind).drop 10 = more := by
        rw [hnext, List.drop_append, hfour, List.drop_of_length_le (by omega)]
        exact List.drop_left' hfour'
      rw [hdrop] at hrest
      refine ⟨_, rest, ?_, hclosed.pair hfour hline hhex hfour' hline' hhex' hhigh hrange, ?_⟩
      · simp only [hnext, hrest, List.cons_append, List.append_assoc]
      · simp only [List.length_cons, List.length_append]
        omega
    · cases (dif_neg hhigh).symm.trans hlow
  | case8 position tail _ n hn _ hlow =>
    rename_i ih
    obtain ⟨ys, rfl, hbody⟩ := exists_of_bind_cons h
    obtain ⟨hs, behind, rfl, hfour, hline, hhex⟩ := exists_of_hexFour? hn
    obtain ⟨pre, rest, hrest, hclosed, rfl⟩ := ih hbody
    have hnone : (if 0xD800 ≤ n && n < 0xDC00 then lowSurrogate? pre else none) = none := by
      rw [← hclosed.lowSurrogate?_append rest, ← hrest]
      exact hlow
    rw [List.drop_left' hfour] at hrest
    refine ⟨_, rest, ?_, hclosed.unit hfour hline hhex hnone, ?_⟩
    · simp only [hrest, List.cons_append, List.append_assoc]
    · simp only [List.length_cons, List.length_append]
      omega
  | case10 position d tail _ c hd ih =>
    obtain ⟨ys, rfl, hbody⟩ := exists_of_bind_cons h
    obtain ⟨pre, rest, rfl, hclosed, rfl⟩ := ih hbody
    refine ⟨_, rest, rfl, hclosed.escape hd, ?_⟩
    simp only [List.length_cons]
    omega
  | case12 position c tail hquote hlast _ hslash hc ih =>
    obtain ⟨ys, rfl, hbody⟩ := exists_of_bind_cons h
    obtain ⟨pre, rest, rfl, hclosed, rfl⟩ := ih hbody
    have hescape : c ≠ '\\' := by
      intro heq
      cases hbehind : pre ++ rest with
      | nil => exact hlast heq hbehind
      | cons d more => exact hslash d more heq hbehind
    refine ⟨_, rest, rfl, hclosed.plain hquote hescape hc, ?_⟩
    simp only [List.length_cons]
    omega

end HousePuzzle.Json
