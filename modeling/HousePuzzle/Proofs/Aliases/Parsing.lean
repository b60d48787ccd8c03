import HousePuzzle.Proofs.Aliases
import HousePuzzle.Proofs.Text.Quoted
import HousePuzzle.Proofs.Text.Split

/-!
Texts of aliases. An item is told by its first equals sign; the text is refused for an item that has
none, or nothing on one of its sides, and else each name gets what it was last given. What is read
can be written and read again.
-/

namespace HousePuzzle.Aliases

open Text (Blank splitAtChar cutAtChar? trimChars trimLeft trimRight)

variable {aliases : Aliases} {text : String} {item cs : List Char} {e : String × String}
  {m : Malformed}

/-- An item of an alias text, and the alias that it gives. -/
def ReadsAs (item : List Char) (e : String × String) : Prop :=
  ∃ old new, item = old ++ '=' :: new ∧ '=' ∉ old ∧ ¬ Blank old ∧ ¬ Blank new ∧
    e = (canonical (String.ofList old), canonical (String.ofList new))

/-- An item without an equals sign, or with nothing on one side of the first. -/
def IsMalformed (item : List Char) : Prop :=
  '=' ∉ item ∨ ∃ old new, item = old ++ '=' :: new ∧ '=' ∉ old ∧ (Blank old ∨ Blank new)

/-- The items of an alias text as they are written, but those that are blank. -/
def items (text : String) : List (List Char) :=
  (splitAtChar ',' text.toList).filter fun item => ¬ Blank item

theorem mem_items_iff : item ∈ items text ↔ item ∈ splitAtChar ',' text.toList ∧ ¬ Blank item := by
  simp [items]

theorem isBlankText_eq (cs : List Char) : isBlankText cs = decide (Blank cs) := by
  rw [isBlankText, Bool.eq_iff_iff, List.isEmpty_iff, Text.trimChars_eq_nil_iff, decide_eq_true_iff]

theorem canonical_eq_of_trimChars_eq {ds : List Char} (h : trimChars cs = trimChars ds) :
    canonical (String.ofList cs) = canonical (String.ofList ds) := by
  simp [canonical, Text.trim, h]

/-- The blanks around an item are those around its sides. -/
theorem cutAtChar?_trimChars (item : List Char) : cutAtChar? '=' (trimChars item) =
    (cutAtChar? '=' item).map fun sides => (trimLeft sides.1, trimRight sides.2) := by
  cases h : cutAtChar? '=' item with
  | none =>
    have hnone := Text.cutAtChar?_eq_none_iff.1 h
    exact Text.cutAtChar?_eq_none_iff.2 fun hmem => hnone (Text.mem_of_mem_trimChars hmem)
  | some sides =>
    obtain ⟨rfl, hold⟩ := Text.cutAtChar?_eq_some h
    rw [Text.trimChars_append_cons (by decide)]
    exact Text.cutAtChar?_append (fun hmem => hold ((List.dropWhile_sublist _).subset hmem)) _

theorem readItem_trimChars (item : List Char) : readItem (trimChars item) =
    match cutAtChar? '=' item with
    | none => .error ⟨String.ofList (trimChars item)⟩
    | some (old, new) =>
      if Blank old ∨ Blank new then .error ⟨String.ofList (trimChars item)⟩
      else .ok (canonical (String.ofList old), canonical (String.ofList new)) := by
  rw [readItem, cutAtChar?_trimChars]
  cases cutAtChar? '=' item with
  | none => rfl
  | some sides =>
    have hold := canonical_eq_of_trimChars_eq (Text.trimChars_trimLeft sides.1)
    have hnew := canonical_eq_of_trimChars_eq (Text.trimChars_trimRight sides.2)
    simp [isBlankText_eq, hold, hnew]

theorem readItem_eq_ok_iff : readItem (trimChars item) = .ok e ↔ ReadsAs item e := by
  rw [readItem_trimChars]
  constructor
  · intro h
    split at h
    · cases h
    · next old new hcut =>
      obtain ⟨rfl, hmem⟩ := Text.cutAtChar?_eq_some hcut
      split at h
      · cases h
      · next hsides =>
        obtain ⟨hold, hnew⟩ := not_or.1 hsides
        exact ⟨old, new, rfl, hmem, hold, hnew, (Except.ok.inj h).symm⟩
  · rintro ⟨old, new, rfl, hmem, hold, hnew, rfl⟩
    rw [Text.cutAtChar?_append hmem]
    exact if_neg (not_or.2 ⟨hold, hnew⟩)

theorem readItem_eq_error_iff : readItem (trimChars item) = .error m ↔
    IsMalformed item ∧ m = ⟨String.ofList (trimChars item)⟩ := by
  rw [readItem_trimChars]
  constructor
  · intro h
    split at h
    · next hcut => exact ⟨.inl (Text.cutAtChar?_eq_none_iff.1 hcut), (Except.error.inj h).symm⟩
    · next old new hcut =>
      obtain ⟨rfl, hmem⟩ := Text.cutAtChar?_eq_some hcut
      split at h
      · next hsides => exact ⟨.inr ⟨old, new, rfl, hmem, hsides⟩, (Except.error.inj h).symm⟩
      · cases h
  · rintro ⟨hnone | ⟨old, new, rfl, hmem, hsides⟩, rfl⟩
    · rw [Text.cutAtChar?_eq_none_iff.2 hnone]
    · rw [Text.cutAtChar?_append hmem]
      exact if_pos hsides

theorem isMalformed_iff : IsMalformed item ↔ ∀ e, ¬ ReadsAs item e := by
  simp only [← readItem_eq_ok_iff]
  cases h : readItem (trimChars item) with
  | ok e =>
    refine iff_of_false (fun hmalformed => ?_) fun hnone => hnone e rfl
    rw [readItem_eq_error_iff.2 ⟨hmalformed, rfl⟩] at h
    cases h
  | error m => exact iff_of_true (readItem_eq_error_iff.1 h).1 (by simp)

theorem parse_eq (text : String) : parse text =
    ((items text).mapM fun item => readItem (trimChars item)) >>= fun entries =>
      pure (Assoc.ofList entries) := by
  have hitems : ((splitAtChar ',' text.toList).map trimChars).filter (!·.isEmpty) =
      (items text).map trimChars := by
    rw [List.filter_map, items]
    refine congrArg (List.map trimChars) (List.filter_congr fun item _ => ?_)
    rw [Function.comp_apply, ← isBlankText, isBlankText_eq, decide_not]
  rw [parse, hitems, List.mapM_map]
  rfl

theorem parse_eq_ok_iff : parse text = .ok aliases ↔
    ∃ entries, List.Forall₂ ReadsAs (items text) entries ∧ Assoc.ofList entries = aliases := by
  rw [parse_eq, Except.bind_eq_ok_iff]
  simp only [mapM_eq_ok_iff, readItem_eq_ok_iff, pure, Except.pure, Except.ok.injEq]

/-- The first malformed item is told. -/
theorem parse_eq_error_iff : parse text = .error m ↔
    ∃ front item rest, items text = front ++ item :: rest ∧ (∀ i ∈ front, ∃ e, ReadsAs i e) ∧
      IsMalformed item ∧ m = ⟨String.ofList (trimChars item)⟩ := by
  rw [parse_eq, Except.bind_eq_error_iff]
  simp [mapM_eq_error_iff, readItem_eq_ok_iff, readItem_eq_error_iff, pure, Except.pure]

theorem exists_error_iff :
    (∃ m, parse text = .error m) ↔ ∃ item ∈ items text, IsMalformed item := by
  constructor
  · rintro ⟨m, h⟩
    obtain ⟨front, item, rest, hitems, _, hitem, _⟩ := parse_eq_error_iff.1 h
    exact ⟨item, by simp [hitems], hitem⟩
  · rintro ⟨item, hmem, hitem⟩
    cases h : parse text with
    | error m => exact ⟨m, rfl⟩
    | ok aliases =>
      obtain ⟨entries, hentries, _⟩ := parse_eq_ok_iff.1 h
      obtain ⟨e, he⟩ := exists_forall₂_iff.1 ⟨entries, hentries⟩ item hmem
      exact absurd he (isMalformed_iff.1 hitem e)

/-- What an alias is that has been read: canonical names, with nothing in them that would be taken
for the end of a name or of an item. -/
structure IsAlias (e : String × String) : Prop where
  name : canonical e.1 = e.1
  target : canonical e.2 = e.2
  name_present : ¬ Blank e.1.toList
  target_present : ¬ Blank e.2.toList
  name_free : ',' ∉ e.1.toList ∧ '=' ∉ e.1.toList
  target_free : ',' ∉ e.2.toList

theorem not_blank_canonical (h : ¬ Blank cs) : ¬ Blank (canonical (String.ofList cs)).toList := by
  have htrimmed := isTrimmed_canonical (String.ofList cs)
  rw [← Text.trimChars_eq_nil_iff, htrimmed.trimChars_eq, toList_canonical, String.toList_ofList]
  exact Text.lowerChars_ne_nil (mt Text.trimChars_eq_nil_iff.1 h)

theorem notMem_canonical {c : Char} (hc : c.toNat < 97) (h : c ∉ cs) :
    c ∉ (canonical (String.ofList cs)).toList := by
  rw [toList_canonical, String.toList_ofList]
  exact fun hmem => h (Text.mem_of_mem_trimChars (Text.mem_of_mem_lowerChars hc hmem))

theorem ReadsAs.isAlias (h : ReadsAs item e) (hitem : ',' ∉ item) : IsAlias e := by
  obtain ⟨old, new, rfl, hmem, hold, hnew, rfl⟩ := h
  have hcomma : ',' ∉ old ∧ ',' ∉ new := by simpa using hitem
  exact ⟨canonical_canonical _, canonical_canonical _, not_blank_canonical hold,
    not_blank_canonical hnew,
    ⟨notMem_canonical (by decide) hcomma.1, notMem_canonical (by decide) hmem⟩,
    notMem_canonical (by decide) hcomma.2⟩

/-- An alias as an item. -/
def itemOf (e : String × String) : List Char :=
  e.1.toList ++ '=' :: e.2.toList

theorem IsAlias.readsAs (h : IsAlias e) : ReadsAs (itemOf e) e := by
  refine ⟨_, _, rfl, h.name_free.2, h.name_present, h.target_present, ?_⟩
  rw [String.ofList_toList, String.ofList_toList, h.name, h.target]

/-- Aliases as a text. -/
def written (aliases : Aliases) : String :=
  ",".intercalate (aliases.map fun e => e.1 ++ "=" ++ e.2)

theorem toList_written_cons (e : String × String) (rest : Aliases) :
    (written (e :: rest)).toList =
      itemOf e ++ (rest.map itemOf).flatMap fun item => ',' :: item := by
  have hitem (e : String × String) : (e.1 ++ "=" ++ e.2).toList = itemOf e := by
    simp [itemOf]
  rw [written, List.map_cons, Text.toList_intercalate_cons, List.flatMap_map, List.flatMap_map,
    hitem]
  simp only [hitem]
  rfl

theorem IsAlias.comma_notMem_itemOf (h : IsAlias e) : ',' ∉ itemOf e := by
  simp [itemOf, h.name_free.1, h.target_free]

theorem IsAlias.not_blank_itemOf (h : IsAlias e) : ¬ Blank (itemOf e) :=
  fun hblank => h.name_present fun c hc => hblank c (List.mem_append_left _ hc)

theorem items_written (h : ∀ e ∈ aliases, IsAlias e) :
    items (written aliases) = aliases.map itemOf := by
  have hsplit : items (written aliases) = (aliases.map itemOf).filter fun item => ¬ Blank item := by
    cases aliases with
    | nil => simp [items, written, splitAtChar, Blank]
    | cons e rest =>
      obtain ⟨he, hrest⟩ := List.forall_mem_cons.1 h
      rw [items, toList_written_cons, Text.splitAtChar_pieces he.comma_notMem_itemOf
        (List.forall_mem_map.2 fun e he => (hrest e he).comma_notMem_itemOf), List.map_cons]
  rw [hsplit, List.filter_eq_self]
  exact List.forall_mem_map.2 fun e he => decide_eq_true (h e he).not_blank_itemOf

theorem parse_written (h : ∀ e ∈ aliases, IsAlias e) (hkeys : (Assoc.keys aliases).Nodup) :
    parse (written aliases) = .ok aliases := by
  refine parse_eq_ok_iff.2 ⟨aliases, ?_, Assoc.ofList_of_nodup hkeys⟩
  rw [items_written h, List.forall₂_map_left_iff, List.forall₂_same]
  exact fun e he => (h e he).readsAs

theorem IsAlias.of_parse (h : parse text = .ok aliases) : ∀ e ∈ aliases, IsAlias e := by
  rw [parse_eq] at h
  obtain ⟨entries, hentries, hok⟩ := Except.bind_eq_ok_iff.1 h
  obtain rfl := Except.ok.inj hok
  intro e he
  obtain ⟨item, hitem, hread⟩ := exists_of_mem_mapM hentries (Assoc.mem_of_mem_ofList he)
  have hcomma := Text.notMem_of_mem_splitAtChar (mem_items_iff.1 hitem).1
  exact (readItem_eq_ok_iff.1 hread).isAlias hcomma

theorem nodup_keys_of_parse (h : parse text = .ok aliases) : (Assoc.keys aliases).Nodup := by
  obtain ⟨entries, _, rfl⟩ := parse_eq_ok_iff.1 h
  rw [Assoc.keys_ofList]
  exact nodup_distinct _

/-- A text of aliases is refused just for an item that is malformed, and the first of them is told.
Else the aliases are those of its items: names in the order in which they first occur, each with the
name that it was given last. Written as a text again they are read as the same aliases. -/
theorem parse_exact (text : String) :
    ((∃ m, parse text = .error m) ↔
      ∃ item ∈ splitAtChar ',' text.toList, ¬ Blank item ∧ IsMalformed item) ∧
    (∀ m, parse text = .error m ↔ ∃ front item rest, items text = front ++ item :: rest ∧
      (∀ i ∈ front, ∃ e, ReadsAs i e) ∧ IsMalformed item ∧
        m = ⟨String.ofList (trimChars item)⟩) ∧
    ∀ aliases, parse text = .ok aliases →
      (∃ entries, List.Forall₂ ReadsAs (items text) entries ∧
        FirstOccurrences (Assoc.keys entries) (Assoc.keys aliases) ∧
        ∀ k v, Assoc.get? k aliases = some v ↔
          ∃ before behind, entries = before ++ (k, v) :: behind ∧ k ∉ Assoc.keys behind) ∧
      parse (written aliases) = .ok aliases := by
  refine ⟨?_, fun m => parse_eq_error_iff, fun aliases h => ⟨?_, ?_⟩⟩
  · simp only [exists_error_iff, mem_items_iff, and_assoc]
  · obtain ⟨entries, hentries, rfl⟩ := parse_eq_ok_iff.1 h
    refine ⟨entries, hentries, ?_, fun k v => Assoc.get?_ofList_eq_some_iff⟩
    rw [Assoc.keys_ofList]
    exact firstOccurrences_distinct _
  · exact parse_written (IsAlias.of_parse h) (nodup_keys_of_parse h)

/-- A name that is given twice, in other letters, and a name with an equals sign in what it stands
for. -/
def scatteredAliases : String := " Drink = Juice,, A=b=C\u00a0,\tDRINK=Tea"

theorem parse_exact_scatteredAliases :
    parse scatteredAliases = .ok [("drink", "tea"), ("a", "b=c")] ∧
      parse "drink=tea,a=b=c" = .ok [("drink", "tea"), ("a", "b=c")] := by
  have hread : parse scatteredAliases = .ok [("drink", "tea"), ("a", "b=c")] := by decide +kernel
  exact ⟨hread, ((parse_exact scatteredAliases).2.2 _ hread).2⟩

end HousePuzzle.Aliases
