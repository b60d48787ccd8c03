import HousePuzzle.Json.Parser
import HousePuzzle.Proofs.Json.Token
import HousePuzzle.Proofs.Registry
import HousePuzzle.Utf8
import HousePuzzle.Proofs.Text.Quoted

/-!
Documents that are written over indented lines are read back. What is shown of each piece of text
is the state to which it leads the reader.
-/

namespace HousePuzzle

theorem Utf8.unifyLines_eq_self {cs : List Char} (h : '\r' ∉ cs) : unifyLines cs = cs := by
  fun_induction unifyLines cs <;> simp_all

theorem Utf8.decodeFrom_ascii {cs : List Char} (h : ∀ c ∈ cs, c.toNat < 128) (first : Nat) :
    decodeFrom first none (cs.map Char.toNat) = .ok cs := by
  induction cs generalizing first with
  | nil => rfl
  | cons c cs ih =>
    obtain ⟨hc, hcs⟩ := List.forall_mem_cons.1 h
    have hbegin : begin? c.toNat = some ⟨c.toNat, 1, 0, c.toNat, 0x80, 0xBF⟩ := if_pos hc
    rw [List.map_cons, decodeFrom]
    simp only [hbegin, ih hcs, if_true, Char.ofNat_toNat]
    rfl

theorem Utf8.decode_ascii {cs : List Char} (h : ∀ c ∈ cs, c.toNat < 128) :
    decode (cs.map Char.toNat) = .ok cs :=
  decodeFrom_ascii h 0

namespace Json

open Text (isAsciiDigit toList_intercalate_cons)

/-- Documents without binary numbers, without whole numbers that are too long to be read, and
without a key that stands twice in an object. -/
inductive Writable : Json → Prop
  | null : Writable .null
  | bool (b : Bool) : Writable (.bool b)
  | int {n : Int} : digitCount n ≤ Numeral.digitLimit → Writable (.int n)
  | str (s : String) : Writable (.str s)
  | arr {items : List Json} : (∀ v ∈ items, Writable v) → Writable (.arr items)
  | obj {fields : List (String × Json)} :
      (Assoc.keys fields).Nodup → (∀ f ∈ fields, Writable f.2) → Writable (.obj fields)

/-- The text leads from one state to the other, whatever comes behind it. -/
def Passes (cs : List Char) (s t : State) : Prop :=
  ∀ position rest, (tokens position (cs ++ rest)).foldlM State.step s =
    (tokens (position + cs.length) rest).foldlM State.step t

/-- The text leads from one state to the other, where it ends. -/
def Reads (cs : List Char) (s t : State) : Prop :=
  ∀ position rest, Stops rest → (tokens position (cs ++ rest)).foldlM State.step s =
    (tokens (position + cs.length) rest).foldlM State.step t

section Pieces

variable {cs ds : List Char} {s t u : State} {c : Char}

theorem Passes.reads (h : Passes cs s t) : Reads cs s t :=
  fun position rest _ => h position rest

theorem passes_nil : Passes [] s s := fun _ _ => rfl

theorem Passes.append (h : Passes cs s t) (h' : Passes ds t u) : Passes (cs ++ ds) s u := by
  intro position rest
  rw [List.append_assoc, h, h', List.length_append, Nat.add_assoc]

theorem Passes.append_reads (h : Passes cs s t) (h' : Reads ds t u) : Reads (cs ++ ds) s u := by
  intro position rest hrest
  rw [List.append_assoc, h, h' _ _ hrest, List.length_append, Nat.add_assoc]

theorem Stops.append (hds : Stops ds) {rest : List Char} (hrest : Stops rest) :
    Stops (ds ++ rest) := by
  cases ds with
  | nil => exact hrest
  | cons d ds => exact hds

theorem Reads.append (h : Reads cs s t) (h' : Reads ds t u) (hds : Stops ds) :
    Reads (cs ++ ds) s u := by
  intro position rest hrest
  rw [List.append_assoc, h _ _ (hds.append hrest), h' _ _ hrest, List.length_append, Nat.add_assoc]

theorem Reads.append_passes (h : Reads cs s t) (h' : Passes (c :: ds) t u) (hc : Stops [c]) :
    Passes (cs ++ c :: ds) s u := by
  intro position rest
  have hstops : Stops (c :: ds ++ rest) := hc
  rw [List.append_assoc, h _ _ hstops, h', List.length_append, Nat.add_assoc]

theorem passes_spaces (h : ∀ c ∈ cs, isSpace c = true) : Passes cs s s := by
  induction cs with
  | nil => exact passes_nil
  | cons c cs ih =>
    obtain ⟨hc, hcs⟩ := List.forall_mem_cons.1 h
    intro position rest
    rw [List.cons_append, tokens_space hc, ih hcs, List.length_cons]
    congr 2
    omega

theorem passes_newline (depth : Nat) : Passes (newline depth).toList s s := by
  refine passes_spaces ?_
  rw [newline, String.toList_ofList]
  refine List.forall_mem_cons.2 ⟨rfl, fun c hc => ?_⟩
  rw [List.eq_of_mem_replicate hc]
  rfl

theorem passes_punctuation {p : Token} (hspace : isSpace c = false)
    (hc : punctuation? c = some p) (h : ∀ position, s.step ⟨position, p⟩ = .ok t) :
    Passes [c] s t := by
  intro position rest
  rw [List.singleton_append, tokens_punctuation hspace hc, List.foldlM_cons, h]
  rfl

theorem stops_cons (hdigit : isAsciiDigit c = false) (hdot : c ≠ '.') (he : c ≠ 'e')
    (hE : c ≠ 'E') : Stops (c :: cs) := by
  rintro _ ⟨⟩
  exact ⟨hdigit, hdot, he, hE⟩

theorem stops_comma : Stops (',' :: cs) :=
  stops_cons rfl (by decide) (by decide) (by decide)

theorem stops_lineFeed : Stops ('\n' :: cs) :=
  stops_cons rfl (by decide) (by decide) (by decide)

theorem toList_newline (depth : Nat) :
    (newline depth).toList = '\n' :: List.replicate (2 * depth) ' ' :=
  String.toList_ofList

end Pieces

section Block

/-! The members of a list or an object: the first is read in a state of its own, each other behind
a comma. -/

variable {α : Type} {text : α → String} {members : List α} {first s t : State}
  (next after : List α → State) {depth : Nat} {opening closing : String}

theorem block_nil : block depth opening closing [] = opening ++ closing := rfl

theorem block_cons (p : String) (ps : List String) :
    block depth opening closing (p :: ps) =
      opening ++ newline (depth + 1) ++ ("," ++ newline (depth + 1)).intercalate (p :: ps) ++
        newline depth ++ closing := rfl

/-- A member behind what separates it from the one before. -/
def separated (depth : Nat) (text : α → String) (x : α) : List Char :=
  ',' :: ((newline depth).toList ++ (text x).toList)

theorem stops_separated (xs : List α) : Stops (xs.flatMap (separated depth text)) := by
  cases xs with
  | nil => exact fun c hc => absurd hc (by simp)
  | cons x xs => exact stops_comma

theorem toList_block_cons (x : α) (xs : List α) :
    (block depth opening closing ((x :: xs).map text)).toList =
      opening.toList ++ ((newline (depth + 1)).toList ++
        ((text x).toList ++ xs.flatMap (separated (depth + 1) text) ++
          '\n' :: (List.replicate (2 * depth) ' ' ++ closing.toList))) := by
  have hseparated : (xs.map text).flatMap (fun q => ("," ++ newline (depth + 1)).toList ++ q.toList) =
      xs.flatMap (separated (depth + 1) text) := by
    rw [List.flatMap_map]
    refine List.flatMap_congr fun y _ => ?_
    rw [String.toList_append, List.append_assoc]
    rfl
  rw [List.map_cons, block_cons]
  simp only [String.toList_append, toList_intercalate_cons, ← hseparated, toList_newline depth,
    List.append_assoc, List.cons_append]

theorem reads_separated
    (hcomma : ∀ xs position, (after xs).step ⟨position, .comma⟩ = .ok (next xs))
    (hmember : ∀ xs x, xs ++ [x] <+: members →
      Reads (text x).toList (next xs) (after (xs ++ [x])))
    {xs ys : List α} (h : xs ++ ys = members) :
    Reads (ys.flatMap (separated depth text)) (after xs) (after members) := by
  induction ys generalizing xs with
  | nil =>
    rw [List.append_nil] at h
    rw [h]
    exact passes_nil.reads
  | cons y ys ih =>
    have hnext : xs ++ [y] ++ ys = members := by rw [← h, List.append_assoc]; rfl
    have hspace : Passes (',' :: (newline depth).toList) (after xs) (next xs) :=
      (passes_punctuation rfl rfl (hcomma xs)).append (passes_newline depth)
    have hy : Reads (separated depth text y) (after xs) (after (xs ++ [y])) :=
      hspace.append_reads (hmember xs y ⟨ys, hnext⟩)
    exact hy.append (ih hnext) (stops_separated ys)

theorem passes_block (hopen : Passes opening.toList s first)
    (hempty : members = [] → Passes closing.toList first t)
    (hfirst : ∀ x, [x] <+: members → Reads (text x).toList first (after [x]))
    (hcomma : ∀ xs position, (after xs).step ⟨position, .comma⟩ = .ok (next xs))
    (hmember : ∀ xs x, xs ++ [x] <+: members →
      Reads (text x).toList (next xs) (after (xs ++ [x])))
    (hclose : Passes closing.toList (after members) t) :
    Passes (block depth opening closing (members.map text)).toList s t := by
  cases members with
  | nil =>
    rw [List.map_nil, block_nil, String.toList_append]
    exact hopen.append (hempty rfl)
  | cons x xs =>
    have hinner : Reads ((text x).toList ++ xs.flatMap (separated (depth + 1) text)) first
        (after (x :: xs)) :=
      (hfirst x ⟨xs, rfl⟩).append (reads_separated next after hcomma hmember rfl)
        (stops_separated xs)
    have hend : Passes ('\n' :: (List.replicate (2 * depth) ' ' ++ closing.toList))
        (after (x :: xs)) t := by
      have hline := (passes_newline (s := after (x :: xs)) depth).append hclose
      rwa [toList_newline] at hline
    rw [toList_block_cons]
    exact hopen.append ((passes_newline (depth + 1)).append
      (hinner.append_passes hend stops_lineFeed))

end Block

section Values

variable {s t : State} {stack : List Frame} {fields : List (String × Json)} {text : String}

/-- The next value goes into what is open. -/
def Awaits (s : State) (stack : List Frame) : Prop :=
  ∀ l : Lexeme, l.token ≠ .closeArr → s.step l = State.startValue stack l

/-- The next text is a key of the object that is open. -/
def AwaitsKey (s : State) (fields : List (String × Json)) (stack : List Frame) : Prop :=
  ∀ l : Lexeme, l.token ≠ .closeObj → s.step l = State.startKey fields stack l

theorem awaits_value : Awaits (.value stack) stack := fun _ _ => rfl

theorem awaits_firstItem : Awaits (.firstItem stack) (.arr [] :: stack) := by
  rintro ⟨position, token⟩ hl
  cases token with
  | closeArr => exact absurd rfl hl
  | _ => rfl

theorem awaitsKey_key : AwaitsKey (.key fields stack) fields stack := fun _ _ => rfl

theorem awaitsKey_firstKey : AwaitsKey (.firstKey stack) [] stack := by
  rintro ⟨position, token⟩ hl
  cases token with
  | closeObj => exact absurd rfl hl
  | _ => rfl

theorem passes_escaped (h : ∀ position, s.step ⟨position, .str text⟩ = .ok t) :
    Passes (escaped text).toList s t := by
  intro position rest
  rw [tokens_escaped, List.foldlM_cons, h]
  rfl

theorem Awaits.reads_scalar (hs : Awaits s stack) {v : Json} {cs : List Char}
    (h : ∀ position rest, Stops rest → tokens position (cs ++ rest) =
      ⟨position, .scalar v⟩ :: tokens (position + cs.length) rest) :
    Reads cs s (.complete v stack) := by
  intro position rest hrest
  rw [h position rest hrest, List.foldlM_cons, hs _ (by simp)]
  rfl

theorem indentedItems_eq (depth : Nat) (items : List Json) :
    indentedItems depth items = items.map (indentedAt depth) := by
  induction items with
  | nil => rfl
  | cons v items ih => rw [indentedItems, ih, List.map_cons]

/-- A key and its value on a line. -/
def fieldText (depth : Nat) (f : String × Json) : String :=
  escaped f.1 ++ ": " ++ indentedAt depth f.2

theorem indentedFields_eq (depth : Nat) (fields : List (String × Json)) :
    indentedFields depth fields = fields.map (fieldText depth) := by
  induction fields with
  | nil => rfl
  | cons f fields ih => rw [indentedFields, ih, List.map_cons, fieldText]

theorem AwaitsKey.passes_key (hs : AwaitsKey s fields stack) (k : String) :
    Passes ((escaped k).toList ++ ": ".toList) s (.value (.obj fields k :: stack)) := by
  have hname : Passes (escaped k).toList s (.colon fields k stack) :=
    passes_escaped fun position => hs ⟨position, .str k⟩ (by simp)
  have hcolon : Passes ": ".toList (.colon fields k stack) (.value (.obj fields k :: stack)) :=
    (passes_punctuation (c := ':') rfl rfl fun _ => rfl).append
      (passes_spaces (List.forall_mem_singleton.2 rfl))
  exact hname.append hcolon

theorem AwaitsKey.reads_fieldText (hs : AwaitsKey s fields stack) {f : String × Json} {depth : Nat}
    (hkey : f.1 ∉ Assoc.keys fields)
    (hv : ∀ s stack, Awaits s stack → Reads (indentedAt depth f.2).toList s (.complete f.2 stack)) :
    Reads (fieldText depth f).toList s (.afterField (fields ++ [f]) stack) := by
  have hvalue := hv (.value (.obj fields f.1 :: stack)) _ awaits_value
  have hinsert : Assoc.insert f.1 f.2 fields = fields ++ [f] := Assoc.alter_of_notMem hkey
  rw [State.complete, hinsert] at hvalue
  rw [fieldText, String.toList_append, String.toList_append]
  exact (hs.passes_key f.1).append_reads hvalue

theorem Awaits.passes_list (hs : Awaits s stack) {items : List Json} {depth : Nat}
    (h : ∀ v ∈ items, ∀ s stack, Awaits s stack →
      Reads (indentedAt (depth + 1) v).toList s (.complete v stack)) :
    Passes (indentedAt depth (.arr items)).toList s (.complete (.arr items) stack) := by
  have htext : indentedAt depth (.arr items) =
      block depth "[" "]" (items.map (indentedAt (depth + 1))) := by
    rw [indentedAt, indentedItems_eq]
  have hclose (acc : List Json) :
      Passes "]".toList (.afterItem acc stack) (.complete (.arr acc) stack) :=
    passes_punctuation (c := ']') rfl rfl fun _ => rfl
  rw [htext]
  refine passes_block (fun acc => .value (.arr acc :: stack)) (fun acc => .afterItem acc stack)
    (passes_punctuation (c := '[') rfl rfl fun position => hs ⟨position, .openArr⟩ (by simp))
    ?_ (fun v hv => ?_) (fun _ _ => rfl) (fun acc v hv => ?_) (hclose items)
  · rintro rfl
    exact passes_punctuation (c := ']') rfl rfl fun _ => rfl
  · exact h v (hv.subset List.mem_cons_self) _ _ awaits_firstItem
  · exact h v (hv.subset (List.mem_append_right _ List.mem_cons_self)) _ _ awaits_value

theorem Awaits.passes_object (hs : Awaits s stack) {depth : Nat}
    (hkeys : (Assoc.keys fields).Nodup)
    (h : ∀ f ∈ fields, ∀ s stack, Awaits s stack →
      Reads (indentedAt (depth + 1) f.2).toList s (.complete f.2 stack)) :
    Passes (indentedAt depth (.obj fields)).toList s (.complete (.obj fields) stack) := by
  have htext : indentedAt depth (.obj fields) =
      block depth "\x7b" "\x7d" (fields.map (fieldText (depth + 1))) := by
    rw [indentedAt, indentedFields_eq]
  have hclose (acc : List (String × Json)) :
      Passes "\x7d".toList (.afterField acc stack) (.complete (.obj acc) stack) :=
    passes_punctuation (c := '\x7d') rfl rfl fun _ => rfl
  rw [htext]
  refine passes_block (fun acc => .key acc stack) (fun acc => .afterField acc stack)
    (passes_punctuation (c := '\x7b') rfl rfl fun position => hs ⟨position, .openObj⟩ (by simp))
    ?_ (fun f hf => ?_) (fun _ _ => rfl) (fun acc f hf => ?_) (hclose fields)
  · rintro rfl
    exact passes_punctuation (c := '\x7d') rfl rfl fun _ => rfl
  · exact awaitsKey_firstKey.reads_fieldText (by simp) (h f (hf.subset List.mem_cons_self))
  · -- No key came before, for none comes twice.
    have hnew : f.1 ∉ Assoc.keys acc := by
      have hnodup : (Assoc.keys (acc ++ [f])).Nodup := hkeys.sublist (hf.sublist.map Prod.fst)
      rw [Assoc.keys, List.map_append, List.nodup_append] at hnodup
      exact fun hmem => hnodup.2.2 _ hmem _ List.mem_cons_self rfl
    exact awaitsKey_key.reads_fieldText hnew
      (h f (hf.subset (List.mem_append_right _ List.mem_cons_self)))

theorem Writable.reads {v : Json} (hv : Writable v) (depth : Nat) (hs : Awaits s stack) :
    Reads (indentedAt depth v).toList s (.complete v stack) := by
  induction hv generalizing depth s stack with
  | null => exact hs.reads_scalar fun _ _ _ => tokens_null
  | bool b =>
    cases b with
    | true => exact hs.reads_scalar fun _ _ _ => tokens_true
    | false => exact hs.reads_scalar fun _ _ _ => tokens_false
  | int hn => exact hs.reads_scalar fun _ _ => tokens_write hn
  | str text => exact (passes_escaped fun position => hs ⟨position, .str text⟩ (by simp)).reads
  | arr _ ih => exact (hs.passes_list fun v hv _ _ => ih v hv (depth + 1)).reads
  | obj hkeys _ ih =>
    exact (hs.passes_object hkeys fun f hf _ _ => ih f hf (depth + 1)).reads

end Values

section Lines

variable {pieces : List String} {opening closing : String} {depth : Nat}

theorem carriageReturn_notMem_newline (depth : Nat) : '\r' ∉ (newline depth).toList := by
  rw [toList_newline, List.mem_cons]
  rintro (h | h)
  · exact absurd h (by decide)
  · exact absurd (List.eq_of_mem_replicate h) (by decide)

theorem carriageReturn_notMem_block (hopening : '\r' ∉ opening.toList)
    (hclosing : '\r' ∉ closing.toList) (h : ∀ p ∈ pieces, '\r' ∉ p.toList) :
    '\r' ∉ (block depth opening closing pieces).toList := by
  cases pieces with
  | nil => simp [block_nil, hopening, hclosing]
  | cons p ps =>
    obtain ⟨hp, hps⟩ := List.forall_mem_cons.1 h
    have hinner : '\r' ∉ (("," ++ newline (depth + 1)).intercalate (p :: ps)).toList := by
      rw [toList_intercalate_cons, List.mem_append, List.mem_flatMap]
      rintro (hmem | ⟨q, hq, hmem⟩)
      · exact hp hmem
      · simp [carriageReturn_notMem_newline, hps q hq] at hmem
    simp only [block_cons, String.toList_append, List.mem_append, not_or]
    exact ⟨⟨⟨⟨hopening, carriageReturn_notMem_newline _⟩, hinner⟩, carriageReturn_notMem_newline _⟩,
      hclosing⟩

/-- All lines of a document end with a line feed alone. -/
theorem Writable.carriageReturn_notMem {v : Json} (hv : Writable v) (depth : Nat) :
    '\r' ∉ (indentedAt depth v).toList := by
  induction hv generalizing depth with
  | null => exact (by decide : '\r' ∉ "null".toList)
  | bool b =>
    cases b with
    | true => exact (by decide : '\r' ∉ "true".toList)
    | false => exact (by decide : '\r' ∉ "false".toList)
  | @int n _ =>
    intro hmem
    exact absurd (Numeral.noBlank_write n '\r' hmem) (by decide)
  | str s => exact carriageReturn_notMem_escaped s
  | @arr items _ ih =>
    rw [indentedAt, indentedItems_eq]
    refine carriageReturn_notMem_block (by decide) (by decide) fun p hp => ?_
    obtain ⟨v, hv, rfl⟩ := List.mem_map.1 hp
    exact ih v hv (depth + 1)
  | @obj fields _ _ ih =>
    rw [indentedAt, indentedFields_eq]
    refine carriageReturn_notMem_block (by decide) (by decide) fun p hp => ?_
    obtain ⟨f, hf, rfl⟩ := List.mem_map.1 hp
    simp [fieldText, carriageReturn_notMem_escaped, ih f hf (depth + 1)]

end Lines

theorem exists_toList_block (depth : Nat) (opening closing : String) (pieces : List String) :
    ∃ cs, (block depth opening closing pieces).toList = opening.toList ++ cs := by
  cases pieces with
  | nil => exact ⟨closing.toList, String.toList_append⟩
  | cons p ps =>
    rw [block_cons]
    simp only [String.toList_append, List.append_assoc]
    exact ⟨_, rfl⟩

/-- No document begins with a byte order mark. -/
theorem Writable.head?_ne {v : Json} (hv : Writable v) (depth : Nat) :
    (indentedAt depth v).toList.head? ≠ some '\uFEFF' := by
  cases hv with
  | null => exact (by decide : "null".toList.head? ≠ some '\uFEFF')
  | bool b =>
    cases b with
    | true => exact (by decide : "true".toList.head? ≠ some '\uFEFF')
    | false => exact (by decide : "false".toList.head? ≠ some '\uFEFF')
  | @int n _ =>
    have htext : indentedAt depth (.int n) = Numeral.write n := rfl
    cases n with
    | ofNat n =>
      obtain ⟨d, tail, heq, hd⟩ := exists_head_toDigits n
      rw [htext, Numeral.write, Numeral.toList_writeNat, heq]
      rintro ⟨⟩
      cases hd
    | negSucc n =>
      rw [htext, Numeral.write, String.toList_append]
      exact fun h => absurd (Option.some.inj h : '-' = '\uFEFF') (by decide)
  | str s =>
    have htext : indentedAt depth (.str s) = escaped s := rfl
    simp [htext, escaped]
  | @arr items _ =>
    obtain ⟨cs, heq⟩ := exists_toList_block depth "[" "]" (indentedItems (depth + 1) items)
    rw [indentedAt, heq]
    exact fun h => absurd (Option.some.inj h : '[' = '\uFEFF') (by decide)
  | @obj fields _ _ =>
    obtain ⟨cs, heq⟩ := exists_toList_block depth "\x7b" "\x7d" (indentedFields (depth + 1) fields)
    rw [indentedAt, heq]
    exact fun h => absurd (Option.some.inj h : '\x7b' = '\uFEFF') (by decide)

/-- A document is read back from its text, at whatever depth it was written. -/
theorem Writable.parse_indentedAt {v : Json} (hv : Writable v) (depth : Nat) :
    parse (indentedAt depth v) = .ok v := by
  have hread : (tokens 0 (indentedAt depth v).toList).foldlM State.step (.value []) =
      .ok (.done v) := by
    have hstart : Awaits (.value []) [] := awaits_value
    have hwhole := hv.reads depth hstart 0 [] (by simp [Stops])
    rw [List.append_nil] at hwhole
    rw [hwhole, tokens]
    rfl
  rw [parse, parseChars, if_neg (hv.head?_ne depth), hread]

end Json

end HousePuzzle
