import HousePuzzle.Assoc
import HousePuzzle.Name
import HousePuzzle.Numeral

/-!
The domains of a puzzle: categories in the order in which they first came, each with its values in
the order in which they first came. No category and no value of a category is repeated.
-/

namespace HousePuzzle

/-- Every value at its first place only. -/
def distinct : List String → List String
  | [] => []
  | v :: rest => v :: (distinct rest).filter (· ≠ v)

@[simp] theorem distinct_nil : distinct [] = [] := rfl

@[simp] theorem mem_distinct {v : String} {vs : List String} : v ∈ distinct vs ↔ v ∈ vs := by
  induction vs with
  | nil => simp
  | cons w vs ih =>
    by_cases h : v = w <;> simp [distinct, ih, h]

theorem nodup_distinct (vs : List String) : (distinct vs).Nodup := by
  induction vs with
  | nil => simp
  | cons w vs ih =>
    simp only [distinct, List.nodup_cons]
    exact ⟨by simp, ih.sublist List.filter_sublist⟩

theorem distinct_of_nodup {vs : List String} (h : vs.Nodup) : distinct vs = vs := by
  induction vs with
  | nil => rfl
  | cons w vs ih =>
    obtain ⟨hw, hvs⟩ := List.nodup_cons.1 h
    rw [distinct, ih hvs, List.filter_eq_self.2]
    intro v hv
    simp only [ne_eq, decide_not, Bool.not_eq_eq_eq_not, Bool.not_true, decide_eq_false_iff_not]
    rintro rfl
    exact hw hv

abbrev Domains := List (String × List String)

/-- Adds values to a category, which is made if it is not there. -/
def Domains.merge (category : String) (values : List String) (d : Domains) : Domains :=
  Assoc.alter category (fun old => distinct (old.getD [] ++ values)) d

def Domains.Distinct (d : Domains) : Prop :=
  (Assoc.keys d).Nodup ∧ ∀ e ∈ d, e.2.Nodup

theorem Domains.mem_alter {category : String} {f : Option (List String) → List String}
    {d : Domains} {e : String × List String} (h : e ∈ Assoc.alter category f d) :
    e ∈ d ∨ ∃ old, e.2 = f old := by
  induction d with
  | nil =>
    simp only [Assoc.alter, List.mem_singleton] at h
    exact .inr ⟨none, by rw [h]⟩
  | cons a d ih =>
    obtain ⟨c, vs⟩ := a
    simp only [Assoc.alter] at h
    split at h
    · rcases List.mem_cons.1 h with h | h
      · exact .inr ⟨some vs, by rw [h]⟩
      · exact .inl (List.mem_cons_of_mem _ h)
    · rcases List.mem_cons.1 h with h | h
      · exact .inl (h ▸ List.mem_cons_self)
      · rcases ih h with h | h
        · exact .inl (List.mem_cons_of_mem _ h)
        · exact .inr h

theorem Domains.Distinct.merge {d : Domains} (h : d.Distinct) (category : String)
    (values : List String) : (d.merge category values).Distinct := by
  refine ⟨?_, fun e he => ?_⟩
  · rw [Domains.merge, Assoc.keys_alter]
    split
    · exact h.1
    · next hc => exact List.nodup_append.2 ⟨h.1, by simp, by
        intro a ha b hb
        rw [List.mem_singleton.1 hb]
        rintro rfl
        exact hc ha⟩
  · rcases Domains.mem_alter he with he | ⟨old, he⟩
    · exact h.2 e he
    · exact he ▸ nodup_distinct _

structure Registry where
  domains : Domains
  distinct : domains.Distinct
  deriving DecidableEq

namespace Registry

def empty : Registry :=
  ⟨[], by simp [Domains.Distinct]⟩

instance : Inhabited Registry := ⟨empty⟩

def withValues (r : Registry) (category : String) (values : List String) : Registry :=
  ⟨r.domains.merge category values, r.distinct.merge category values⟩

def without (r : Registry) (category : String) : Registry :=
  ⟨r.domains.filter (·.1 ≠ category),
    (r.distinct.1.sublist (List.filter_sublist.map _)),
    fun e he => r.distinct.2 e (List.mem_filter.1 he).1⟩

/-- A category that is repeated is merged. -/
def ofPairs (pairs : List (String × List String)) : Registry :=
  pairs.foldl (fun r p => r.withValues p.1 p.2) empty

def values? (r : Registry) (category : String) : Option (List String) :=
  Assoc.get? category r.domains

/-- The categories but that of positions. -/
def categories (r : Registry) : List String :=
  (Assoc.keys r.domains).filter (· ≠ Name.position)

def positionValues (houses : Int) : List String :=
  (List.range houses.toNat).map fun i => Numeral.writeNat (i + 1)

def resolve? (r : Registry) (category : String) (houses : Int) : Option (List String) :=
  if category = Name.position then some (positionValues houses) else r.values? category

/-- The first category that has the value; positions do not count. -/
def categoryOf? (r : Registry) (value : String) : Option String :=
  r.categories.find? fun c => ((r.values? c).getD []).contains value

/-- The same categories with the same values, in any order of categories. -/
def equiv (r s : Registry) : Bool :=
  r.domains.length = s.domains.length && r.domains.all fun e => s.values? e.1 = some e.2

/-- Values in parentheses; one that stands alone has a comma behind it. -/
def parenthesized : List String → String
  | [v] => "(" ++ Text.quoted v ++ ",)"
  | vs => "(" ++ ", ".intercalate (vs.map Text.quoted) ++ ")"

def quotedText (r : Registry) : String :=
  let entries := r.domains.map fun e => Text.quoted e.1 ++ ": " ++ parenthesized e.2
  "DomainRegistry(\x7b" ++ ", ".intercalate entries ++ "\x7d)"

@[simp] theorem domains_empty : empty.domains = [] := rfl

@[simp] theorem domains_withValues (r : Registry) (category : String) (values : List String) :
    (r.withValues category values).domains = r.domains.merge category values := rfl

@[simp] theorem domains_without (r : Registry) (category : String) :
    (r.without category).domains = r.domains.filter (·.1 ≠ category) := rfl

@[ext] theorem ext {r s : Registry} (h : r.domains = s.domains) : r = s := by
  cases r
  cases s
  simp_all

end Registry

end HousePuzzle
