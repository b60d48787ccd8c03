import Mathlib.Data.Set.Card

/-!
Answer set programs of one-argument facts with pools, normal rules, choice rules with bounds,
integrity constraints and counts, and their answer sets: models in which every atom is founded.
-/

namespace HousePuzzle.Asp

inductive Symbol
  | number (n : Int)
  | constant (name : String)
  | text (s : String)
  deriving DecidableEq

structure GroundAtom where
  predicate : String
  arguments : List Symbol
  deriving DecidableEq

inductive Expr
  | symbol (s : Symbol)
  | variable (name : String)
  | plus (left right : Expr)
  | minus (left right : Expr)
  deriving DecidableEq

structure Atom where
  predicate : String
  arguments : List Expr
  deriving DecidableEq

inductive Comparison
  | equal
  | differ
  deriving DecidableEq

/-- `count e as c n` compares with `n` how many values `e` takes where the atoms `as` hold. -/
inductive Literal
  | holds (a : Atom)
  | fails (a : Atom)
  | compare (c : Comparison) (left right : Expr)
  | count (e : Expr) (condition : List Atom) (c : Comparison) (bound : Nat)
  deriving DecidableEq

inductive Alternative
  | single (e : Expr)
  | range (first last : Expr)
  deriving DecidableEq

/-- A pool stands for one atom for each of its alternatives. A choice takes at least `lower` and at
most `upper` of the instances of its atom for which the condition holds. -/
inductive Head
  | none
  | pool (predicate : String) (alternatives : List Alternative)
  | atom (a : Atom)
  | choice (lower : Nat) (a : Atom) (condition : List Atom) (upper : Nat)
  deriving DecidableEq

structure Rule where
  head : Head
  body : List Literal
  deriving DecidableEq

inductive Statement
  | rule (r : Rule)
  | display (predicate : String) (arity : Nat)
  deriving DecidableEq

abbrev Valuation := String → Symbol

def Symbol.combine? (f : Int → Int → Int) : Option Symbol → Option Symbol → Option Symbol
  | some (.number m), some (.number n) => some (.number (f m n))
  | _, _ => none

/-- Only numbers can be added and subtracted. -/
def Expr.eval (σ : Valuation) : Expr → Option Symbol
  | .symbol s => some s
  | .variable x => some (σ x)
  | .plus l r => Symbol.combine? (· + ·) (l.eval σ) (r.eval σ)
  | .minus l r => Symbol.combine? (· - ·) (l.eval σ) (r.eval σ)

def Expr.variables : Expr → List String
  | .symbol _ => []
  | .variable x => [x]
  | .plus l r => l.variables ++ r.variables
  | .minus l r => l.variables ++ r.variables

def Atom.ground (σ : Valuation) (a : Atom) : Option GroundAtom :=
  (a.arguments.mapM (Expr.eval σ)).map (⟨a.predicate, ·⟩)

def Atom.variables (a : Atom) : List String :=
  a.arguments.flatMap Expr.variables

def Atom.HoldsIn (X : Set GroundAtom) (σ : Valuation) (a : Atom) : Prop :=
  ∃ g ∈ X, a.ground σ = some g

def Comparison.Relates {α : Type} (a b : α) : Comparison → Prop
  | .equal => a = b
  | .differ => a ≠ b

/-- The variables of a count are its own, unless they stand elsewhere in the body. -/
def Literal.variables : Literal → List String
  | .holds a => a.variables
  | .fails a => a.variables
  | .compare _ l r => l.variables ++ r.variables
  | .count _ _ _ _ => []

def Rule.globals (r : Rule) : List String :=
  r.body.flatMap Literal.variables

def Valuation.Agrees (globals : List String) (σ τ : Valuation) : Prop :=
  ∀ x ∈ globals, τ x = σ x

def Literal.Holds (X : Set GroundAtom) (globals : List String) (σ : Valuation) : Literal → Prop
  | .holds a => a.HoldsIn X σ
  | .fails a => ∃ g, a.ground σ = some g ∧ g ∉ X
  | .compare c l r => ∃ s t, l.eval σ = some s ∧ r.eval σ = some t ∧ c.Relates s t
  | .count e condition c bound =>
    c.Relates {t | ∃ τ, Valuation.Agrees globals σ τ ∧ (∀ a ∈ condition, a.HoldsIn X τ) ∧
      e.eval τ = some t}.encard bound

def Rule.BodyHolds (X : Set GroundAtom) (σ : Valuation) (r : Rule) : Prop :=
  ∀ l ∈ r.body, l.Holds X r.globals σ

def Alternative.Denotes (σ : Valuation) (t : Symbol) : Alternative → Prop
  | .single e => e.eval σ = some t
  | .range first last => ∃ m n k, first.eval σ = some (.number m) ∧
      last.eval σ = some (.number n) ∧ m ≤ k ∧ k ≤ n ∧ t = .number k

/-- The atoms that a head stands for; a choice stands for those that it takes. -/
def Head.Offers (X : Set GroundAtom) (σ : Valuation) (g : GroundAtom) : Head → Prop
  | .none => False
  | .pool p alternatives => ∃ alt ∈ alternatives, ∃ t, alt.Denotes σ t ∧ g = ⟨p, [t]⟩
  | .atom a => a.ground σ = some g
  | .choice _ a _ _ => a.ground σ = some g ∧ g ∈ X

def Head.condition : Head → List Atom
  | .choice _ _ condition _ => condition
  | _ => []

/-- What a choice takes from its instances where the valuation of its body is given. -/
def Rule.taken (X : Set GroundAtom) (σ : Valuation) (r : Rule) : Set GroundAtom :=
  {g | ∃ τ, Valuation.Agrees r.globals σ τ ∧ (∀ a ∈ r.head.condition, a.HoldsIn X τ) ∧
    r.head.Offers X τ g}

def Rule.HeadHolds (X : Set GroundAtom) (σ : Valuation) (r : Rule) : Prop :=
  match r.head with
  | .none => False
  | .choice lower _ _ upper => lower ≤ (r.taken X σ).encard ∧ (r.taken X σ).encard ≤ upper
  | head => ∀ g, head.Offers X σ g → g ∈ X

def Rule.Respected (X : Set GroundAtom) (r : Rule) : Prop :=
  ∀ σ, r.BodyHolds X σ → r.HeadHolds X σ

def Literal.atom? : Literal → Option Atom
  | .holds a => some a
  | _ => none

/-- The atoms that have to be founded before the head is. -/
def Rule.premises (r : Rule) : List Atom :=
  r.head.condition ++ r.body.filterMap Literal.atom?

/-- Atoms that follow from others without going round in circles, negation and counts being as in
the set itself. -/
inductive Founded (P : List Rule) (X : Set GroundAtom) : GroundAtom → Prop
  | intro (r : Rule) (σ : Valuation) (g : GroundAtom) (hr : r ∈ P) (hbody : r.BodyHolds X σ)
      (hhead : r.head.Offers X σ g) (hpremises : ∀ a ∈ r.premises, a.HoldsIn X σ)
      (hfounded : ∀ a ∈ r.premises, ∀ h, a.ground σ = some h → Founded P X h) : Founded P X g

structure IsAnswerSet (P : List Rule) (X : Set GroundAtom) : Prop where
  respected : ∀ r ∈ P, r.Respected X
  founded : ∀ g ∈ X, Founded P X g

def Statement.rule? : Statement → Option Rule
  | .rule r => some r
  | .display _ _ => none

/-- Where some predicates are to be displayed, no others are. -/
def displayed (P : List Statement) (X : Set GroundAtom) : Set GroundAtom :=
  {g ∈ X | (∀ s ∈ P, s.rule?.isSome) ∨ .display g.predicate g.arguments.length ∈ P}

/-- What an answer set of the program shows. -/
def Admits (P : List Statement) (V : Set GroundAtom) : Prop :=
  ∃ X, IsAnswerSet (P.filterMap Statement.rule?) X ∧ V = displayed P X

section

variable {X : Set GroundAtom} {σ : Valuation} {globals : List String}
variable {x p : String} {g : GroundAtom}

@[simp] theorem Expr.eval_symbol (s : Symbol) : (Expr.symbol s).eval σ = some s := rfl

@[simp] theorem Expr.eval_variable : (Expr.variable x).eval σ = some (σ x) := rfl

theorem Symbol.combine?_eq_some_iff {f : Int → Int → Int} {s t u : Symbol} :
    combine? f (some s) (some t) = some u ↔
      ∃ m n, s = .number m ∧ t = .number n ∧ u = .number (f m n) := by
  cases s <;> cases t <;> simp [combine?, eq_comm]

theorem Atom.holdsIn_iff {a : Atom} (h : a.ground σ = some g) : a.HoldsIn X σ ↔ g ∈ X := by
  simp [HoldsIn, h]

@[simp] theorem Atom.holdsIn_variable :
    (⟨p, [.variable x]⟩ : Atom).HoldsIn X σ ↔ ⟨p, [σ x]⟩ ∈ X :=
  holdsIn_iff rfl

@[simp] theorem Atom.holdsIn_variables {y : String} :
    (⟨p, [.variable x, .variable y]⟩ : Atom).HoldsIn X σ ↔ ⟨p, [σ x, σ y]⟩ ∈ X :=
  holdsIn_iff rfl

@[simp] theorem Literal.holds_holds {a : Atom} :
    (Literal.holds a).Holds X globals σ ↔ a.HoldsIn X σ := Iff.rfl

end

end HousePuzzle.Asp
