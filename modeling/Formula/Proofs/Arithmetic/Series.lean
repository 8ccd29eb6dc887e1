import Formula.Proofs.Arithmetic.Negation
import Formula.Proofs.Grammar.Basic
import Formula.Proofs.Layout

/-!
# Series of numbers

Arithmetic without parentheses is a series of numbers, with an operator between
each two of them and any number of minus signs in front of each.  It is read in
two ways.  The standard reading lets each minus sign belong to the number behind
it.  The other reading lets it belong to all factors up to the end of the product.
Both agree unless a number with minus signs stands between two factors.
-/

namespace Formula

def Operator.IsAdditive (operator : Operator) : Prop :=
  operator = .add ∨ operator = .subtract

def Operator.IsMultiplicative (operator : Operator) : Prop :=
  operator = .multiply ∨ operator = .divide

instance (operator : Operator) : Decidable operator.IsMultiplicative :=
  inferInstanceAs (Decidable (_ ∨ _))

def negateTimes : Nat → Float → Float
  | 0, x => x
  | signs + 1, x => -negateTimes signs x

/-- A number behind minus signs. -/
structure Operand where
  signs : Nat
  magnitude : Float

def Operand.value (operand : Operand) : Float :=
  negateTimes operand.signs operand.magnitude

/-- One or more parts, with an operator between each two. -/
structure Series (α : Type) where
  first : α
  rest : List (Operator × α)

namespace Series

variable {α : Type}

def parts (series : Series α) : List α :=
  series.first :: series.rest.map Prod.snd

def fromLeft (value : α → Float) (series : Series α) : Float :=
  series.rest.foldl (fun x link => link.1.apply x (value link.2)) (value series.first)

/-- The series of products that numbers make up. -/
def group (first : Operand) : List (Operator × Operand) → Series (Series Operand)
  | [] => ⟨⟨first, []⟩, []⟩
  | (operator, operand) :: rest =>
      let later := group operand rest
      if operator.IsMultiplicative then
        ⟨⟨first, (operator, later.first.first) :: later.first.rest⟩, later.rest⟩
      else
        ⟨⟨first, []⟩, (operator, later.first) :: later.rest⟩

def products (series : Series Operand) : Series (Series Operand) :=
  group series.first series.rest

/-- Products before sums, each from left to right, with each number negated first. -/
def standard (series : Series Operand) : Float :=
  series.products.fromLeft (fromLeft Operand.value)

/-- The rest of a product, of which the value so far is given.  A number with minus
signs starts a product of its own, which is negated and then joined. -/
def productFrom (x : Float) : List (Operator × Operand) → Float
  | [] => x
  | (operator, ⟨0, y⟩) :: rest => productFrom (operator.apply x y) rest
  | (operator, ⟨signs + 1, y⟩) :: rest =>
      operator.apply x (negateTimes (signs + 1) (productFrom y rest))

/-- The value of a product in which minus signs negate all that follows them. -/
def product (series : Series Operand) : Float :=
  negateTimes series.first.signs (productFrom series.first.magnitude series.rest)

/-- Products before sums, with minus signs that negate the rest of their product. -/
def reading (series : Series Operand) : Float :=
  series.products.fromLeft product

/-- Do minus signs stand in front of the first and the last number of each product only? -/
def SignsOutside (series : Series Operand) : Prop :=
  ∀ product ∈ series.products.parts, ∀ link ∈ product.rest.dropLast, link.2.signs = 0

end Series

/-! ## Spelling -/

/-- The kinds of the tokens of a series of numbers. -/
inductive Arranged : List Kind → Prop
  | number {kind : Kind} (hkind : kind.IsNumber) : Arranged [kind]
  | negative {kinds : List Kind} (hrest : Arranged kinds) : Arranged (.minus :: kinds)
  | joined {kind sign : Kind} {kinds : List Kind} (hkind : kind.IsNumber)
      (hsign : sign ∈ [.plus, .minus, .star, .slash]) (hrest : Arranged kinds) :
      Arranged (kind :: sign :: kinds)

inductive Operand.Spells : Operand → List Token → Prop
  | intro {signs : List Token} {number : Token} {x : Float}
      (hsigns : ∀ token ∈ signs, token.kind = .minus) (hkind : number.kind.IsNumber)
      (hvalue : number.value = .ok x) : Spells ⟨signs.length, x⟩ (signs ++ [number])

section Links

variable {α : Type}

/-- The tokens of operators with parts behind them. -/
inductive Links (joins : Operator → Prop) (spells : α → List Token → Prop) :
    List (Operator × α) → List Token → Prop
  | nil : Links joins spells [] []
  | cons {operator : Operator} {token : Token} {part : α} {rest : List (Operator × α)}
      {front back : List Token} (hjoins : joins operator) (htoken : token.kind = operator.kind)
      (hpart : spells part front) (hrest : Links joins spells rest back) :
      Links joins spells ((operator, part) :: rest) (token :: (front ++ back))

def Series.SpelledBy (joins : Operator → Prop) (spells : α → List Token → Prop)
    (series : Series α) (tokens : List Token) : Prop :=
  ∃ front back, tokens = front ++ back ∧ spells series.first front ∧
    Links joins spells series.rest back

def Series.Spells (series : Series Operand) (tokens : List Token) : Prop :=
  series.SpelledBy (· ≠ .power) Operand.Spells tokens

def Series.SpellsProduct (series : Series Operand) (tokens : List Token) : Prop :=
  series.SpelledBy Operator.IsMultiplicative Operand.Spells tokens

end Links

theorem Operator.exists_of_sign {sign : Kind} (h : sign ∈ [.plus, .minus, .star, .slash]) :
    ∃ operator : Operator, operator ≠ .power ∧ sign = operator.kind := by
  simp only [List.mem_cons, List.not_mem_nil, or_false] at h
  rcases h with rfl | rfl | rfl | rfl
  · exact ⟨.add, by decide, rfl⟩
  · exact ⟨.subtract, by decide, rfl⟩
  · exact ⟨.multiply, by decide, rfl⟩
  · exact ⟨.divide, by decide, rfl⟩

theorem Operator.isAdditive_of_not {operator : Operator} (hne : operator ≠ .power)
    (h : ¬ operator.IsMultiplicative) : operator.IsAdditive := by
  cases operator <;> simp_all [IsMultiplicative, IsAdditive]

theorem Operand.Spells.ofNumber {number : Token} {x : Float} (hkind : number.kind.IsNumber)
    (hvalue : number.value = .ok x) : Operand.Spells ⟨0, x⟩ [number] := by
  have hsigns : ∀ token ∈ ([] : List Token), token.kind = .minus := by simp
  exact .intro hsigns hkind hvalue

/-- Tokens that are arranged like a series of numbers spell one. -/
theorem Arranged.exists_spells {tokens : List Token}
    (hvalues : ∀ token ∈ tokens, token.kind.IsNumber → ∃ x, token.value = .ok x)
    (h : Arranged (tokens.map Token.kind)) : ∃ series : Series Operand, series.Spells tokens := by
  generalize hkinds : tokens.map Token.kind = kinds at h
  induction h generalizing tokens with
  | number hkind =>
      obtain ⟨number, rfl, rfl⟩ := List.map_eq_singleton_iff.1 hkinds
      obtain ⟨x, hvalue⟩ := hvalues number List.mem_cons_self hkind
      exact ⟨⟨⟨0, x⟩, []⟩, [number], [], rfl, Operand.Spells.ofNumber hkind hvalue, .nil⟩
  | negative _ ih =>
      obtain ⟨minus, later, rfl, hminus, hlater⟩ := List.map_eq_cons_iff.1 hkinds
      obtain ⟨⟨first, rest⟩, front, back, rfl, hfirst, hrest⟩ :=
        ih (fun token hmem => hvalues token (List.mem_cons_of_mem minus hmem)) hlater
      cases hfirst with
      | @intro signs number x hsigns hkind hvalue =>
          have hall : ∀ token ∈ minus :: signs, token.kind = .minus := by
            simpa using ⟨hminus, hsigns⟩
          exact ⟨⟨⟨signs.length + 1, x⟩, rest⟩, minus :: (signs ++ [number]), back, rfl,
            .intro hall hkind hvalue, hrest⟩
  | joined hkind hsign _ ih =>
      obtain ⟨number, others, rfl, rfl, hothers⟩ := List.map_eq_cons_iff.1 hkinds
      obtain ⟨token, later, rfl, rfl, hlater⟩ := List.map_eq_cons_iff.1 hothers
      obtain ⟨operator, hne, htoken⟩ := Operator.exists_of_sign hsign
      obtain ⟨x, hvalue⟩ := hvalues number List.mem_cons_self hkind
      obtain ⟨⟨first, rest⟩, front, back, rfl, hfirst, hrest⟩ :=
        ih (fun token hmem => hvalues token (by simp [hmem])) hlater
      exact ⟨⟨⟨0, x⟩, (operator, first) :: rest⟩, [number], token :: (front ++ back), rfl,
        Operand.Spells.ofNumber hkind hvalue, .cons hne htoken hfirst hrest⟩

/-- The tokens of numbers, operators and signs are the tokens of products. -/
theorem Links.group {first : Operand} {rest : List (Operator × Operand)}
    {front back : List Token} (hfirst : first.Spells front)
    (hrest : Links (· ≠ .power) Operand.Spells rest back) :
    (Series.group first rest).SpelledBy Operator.IsAdditive Series.SpellsProduct
      (front ++ back) := by
  induction hrest generalizing first front with
  | nil => exact ⟨front, [], rfl, ⟨front, [], by simp, hfirst, .nil⟩, .nil⟩
  | @cons operator token operand rest inner back hne htoken hoperand _ ih =>
      obtain ⟨factors, sums, hsplit, ⟨start, others, rfl, hstart, hothers⟩, hsums⟩ := ih hoperand
      unfold Series.group
      by_cases hmultiplicative : operator.IsMultiplicative
      · rw [if_pos hmultiplicative]
        refine ⟨front ++ token :: (start ++ others), sums, ?_, ?_, hsums⟩
        · simp only [hsplit, List.append_assoc, List.cons_append]
        · exact ⟨front, _, rfl, hfirst, .cons hmultiplicative htoken hstart hothers⟩
      · rw [if_neg hmultiplicative]
        refine ⟨front, token :: (start ++ others ++ sums), ?_, ?_, ?_⟩
        · rw [hsplit]
        · exact ⟨front, [], by simp, hfirst, .nil⟩
        · exact .cons (Operator.isAdditive_of_not hne hmultiplicative) htoken
            ⟨start, others, rfl, hstart, hothers⟩ hsums

theorem Series.Spells.products {series : Series Operand} {tokens : List Token}
    (h : series.Spells tokens) :
    series.products.SpelledBy Operator.IsAdditive SpellsProduct tokens := by
  obtain ⟨front, back, rfl, hfirst, hrest⟩ := h
  exact hrest.group hfirst

/-! ## Tokens spell at most one series -/

theorem Operator.kind_injective {operator other : Operator} (h : operator.kind = other.kind) :
    operator = other := by
  cases operator <;> cases other <;> cases h <;> rfl

theorem Kind.IsNumber.ne_minus {kind : Kind} (h : kind.IsNumber) : kind ≠ .minus := by
  rintro rfl
  simp [IsNumber] at h

/-- The signs in front of a number end where the number stands. -/
theorem append_number_unique {signs others back later : List Token} {number other : Token}
    (hsigns : ∀ token ∈ signs, token.kind = .minus)
    (hothers : ∀ token ∈ others, token.kind = .minus)
    (hnumber : number.kind.IsNumber) (hother : other.kind.IsNumber)
    (h : signs ++ number :: back = others ++ other :: later) :
    signs = others ∧ number = other ∧ back = later := by
  induction signs generalizing others with
  | nil =>
      cases others with
      | nil => simpa using h
      | cons minus others =>
          cases h
          exact (hnumber.ne_minus (hothers number List.mem_cons_self)).elim
  | cons minus signs ih =>
      cases others with
      | nil =>
          cases h
          exact (hother.ne_minus (hsigns other List.mem_cons_self)).elim
      | cons first others =>
          obtain ⟨rfl, hrest⟩ := List.cons.inj h
          obtain ⟨rfl, hback⟩ := ih (fun token hmem => hsigns token (List.mem_cons_of_mem _ hmem))
            (fun token hmem => hothers token (List.mem_cons_of_mem _ hmem)) hrest
          exact ⟨rfl, hback⟩

theorem Operand.Spells.unique {operand other : Operand} {front start back later : List Token}
    (h : operand.Spells front) (hother : other.Spells start)
    (heq : front ++ back = start ++ later) : operand = other ∧ back = later := by
  cases h with
  | intro hsigns hkind hvalue =>
      cases hother with
      | intro hothers hotherKind hotherValue =>
          simp only [List.append_assoc, List.singleton_append] at heq
          obtain ⟨rfl, rfl, rfl⟩ := append_number_unique hsigns hothers hkind hotherKind heq
          rw [hvalue] at hotherValue
          cases hotherValue
          exact ⟨rfl, rfl⟩

theorem Links.unique {joins : Operator → Prop} {rest others : List (Operator × Operand)}
    {tokens : List Token} (h : Links joins Operand.Spells rest tokens)
    (hothers : Links joins Operand.Spells others tokens) : rest = others := by
  induction h generalizing others with
  | nil =>
      cases hothers
      rfl
  | @cons operator token operand rest front back hjoins htoken hoperand hrest ih =>
      generalize htokens : token :: (front ++ back) = tokens at hothers
      cases hothers with
      | nil => cases htokens
      | cons _ hother hfirst hlater =>
          obtain ⟨rfl, heq⟩ := List.cons.inj htokens
          obtain ⟨rfl, rfl⟩ := hoperand.unique hfirst heq
          obtain rfl := Operator.kind_injective (htoken.symm.trans hother)
          rw [ih hlater]

/-- No tokens spell two series. -/
theorem Series.Spells.unique {series other : Series Operand} {tokens : List Token}
    (h : series.Spells tokens) (hother : other.Spells tokens) : series = other := by
  obtain ⟨front, back, rfl, hfirst, hrest⟩ := h
  obtain ⟨start, later, heq, hstart, hlater⟩ := hother
  obtain ⟨hsame, rfl⟩ := hfirst.unique hstart heq
  have hlinks := hrest.unique hlater
  cases series
  cases other
  cases hsame
  cases hlinks
  rfl

/-! ## Where both readings agree -/

theorem Operator.apply_negateTimes {operator : Operator} (h : operator.IsMultiplicative)
    (signs : Nat) (x y : Float) :
    operator.apply (negateTimes signs x) y = negateTimes signs (operator.apply x y) := by
  induction signs with
  | zero => rfl
  | succ signs ih => rw [negateTimes, negateTimes, Operator.apply_neg h, ih]

/-- In front of the whole product, a minus sign negates the first number as well. -/
theorem Series.negateTimes_productFrom {rest : List (Operator × Operand)}
    (hjoins : ∀ link ∈ rest, link.1.IsMultiplicative)
    (houtside : ∀ link ∈ rest.dropLast, link.2.signs = 0) (signs : Nat) (x : Float) :
    negateTimes signs (productFrom x rest) =
      rest.foldl (fun x link => link.1.apply x link.2.value) (negateTimes signs x) := by
  induction rest generalizing x with
  | nil => rfl
  | cons link rest ih =>
      obtain ⟨operator, ⟨inner, y⟩⟩ := link
      have hoperator := hjoins _ List.mem_cons_self
      cases rest with
      | nil =>
          cases inner with
          | zero =>
              simp only [productFrom, List.foldl_cons, List.foldl_nil, Operand.value, negateTimes]
              exact (Operator.apply_negateTimes hoperator signs x y).symm
          | succ inner => exact (Operator.apply_negateTimes hoperator signs x _).symm
      | cons next rest =>
          obtain rfl : inner = 0 := houtside _ List.mem_cons_self
          have hrest := ih (fun link hmem => hjoins link (List.mem_cons_of_mem _ hmem))
            (fun link hmem => houtside link (List.mem_cons_of_mem _ hmem)) (operator.apply x y)
          rw [productFrom, hrest, List.foldl_cons,
            ← Operator.apply_negateTimes hoperator signs x y]
          rfl

namespace Series

variable {α : Type}

theorem fromLeft_congr {value other : α → Float} {series : Series α}
    (h : ∀ part ∈ series.parts, value part = other part) :
    series.fromLeft value = series.fromLeft other := by
  unfold fromLeft
  rw [h series.first List.mem_cons_self]
  apply List.foldl_ext
  intro x link hmem
  rw [h link.2 (List.mem_cons_of_mem _ (List.mem_map_of_mem hmem))]

theorem isMultiplicative_of_mem_group {first : Operand} {rest : List (Operator × Operand)} :
    ∀ product ∈ (group first rest).parts, ∀ link ∈ product.rest, link.1.IsMultiplicative := by
  induction rest generalizing first with
  | nil => simp [group, parts]
  | cons link rest ih =>
      have hlater := @ih link.2
      simp only [parts, List.forall_mem_cons] at hlater
      unfold group
      by_cases hmultiplicative : link.1.IsMultiplicative
      · rw [if_pos hmultiplicative]
        simp only [parts, List.forall_mem_cons]
        exact ⟨⟨hmultiplicative, hlater.1⟩, hlater.2⟩
      · rw [if_neg hmultiplicative]
        simp only [parts, List.map_cons, List.forall_mem_cons]
        exact ⟨by simp, hlater⟩

/-- Minus signs in front of the first and the last number of a product may as well
belong to these numbers. -/
theorem reading_eq_standard {series : Series Operand} (h : series.SignsOutside) :
    series.reading = series.standard := by
  apply fromLeft_congr
  intro product hmem
  exact negateTimes_productFrom (isMultiplicative_of_mem_group product hmem) (h product hmem) _ _

end Series

end Formula
