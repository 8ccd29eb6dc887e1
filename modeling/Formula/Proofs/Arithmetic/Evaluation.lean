import Formula.Proofs.Arithmetic.Series
import Formula.Proofs.Grammar.Sound
import Formula.Proofs.Literals

/-!
# Series of numbers have values

The grammar derives every series of numbers, with the reading in which minus
signs negate the rest of their product.  A derivation of a series nests fewer
levels than the series has tokens, so a limit above their number always suffices.
-/

namespace Formula

open Evaluation TokenStream

variable {registry : Registry}

/-- The tokens are derived from the symbol, at fewer levels than there are tokens. -/
def Builds (registry : Registry) (symbol : Symbol) (tokens : List Token) (x : Float) : Prop :=
  ∃ nesting < tokens.length, Derives registry symbol tokens x nesting

namespace Builds

variable {tokens : List Token} {x : Float}

theorem number {token : Token} (hkind : token.kind.IsNumber) (hvalue : token.value = .ok x) :
    Builds registry .factor [token] x :=
  ⟨0, by simp, .chain .primary (.number (.inl rfl) hkind hvalue)⟩

theorem chain {symbol inner : Symbol} (hchain : Chain symbol inner)
    (h : Builds registry inner tokens x) : Builds registry symbol tokens x := by
  obtain ⟨nesting, hlt, hderives⟩ := h
  exact ⟨nesting, hlt, .chain hchain hderives⟩

theorem binary {symbol left right : Symbol} {operator : Operator} {token : Token}
    {front back : List Token} {y : Float} (hrule : Infix symbol left operator right)
    (htoken : token.kind = operator.kind) (hleft : Builds registry left front x)
    (hright : Builds registry right back y) :
    Builds registry symbol (front ++ token :: back) (operator.apply x y) := by
  obtain ⟨leftNesting, hleftLt, hleftDerives⟩ := hleft
  obtain ⟨rightNesting, hrightLt, hrightDerives⟩ := hright
  refine ⟨max leftNesting (1 + rightNesting), ?_, .binary hrule htoken hleftDerives hrightDerives⟩
  rw [List.length_append, List.length_cons]
  omega

theorem negation {minus : Token} (hminus : minus.kind = .minus)
    (h : Builds registry .term tokens x) : Builds registry .negative (minus :: tokens) (-x) := by
  obtain ⟨nesting, hlt, hderives⟩ := h
  refine ⟨1 + nesting, ?_, .negation (.inl rfl) hminus hderives⟩
  rw [List.length_cons]
  omega

theorem signed {signs : List Token} (hsigns : ∀ token ∈ signs, token.kind = .minus)
    (h : Builds registry .term tokens x) :
    Builds registry .term (signs ++ tokens) (negateTimes signs.length x) := by
  induction signs with
  | nil => exact h
  | cons minus signs ih =>
      have hrest := ih fun token hmem => hsigns token (List.mem_cons_of_mem minus hmem)
      exact (hrest.negation (hsigns minus List.mem_cons_self)).chain .negative

end Builds

/-! ## Products and sums -/

theorem Operator.IsMultiplicative.infix {operator : Operator} (h : operator.IsMultiplicative) :
    Infix .product .product operator .factor ∧ Infix .term .product operator .negative := by
  rcases h with rfl | rfl
  · exact ⟨.product, .productOfNegative⟩
  · exact ⟨.quotient, .quotientByNegative⟩

theorem Operator.IsAdditive.infix {operator : Operator} (h : operator.IsAdditive) :
    Infix .expression .expression operator .term := by
  rcases h with rfl | rfl
  · exact .sum
  · exact .difference

/-- A factor without signs prolongs the product on its left; one with signs starts
a product that becomes the last operand. -/
theorem Links.builds_term {rest : List (Operator × Operand)} {front back : List Token} {x : Float}
    (h : Links Operator.IsMultiplicative Operand.Spells rest back)
    (hfront : Builds registry .product front x) :
    Builds registry .term (front ++ back) (Series.productFrom x rest) := by
  induction h generalizing front x with
  | nil =>
      rw [List.append_nil]
      exact hfront.chain .product
  | @cons operator token operand rest inner back hoperator htoken hoperand hrest ih =>
      obtain ⟨hfactor, hnegative⟩ := hoperator.infix
      cases hoperand with
      | @intro signs number y hsigns hkind hvalue =>
          have hnumber : Builds registry .factor [number] y := .number hkind hvalue
          cases signs with
          | nil =>
              have hjoined := ih (Builds.binary hfactor htoken hfront hnumber)
              rw [List.append_assoc] at hjoined
              exact hjoined
          | cons minus signs =>
              have hlater := ih (hnumber.chain .factor)
              have hsigned := hlater.signed fun token hmem =>
                hsigns token (List.mem_cons_of_mem minus hmem)
              have hjoined := Builds.binary hnegative htoken hfront
                (hsigned.negation (hsigns minus List.mem_cons_self))
              rw [List.append_assoc (minus :: signs)]
              exact hjoined

theorem Series.SpellsProduct.builds {series : Series Operand} {tokens : List Token}
    (h : series.SpellsProduct tokens) : Builds registry .term tokens series.product := by
  obtain ⟨front, back, rfl, hfirst, hrest⟩ := h
  obtain ⟨first, rest⟩ := series
  cases hfirst with
  | @intro signs number x hsigns hkind hvalue =>
      have hnumber : Builds registry .product [number] x := .chain .factor (.number hkind hvalue)
      rw [List.append_assoc]
      exact (hrest.builds_term hnumber).signed hsigns

theorem Links.builds_expression {rest : List (Operator × Series Operand)}
    {front back : List Token} {x : Float}
    (h : Links Operator.IsAdditive Series.SpellsProduct rest back)
    (hfront : Builds registry .expression front x) :
    Builds registry .expression (front ++ back)
      (rest.foldl (fun x link => link.1.apply x link.2.product) x) := by
  induction h generalizing front x with
  | nil =>
      rw [List.append_nil]
      exact hfront
  | cons hoperator htoken hproduct hrest ih =>
      have hjoined := ih (Builds.binary hoperator.infix htoken hfront hproduct.builds)
      rw [List.append_assoc] at hjoined
      exact hjoined

theorem Series.Spells.builds {series : Series Operand} {tokens : List Token}
    (h : series.Spells tokens) : Builds registry .expression tokens series.reading := by
  obtain ⟨front, back, rfl, hfirst, hrest⟩ := h.products
  exact hrest.builds_expression (hfirst.builds.chain .term)

/-! ## Whole formulas -/

/-- A series of numbers has the value in which each minus sign negates the rest of
its product.  This is the standard reading if minus signs stand in front of the
first and the last number of each product only. -/
theorem evaluateWithin_series (registry : Registry) {limit : Nat} {input : String}
    {tokens : List Token} (htokens : tokenize input = .ok tokens)
    (harranged : Arranged (tokens.map Token.kind)) (hlimit : tokens.length + 1 ≤ limit) :
    ∃ series : Series Operand, series.Spells tokens ∧
      evaluateWithin registry limit input = .ok series.reading ∧
      (series.SignsOutside → series.reading = series.standard) := by
  have hvalues := Scan.exists_value input
  rw [Scan.eq_of_tokenize htokens] at hvalues
  obtain ⟨series, hspells⟩ := harranged.exists_spells hvalues
  obtain ⟨nesting, hlt, hderives⟩ : Builds registry .expression tokens series.reading :=
    hspells.builds
  obtain ⟨stream, last, hread, htakes, hend⟩ := takes_of_tokenize htokens
  refine ⟨series, hspells, ?_, Series.reading_eq_standard⟩
  rw [evaluateWithin_eq, hread, ok_bind, outcome_whole_of_derives htakes hend hderives (by omega),
    ok_bind]

/-! ## A minus sign between two factors -/

namespace InnerSign

/-- The numbers of `6 / -2 * 3`. -/
def series : Series Operand :=
  ⟨⟨0, 6⟩, [(.divide, ⟨1, 2⟩), (.multiply, ⟨0, 3⟩)]⟩

def tokens : List Token :=
  [⟨.integer, "6", 0⟩, ⟨.slash, "/", 2⟩, ⟨.minus, "-", 4⟩, ⟨.integer, "2", 5⟩,
    ⟨.star, "*", 7⟩, ⟨.integer, "3", 9⟩]

theorem tokenize_eq : tokenize "6 / -2 * 3" = .ok tokens := by
  decide +kernel

theorem arranged : Arranged (tokens.map Token.kind) :=
  .joined (.inr rfl) (by decide) (.negative (.joined (.inr rfl) (by decide) (.number (.inr rfl))))

theorem spells : series.Spells tokens := by
  have hsix : Operand.Spells ⟨0, 6⟩ [⟨.integer, "6", 0⟩] :=
    .ofNumber (.inr rfl) (by decide +kernel)
  have htwo : Operand.Spells ⟨1, 2⟩ [⟨.minus, "-", 4⟩, ⟨.integer, "2", 5⟩] :=
    @Operand.Spells.intro [⟨.minus, "-", 4⟩] _ _ (by decide) (.inr rfl) (by decide +kernel)
  have hthree : Operand.Spells ⟨0, 3⟩ [⟨.integer, "3", 9⟩] :=
    .ofNumber (.inr rfl) (by decide +kernel)
  exact ⟨[⟨.integer, "6", 0⟩], _, rfl, hsix,
    .cons (by decide) rfl htwo (.cons (by decide) rfl hthree .nil)⟩

end InnerSign

/-- The formula `6 / -2 * 3` is read as `6 / -(2 * 3)`. -/
theorem evaluateWithin_series_inner_sign :
    InnerSign.tokens.length + 1 ≤ 7 ∧
      ∃ series : Series Operand, series.Spells InnerSign.tokens ∧
        evaluateWithin .empty 7 "6 / -2 * 3" = .ok series.reading ∧
        (series.SignsOutside → series.reading = series.standard) :=
  ⟨by decide, evaluateWithin_series .empty InnerSign.tokenize_eq InnerSign.arranged (by decide)⟩

/-- Not every series of numbers has the value of its standard reading: that of
`6 / -2 * 3` is `(6 / -2) * 3`. -/
theorem not_evaluateWithin_standard :
    ¬ ∀ (registry : Registry) (limit : Nat) (input : String) (tokens : List Token),
      tokenize input = .ok tokens → Arranged (tokens.map Token.kind) →
        tokens.length + 1 ≤ limit →
          ∃ series : Series Operand, series.Spells tokens ∧
            evaluateWithin registry limit input = .ok series.standard := by
  intro h
  obtain ⟨series, hspells, hvalue⟩ :=
    h .empty 7 "6 / -2 * 3" InnerSign.tokens InnerSign.tokenize_eq InnerSign.arranged (by decide)
  obtain rfl := hspells.unique InnerSign.spells
  have hfound : evaluateWithin .empty 7 "6 / -2 * 3" = .ok (-1) := by decide +kernel
  have hstandard : InnerSign.series.standard = -9 := by decide +kernel
  have hne : (-1 : Float) ≠ -9 := by decide +kernel
  rw [hfound, hstandard] at hvalue
  exact hne (Except.ok.inj hvalue)

end Formula
