import Formula.Proofs.Grammar.Basic
import Formula.Proofs.Layout
import Formula.Proofs.Tree.Basic

/-!
# Printed trees are laid out

No two names or numbers of a printed tree stand next to each other, so each part
of a tree is laid out behind whatever is printed before it.
-/

namespace Formula

inductive Grouped : List Token → List Token → Prop
  | intro {opening closing : Token} {tokens : List Token} (hopening : opening.kind = .openParen)
      (hclosing : closing.kind = .closeParen) : Grouped tokens (opening :: (tokens ++ [closing]))

inductive Tree.Spells : Tree → List Token → Prop
  | literal {numeral : Numeral} {token : Token} (hkind : token.kind = numeral.kind)
      (htext : token.text = String.ofList numeral.characters) : Spells (.literal numeral) [token]
  | name {word : Word} {token : Token} (hkind : token.kind = .name)
      (htext : token.text = String.ofList word.letters) : Spells (.name word) [token]
  | negate {operand : Tree} {minus : Token} {tokens group : List Token}
      (hminus : minus.kind = .minus) (hoperand : Spells operand tokens)
      (hgroup : Grouped tokens group) : Spells (.negate operand) (minus :: group)
  | binary {operator : Operator} {left right : Tree} {token : Token}
      {leftTokens rightTokens front back : List Token} (hleft : Spells left leftTokens)
      (hfront : Grouped leftTokens front) (htoken : token.kind = operator.kind)
      (hright : Spells right rightTokens) (hback : Grouped rightTokens back) :
      Spells (.binary operator left right) (front ++ token :: back)
  | call {head argument : Tree} {headTokens argumentTokens front inner back : List Token}
      (hhead : Spells head headTokens) (hfront : Grouped headTokens front)
      (hargument : Spells argument argumentTokens) (hinner : Grouped argumentTokens inner)
      (hback : Grouped inner back) : Spells (.call head argument) (front ++ back)

def Kind.IsSymbol (kind : Kind) : Prop :=
  kind ≠ .name ∧ ¬ kind.IsNumber

theorem Kind.IsSymbol.not_fuses_right {kind : Kind} (h : kind.IsSymbol) (previous : Kind) :
    ¬ previous.Fuses kind := by
  rintro (⟨_, hname⟩ | ⟨_, hnumber⟩)
  · exact h.1 hname
  · exact h.2 hnumber

theorem Kind.IsSymbol.not_fuses_left {kind : Kind} (h : kind.IsSymbol) (next : Kind) :
    ¬ kind.Fuses next := by
  rintro (⟨hname, _⟩ | ⟨hnumber, _⟩)
  · exact h.1 hname
  · exact h.2 hnumber

theorem isSymbol_openParen : Kind.IsSymbol .openParen := by
  simp [Kind.IsSymbol, Kind.IsNumber]

theorem isSymbol_closeParen : Kind.IsSymbol .closeParen := by
  simp [Kind.IsSymbol, Kind.IsNumber]

theorem Operator.isSymbol_kind (operator : Operator) : operator.kind.IsSymbol := by
  cases operator <;> simp [Operator.kind, Kind.IsSymbol, Kind.IsNumber]

theorem Operator.spelled_sign (operator : Operator) :
    Spelled operator.kind operator.sign.toList := by
  cases operator <;> constructor

/-! ## Parts of a text -/

/-- A token without blanks before it. -/
theorem Laid.cons {before : Option Kind} {offset : Nat} {text rest : List Char} {kind : Kind}
    {tokens : List Token} (hspelled : Spelled kind text)
    (happart : ∀ previous ∈ before, ¬ previous.Fuses kind)
    (hrest : Laid (some kind) (offset + byteLength text) rest tokens) :
    Laid before offset (text ++ rest) (⟨kind, String.ofList text, offset⟩ :: tokens) := by
  have hgap : ∀ c ∈ ([] : List Char), Text.isBlank c = true := by simp
  exact .token hgap hspelled (fun _ => happart) hrest

/-- Behind symbols and before what may follow anything, the text is laid out as
tokens with a property. -/
def LaysOut (text : List Char) (property : List Token → Prop) : Prop :=
  ∀ before offset rest tokens, (∀ previous ∈ before, Kind.IsSymbol previous) →
    (∀ kind, Laid (some kind) (offset + byteLength text) rest tokens) →
      ∃ front, property front ∧ Laid before offset (text ++ rest) (front ++ tokens)

def parenthesize (text : List Char) : List Char :=
  ['('] ++ (text ++ [')'])

/-- Parentheses separate: anything may come before them, and behind them anything
that may follow a parenthesis. -/
theorem LaysOut.exists_grouped {text : List Char} {property : List Token → Prop}
    (h : LaysOut text property) {offset : Nat} {rest : List Char} {tokens : List Token}
    (hrest : Laid (some .closeParen) (offset + byteLength (parenthesize text)) rest tokens) :
    ∃ inner group, property inner ∧ Grouped inner group ∧
      ∀ before, Laid before offset (parenthesize text ++ rest) (group ++ tokens) := by
  simp only [parenthesize, byteLength_append, ← Nat.add_assoc] at hrest
  let opening : Token := ⟨.openParen, String.ofList ['('], offset⟩
  let closing : Token :=
    ⟨.closeParen, String.ofList [')'], offset + byteLength ['('] + byteLength text⟩
  have hclosing : ∀ kind, Laid (some kind) closing.position ([')'] ++ rest) (closing :: tokens) :=
    fun kind => .cons .closeParen (fun previous _ => isSymbol_closeParen.not_fuses_right previous)
      hrest
  have hopening : ∀ previous ∈ some Kind.openParen, previous.IsSymbol := by
    intro _ hhead
    cases hhead
    exact isSymbol_openParen
  obtain ⟨inner, hinner, hlaid⟩ := h _ _ _ _ hopening hclosing
  refine ⟨inner, opening :: (inner ++ [closing]), hinner, .intro rfl rfl, ?_⟩
  intro before
  have hgroup : Laid before offset (['('] ++ _) (opening :: _) :=
    .cons .openParen (fun previous _ => isSymbol_openParen.not_fuses_right previous) hlaid
  simpa [parenthesize] using hgroup

theorem LaysOut.parenthesize {text : List Char} {property : List Token → Prop}
    (h : LaysOut text property) :
    LaysOut (parenthesize text) fun group => ∃ inner, property inner ∧ Grouped inner group := by
  intro before offset rest tokens _ hrest
  obtain ⟨inner, group, hinner, hgroup, hlaid⟩ := h.exists_grouped (hrest .closeParen)
  exact ⟨group, ⟨inner, hinner, hgroup⟩, hlaid before⟩

/-! ## Whole trees -/

namespace Tree

theorem toList_print_negate (operand : Tree) :
    (negate operand).print.toList = ['-'] ++ parenthesize operand.print.toList := by
  simp [print, parenthesize]

theorem toList_print_binary (operator : Operator) (left right : Tree) :
    (binary operator left right).print.toList =
      parenthesize left.print.toList ++
        (operator.sign.toList ++ parenthesize right.print.toList) := by
  simp [print, parenthesize]

theorem toList_print_call (head argument : Tree) :
    (call head argument).print.toList =
      parenthesize head.print.toList ++ parenthesize (parenthesize argument.print.toList) := by
  simp [print, parenthesize]

theorem laysOut_print (tree : Tree) : LaysOut tree.print.toList tree.Spells := by
  induction tree with
  | literal numeral =>
      intro before offset rest tokens hbefore hrest
      have hapart : ∀ previous ∈ before, ¬ previous.Fuses numeral.kind :=
        fun previous hmem => (hbefore previous hmem).not_fuses_left _
      rw [print, String.toList_ofList] at hrest ⊢
      exact ⟨[_], .literal rfl rfl, .cons numeral.spelled hapart (hrest _)⟩
  | name word =>
      intro before offset rest tokens hbefore hrest
      have hapart : ∀ previous ∈ before, ¬ previous.Fuses .name :=
        fun previous hmem => (hbefore previous hmem).not_fuses_left _
      rw [print, String.toList_ofList] at hrest ⊢
      exact ⟨[_], .name rfl rfl, .cons (.name word.alphabetic) hapart (hrest _)⟩
  | negate operand ih =>
      intro before offset rest tokens hbefore hrest
      simp only [toList_print_negate, byteLength_append, ← Nat.add_assoc] at hrest
      obtain ⟨inner, group, hinner, hgroup, hlaid⟩ := ih.exists_grouped (hrest .closeParen)
      have hapart : ∀ previous ∈ before, ¬ previous.Fuses .minus :=
        fun previous hmem => (hbefore previous hmem).not_fuses_left _
      refine ⟨⟨.minus, String.ofList ['-'], offset⟩ :: group, .negate rfl hinner hgroup, ?_⟩
      rw [toList_print_negate, List.append_assoc]
      exact .cons .minus hapart (hlaid _)
  | binary operator left right ihleft ihright =>
      intro before offset rest tokens hbefore hrest
      simp only [toList_print_binary, byteLength_append, ← Nat.add_assoc] at hrest
      obtain ⟨rightTokens, back, hright, hback, hlaid⟩ := ihright.exists_grouped (hrest .closeParen)
      let token : Token := ⟨operator.kind, String.ofList operator.sign.toList,
        offset + byteLength (parenthesize left.print.toList)⟩
      have hsign : Laid (some .closeParen) token.position _ (token :: (back ++ tokens)) :=
        .cons operator.spelled_sign
          (fun previous _ => operator.isSymbol_kind.not_fuses_right previous) (hlaid _)
      obtain ⟨leftTokens, front, hleft, hfront, hwhole⟩ := ihleft.exists_grouped hsign
      refine ⟨front ++ token :: back, .binary hleft hfront rfl hright hback, ?_⟩
      simpa only [toList_print_binary, List.append_assoc, List.cons_append] using hwhole before
  | call head argument ihhead ihargument =>
      intro before offset rest tokens hbefore hrest
      simp only [toList_print_call, byteLength_append, ← Nat.add_assoc] at hrest
      obtain ⟨inner, back, ⟨argumentTokens, hargument, hinner⟩, hback, hlaid⟩ :=
        ihargument.parenthesize.exists_grouped (hrest .closeParen)
      obtain ⟨headTokens, front, hhead, hfront, hwhole⟩ := ihhead.exists_grouped (hlaid _)
      refine ⟨front ++ back, .call hhead hfront hargument hinner hback, ?_⟩
      simpa only [toList_print_call, List.append_assoc] using hwhole before

/-- A printed tree is read as the tokens that it was printed as. -/
theorem tokenize_print (tree : Tree) :
    ∃ tokens, tree.Spells tokens ∧ tokenize tree.print = .ok tokens := by
  obtain ⟨tokens, hspells, hlaid⟩ :=
    tree.laysOut_print none 0 [] [] (by simp) (fun _ => .ending (by simp))
  rw [List.append_nil, List.append_nil] at hlaid
  exact ⟨tokens, hspells, tokenize_of_laid hlaid⟩

end Tree

end Formula
