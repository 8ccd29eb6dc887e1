import Formula.Proofs.Likeness.Moved

/-!
# Other numbers

Whether a formula has a value, and why it has none, does not depend on numbers:
neither on those that it is written with nor on those that its constants stand
for or its functions come to.
-/

namespace Formula

/-- The two tokens are the same, wherever they stand, or both are numbers. -/
def Token.Interchangeable (t u : Token) : Prop :=
  t.content = u.content ∨ (t.kind.IsNumber ∧ u.kind.IsNumber)

structure Registry.SameNames (first second : Registry) : Prop where
  constants : ∀ name, (first.constant? name).isSome = (second.constant? name).isSome
  functions : ∀ name, (first.function? name).isSome = (second.function? name).isSome

theorem rel_of_isSome_eq {α β : Type} {relation : α → β → Prop} {x? : Option α} {y? : Option β}
    (h : x?.isSome = y?.isSome) (hrelation : ∀ x y, relation x y) : Option.Rel relation x? y? := by
  cases x? with
  | none =>
      cases y? with
      | none => exact .none
      | some y => cases h
  | some x =>
      cases y? with
      | none => cases h
      | some y => exact .some (hrelation x y)

/-- Tokens at one index of two texts, the same or numbers. -/
def Placed (text other : String) (t u : Token) : Prop :=
  Counterparts text other t u ∧ t.Interchangeable u

namespace Placed

variable {text other : String} {t u : Token}

theorem kind (h : Placed text other t u) :
    t.kind = u.kind ∨ (t.kind.IsNumber ∧ u.kind.IsNumber) :=
  h.2.imp_left Token.kind_eq_of_content

theorem text_eq (h : Placed text other t u) (hkind : t.kind = .name) : t.text = u.text := by
  rcases h.2 with hcontent | ⟨hnumber, _⟩
  · exact Token.text_eq_of_content hcontent
  · rcases hnumber with hnumber | hnumber <;> rw [hkind] at hnumber <;> cases hnumber

theorem exists_values (h : Placed text other t u) (hkind : t.kind.IsNumber) :
    ∃ x y, t.value = .ok x ∧ u.value = .ok y := by
  have hother : u.kind.IsNumber := by
    rcases h.kind with hsame | ⟨_, hnumber⟩
    · exact hsame ▸ hkind
    · exact hnumber
  cases h.1 with
  | ending => rcases hkind with hkind | hkind <;> cases hkind
  | token index ht hu =>
      obtain ⟨x, hx⟩ := Scan.exists_value text t (List.mem_of_getElem? ht) hkind
      obtain ⟨y, hy⟩ := Scan.exists_value other u (List.mem_of_getElem? hu) hother
      exact ⟨x, y, hx, hy⟩

end Placed

/-- All numbers are alike. -/
def Likeness.placed {first second : Registry} (hnames : first.SameNames second)
    (text other : String) : Likeness first second where
  token := Placed text other
  number _ _ := True
  kind := Placed.kind
  value h hkind := by
    obtain ⟨x, y, hx, hy⟩ := h.exists_values hkind
    exact ⟨x, y, hx, hy, trivial⟩
  text := Placed.text_eq
  constant _ _ := rel_of_isSome_eq (hnames.constants _) fun _ _ => trivial
  function _ _ _ := rel_of_isSome_eq (hnames.functions _) fun _ _ _ _ _ => trivial
  negate _ := trivial
  apply _ _ _ _ _ _ _ := trivial

/-- Of two formulas that differ in their numbers, with constants and functions that differ in
what they come to, both have a value, or both fail for one reason and at one token. -/
theorem evaluateWithin_whatever_numbers (limit : Nat) {first second : Registry}
    (hnames : first.SameNames second) {text other : String} {tokens others : List Token}
    (htext : tokenize text = .ok tokens) (hother : tokenize other = .ok others)
    (htokens : List.Forall₂ Token.Interchangeable tokens others) :
    Matched (fun _ _ => True) (Error.Like (Placed text other) fun _ _ => True)
      (evaluateWithin first limit text) (evaluateWithin second limit other) :=
  (Likeness.placed hnames text other).matched_of_tokenize htext
    (forall₂_counterparts htext hother htokens (.inl rfl))

/-- Behind `2` and behind `0.5` a name is unexpected, whatever it stands for. -/
theorem evaluateWithin_whatever_numbers_trailing_name :
    Matched (fun _ _ => True) (Error.Like (Placed "2 x" "0.5 x") fun _ _ => True)
      (evaluateWithin (Registry.empty.insertConstant "x" 1) 4 "2 x")
      (evaluateWithin (Registry.empty.insertConstant "x" 0) 4 "0.5 x") := by
  have hnames : (Registry.empty.insertConstant "x" 1).SameNames
      (Registry.empty.insertConstant "x" 0) := by
    refine ⟨fun name => ?_, fun name => rfl⟩
    rw [Registry.constant?_insertConstant, Registry.constant?_insertConstant]
    split <;> rfl
  have htext : tokenize "2 x" = .ok [⟨.integer, "2", 0⟩, ⟨.name, "x", 2⟩] := by decide +kernel
  have hother : tokenize "0.5 x" = .ok [⟨.decimal, "0.5", 0⟩, ⟨.name, "x", 4⟩] := by
    decide +kernel
  exact evaluateWithin_whatever_numbers 4 hnames htext hother
    (.cons (.inr ⟨.inr rfl, .inl rfl⟩) (.cons (.inl rfl) .nil))

end Formula
