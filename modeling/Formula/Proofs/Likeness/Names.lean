import Formula.Proofs.Likeness.Moved
import Mathlib.Data.List.Induction

/-!
# Names that a formula does not read

An evaluation asks its registry for the names that stand in the formula, and for
a function only where the name is no constant.  Of all that was registered, the
last constant and the last function of each such name are what it sees.
-/

namespace Formula

/-! ## Registrations in a row -/

inductive Registration where
  | constant (name : String) (value : Float)
  | function (name : String) (function : UnaryFunction)

/-- What a registration replaces the meaning of: a name as a constant or as a function. -/
inductive Slot where
  | constant (name : String)
  | function (name : String)
  deriving DecidableEq

namespace Registration

def name : Registration → String
  | .constant name _ => name
  | .function name _ => name

def slot : Registration → Slot
  | .constant name _ => .constant name
  | .function name _ => .function name

def constantOf? (name : String) : Registration → Option Float
  | .constant other value => if other = name then some value else none
  | .function _ _ => none

def functionOf? (name : String) : Registration → Option UnaryFunction
  | .constant _ _ => none
  | .function other found => if other = name then some found else none

def lastConstant? (registrations : List Registration) (name : String) : Option Float :=
  registrations.reverse.findSome? (constantOf? name)

def lastFunction? (registrations : List Registration) (name : String) : Option UnaryFunction :=
  registrations.reverse.findSome? (functionOf? name)

/-- A name is registered alike at last: as one constant, or else for functions with the same
results, if it is registered at all. -/
def AlikeAt (first second : List Registration) (name : String) : Prop :=
  lastConstant? first name = lastConstant? second name ∧
    (lastConstant? first name = none →
      (lastFunction? first name).map UnaryFunction.apply =
        (lastFunction? second name).map UnaryFunction.apply)

end Registration

namespace Registry

def register (registry : Registry) : Registration → Registry
  | .constant name value => registry.insertConstant name value
  | .function name function => registry.insertFunction name function

def ofRegistrations (registrations : List Registration) : Registry :=
  registrations.foldl register empty

open Registration

/-- The last registration of a name is the one that counts. -/
theorem constant?_ofRegistrations (registrations : List Registration) (name : String) :
    (ofRegistrations registrations).constant? name = lastConstant? registrations name := by
  induction registrations using List.reverseRecOn with
  | nil => rfl
  | append_singleton front last ih =>
      unfold ofRegistrations lastConstant? at ih ⊢
      rw [List.foldl_append, List.reverse_concat, List.findSome?_cons]
      cases last with
      | constant other value =>
          simp only [List.foldl_cons, List.foldl_nil, register, constantOf?,
            constant?_insertConstant]
          split
          · rfl
          · exact ih
      | function other function =>
          simp only [List.foldl_cons, List.foldl_nil, register, constantOf?,
            constant?_insertFunction]
          exact ih

theorem function?_ofRegistrations (registrations : List Registration) (name : String) :
    (ofRegistrations registrations).function? name = lastFunction? registrations name := by
  induction registrations using List.reverseRecOn with
  | nil => rfl
  | append_singleton front last ih =>
      unfold ofRegistrations lastFunction? at ih ⊢
      rw [List.foldl_append, List.reverse_concat, List.findSome?_cons]
      cases last with
      | constant other value =>
          simp only [List.foldl_cons, List.foldl_nil, register, functionOf?,
            function?_insertConstant]
          exact ih
      | function other function =>
          simp only [List.foldl_cons, List.foldl_nil, register, functionOf?,
            function?_insertFunction]
          split
          · rfl
          · exact ih

end Registry

namespace Registration

/-! ## Registrations that make no difference -/

section Difference

variable {β : Type} {find : Registration → Option β} {name : String}

theorem findSome?_insert_of_none (front back : List Registration) {registration : Registration}
    (h : find registration = none) :
    (front ++ registration :: back).reverse.findSome? find =
      (front ++ back).reverse.findSome? find := by
  simp [List.findSome?_append, h]

theorem findSome?_filter_of_none {keep : Registration → Bool}
    (h : ∀ registration, keep registration = false → find registration = none)
    (registrations : List Registration) :
    (registrations.filter keep).findSome? find = registrations.findSome? find := by
  induction registrations with
  | nil => rfl
  | cons registration registrations ih =>
      cases hkeep : keep registration with
      | true => rw [List.filter_cons_of_pos hkeep, List.findSome?_cons, List.findSome?_cons, ih]
      | false =>
          have hdropped : ¬ keep registration = true := by simp [hkeep]
          rw [List.filter_cons_of_neg hdropped, List.findSome?_cons, h registration hkeep, ih]

theorem constantOf?_eq_none {registration : Registration}
    (h : registration.slot ≠ .constant name) : registration.constantOf? name = none := by
  cases registration with
  | constant other value => exact if_neg fun heq => h (congrArg Slot.constant heq)
  | function => rfl

theorem functionOf?_eq_none {registration : Registration}
    (h : registration.slot ≠ .function name) : registration.functionOf? name = none := by
  cases registration with
  | constant => rfl
  | function other function => exact if_neg fun heq => h (congrArg Slot.function heq)

theorem slot_ne_of_name_ne {registration : Registration} (h : registration.name ≠ name) :
    registration.slot ≠ .constant name ∧ registration.slot ≠ .function name := by
  cases registration with
  | constant => exact ⟨fun heq => h (Slot.constant.inj heq), nofun⟩
  | function => exact ⟨nofun, fun heq => h (Slot.function.inj heq)⟩

/-- A name that is a constant is looked up no further. -/
theorem alikeAt_insert_function (front back : List Registration) {shadowed : String}
    (function : UnaryFunction) (h : (lastConstant? (front ++ back) shadowed).isSome = true) :
    AlikeAt (front ++ .function shadowed function :: back) (front ++ back) name := by
  have hconstant : lastConstant? (front ++ .function shadowed function :: back) name =
      lastConstant? (front ++ back) name :=
    findSome?_insert_of_none front back (constantOf?_eq_none nofun)
  refine ⟨hconstant, fun hnone => ?_⟩
  rw [hconstant] at hnone
  have hname : shadowed ≠ name := by
    rintro rfl
    rw [hnone] at h
    cases h
  have hslot : (Registration.function shadowed function).slot ≠ .function name :=
    fun heq => hname (Slot.function.inj heq)
  exact congrArg _ (findSome?_insert_of_none front back (functionOf?_eq_none hslot))

theorem alikeAt_insert_of_name_ne (front back : List Registration) {registration : Registration}
    (h : registration.name ≠ name) :
    AlikeAt (front ++ registration :: back) (front ++ back) name := by
  obtain ⟨hconstant, hfunction⟩ := slot_ne_of_name_ne h
  refine ⟨findSome?_insert_of_none front back (constantOf?_eq_none hconstant), fun _ => ?_⟩
  exact congrArg _ (findSome?_insert_of_none front back (functionOf?_eq_none hfunction))

/-- Only the registrations of one slot count for it. -/
theorem findSome?_of_slots {first second : List Registration} {slot : Slot}
    (hfind : ∀ registration : Registration, registration.slot ≠ slot → find registration = none)
    (h : first.filter (·.slot = slot) = second.filter (·.slot = slot)) :
    first.reverse.findSome? find = second.reverse.findSome? find := by
  have hdropped : ∀ registration : Registration,
      decide (registration.slot = slot) = false → find registration = none :=
    fun registration hslot => hfind registration (of_decide_eq_false hslot)
  rw [← findSome?_filter_of_none hdropped first.reverse,
    ← findSome?_filter_of_none hdropped second.reverse, List.filter_reverse, List.filter_reverse, h]

theorem alikeAt_of_slots {first second : List Registration}
    (h : ∀ slot, first.filter (·.slot = slot) = second.filter (·.slot = slot)) :
    AlikeAt first second name := by
  refine ⟨findSome?_of_slots (fun _ => constantOf?_eq_none) (h _), fun _ => ?_⟩
  exact congrArg _ (findSome?_of_slots (fun _ => functionOf?_eq_none) (h _))

end Difference

end Registration

/-! ## Evaluations with two registries -/

structure Registry.Agree (first second : Registry) (name : String) : Prop where
  constant : first.constant? name = second.constant? name
  function : first.constant? name = none →
    (first.function? name).map UnaryFunction.apply =
      (second.function? name).map UnaryFunction.apply

theorem Registry.Agree.symm {first second : Registry} {name : String}
    (h : first.Agree second name) : second.Agree first name :=
  ⟨h.constant.symm, fun hnone => (h.function (h.constant.trans hnone)).symm⟩

theorem rel_apply_of_map_eq {first second : Option UnaryFunction}
    (h : first.map UnaryFunction.apply = second.map UnaryFunction.apply) :
    Option.Rel (fun f g => ∀ x y, x = y → f.apply x = g.apply y) first second := by
  cases first with
  | none =>
      cases second with
      | none => exact .none
      | some g => cases h
  | some f =>
      cases second with
      | none => cases h
      | some g => exact .some fun x y hxy => hxy ▸ congrFun (Option.some.inj h) x

def Registry.AgreeOn (first second : Registry) (text : String) : Prop :=
  ∀ token ∈ (Scan.ofText text).tokens, token.kind = .name → first.Agree second token.text

theorem neg_congr {x y : Float} (h : x = y) : -x = -y :=
  congrArg _ h

theorem Operator.apply_congr (operator : Operator) {x y x' y' : Float} (hleft : x = y)
    (hright : x' = y') : operator.apply x x' = operator.apply y y' := by
  rw [hleft, hright]

def Likeness.agreed {first second : Registry} {text : String} (h : first.AgreeOn second text) :
    Likeness first second where
  token t u := t ∈ (Scan.ofText text).sights ∧ t = u
  number := Eq
  kind htoken := .inl (congrArg Token.kind htoken.2)
  value {t u} htoken hkind := by
    obtain ⟨hmem, rfl⟩ := htoken
    have hend : t.kind ≠ .endOfInput := by
      rcases hkind with hkind | hkind <;> simp [hkind]
    obtain ⟨x, hx⟩ := Scan.exists_value text t (Scan.mem_of_mem_sights hmem hend) hkind
    exact ⟨x, x, hx, hx, rfl⟩
  text htoken _ := congrArg Token.text htoken.2
  constant {t _} htoken hkind := by
    have hagree := h t (Scan.mem_of_mem_sights htoken.1 (by simp [hkind])) hkind
    rw [← hagree.constant]
    cases first.constant? t.text with
    | none => exact .none
    | some x => exact .some rfl
  function {t _} htoken hkind hnone := by
    have hagree := h t (Scan.mem_of_mem_sights htoken.1 (by simp [hkind])) hkind
    exact rel_apply_of_map_eq (hagree.function hnone)
  negate := @neg_congr
  apply := @Operator.apply_congr

section Agreed

variable {first second : Registry} {limit : Nat} {text : String}

theorem Likeness.eq_of_matched_agreed {h : first.AgreeOn second text}
    {outcome found : Except Error Float}
    (hmatched : Matched (Likeness.agreed h).number (Likeness.agreed h).Errors outcome found) :
    outcome = found := by
  cases hmatched with
  | ok hnumber => rw [show _ = _ from hnumber]
  | error herror =>
      cases herror with
      | unexpectedToken htoken => rw [htoken.2]
      | unclosedParenthesis htoken => rw [htoken.2]
      | notAFunction htoken hnumber => rw [htoken.2, show _ = _ from hnumber]
      | unknownFunction | unresolvedName | nestedTooDeeply => rfl

theorem evaluateWithin_eq_of_unstrayed (h : first.AgreeOn second text)
    (hstray : Unstrayed (evaluateWithin first limit text)) :
    evaluateWithin first limit text = evaluateWithin second limit text := by
  have halike : List.Forall₂ (Likeness.agreed h).token (run first limit text).reads
      (run first limit text).reads := by
    rw [List.forall₂_same]
    intro token hmem
    exact ⟨(reads_prefix_sights first limit text).mem hmem, rfl⟩
  exact Likeness.eq_of_matched_agreed
    ((Likeness.agreed h).matched halike (reads_prefix_sights first limit text) hstray)

/-- A stray character that is found is the one at which the reading of the text ends. -/
theorem error?_of_not_unstrayed {registry : Registry}
    (h : ¬ Unstrayed (evaluateWithin registry limit text)) :
    ∃ error, evaluateWithin registry limit text = .error error ∧
      (Scan.ofText text).ending.error? = some error := by
  simp only [Unstrayed, not_forall, not_not] at h
  obtain ⟨character, position, herror⟩ := h
  have hreported := meets_evaluateWithin registry limit text
  rw [herror] at hreported
  cases hreported with
  | strayCharacter hending => exact ⟨_, herror, hending⟩

theorem evaluateWithin_congr_agree (h : first.AgreeOn second text) :
    evaluateWithin first limit text = evaluateWithin second limit text := by
  by_cases hfirst : Unstrayed (evaluateWithin first limit text)
  · exact evaluateWithin_eq_of_unstrayed h hfirst
  · by_cases hsecond : Unstrayed (evaluateWithin second limit text)
    · have hback : second.AgreeOn first text := fun token hmem hkind => (h token hmem hkind).symm
      exact (evaluateWithin_eq_of_unstrayed hback hsecond).symm
    · obtain ⟨error, herror, hending⟩ := error?_of_not_unstrayed hfirst
      obtain ⟨other, hother, hsame⟩ := error?_of_not_unstrayed hsecond
      rw [hending] at hsame
      rw [herror, hother, Option.some.inj hsame]

end Agreed

open Registration (lastConstant? AlikeAt)

theorem evaluateWithin_congr_alikeAt (limit : Nat) {text : String}
    {first second : List Registration}
    (h : ∀ token ∈ (Scan.ofText text).tokens, token.kind = .name →
      AlikeAt first second token.text) :
    evaluateWithin (.ofRegistrations first) limit text =
      evaluateWithin (.ofRegistrations second) limit text := by
  apply evaluateWithin_congr_agree
  intro token hmem hkind
  obtain ⟨hconstant, hfunction⟩ := h token hmem hkind
  constructor
  · rw [Registry.constant?_ofRegistrations, Registry.constant?_ofRegistrations, hconstant]
  · rw [Registry.constant?_ofRegistrations, Registry.function?_ofRegistrations,
      Registry.function?_ofRegistrations]
    exact hfunction

/-- Of the registrations that were made, in whatever order, a formula sees the last constant
under each of its names, and the last function under each of them that is no constant.

So it makes no difference to register a function under the name of a constant or anything under
a name that the formula does not have, nor in which order different slots are registered. -/
theorem evaluateWithin_sees_names (limit : Nat) (text : String) :
    (∀ first second,
      (∀ token ∈ (Scan.ofText text).tokens, token.kind = .name →
        AlikeAt first second token.text) →
      evaluateWithin (.ofRegistrations first) limit text =
        evaluateWithin (.ofRegistrations second) limit text) ∧
    (∀ front name function back, (lastConstant? (front ++ back) name).isSome = true →
      evaluateWithin (.ofRegistrations (front ++ .function name function :: back)) limit text =
        evaluateWithin (.ofRegistrations (front ++ back)) limit text) ∧
    (∀ front registration back,
      (∀ token ∈ (Scan.ofText text).tokens, token.kind = .name →
        registration.name ≠ token.text) →
      evaluateWithin (.ofRegistrations (front ++ registration :: back)) limit text =
        evaluateWithin (.ofRegistrations (front ++ back)) limit text) ∧
    (∀ first second : List Registration,
      (∀ slot, first.filter (·.slot = slot) = second.filter (·.slot = slot)) →
      evaluateWithin (.ofRegistrations first) limit text =
        evaluateWithin (.ofRegistrations second) limit text) := by
  refine ⟨fun _ _ => evaluateWithin_congr_alikeAt limit, ?_, ?_, ?_⟩
  · intro front name function back hconstant
    apply evaluateWithin_congr_alikeAt
    exact fun _ _ _ => Registration.alikeAt_insert_function front back function hconstant
  · intro front registration back hnames
    apply evaluateWithin_congr_alikeAt
    intro token hmem hkind
    exact Registration.alikeAt_insert_of_name_ne front back (hnames token hmem hkind)
  · intro first second hslots
    apply evaluateWithin_congr_alikeAt
    exact fun _ _ _ => Registration.alikeAt_of_slots hslots

/-- The value of `x + 1` is seen through a constant that is registered twice, next to a function
of its name and a constant of another one. -/
theorem evaluateWithin_sees_names_registered_twice :
    (∀ token ∈ (Scan.ofText "x + 1").tokens, token.kind = .name →
      AlikeAt [.constant "x" 1, .function "x" StandardFunction.sin.toUnary, .constant "x" 2]
        [.constant "x" 2, .constant "y" 3] token.text) ∧
      evaluateWithin (.ofRegistrations [.constant "x" 1,
          .function "x" StandardFunction.sin.toUnary, .constant "x" 2]) 2 "x + 1" =
        evaluateWithin (.ofRegistrations [.constant "x" 2, .constant "y" 3]) 2 "x + 1" := by
  have hnames : ∀ token ∈ (Scan.ofText "x + 1").tokens, token.kind = .name →
      AlikeAt [.constant "x" 1, .function "x" StandardFunction.sin.toUnary, .constant "x" 2]
        [.constant "x" 2, .constant "y" 3] token.text := by
    have htokens : (Scan.ofText "x + 1").tokens =
        [⟨.name, "x", 0⟩, ⟨.plus, "+", 2⟩, ⟨.integer, "1", 4⟩] := by
      decide +kernel
    rw [htokens]
    intro token hmem hkind
    have htext : token.text = "x" := by
      rcases List.mem_cons.1 hmem with rfl | hmem
      · rfl
      · rcases List.mem_pair.1 hmem with rfl | rfl <;> cases hkind
    rw [htext]
    simp [AlikeAt, lastConstant?, Registration.constantOf?]
  exact ⟨hnames, (evaluateWithin_sees_names 2 "x + 1").1 _ _ hnames⟩

end Formula
