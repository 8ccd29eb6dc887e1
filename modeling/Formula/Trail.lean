/-!
# Sequences that grow at both ends

A trail is a list in the making: it is kept as the function that puts its
elements in front of a list.  Two trails are joined at no cost, and the list is
made only when it is asked for.
-/

namespace Formula

/-- A list, as the function that puts its elements in front of another one. -/
structure Trail (α : Type) where
  inFrontOf : List α → List α
  inFrontOf_eq : ∀ later, inFrontOf later = inFrontOf [] ++ later

namespace Trail

variable {α : Type}

def toList (trail : Trail α) : List α :=
  trail.inFrontOf []

def empty : Trail α :=
  ⟨id, fun _ => rfl⟩

def singleton (element : α) : Trail α :=
  ⟨(element :: ·), fun _ => rfl⟩

def append (first second : Trail α) : Trail α where
  inFrontOf later := first.inFrontOf (second.inFrontOf later)
  inFrontOf_eq later := by
    rw [first.inFrontOf_eq, second.inFrontOf_eq, first.inFrontOf_eq (second.inFrontOf []),
      List.append_assoc]

instance : Append (Trail α) :=
  ⟨append⟩

@[ext] theorem ext {first second : Trail α} (h : first.toList = second.toList) :
    first = second := by
  have hfunction : first.inFrontOf = second.inFrontOf := by
    funext later
    rw [first.inFrontOf_eq, second.inFrontOf_eq]
    exact congrArg (· ++ later) h
  cases first
  cases second
  cases hfunction
  rfl

@[simp] theorem toList_singleton (element : α) : (singleton element).toList = [element] :=
  rfl

@[simp] theorem toList_append (first second : Trail α) :
    (first ++ second).toList = first.toList ++ second.toList :=
  first.inFrontOf_eq (second.inFrontOf [])

end Trail

end Formula
