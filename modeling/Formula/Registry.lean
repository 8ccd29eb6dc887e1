import Formula.Function
import Formula.Numeric.Style
import Formula.Text.Quoted
import Std.Data.TreeMap

/-!
# Constants and functions

A registry holds the meaning of names.  Constants and functions are apart, so
one name can be both.  A later registration of a name replaces the earlier one.
-/

namespace Formula

def standardConstants : List (String × Float) :=
  [("pi", .ofBits 0x400921fb54442d18), ("e", .ofBits 0x4005bf0a8b145769)]

structure Registry where
  constants : Std.TreeMap String Float
  functions : Std.TreeMap String UnaryFunction

namespace Registry

def empty : Registry :=
  ⟨∅, ∅⟩

def constant? (registry : Registry) (name : String) : Option Float :=
  registry.constants[name]?

def function? (registry : Registry) (name : String) : Option UnaryFunction :=
  registry.functions[name]?

def insertConstant (registry : Registry) (name : String) (value : Float) : Registry :=
  { registry with constants := registry.constants.insert name value }

def insertFunction (registry : Registry) (name : String) (function : UnaryFunction) : Registry :=
  { registry with functions := registry.functions.insert name function }

def insertConstants (registry : Registry) (constants : List (String × Float)) : Registry :=
  constants.foldl (fun registry constant => registry.insertConstant constant.1 constant.2) registry

def insertStandard (registry : Registry) (functions : List StandardFunction) : Registry :=
  functions.foldl (fun registry function => registry.insertFunction function.name function.toUnary)
    registry

def insertAllStandard (registry : Registry) : Registry :=
  ((registry.insertConstants standardConstants).insertStandard StandardFunction.trigonometric)
    |>.insertStandard StandardFunction.exponential

def standard : Registry :=
  empty.insertAllStandard

/-- The constants with their numbers and the names of the functions, each in the
order of the names. -/
def describe (registry : Registry) : String :=
  let constants := registry.constants.toList.map fun (name, value) =>
    Text.quote name ++ ": " ++ Numeric.Style.marked.render value
  let functions := registry.functions.keys.map Text.quote
  "Registry \x7b constants: \x7b" ++ String.intercalate ", " constants ++ "\x7d, functions: ["
    ++ String.intercalate ", " functions ++ "] \x7d"

theorem constant?_insertConstant (registry : Registry) (name other : String) (value : Float) :
    (registry.insertConstant name value).constant? other =
      if name = other then some value else registry.constant? other := by
  simp [constant?, insertConstant, Std.TreeMap.getElem?_insert]

theorem function?_insertConstant (registry : Registry) (name other : String) (value : Float) :
    (registry.insertConstant name value).function? other = registry.function? other :=
  rfl

theorem constant?_insertFunction (registry : Registry) (name other : String)
    (function : UnaryFunction) :
    (registry.insertFunction name function).constant? other = registry.constant? other :=
  rfl

theorem function?_insertFunction (registry : Registry) (name other : String)
    (function : UnaryFunction) :
    (registry.insertFunction name function).function? other =
      if name = other then some function else registry.function? other := by
  simp [function?, insertFunction, Std.TreeMap.getElem?_insert]

end Registry

end Formula
