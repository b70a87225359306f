import ReflectNanobind.Library.Float64
import ReflectNanobind.Library.Text

/-!
# Module surfaces

The attributes of a bound module as Python objects that `surface_diff.py` can meet: classes with their
own attributes, callables, instance and static properties, scalars, and other objects.  A surface maps
names to attributes; its items are kept in the order of their names.
-/

namespace ReflectNanobind.Surface

open Library

/-! ## Leaves -/

inductive Scalar where
  | int (value : ℤ)
  | float (value : Float64)
  | str (value : String)
  | bool (value : Bool)
  deriving DecidableEq

/-- What a scalar stands for when it is a number. -/
def Scalar.numeric? : Scalar → Option Numeric
  | .int value => some (.rational value)
  | .float value => some value.numeric
  | .str _ => none
  | .bool value => some (.rational (if value then 1 else 0))

/-- Equality as Python has it: numbers by value across their types, strings by their text. -/
def Scalar.equal (left right : Scalar) : Bool :=
  match left.numeric?, right.numeric? with
  | some x, some y => x.equal y
  | none, none => left == right
  | _, _ => false

/-- An attribute that is not a class. `asInt` is the result of its `__int__`, if it has one. -/
inductive Leaf where
  | callable (typeName : String) (doc : Option String) (asInt : Option ℤ)
  | property (doc : Option String) (writable : Bool)
  | staticProperty (doc : Option String) (writable : Bool)
  | scalar (typeName : String) (value : Scalar)
  | other (typeName : String) (asInt : Option ℤ)
  deriving DecidableEq

namespace Leaf

/-- `type(attr).__name__`; a static property is an instance of a subclass of `property`. -/
def typeName : Leaf → String
  | .callable typeName _ _ | .scalar typeName _ | .other typeName _ => typeName
  | .property _ _ => "property"
  | .staticProperty _ _ => "nb_static_property"

def doc : Leaf → Option String
  | .callable _ doc _ | .property doc _ | .staticProperty doc _ => doc
  | .scalar _ _ | .other _ _ => none

def isCallable : Leaf → Bool
  | .callable _ _ _ => true
  | _ => false

/-- The value of an `int`, `float`, `str` or `bool`. -/
def scalar? : Leaf → Option Scalar
  | .scalar _ value => some value
  | _ => none

def isInfinite : Leaf → Bool
  | .scalar _ (.float value) => value.isSpecial && value.fraction.val == 0
  | _ => false

def isNan : Leaf → Bool
  | .scalar _ (.float value) => value.isSpecial && value.fraction.val != 0
  | _ => false

/-- The type is named `property` but is not `property`. -/
def isMisnamed : Leaf → Bool
  | .property _ _ => false
  | leaf => leaf.typeName == "property"

end Leaf

/-! ## Attributes -/

inductive Attribute where
  | cls (bases : List String) (doc : Option String) (attrs : List (String × Attribute))
  | leaf (leaf : Leaf)

def SYNTH_DUNDERS : List String :=
  ["__init__", "__eq__", "__ne__", "__lt__", "__gt__", "__le__", "__ge__",
    "__add__", "__radd__", "__sub__", "__rsub__", "__mul__", "__rmul__",
    "__truediv__", "__rtruediv__", "__mod__", "__rmod__", "__xor__",
    "__rxor__", "__and__", "__rand__", "__or__", "__ror__", "__lshift__",
    "__rlshift__", "__rshift__", "__rrshift__", "__iadd__", "__isub__",
    "__imul__", "__itruediv__", "__imod__", "__ixor__", "__iand__",
    "__ior__", "__ilshift__", "__irshift__", "__neg__", "__pos__",
    "__invert__", "__call__", "__getitem__", "__bool__", "__int__",
    "__float__", "__str__", "__hash__", "__iter__"]

/-- `_interesting`. -/
def interesting (name : String) : Bool :=
  if Text.startsWith name "__" && Text.endsWith name "__" then SYNTH_DUNDERS.contains name
  else true

mutual

/-- Below a class only interesting names count, each once, in their order. -/
def Attribute.WellFormed : Attribute → Prop
  | .leaf _ => True
  | .cls _ _ attrs => WellFormedItems attrs
termination_by structural attr => attr

def WellFormedItems : List (String × Attribute) → Prop
  | [] => True
  | (name, attr) :: rest =>
      interesting name = true ∧ (∀ other ∈ rest.map Prod.fst, name < other) ∧
        attr.WellFormed ∧ WellFormedItems rest
termination_by structural items => items

end

/-- The surface of a module: the items that its description looks at. -/
structure ModuleSurface where
  items : List (String × Attribute)
  public_names : ∀ item ∈ items, Text.startsWith item.1 "__" = false
  sorted : (items.map Prod.fst).Pairwise (· < ·)
  wellFormed : ∀ item ∈ items, item.2.WellFormed

/-! ## Visible leaves -/

mutual

/-- The leaves outside every class that is nested below a class of its own name. -/
def Attribute.visibleLeaves (seen : List String) (name : String) : Attribute → List Leaf
  | .leaf leaf => [leaf]
  | .cls _ _ attrs => if name ∈ seen then [] else visibleItems (name :: seen) attrs
termination_by structural attr => attr

def visibleItems (seen : List String) : List (String × Attribute) → List Leaf
  | [] => []
  | (name, attr) :: rest => attr.visibleLeaves seen name ++ visibleItems seen rest
termination_by structural items => items

end

def ModuleSurface.visibleLeaves (surface : ModuleSurface) : List Leaf := visibleItems [] surface.items

end ReflectNanobind.Surface
