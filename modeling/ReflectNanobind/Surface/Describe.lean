import ReflectNanobind.Library.KeyedTree
import ReflectNanobind.Surface.Attributes

/-!
# The description of a module surface

`_describe_attr`, `_describe_class` and `describe_module` of `surface_diff.py`.  A description is a tree
of dictionaries; an exception that the source does not catch ends it.
-/

namespace ReflectNanobind.Surface

open Library

/-! ## Description values -/

/-- The leaves of a description. -/
inductive Value where
  | null
  | bool (value : Bool)
  | int (value : ℤ)
  | float (value : Float64)
  | str (value : String)
  | names (values : List String)
  deriving DecidableEq

def Value.numeric? : Value → Option Numeric
  | .bool value => some (.rational (if value then 1 else 0))
  | .int value => some (.rational value)
  | .float value => some value.numeric
  | .null | .str _ | .names _ => none

/-- `==` of two leaves: numbers compare by value across their types. -/
def Value.same (left right : Value) : Bool :=
  match left.numeric?, right.numeric? with
  | some x, some y => x.equal y
  | none, none => left == right
  | _, _ => false

abbrev Description := Tree String Value

def Value.ofDoc : Option String → Value
  | some doc => .str doc
  | none => .null

def Value.ofScalar : Scalar → Value
  | .int value => .int value
  | .float value => .float value
  | .str value => .str value
  | .bool value => .bool value

/-! ## Attributes -/

/-- The exceptions that a description can meet. -/
inductive PyError where
  | typeError | valueError | overflowError | attributeError
  deriving DecidableEq, Repr

section Describe

-- `int` of a string, where it is a number
variable (parseInt : String → Option ℤ)

/-- `int(attr)` of a scalar: an infinity overflows, a NaN has no integer. -/
def Scalar.toInt : Scalar → Except PyError ℤ
  | .int value => .ok value
  | .bool value => .ok (if value then 1 else 0)
  | .str value =>
      match parseInt value with
      | some number => .ok number
      | none => .error .valueError
  | .float value =>
      match value.numeric with
      | .rational number => .ok (Numeric.truncate number)
      | .infinite _ => .error .overflowError
      | .nan => .error .valueError

/-- `int(attr)`. -/
def Leaf.toInt : Leaf → Except PyError ℤ
  | .callable _ _ (some number) | .other _ (some number) => .ok number
  | .scalar _ value => value.toInt parseInt
  | .callable _ _ none | .other _ none | .property _ _ | .staticProperty _ _ => .error .typeError

/-- `attr.fset is not None`. -/
def Leaf.hasSetter : Leaf → Except PyError Bool
  | .property _ writable | .staticProperty _ writable => .ok writable
  | .callable _ _ _ | .scalar _ _ | .other _ _ => .error .attributeError

/-- The conversion of enum members; only `TypeError` and `ValueError` are caught. -/
def tryInt (attr : Leaf) (info : List (String × Description)) : Except PyError Description :=
  match attr.toInt parseInt with
  | .ok number => pure (.node (info ++ [("int", .leaf (.int number))]))
  | .error .typeError | .error .valueError => pure (.node info)
  | .error raised => .error raised

/-- `_describe_attr`. -/
def describeAttr (attr : Leaf) : Except PyError Description := do
  let kind := attr.typeName
  let info : List (String × Description) := [("kind", .leaf (.str kind))]
  let info :=
    if attr.isCallable || kind == "property" then
      info ++ [("doc", .leaf (.ofDoc attr.doc))]
    else info
  let info ←
    if kind == "property" then do
      let writable ← attr.hasSetter
      pure (info ++ [("writable", .leaf (.bool writable))])
    else pure info
  let info :=
    match attr.scalar? with
    | some value => info ++ [("value", .leaf (.ofScalar value))]
    | none => info
  tryInt parseInt attr info

/-! ## Classes and modules -/

def recursiveMark : Description := .node [("recursive", .leaf (.bool true))]

/-- The dictionary of a class. -/
def classNode (bases : List String) (doc : Option String)
    (attrs : List (String × Description)) : Description :=
  .node [("bases", .leaf (.names bases)), ("doc", .leaf (.ofDoc doc)), ("attrs", .node attrs)]

mutual

/-- `_describe_class` for a class, `_describe_attr` for every other attribute; the items of a class
come in the order of their names. -/
def describe (name : String) (seen : List String) : Attribute → Except PyError Description
  | .leaf attr => describeAttr parseInt attr
  | .cls bases doc attrs =>
      if name ∈ seen then pure recursiveMark
      else do
        let described ← describeItems (name :: seen) attrs
        pure (classNode bases doc described)
termination_by structural attr => attr

def describeItems (seen : List String) :
    List (String × Attribute) → Except PyError (List (String × Description))
  | [] => pure []
  | (aname, attr) :: rest =>
      if !interesting aname || aname == "__doc__" then describeItems seen rest
      else do
        let described ← describe aname seen attr
        let others ← describeItems seen rest
        pure ((aname, described) :: others)
termination_by structural items => items

end

/-- The loop of `describe_module` over the names of the module. -/
def describeNames : List (String × Attribute) → Except PyError (List (String × Description))
  | [] => pure []
  | (name, attr) :: rest =>
      if Text.startsWith name "__" then describeNames rest
      else do
        let described ← describe parseInt name [] attr
        let others ← describeNames rest
        pure ((name, described) :: others)

def describeModule (surface : ModuleSurface) : Except PyError Description := do
  let described ← describeNames parseInt surface.items
  pure (.node described)

end Describe

end ReflectNanobind.Surface
