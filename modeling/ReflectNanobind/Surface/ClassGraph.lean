import ReflectNanobind.Library.Depth
import ReflectNanobind.Surface.Describe
import Mathlib.Data.List.Sort
import Mathlib.Data.Finset.Card
import Mathlib.Data.Finset.Dedup

/-!
# Descriptions of class graphs

`_describe_class` and `describe_module` on classes that may hold each other as attributes, also in
cycles.  A description is given the recursion depth it may use.  The names that are not yet on the path
decrease from call to call, since a name that is met again ends the recursion; so one level more than
there are names is always enough.  Where the graph unfolds to a tree of attributes, its description is
the description of that tree.
-/

namespace ReflectNanobind.Surface

open Library

/-! ## Class graphs -/

/-- An attribute of a class or of the module: a class of the graph, or anything else. -/
inductive Member (count : ℕ) where
  | cls (target : Fin count)
  | leaf (leaf : Leaf)

structure ClassDict (count : ℕ) where
  bases : List String
  doc : Option String
  /-- `cls.__dict__.items()` -/
  items : List (String × Member count)
  nodup : (items.map Prod.fst).Nodup

/-- The classes that can be reached from a module, and the attributes of the module itself. The
interpreter's limit on the depth of recursion is left out: descriptions of any depth are finished. -/
structure ClassGraph where
  count : ℕ
  classes : Fin count → ClassDict count
  /-- The names of `dir(mod)` with their attributes. -/
  members : List (String × Member count)
  nodup : (members.map Prod.fst).Nodup

/-- `sorted` of items whose names differ. -/
def sortItems {count : ℕ} (items : List (String × Member count)) : List (String × Member count) :=
  items.insertionSort fun left right ↦ left.1 ≤ right.1

/-! ## Descriptions -/

section Describe

variable (parseInt : String → Option ℤ)

/-- `isinstance(attr, type)` decides which description an attribute gets. -/
def describeMember {count : ℕ} (describeClass : String → Fin count → Bounded PyError Description)
    (name : String) : Member count → Bounded PyError Description
  | .cls target => describeClass name target
  | .leaf attr => Bounded.ofExcept (describeAttr parseInt attr)

/-- The loops over attributes, less the skipped names. -/
def describeMembers {count : ℕ} (skipped : String → Bool)
    (describeClass : String → Fin count → Bounded PyError Description) :
    List (String × Member count) → Bounded PyError (List (String × Description))
  | [] => pure []
  | (name, attr) :: rest =>
      if skipped name then describeMembers skipped describeClass rest
      else do
        let described ← describeMember parseInt describeClass name attr
        let others ← describeMembers skipped describeClass rest
        pure ((name, described) :: others)

namespace ClassGraph

variable (graph : ClassGraph)

/-- `_describe_class`. -/
def describeClass : ℕ → List String → String → Fin graph.count → Bounded PyError Description
  | 0, _, _, _ => Bounded.outOfDepth
  | depth + 1, seen, name, cls =>
      if name ∈ seen then pure recursiveMark
      else do
        let dict := graph.classes cls
        let attrs ← describeMembers parseInt (fun aname ↦ !interesting aname || aname == "__doc__")
          (describeClass depth (name :: seen)) (sortItems dict.items)
        pure (classNode dict.bases dict.doc attrs)

/-- `describe_module`, with the recursion depth that `_describe_class` may use. -/
def describeModule (depth : ℕ) : Bounded PyError Description := do
  let out ← describeMembers parseInt (fun name ↦ Text.startsWith name "__")
    (graph.describeClass parseInt depth []) (sortItems graph.members)
  pure (.node out)

/-- The distinct interesting names of attributes in the graph. -/
def attributeNames : Finset String :=
  ((graph.members ++ (List.finRange graph.count).flatMap fun cls ↦ (graph.classes cls).items).map
    Prod.fst).toFinset.filter fun name ↦ interesting name = true

end ClassGraph

end Describe

section Depth

variable {parseInt : String → Option ℤ} {graph : ClassGraph}

namespace ClassGraph

variable {seen : List String} {name : String} {cls : Fin graph.count}

theorem describeClass_of_mem (h : name ∈ seen) (depth : ℕ) :
    graph.describeClass parseInt (depth + 1) seen name cls = pure recursiveMark := by
  rw [describeClass, if_pos h]

theorem describeClass_of_not_mem (h : name ∉ seen) (depth : ℕ) :
    graph.describeClass parseInt (depth + 1) seen name cls =
      describeMembers parseInt (fun aname ↦ !interesting aname || aname == "__doc__")
        (graph.describeClass parseInt depth (name :: seen)) (sortItems (graph.classes cls).items) >>=
      fun attrs ↦ pure (classNode (graph.classes cls).bases (graph.classes cls).doc attrs) := by
  rw [describeClass, if_neg h]

end ClassGraph

/-! ## The depth of the recursion -/

theorem mem_attributeNames_of_member {name : String} {attr : Member graph.count}
    (h : (name, attr) ∈ graph.members) (hname : interesting name = true) :
    name ∈ graph.attributeNames := by
  simp only [ClassGraph.attributeNames, Finset.mem_filter, List.mem_toFinset, List.mem_map,
    List.mem_append]
  exact ⟨⟨_, .inl h, rfl⟩, hname⟩

theorem mem_attributeNames_of_item {cls : Fin graph.count} {name : String}
    {attr : Member graph.count} (h : (name, attr) ∈ (graph.classes cls).items)
    (hname : interesting name = true) : name ∈ graph.attributeNames := by
  simp only [ClassGraph.attributeNames, Finset.mem_filter, List.mem_toFinset, List.mem_map,
    List.mem_append, List.mem_flatMap]
  exact ⟨⟨_, .inr ⟨cls, List.mem_finRange cls, h⟩, rfl⟩, hname⟩

/-- A loop settles when every class it describes does. -/
theorem describeMembers_settles {count bound : ℕ} {skipped : String → Bool}
    {describeClass : ℕ → String → Fin count → Bounded PyError Description}
    {items : List (String × Member count)}
    (hclasses : ∀ name target, (name, .cls target) ∈ items → skipped name = false →
      Bounded.Settles bound fun depth ↦ describeClass depth name target) :
    Bounded.Settles bound fun depth ↦
      describeMembers parseInt skipped (describeClass depth) items := by
  induction items with
  | nil => exact ⟨_, Bounded.settlesWith_pure _⟩
  | cons item rest ih =>
      obtain ⟨name, attr⟩ := item
      have hrest := ih fun other target hmem ↦ hclasses other target (List.mem_cons_of_mem _ hmem)
      simp only [describeMembers]
      cases hskipped : skipped name with
      | true => simpa using hrest
      | false =>
          simp only [Bool.false_eq_true, if_false]
          have hattr : Bounded.Settles bound fun depth ↦
              describeMember parseInt (describeClass depth) name attr := by
            cases attr with
            | cls target => exact hclasses name target List.mem_cons_self hskipped
            | leaf attr => exact ⟨_, Bounded.settlesWith_ofExcept _⟩
          exact hattr.bind fun described ↦ hrest.bind fun others ↦ ⟨_, Bounded.settlesWith_pure _⟩

/-- By induction on the names that are not yet on the path. -/
theorem describeClass_settles {bound : ℕ} {seen : List String} {name : String}
    (hname : name ∈ graph.attributeNames)
    (hbound : (graph.attributeNames.filter (· ∉ seen)).card ≤ bound) (cls : Fin graph.count) :
    Bounded.Settles (bound + 1) fun depth ↦ graph.describeClass parseInt depth seen name cls := by
  induction bound generalizing seen name cls with
  | zero =>
      -- no name is left, so this one is on the path
      have hseen : name ∈ seen := by
        by_contra hfresh
        have hmem : name ∈ graph.attributeNames.filter (· ∉ seen) :=
          Finset.mem_filter.mpr ⟨hname, hfresh⟩
        exact Finset.card_ne_zero_of_mem hmem (Nat.le_zero.mp hbound)
      exact Bounded.Settles.call ⟨_, Bounded.settlesWith_pure recursiveMark⟩
        (ClassGraph.describeClass_of_mem hseen)
  | succ bound ih =>
      by_cases hseen : name ∈ seen
      · exact Bounded.Settles.call ⟨_, Bounded.settlesWith_pure recursiveMark⟩
          (ClassGraph.describeClass_of_mem hseen)
      · have hfewer : (graph.attributeNames.filter (· ∉ name :: seen)).card ≤ bound := by
          have hssubset : graph.attributeNames.filter (· ∉ name :: seen) ⊂
              graph.attributeNames.filter (· ∉ seen) := by
            refine Finset.ssubset_iff_of_subset ?_ |>.mpr ⟨name, ?_, ?_⟩
            · intro other hother
              simp only [Finset.mem_filter, List.mem_cons, not_or] at hother ⊢
              exact ⟨hother.1, hother.2.2⟩
            · exact Finset.mem_filter.mpr ⟨hname, hseen⟩
            · simp
          have hlt := Finset.card_lt_card hssubset
          omega
        have hattrs : Bounded.Settles (bound + 1) fun depth ↦
            describeMembers parseInt (fun aname ↦ !interesting aname || aname == "__doc__")
              (graph.describeClass parseInt depth (name :: seen))
              (sortItems (graph.classes cls).items) := by
          refine describeMembers_settles fun aname target hitem haname ↦ ih ?_ hfewer target
          apply mem_attributeNames_of_item ((List.mem_insertionSort _).mp hitem)
          simp only [Bool.or_eq_false_iff, Bool.not_eq_false'] at haname
          exact haname.1
        have hclass := hattrs.bind fun attrs ↦
          ⟨_, Bounded.settlesWith_pure
            (classNode (graph.classes cls).bases (graph.classes cls).doc attrs)⟩
        exact hclass.call (ClassGraph.describeClass_of_not_mem hseen)

theorem interesting_of_public {name : String} (h : Text.startsWith name "__" = false) :
    interesting name = true := by
  simp [interesting, h]

theorem describeModule_settles :
    Bounded.Settles (graph.attributeNames.card + 1) fun depth ↦
      graph.describeModule parseInt depth := by
  refine Bounded.Settles.bind (describeMembers_settles fun name target hmember hname ↦ ?_)
    fun out ↦ ⟨_, Bounded.settlesWith_pure _⟩
  have hmem := (List.mem_insertionSort _).mp hmember
  refine describeClass_settles
    (mem_attributeNames_of_member hmem (interesting_of_public hname)) ?_ target
  exact Finset.card_le_card (Finset.filter_subset _ _)

/-- Every description of a module ends, with one and the same outcome for every recursion depth that
is at least one more than the number of distinct interesting attribute names. -/
theorem describeModule_depth (parseInt : String → Option ℤ) (graph : ClassGraph) :
    ∃ outcome : Except PyError Description, ∀ depth, graph.attributeNames.card + 1 ≤ depth →
      (graph.describeModule parseInt depth).run = some outcome :=
  describeModule_settles

/-- A class that holds itself under another name: with the two names of the graph one level more is
needed than there are names. -/
def holdsItself : ClassGraph where
  count := 1
  classes := fun _ ↦ ⟨["object"], none, [("a", .cls 0)], by simp⟩
  members := [("m", .cls 0)]
  nodup := by simp

example : holdsItself.attributeNames.card = 2 ∧
    ((holdsItself.describeModule (fun _ ↦ none) 2).run.isSome,
      (holdsItself.describeModule (fun _ ↦ none) 3).run.isSome) = (false, true) := by decide

end Depth

/-! ## Graphs that unfold to trees -/

section Unfolding

variable {parseInt : String → Option ℤ}

mutual

/-- Following the classes of a graph from an attribute leads to a tree of attributes. -/
inductive ClassGraph.Unfolds (graph : ClassGraph) : Member graph.count → Attribute → Prop
  | leaf (attr : Leaf) : graph.Unfolds (.leaf attr) (.leaf attr)
  | cls {target : Fin graph.count} {attrs : List (String × Attribute)}
      (hitems : graph.UnfoldsItems (sortItems (graph.classes target).items) attrs) :
      graph.Unfolds (.cls target)
        (.cls (graph.classes target).bases (graph.classes target).doc attrs)

inductive ClassGraph.UnfoldsItems (graph : ClassGraph) :
    List (String × Member graph.count) → List (String × Attribute) → Prop
  | nil : graph.UnfoldsItems [] []
  | cons {name : String} {attr : Member graph.count} {attr' : Attribute}
      {rest : List (String × Member graph.count)} {rest' : List (String × Attribute)}
      (hattr : graph.Unfolds attr attr') (hrest : graph.UnfoldsItems rest rest') :
      graph.UnfoldsItems ((name, attr) :: rest) ((name, attr') :: rest')

end

/-- The trees that the classes of a loop unfold to are what the loop describes. -/
theorem describeMembers_settlesWith {graph : ClassGraph} {bound : ℕ} {name : String}
    {attr : Member graph.count} {rest : List (String × Member graph.count)}
    {skipped : String → Bool} {seen : List String} {described : Except PyError Description}
    {others : Except PyError (List (String × Description))} (hskipped : skipped name = false)
    (hattr : Bounded.SettlesWith bound (fun depth ↦
      describeMember parseInt (graph.describeClass parseInt depth seen) name attr) described)
    (hrest : Bounded.SettlesWith bound (fun depth ↦
      describeMembers parseInt skipped (graph.describeClass parseInt depth seen) rest) others) :
    Bounded.SettlesWith bound (fun depth ↦
      describeMembers parseInt skipped (graph.describeClass parseInt depth seen)
        ((name, attr) :: rest))
      (do
        let value ← described
        let values ← others
        pure ((name, value) :: values)) := by
  simp only [describeMembers, hskipped, Bool.false_eq_true, if_false]
  exact hattr.bind fun value _ ↦ hrest.bind fun values _ ↦ Bounded.settlesWith_pure _

mutual

/-- By induction on the unfolding: a graph is described as the tree it unfolds to. -/
theorem ClassGraph.Unfolds.describe_eq {graph : ClassGraph} {attr : Member graph.count}
    {attr' : Attribute} (h : graph.Unfolds attr attr') (seen : List String) (name : String) :
    ∃ bound, Bounded.SettlesWith bound (fun depth ↦
      describeMember parseInt (graph.describeClass parseInt depth seen) name attr)
      (describe parseInt name seen attr') := by
  cases h with
  | leaf attr => exact ⟨0, Bounded.settlesWith_ofExcept _⟩
  | @cls target _ hitems =>
      simp only [describeMember, describe]
      by_cases hseen : name ∈ seen
      · rw [if_pos hseen]
        exact ⟨1, (Bounded.settlesWith_pure recursiveMark).call
          (ClassGraph.describeClass_of_mem hseen)⟩
      · rw [if_neg hseen]
        obtain ⟨bound, hattrs⟩ := hitems.describeItems_eq (name :: seen)
        have hclass := hattrs.bind fun attrs _ ↦ Bounded.settlesWith_pure
          (classNode (graph.classes target).bases (graph.classes target).doc attrs)
        exact ⟨bound + 1, hclass.call (ClassGraph.describeClass_of_not_mem hseen)⟩

theorem ClassGraph.UnfoldsItems.describeItems_eq {graph : ClassGraph}
    {items : List (String × Member graph.count)} {items' : List (String × Attribute)}
    (h : graph.UnfoldsItems items items') (seen : List String) :
    ∃ bound, Bounded.SettlesWith bound (fun depth ↦
      describeMembers parseInt (fun aname ↦ !interesting aname || aname == "__doc__")
        (graph.describeClass parseInt depth seen) items)
      (describeItems parseInt seen items') := by
  cases h with
  | nil => exact ⟨0, Bounded.settlesWith_pure _⟩
  | @cons name attr attr' rest rest' hattr hrest =>
      obtain ⟨bound, hothers⟩ := hrest.describeItems_eq seen
      cases hskipped : !interesting name || name == "__doc__" with
      | true =>
          refine ⟨bound, ?_⟩
          simpa only [describeMembers, describeItems, hskipped, if_true] using hothers
      | false =>
          obtain ⟨bound', hdescribed⟩ := hattr.describe_eq seen name
          refine ⟨max bound bound', ?_⟩
          simp only [describeItems, hskipped, Bool.false_eq_true, if_false]
          exact describeMembers_settlesWith hskipped (hdescribed.mono (Nat.le_max_right _ _))
            (hothers.mono (Nat.le_max_left _ _))

end

theorem ClassGraph.UnfoldsItems.describeNames_eq {graph : ClassGraph}
    {items : List (String × Member graph.count)} {items' : List (String × Attribute)}
    (h : graph.UnfoldsItems items items') :
    ∃ bound, Bounded.SettlesWith bound (fun depth ↦
      describeMembers parseInt (fun name ↦ Text.startsWith name "__")
        (graph.describeClass parseInt depth []) items)
      (describeNames parseInt items') := by
  induction items generalizing items' with
  | nil =>
      cases h
      exact ⟨0, Bounded.settlesWith_pure _⟩
  | cons item rest ih =>
      cases h with
      | @cons name attr attr' _ rest' hattr hrest =>
          obtain ⟨bound, hothers⟩ := ih hrest
          cases hskipped : Text.startsWith name "__" with
          | true =>
              refine ⟨bound, ?_⟩
              simpa only [describeMembers, describeNames, hskipped, if_true] using hothers
          | false =>
              obtain ⟨bound', hdescribed⟩ := hattr.describe_eq [] name
              refine ⟨max bound bound', ?_⟩
              simp only [describeNames, hskipped, Bool.false_eq_true, if_false]
              exact describeMembers_settlesWith hskipped (hdescribed.mono (Nat.le_max_right _ _))
                (hothers.mono (Nat.le_max_left _ _))

/-- A module whose classes unfold to a surface is described as that surface. -/
theorem describeModule_of_unfolds {graph : ClassGraph} {surface : ModuleSurface}
    (h : graph.UnfoldsItems (sortItems graph.members) surface.items) :
    Bounded.SettlesWith (graph.attributeNames.card + 1)
      (fun depth ↦ graph.describeModule parseInt depth) (describeModule parseInt surface) := by
  obtain ⟨bound, hnames⟩ := @h.describeNames_eq parseInt
  have hmodule := hnames.bind fun out _ ↦ Bounded.settlesWith_pure (.node out : Description)
  obtain ⟨outcome, hsettles⟩ := @describeModule_settles parseInt graph
  rwa [Bounded.SettlesWith.outcome_eq hsettles hmodule] at hsettles

end Unfolding

end ReflectNanobind.Surface
