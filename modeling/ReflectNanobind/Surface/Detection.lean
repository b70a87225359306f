import ReflectNanobind.Surface.Diff
import ReflectNanobind.Surface.Fields

/-!
# What the surface comparison detects

A description that raises nothing is a plain rendering of the surface.  Two renderings are alike
exactly when the surfaces are indistinct: nothing below a class nested under a class of its own name
counts, and a static property counts by the name of its type alone.  So the comparison reports every
difference except those.
-/

namespace ReflectNanobind.Surface

open Library

/-! ## Indistinct surfaces -/

mutual

/-- The two attributes cannot be told apart by what is recorded of them below the classes `seen`. -/
def Attribute.Indistinct (name : String) (seen : List String) : Attribute → Attribute → Prop
  | .leaf left, .leaf right => left.Indistinct right
  | .cls bases doc attrs, .cls bases' doc' attrs' =>
      name ∈ seen ∨ bases = bases' ∧ doc = doc' ∧ IndistinctItems (name :: seen) attrs attrs'
  | .leaf _, .cls _ _ _ | .cls _ _ _, .leaf _ => False
termination_by structural attr => attr

def IndistinctItems (seen : List String) :
    List (String × Attribute) → List (String × Attribute) → Prop
  | [], [] => True
  | (name, attr) :: rest, (name', attr') :: rest' =>
      name = name' ∧ attr.Indistinct name seen attr' ∧ IndistinctItems seen rest rest'
  | [], _ :: _ | _ :: _, [] => False
termination_by structural items => items

end

def ModuleSurface.Indistinct (left right : ModuleSurface) : Prop :=
  IndistinctItems [] left.items right.items

/-- Neither a foreign type named `property` nor an infinity. -/
def Leaf.isDescribable (attr : Leaf) : Bool := !attr.isMisnamed && !attr.isInfinite

def ModuleSurface.Describable (surface : ModuleSurface) : Prop :=
  ∀ attr ∈ surface.visibleLeaves, attr.isDescribable = true

/-! ## Rendering -/

section Rendering

variable (parseInt : String → Option ℤ)

mutual

/-- The description of an attribute, if nothing raises. -/
def render (name : String) (seen : List String) : Attribute → Description
  | .leaf attr => .node (attr.fields parseInt).entries
  | .cls bases doc attrs =>
      if name ∈ seen then recursiveMark else classNode bases doc (renderItems (name :: seen) attrs)
termination_by structural attr => attr

def renderItems (seen : List String) : List (String × Attribute) → List (String × Description)
  | [] => []
  | (name, attr) :: rest => (name, render name seen attr) :: renderItems seen rest
termination_by structural items => items

end

theorem renderItems_names (seen : List String) (items : List (String × Attribute)) :
    (renderItems parseInt seen items).map Prod.fst = items.map Prod.fst := by
  induction items with
  | nil => rfl
  | cons item rest ih => exact congrArg (item.1 :: ·) ih

theorem toOption_bind {α β : Type} (first : Except PyError α) (next : α → Except PyError β) :
    (first >>= next).toOption = first.toOption.bind fun value ↦ (next value).toOption := by
  cases first <;> rfl

theorem kept_of_interesting {name : String} (h : interesting name = true) :
    (!interesting name || name == "__doc__") = false := by
  have hdoc : name ≠ "__doc__" := by
    rintro rfl
    exact absurd h (by decide)
  simp [h, hdoc]

mutual

/-- A description is the rendering, or it raises on a visible leaf. -/
theorem describe_toOption (name : String) (seen : List String) : ∀ attr : Attribute,
    attr.WellFormed → (describe parseInt name seen attr).toOption =
      if (attr.visibleLeaves seen name).all Leaf.isDescribable then
        some (render parseInt name seen attr)
      else none
  | .leaf attr, _ => by
      rw [describe, describeAttr_eq]
      cases hmisnamed : attr.isMisnamed <;> cases hinfinite : attr.isInfinite <;>
        simp [Attribute.visibleLeaves, Leaf.isDescribable, hmisnamed, hinfinite, render,
          Except.toOption]
  | .cls bases doc attrs, hattr => by
      rw [describe, Attribute.visibleLeaves, render]
      by_cases hseen : name ∈ seen
      · simp only [if_pos hseen]
        rfl
      · simp only [if_neg hseen]
        rw [toOption_bind, describeItems_toOption (name :: seen) attrs hattr]
        split <;> rfl

theorem describeItems_toOption (seen : List String) : ∀ items : List (String × Attribute),
    WellFormedItems items → (describeItems parseInt seen items).toOption =
      if (visibleItems seen items).all Leaf.isDescribable then
        some (renderItems parseInt seen items)
      else none
  | [], _ => rfl
  | (name, attr) :: rest, hitems => by
      obtain ⟨hname, _, hattr, hrest⟩ := hitems
      rw [describeItems, kept_of_interesting hname, if_neg (by simp), toOption_bind,
        describe_toOption name seen attr hattr, visibleItems, List.all_append, renderItems]
      cases (attr.visibleLeaves seen name).all Leaf.isDescribable with
      | false => rfl
      | true =>
          rw [if_pos rfl, Option.bind_some, toOption_bind, describeItems_toOption seen rest hrest]
          cases (visibleItems seen rest).all Leaf.isDescribable <;> rfl

end

theorem describeNames_toOption {items : List (String × Attribute)}
    (hpublic : ∀ item ∈ items, Text.startsWith item.1 "__" = false)
    (hattrs : ∀ item ∈ items, item.2.WellFormed) : (describeNames parseInt items).toOption =
      if (visibleItems [] items).all Leaf.isDescribable then
        some (renderItems parseInt [] items)
      else none := by
  induction items with
  | nil => rfl
  | cons item rest ih =>
      obtain ⟨name, attr⟩ := item
      have hrest := ih (fun other hother ↦ hpublic other (List.mem_cons_of_mem _ hother))
        fun other hother ↦ hattrs other (List.mem_cons_of_mem _ hother)
      rw [describeNames, if_neg (by simp [hpublic (name, attr) List.mem_cons_self]), toOption_bind,
        describe_toOption parseInt name [] attr (hattrs (name, attr) List.mem_cons_self),
        visibleItems, List.all_append, renderItems]
      cases (attr.visibleLeaves [] name).all Leaf.isDescribable with
      | false => rfl
      | true =>
          rw [if_pos rfl, Option.bind_some, toOption_bind, hrest]
          cases (visibleItems [] rest).all Leaf.isDescribable <;> rfl

/-- Describing a module raises exactly when some visible leaf cannot be described. -/
theorem describeModule_eq_ok_iff (surface : ModuleSurface) (description : Description) :
    describeModule parseInt surface = .ok description ↔
      surface.Describable ∧ description = .node (renderItems parseInt [] surface.items) := by
  have hoption : (describeModule parseInt surface).toOption =
      if surface.visibleLeaves.all Leaf.isDescribable then
        some (.node (renderItems parseInt [] surface.items))
      else none := by
    rw [describeModule, toOption_bind,
      describeNames_toOption parseInt surface.public_names surface.wellFormed]
    unfold ModuleSurface.visibleLeaves
    split <;> rfl
  have hok : describeModule parseInt surface = .ok description ↔
      (describeModule parseInt surface).toOption = some description := by
    cases describeModule parseInt surface <;> simp [Except.toOption]
  rw [hok, hoption, ModuleSurface.Describable, ← List.all_eq_true]
  cases surface.visibleLeaves.all Leaf.isDescribable with
  | false => simp
  | true => simp [eq_comm]

/-! ## Alike renderings -/

theorem not_alike_of_lookup {left right : List (String × Description)} (key : String)
    (h : (left.lookup key).isSome ≠ (right.lookup key).isSome) :
    ¬ Tree.Alike Value.same (.node left) (.node right) := by
  intro halike
  have hrel := (Tree.alike_node Value.same).mp halike key
  cases hleft : left.lookup key <;> cases hright : right.lookup key <;>
    rw [hleft, hright] at hrel h <;> first | exact h rfl | cases hrel

theorem alike_classNode (bases bases' : List String) (doc doc' : Option String)
    (attrs attrs' : List (String × Description)) :
    Tree.Alike Value.same (classNode bases doc attrs) (classNode bases' doc' attrs') ↔
      bases = bases' ∧ doc = doc' ∧ Tree.Alike Value.same (.node attrs) (.node attrs') := by
  rw [classNode, classNode, Tree.alike_node]
  constructor
  · intro h
    have hbases := h "bases"
    have hdoc := h "doc"
    have hattrs := h "attrs"
    simp only [List.lookup_cons] at hbases hdoc hattrs
    exact ⟨by simpa [Tree.alike_leaf, same_names] using hbases,
      by simpa [Tree.alike_leaf, same_ofDoc] using hdoc, by simpa using hattrs⟩
  · rintro ⟨rfl, rfl, hattrs⟩
    apply Tree.rel_lookup_of_forall₂
    exact .cons ⟨rfl, (Tree.alike_leaf Value.same).mpr ((same_names _ _).mpr rfl)⟩
      (.cons ⟨rfl, (Tree.alike_leaf Value.same).mpr ((same_ofDoc _ _).mpr rfl)⟩
        (.cons ⟨rfl, hattrs⟩ .nil))

theorem wellFormedItems_sorted {items : List (String × Attribute)} (h : WellFormedItems items) :
    (items.map Prod.fst).Pairwise (· < ·) := by
  induction items with
  | nil => exact .nil
  | cons item rest ih => exact .cons h.2.1 (ih h.2.2.2)

mutual

theorem alike_render_iff (name : String) (seen : List String) : ∀ left right : Attribute,
    left.WellFormed → right.WellFormed →
      (Tree.Alike Value.same (render parseInt name seen left) (render parseInt name seen right) ↔
        left.Indistinct name seen right)
  | .leaf left, .leaf right, _, _ => alike_fields_iff parseInt left right
  | .leaf left, .cls bases doc attrs, _, _ => by
      refine iff_of_false ?_ id
      rw [render, render]
      split <;> exact not_alike_of_lookup "kind" (by simp [Fields.lookup_entries])
  | .cls bases doc attrs, .leaf right, _, _ => by
      refine iff_of_false ?_ id
      rw [render, render]
      split <;> exact not_alike_of_lookup "kind" (by simp [Fields.lookup_entries])
  | .cls bases doc attrs, .cls bases' doc' attrs', hleft, hright => by
      rw [render, render, Attribute.Indistinct]
      by_cases hseen : name ∈ seen
      · simp only [hseen, if_true, true_or, iff_true]
        apply (Tree.alike_node Value.same).mpr
        apply Tree.rel_lookup_of_forall₂
        exact .cons ⟨rfl, (Tree.alike_leaf Value.same).mpr (by decide)⟩ .nil
      · simp only [hseen, if_false, false_or]
        rw [alike_classNode, Tree.alike_node_of_sorted Value.same (· < ·),
          forall₂_renderItems_iff _ _ _ hleft hright]
        · rw [renderItems_names]
          exact wellFormedItems_sorted hleft
        · rw [renderItems_names]
          exact wellFormedItems_sorted hright

theorem forall₂_renderItems_iff (seen : List String) : ∀ lefts rights : List (String × Attribute),
    WellFormedItems lefts → WellFormedItems rights →
      (List.Forall₂ (fun left right ↦ left.1 = right.1 ∧ Tree.Alike Value.same left.2 right.2)
        (renderItems parseInt seen lefts) (renderItems parseInt seen rights) ↔
        IndistinctItems seen lefts rights)
  | [], [], _, _ => iff_of_true .nil trivial
  | [], (name, attr) :: rest, _, _ => iff_of_false (fun h ↦ nomatch h) id
  | (name, attr) :: rest, [], _, _ => iff_of_false (fun h ↦ nomatch h) id
  | (name, attr) :: rest, (name', attr') :: rest', hleft, hright => by
      rw [renderItems, renderItems, List.forall₂_cons, IndistinctItems]
      constructor
      · rintro ⟨⟨rfl, halike⟩, hrest⟩
        exact ⟨rfl, (alike_render_iff name seen attr attr' hleft.2.2.1 hright.2.2.1).mp halike,
          (forall₂_renderItems_iff seen rest rest' hleft.2.2.2 hright.2.2.2).mp hrest⟩
      · rintro ⟨rfl, halike, hrest⟩
        exact ⟨⟨rfl, (alike_render_iff name seen attr attr' hleft.2.2.1 hright.2.2.1).mpr halike⟩,
          (forall₂_renderItems_iff seen rest rest' hleft.2.2.2 hright.2.2.2).mpr hrest⟩

end

end Rendering

theorem wellFormedItems_of_public {items : List (String × Attribute)}
    (hpublic : ∀ item ∈ items, Text.startsWith item.1 "__" = false)
    (hsorted : (items.map Prod.fst).Pairwise (· < ·))
    (hattrs : ∀ item ∈ items, item.2.WellFormed) : WellFormedItems items := by
  induction items with
  | nil => trivial
  | cons item rest ih =>
      obtain ⟨hfirst, hsorted⟩ := List.pairwise_cons.mp hsorted
      have hinteresting : interesting item.1 = true := by
        simp [interesting, hpublic item List.mem_cons_self]
      exact ⟨hinteresting, hfirst, hattrs item List.mem_cons_self,
        ih (fun other hother ↦ hpublic other (List.mem_cons_of_mem _ hother)) hsorted
          fun other hother ↦ hattrs other (List.mem_cons_of_mem _ hother)⟩

theorem ModuleSurface.wellFormedItems (surface : ModuleSurface) : WellFormedItems surface.items :=
  wellFormedItems_of_public surface.public_names surface.sorted surface.wellFormed

/-- The rendered modules are alike exactly when the surfaces are indistinct. -/
theorem alike_module_iff (parseInt : String → Option ℤ) (left right : ModuleSurface) :
    Tree.Alike Value.same (.node (renderItems parseInt [] left.items))
      (.node (renderItems parseInt [] right.items)) ↔ left.Indistinct right := by
  rw [Tree.alike_node_of_sorted Value.same (· < ·), forall₂_renderItems_iff]
  · rfl
  · exact left.wellFormedItems
  · exact right.wellFormedItems
  · rw [renderItems_names]
    exact left.sorted
  · rw [renderItems_names]
    exact right.sorted

/-! ## What is reported -/

section Reported

variable (search : String → String → Bool) (pyRepr : Description → String)
  (parseInt : String → Option ℤ)

theorem diff_eq_nil_iff (cx em : Description) :
    diff search Value.same pyRepr cx em "" [] = [] ↔ Tree.Alike Value.same cx em := by
  rw [diff_no_ignores, List.map_eq_nil_iff]
  rfl

/-- If the surfaces differ, both are described and the comparison finds a mismatch. -/
def DifferenceReported (left right : ModuleSurface) : Prop :=
  left ≠ right → ∃ cx em, describeModule parseInt left = .ok cx ∧
    describeModule parseInt right = .ok em ∧ diff search Value.same pyRepr cx em "" [] ≠ []

theorem distinct_of_reported {left right : ModuleSurface} (hne : left ≠ right)
    (h : DifferenceReported search pyRepr parseInt left right) :
    left.Describable ∧ right.Describable ∧ ¬ left.Indistinct right := by
  obtain ⟨cx, em, hcx, hem, hdiff⟩ := h hne
  obtain ⟨hleft, rfl⟩ := (describeModule_eq_ok_iff parseInt left cx).mp hcx
  obtain ⟨hright, rfl⟩ := (describeModule_eq_ok_iff parseInt right em).mp hem
  rw [Ne, diff_eq_nil_iff, alike_module_iff] at hdiff
  exact ⟨hleft, hright, hdiff⟩

/-- The comparison reports the difference of two surfaces exactly when they can be described and can
be told apart by what the descriptions record. -/
theorem differenceReported_iff (left right : ModuleSurface) :
    DifferenceReported search pyRepr parseInt left right ↔
      left = right ∨ left.Describable ∧ right.Describable ∧ ¬ left.Indistinct right := by
  constructor
  · intro h
    by_cases hequal : left = right
    · exact .inl hequal
    · exact .inr (distinct_of_reported search pyRepr parseInt hequal h)
  · rintro (rfl | ⟨hleft, hright, hdistinct⟩) hne
    · exact absurd rfl hne
    · refine ⟨_, _, (describeModule_eq_ok_iff parseInt left _).mpr ⟨hleft, rfl⟩,
        (describeModule_eq_ok_iff parseInt right _).mpr ⟨hright, rfl⟩, ?_⟩
      rwa [Ne, diff_eq_nil_iff, alike_module_iff]

end Reported

/-- A module with one static property in a class. -/
def staticPropertyModule (writable : Bool) : ModuleSurface where
  items := [("Config", .cls ["object"] none [("level", .leaf (.staticProperty none writable))])]
  public_names := by simp; decide
  sorted := by simp
  wellFormed := by simp [Attribute.WellFormed, WellFormedItems]; decide

/-- A class below a class of its own name, with a documented method. -/
def nestedClassModule (doc : String) : ModuleSurface where
  items := [("Node", .cls ["object"] none
    [("Node", .cls ["object"] none [("size", .leaf (.callable "nb_method" (some doc) none))])])]
  public_names := by simp; decide
  sorted := by simp
  wellFormed := by simp [Attribute.WellFormed, WellFormedItems]; decide

/-- A static property that became read-only, and a signature below a class nested in a class of its
own name, are lost. -/
theorem surface_differences_are_lost :
    ¬ DifferenceReported (fun _ _ ↦ false) (fun _ ↦ "") (fun _ ↦ none)
        (staticPropertyModule true) (staticPropertyModule false) ∧
      ¬ DifferenceReported (fun _ _ ↦ false) (fun _ ↦ "") (fun _ ↦ none)
        (nestedClassModule "size(self) -> int") (nestedClassModule "size(self) -> str") := by
  constructor
  · intro h
    have hne : staticPropertyModule true ≠ staticPropertyModule false := by
      simp [staticPropertyModule]
    apply (distinct_of_reported _ _ _ hne h).2.2
    simp [ModuleSurface.Indistinct, staticPropertyModule, IndistinctItems, Attribute.Indistinct,
      Leaf.Indistinct, Leaf.bare?]
  · intro h
    have hne : nestedClassModule "size(self) -> int" ≠ nestedClassModule "size(self) -> str" := by
      simp [nestedClassModule]
    apply (distinct_of_reported _ _ _ hne h).2.2
    simp [ModuleSurface.Indistinct, nestedClassModule, IndistinctItems, Attribute.Indistinct]

end ReflectNanobind.Surface
