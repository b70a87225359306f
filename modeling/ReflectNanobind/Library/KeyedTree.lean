import Mathlib.Data.List.Sort
import Mathlib.Data.List.Infix
import Mathlib.Data.List.Nodup
import Mathlib.Data.List.Dedup

/-!
# Trees of keyed entries and where two of them differ

A tree is a leaf or a node whose entries carry keys; a repeated key stands for its first entry.  A
difference between two trees is a key on one side of two nodes, or two values at one path that are
unequal and not both nodes.  The differences of two trees are listed by one walk over both, each at
its path and exactly once.
-/

namespace ReflectNanobind.Library

inductive Tree (Key α : Type) where
  | leaf (value : α)
  | node (entries : List (Key × Tree Key α))

namespace Tree

variable {Key α : Type}

def isNode : Tree Key α → Bool
  | .leaf _ => false
  | .node _ => true

/-! ## Mapping the leaves -/

section Mapping

variable {β : Type} (f : α → β)

mutual

def map : Tree Key α → Tree Key β
  | .leaf value => .leaf (f value)
  | .node entries => .node (mapEntries entries)
termination_by structural tree => tree

def mapEntries : List (Key × Tree Key α) → List (Key × Tree Key β)
  | [] => []
  | (key, child) :: rest => (key, child.map) :: mapEntries rest
termination_by structural entries => entries

end

theorem lookup_mapEntries [DecidableEq Key] (entries : List (Key × Tree Key α)) (key : Key) :
    (mapEntries f entries).lookup key = (entries.lookup key).map (map f) := by
  induction entries with
  | nil => rfl
  | cons entry rest ih =>
      obtain ⟨other, child⟩ := entry
      rw [mapEntries, List.lookup_cons, List.lookup_cons]
      cases key == other with
      | true => rfl
      | false => exact ih

end Mapping

/-! ## Paths -/

section Paths

variable [DecidableEq Key]

/-- The value at a path of keys. -/
def sub? : Tree Key α → List Key → Option (Tree Key α)
  | tree, [] => some tree
  | .leaf _, _ :: _ => none
  | .node entries, key :: rest =>
      match entries.lookup key with
      | some child => child.sub? rest
      | none => none

@[simp] theorem sub?_nil (tree : Tree Key α) : tree.sub? [] = some tree := by
  cases tree <;> rfl

@[simp] theorem sub?_leaf_cons (value : α) (key : Key) (rest : List Key) :
    (leaf value : Tree Key α).sub? (key :: rest) = none := rfl

@[simp] theorem sub?_node_cons (entries : List (Key × Tree Key α)) (key : Key) (rest : List Key) :
    (node entries).sub? (key :: rest) = (entries.lookup key).bind (·.sub? rest) := by
  rw [sub?]
  cases entries.lookup key <;> rfl

/-- Whatever is found below a key is found in the child that stands there. -/
theorem sub?_cons_eq_some_iff {tree found : Tree Key α} {key : Key} {rest : List Key} :
    tree.sub? (key :: rest) = some found ↔ ∃ entries child,
      tree = node entries ∧ entries.lookup key = some child ∧ child.sub? rest = some found := by
  cases tree with
  | leaf value => simp
  | node entries => simp [Option.bind_eq_some_iff]

theorem mem_keys_iff {entries : List (Key × Tree Key α)} {key : Key} :
    key ∈ entries.map Prod.fst ↔ (entries.lookup key).isSome := by
  simp [List.lookup_isSome_iff]

/-- What stands at a path: nothing, a node, or a leaf. -/
def view? (tree : Tree Key α) (path : List Key) : Option (Option α) :=
  (tree.sub? path).map fun
    | .leaf value => some value
    | .node _ => none

theorem view?_map {β : Type} (f : α → β) (tree : Tree Key α) (path : List Key) :
    (tree.map f).view? path = (tree.view? path).map (Option.map f) := by
  have hsub : (tree.map f).sub? path = (tree.sub? path).map (map f) := by
    induction path generalizing tree with
    | nil => simp
    | cons key rest ih =>
        cases tree with
        | leaf value => rfl
        | node entries =>
            rw [map, sub?_node_cons, sub?_node_cons, lookup_mapEntries]
            cases entries.lookup key with
            | none => rfl
            | some child => exact ih child
  unfold view?
  rw [hsub]
  cases tree.sub? path with
  | none => rfl
  | some found => cases found <;> rfl

theorem view?_eq_leaf_iff {tree : Tree Key α} {path : List Key} {value : α} :
    tree.view? path = some (some value) ↔ tree.sub? path = some (leaf value) := by
  unfold view?
  cases tree.sub? path with
  | none => simp
  | some found => cases found <;> simp

/-- Every leaf satisfies `holds`. -/
def AllLeaves (holds : α → Prop) (tree : Tree Key α) : Prop :=
  ∀ path value, tree.view? path = some (some value) → holds value

theorem allLeaves_leaf {holds : α → Prop} {value : α} :
    (leaf value : Tree Key α).AllLeaves holds ↔ holds value := by
  constructor
  · intro h
    exact h [] value (by simp [view?])
  · intro h path found hfound
    cases path with
    | nil =>
        obtain rfl : value = found := by simpa [view?] using hfound
        exact h
    | cons key rest => simp [view?] at hfound

theorem allLeaves_node {holds : α → Prop} {entries : List (Key × Tree Key α)} :
    (node entries).AllLeaves holds ↔
      ∀ key child, entries.lookup key = some child → child.AllLeaves holds := by
  constructor
  · intro h key child hchild path value hvalue
    exact h (key :: path) value (by rw [view?, sub?_node_cons, hchild]; exact hvalue)
  · intro h path value hvalue
    cases path with
    | nil => simp [view?] at hvalue
    | cons key rest =>
        rw [view?, sub?_node_cons] at hvalue
        cases hchild : entries.lookup key with
        | none => simp [hchild] at hvalue
        | some child =>
            rw [hchild] at hvalue
            exact h key child hchild rest value hvalue

/-- With distinct keys every entry counts. -/
theorem allLeaves_node_of_nodup {holds : α → Prop} {entries : List (Key × Tree Key α)}
    (hkeys : (entries.map Prod.fst).Nodup) : (node entries).AllLeaves holds ↔
      ∀ entry ∈ entries, entry.2.AllLeaves holds := by
  rw [allLeaves_node]
  induction entries with
  | nil => simp
  | cons entry rest ih =>
      obtain ⟨hfresh, hrest⟩ := List.nodup_cons.mp hkeys
      rw [List.forall_mem_cons, ← ih hrest]
      constructor
      · intro h
        constructor
        · exact h entry.1 entry.2 (by rw [List.lookup_cons, beq_self_eq_true])
        · intro key child hchild
          have hne : key ≠ entry.1 := by
            rintro rfl
            exact hfresh (mem_keys_iff.mpr (by rw [hchild]; rfl))
          exact h key child (by rw [List.lookup_cons, beq_false_of_ne hne]; exact hchild)
      · rintro ⟨hentry, hrest⟩ key child hchild
        rw [List.lookup_cons] at hchild
        cases hkey : key == entry.1 with
        | true =>
            rw [hkey] at hchild
            obtain rfl := Option.some.inj hchild
            exact hentry
        | false =>
            rw [hkey] at hchild
            exact hrest key child hchild

theorem sizeOf_lookup_lt [SizeOf Key] [SizeOf α] {entries : List (Key × Tree Key α)} {key : Key}
    {child : Tree Key α} (h : entries.lookup key = some child) : sizeOf child < sizeOf (node entries) := by
  have hmem : (key, child) ∈ entries := by
    obtain ⟨before, after, hentries, _⟩ := List.lookup_eq_some_iff.mp h
    rw [hentries]
    exact List.mem_append_right _ List.mem_cons_self
  have hentry := List.sizeOf_lt_of_mem hmem
  have hchild : sizeOf (key, child) = 1 + sizeOf key + sizeOf child := rfl
  have hnode : sizeOf (node entries) = 1 + sizeOf entries := by simp
  omega

/-- Induction over two trees at once: both are nodes, or one is a leaf. -/
theorem pairInduction {motive : Tree Key α → Tree Key α → Prop}
    (apart : ∀ a b, ¬ (a.isNode ∧ b.isNode) → motive a b)
    (nodes : ∀ lefts rights, (∀ key left right, lefts.lookup key = some left →
      motive left right) → motive (node lefts) (node rights)) : ∀ a b, motive a b
  | .leaf left, b => apart (.leaf left) b (by simp [isNode])
  | .node lefts, .leaf right => apart (.node lefts) (.leaf right) (by simp [isNode])
  | .node lefts, .node rights =>
      nodes lefts rights fun _ left right _ ↦ pairInduction apart nodes left right
termination_by a => sizeOf a
decreasing_by exact sizeOf_lookup_lt ‹_›

end Paths

/-! ## Differences -/

/-- What two trees differ in at a path. -/
inductive Difference (Key α : Type) where
  | onlyRight
  | onlyLeft
  | unequal (left right : Tree Key α)

section Differences

variable [DecidableEq Key]

-- `same` compares leaves
variable (same : α → α → Bool)

/-- Two values that are not both nodes are unequal. -/
def Unequal : Tree Key α → Tree Key α → Prop
  | .leaf left, .leaf right => same left right = false
  | .node _, .node _ => False
  | _, _ => True

instance (a b : Tree Key α) : Decidable (Unequal same a b) :=
  match a, b with
  | .leaf left, .leaf right => inferInstanceAs (Decidable (same left right = false))
  | .node _, .node _ => .isFalse id
  | .leaf _, .node _ => .isTrue trivial
  | .node _, .leaf _ => .isTrue trivial

/-- The differences of two trees: a key that one of two nodes has, or unequal values. -/
inductive DiffersAt (a b : Tree Key α) : List Key → Difference Key α → Prop where
  | onlyRight (parent : List Key) (key : Key) {lefts rights : List (Key × Tree Key α)}
      (hleft : a.sub? parent = some (node lefts)) (hright : b.sub? parent = some (node rights))
      (hmissing : lefts.lookup key = none) (hpresent : (rights.lookup key).isSome) :
      DiffersAt a b (parent ++ [key]) .onlyRight
  | onlyLeft (parent : List Key) (key : Key) {lefts rights : List (Key × Tree Key α)}
      (hleft : a.sub? parent = some (node lefts)) (hright : b.sub? parent = some (node rights))
      (hpresent : (lefts.lookup key).isSome) (hmissing : rights.lookup key = none) :
      DiffersAt a b (parent ++ [key]) .onlyLeft
  | unequal {path : List Key} {left right : Tree Key α}
      (hleft : a.sub? path = some left) (hright : b.sub? path = some right)
      (hunequal : Unequal same left right) : DiffersAt a b path (.unequal left right)

/-- At the root only the two trees themselves can differ. -/
theorem differsAt_nil {a b : Tree Key α} {difference : Difference Key α} :
    DiffersAt same a b [] difference ↔ Unequal same a b ∧ difference = .unequal a b := by
  constructor
  · intro h
    generalize hpath : ([] : List Key) = path at h
    cases h with
    | onlyRight => simp at hpath
    | onlyLeft => simp at hpath
    | unequal hleft hright hunequal =>
        subst hpath
        simp only [sub?_nil, Option.some.injEq] at hleft hright
        subst hleft hright
        exact ⟨hunequal, rfl⟩
  · rintro ⟨hunequal, rfl⟩
    exact .unequal (sub?_nil a) (sub?_nil b) hunequal

/-- Two nodes differ at `rest` below `key`: one of them has the key alone, or the children of the key
differ, as `deeper` says. -/
def DiffersBelow (deeper : Tree Key α → Tree Key α → Prop) (lefts rights : List (Key × Tree Key α))
    (key : Key) (rest : List Key) (difference : Difference Key α) : Prop :=
  rest = [] ∧ lefts.lookup key = none ∧ (rights.lookup key).isSome ∧ difference = .onlyRight ∨
    rest = [] ∧ (lefts.lookup key).isSome ∧ rights.lookup key = none ∧ difference = .onlyLeft ∨
    ∃ left right, lefts.lookup key = some left ∧ rights.lookup key = some right ∧ deeper left right

theorem DiffersBelow.imp {deeper deeper' : Tree Key α → Tree Key α → Prop}
    {lefts rights : List (Key × Tree Key α)} {key : Key} {rest : List Key}
    {difference : Difference Key α}
    (hdeeper : ∀ left right, lefts.lookup key = some left → deeper left right →
      deeper' left right)
    (h : DiffersBelow deeper lefts rights key rest difference) :
    DiffersBelow deeper' lefts rights key rest difference := by
  rcases h with honly | honly | ⟨left, right, hleft, hright, h⟩
  · exact .inl honly
  · exact .inr (.inl honly)
  · exact .inr (.inr ⟨left, right, hleft, hright, hdeeper left right hleft h⟩)

/-- Where two children differ, their nodes differ below the children's key. -/
theorem DiffersAt.of_child {lefts rights : List (Key × Tree Key α)} {key : Key}
    {left right : Tree Key α} {rest : List Key} {difference : Difference Key α}
    (hleft : lefts.lookup key = some left) (hright : rights.lookup key = some right)
    (h : DiffersAt same left right rest difference) :
    DiffersAt same (node lefts) (node rights) (key :: rest) difference := by
  have hup {entries : List (Key × Tree Key α)} {child found : Tree Key α} {below : List Key}
      (hlookup : entries.lookup key = some child) (hfound : child.sub? below = some found) :
      (node entries).sub? (key :: below) = some found :=
    sub?_cons_eq_some_iff.mpr ⟨entries, child, rfl, hlookup, hfound⟩
  cases h with
  | onlyRight parent last hfirst hsecond hmissing hpresent =>
      exact .onlyRight (key :: parent) last (hup hleft hfirst) (hup hright hsecond) hmissing
        hpresent
  | onlyLeft parent last hfirst hsecond hpresent hmissing =>
      exact .onlyLeft (key :: parent) last (hup hleft hfirst) (hup hright hsecond) hpresent
        hmissing
  | unequal hfirst hsecond hunequal =>
      exact .unequal (hup hleft hfirst) (hup hright hsecond) hunequal

/-- Below the root two trees differ only if both are nodes: in the first key, or further below. -/
theorem differsAt_cons {a b : Tree Key α} {key : Key} {rest : List Key}
    {difference : Difference Key α} : DiffersAt same a b (key :: rest) difference ↔
      ∃ lefts rights, a = node lefts ∧ b = node rights ∧
        DiffersBelow (fun left right ↦ DiffersAt same left right rest difference) lefts rights key
          rest difference := by
  constructor
  · intro h
    generalize hpath : key :: rest = path at h
    cases h with
    | onlyRight parent last hleft hright hmissing hpresent =>
        cases parent with
        | nil =>
            simp only [List.nil_append, List.cons.injEq] at hpath
            obtain ⟨rfl, rfl⟩ := hpath
            simp only [sub?_nil, Option.some.injEq] at hleft hright
            exact ⟨_, _, hleft, hright, .inl ⟨rfl, hmissing, hpresent, rfl⟩⟩
        | cons first parent =>
            simp only [List.cons_append, List.cons.injEq] at hpath
            obtain ⟨rfl, rfl⟩ := hpath
            obtain ⟨above, left, rfl, hfirst, hleft⟩ := sub?_cons_eq_some_iff.mp hleft
            obtain ⟨above', right, rfl, hsecond, hright⟩ := sub?_cons_eq_some_iff.mp hright
            exact ⟨above, above', rfl, rfl, .inr (.inr ⟨left, right, hfirst, hsecond,
              .onlyRight _ _ hleft hright hmissing hpresent⟩)⟩
    | onlyLeft parent last hleft hright hpresent hmissing =>
        cases parent with
        | nil =>
            simp only [List.nil_append, List.cons.injEq] at hpath
            obtain ⟨rfl, rfl⟩ := hpath
            simp only [sub?_nil, Option.some.injEq] at hleft hright
            exact ⟨_, _, hleft, hright, .inr (.inl ⟨rfl, hpresent, hmissing, rfl⟩)⟩
        | cons first parent =>
            simp only [List.cons_append, List.cons.injEq] at hpath
            obtain ⟨rfl, rfl⟩ := hpath
            obtain ⟨above, left, rfl, hfirst, hleft⟩ := sub?_cons_eq_some_iff.mp hleft
            obtain ⟨above', right, rfl, hsecond, hright⟩ := sub?_cons_eq_some_iff.mp hright
            exact ⟨above, above', rfl, rfl, .inr (.inr ⟨left, right, hfirst, hsecond,
              .onlyLeft _ _ hleft hright hpresent hmissing⟩)⟩
    | unequal hleft hright hunequal =>
        subst hpath
        obtain ⟨above, left, rfl, hfirst, hleft⟩ := sub?_cons_eq_some_iff.mp hleft
        obtain ⟨above', right, rfl, hsecond, hright⟩ := sub?_cons_eq_some_iff.mp hright
        exact ⟨above, above', rfl, rfl, .inr (.inr ⟨left, right, hfirst, hsecond,
          .unequal hleft hright hunequal⟩)⟩
  · rintro ⟨lefts, rights, rfl, rfl, h⟩
    rcases h with ⟨rfl, hmissing, hpresent, rfl⟩ | ⟨rfl, hpresent, hmissing, rfl⟩ |
      ⟨left, right, hleft, hright, h⟩
    · exact .onlyRight [] key (sub?_nil _) (sub?_nil _) hmissing hpresent
    · exact .onlyLeft [] key (sub?_nil _) (sub?_nil _) hpresent hmissing
    · exact h.of_child same hleft hright

end Differences

/-! ## The list of all differences -/

section Listing

variable [DecidableEq Key] [LE Key] [DecidableLE Key]

/-- The keys of two nodes, sorted and without repetition. -/
def unionKeys (lefts rights : List (Key × Tree Key α)) : List Key :=
  ((lefts.map Prod.fst ++ rights.map Prod.fst).dedup).insertionSort (· ≤ ·)

theorem unionKeys_nodup (lefts rights : List (Key × Tree Key α)) :
    (unionKeys lefts rights).Nodup :=
  (List.perm_insertionSort _ _).nodup_iff.mpr (List.nodup_dedup _)

theorem mem_unionKeys {lefts rights : List (Key × Tree Key α)} {key : Key} :
    key ∈ unionKeys lefts rights ↔
      (lefts.lookup key).isSome ∨ (rights.lookup key).isSome := by
  rw [unionKeys, List.mem_insertionSort, List.mem_dedup, List.mem_append, mem_keys_iff,
    mem_keys_iff]

theorem DiffersBelow.mem_unionKeys {deeper : Tree Key α → Tree Key α → Prop}
    {lefts rights : List (Key × Tree Key α)} {key : Key} {rest : List Key}
    {difference : Difference Key α} (h : DiffersBelow deeper lefts rights key rest difference) :
    key ∈ unionKeys lefts rights := by
  rw [Tree.mem_unionKeys]
  rcases h with ⟨_, _, hright, _⟩ | ⟨_, hleft, _, _⟩ | ⟨left, right, hleft, _, _⟩
  · exact .inr hright
  · exact .inl hleft
  · exact .inl (by rw [hleft]; rfl)

variable (same : α → α → Bool)

/-- The differences with their paths, in the order of the keys. -/
def differences : Tree Key α → Tree Key α → List (List Key × Difference Key α)
  | .leaf left, .leaf right =>
      if same left right then [] else [([], .unequal (.leaf left) (.leaf right))]
  | .node lefts, .node rights =>
      (unionKeys lefts rights).flatMap fun key ↦
        match _ : lefts.lookup key, rights.lookup key with
        | none, _ => [([key], .onlyRight)]
        | some _, none => [([key], .onlyLeft)]
        | some left, some right =>
            (differences left right).map fun found ↦ (key :: found.1, found.2)
  | left, right => [([], .unequal left right)]
termination_by left => sizeOf left
decreasing_by exact sizeOf_lookup_lt ‹_›

/-- Two trees that are not both nodes differ at the root or nowhere. -/
theorem differences_of_not_node {a b : Tree Key α} (h : ¬ (a.isNode ∧ b.isNode)) :
    differences same a b = if Unequal same a b then [([], .unequal a b)] else [] := by
  cases a with
  | leaf left =>
      cases b with
      | leaf right => cases hsame : same left right <;> simp [differences, Unequal, hsame]
      | node rights => simp [differences, Unequal]
  | node lefts =>
      cases b with
      | leaf right => simp [differences, Unequal]
      | node rights => exact absurd ⟨rfl, rfl⟩ h

/-- The differences below one key of two nodes. -/
def differencesAt (lefts rights : List (Key × Tree Key α)) (key : Key) :
    List (List Key × Difference Key α) :=
  match lefts.lookup key, rights.lookup key with
  | none, _ => [([key], .onlyRight)]
  | some _, none => [([key], .onlyLeft)]
  | some left, some right =>
      (differences same left right).map fun found ↦ (key :: found.1, found.2)

theorem differences_node (lefts rights : List (Key × Tree Key α)) :
    differences same (node lefts) (node rights) =
      (unionKeys lefts rights).flatMap (differencesAt same lefts rights) := by
  rw [differences]
  refine List.flatMap_congr fun key _ ↦ ?_
  unfold differencesAt
  cases lefts.lookup key <;> cases rights.lookup key <;> rfl

theorem mem_differencesAt {lefts rights : List (Key × Tree Key α)} {key : Key}
    (hkey : key ∈ unionKeys lefts rights) {entry : List Key × Difference Key α} :
    entry ∈ differencesAt same lefts rights key ↔ ∃ rest, entry.1 = key :: rest ∧
      DiffersBelow (fun left right ↦ (rest, entry.2) ∈ differences same left right) lefts rights key
        rest entry.2 := by
  obtain ⟨path, difference⟩ := entry
  rw [mem_unionKeys] at hkey
  unfold differencesAt DiffersBelow
  cases hleft : lefts.lookup key with
  | none =>
      rw [hleft] at hkey
      simp only [Option.isSome_none, Bool.false_eq_true, false_or] at hkey
      simp [hkey]
  | some left =>
      cases hright : rights.lookup key with
      | none => simp
      | some right =>
          simp only [List.mem_map, Prod.mk.injEq, Prod.exists, reduceCtorEq, false_and, and_false,
            Option.some.injEq, false_or]
          constructor
          · rintro ⟨rest, found, hfound, rfl, rfl⟩
            exact ⟨rest, rfl, left, right, rfl, rfl, hfound⟩
          · rintro ⟨rest, rfl, _, _, rfl, rfl, hfound⟩
            exact ⟨rest, difference, hfound, rfl, rfl⟩

/-- The list holds every difference, and nothing else. -/
theorem mem_differences {a b : Tree Key α} {path : List Key} {difference : Difference Key α} :
    (path, difference) ∈ differences same a b ↔ DiffersAt same a b path difference := by
  induction a, b using pairInduction generalizing path difference with
  | apart a b h =>
      rw [differences_of_not_node same h]
      cases path with
      | nil =>
          rw [differsAt_nil]
          split <;> simp_all
      | cons key rest =>
          rw [differsAt_cons]
          constructor
          · intro hmem
            split at hmem <;> simp at hmem
          · rintro ⟨lefts, rights, rfl, rfl, _⟩
            exact absurd ⟨rfl, rfl⟩ h
  | nodes lefts rights ih =>
      rw [differences_node, List.mem_flatMap]
      constructor
      · rintro ⟨key, hkey, hmem⟩
        obtain ⟨rest, hpath, hmem⟩ := (mem_differencesAt same hkey).mp hmem
        obtain rfl : path = key :: rest := hpath
        exact (differsAt_cons same).mpr ⟨lefts, rights, rfl, rfl,
          hmem.imp fun left right hleft ↦ (ih key left right hleft).mp⟩
      · intro h
        cases path with
        | nil => exact absurd ((differsAt_nil same).mp h).1 id
        | cons key rest =>
            obtain ⟨_, _, hlefts, hrights, h⟩ := (differsAt_cons same).mp h
            obtain rfl := node.inj hlefts
            obtain rfl := node.inj hrights
            exact ⟨key, h.mem_unionKeys, (mem_differencesAt same h.mem_unionKeys).mpr
              ⟨rest, rfl, h.imp fun left right hleft ↦ (ih key left right hleft).mpr⟩⟩

/-- No path is listed twice. -/
theorem differences_nodup (a b : Tree Key α) : ((differences same a b).map Prod.fst).Nodup := by
  induction a, b using pairInduction with
  | apart a b h =>
      rw [differences_of_not_node same h]
      split <;> simp
  | nodes lefts rights ih =>
      have hfirst : ∀ key ∈ unionKeys lefts rights,
          ∀ path ∈ (differencesAt same lefts rights key).map Prod.fst, path.head? = some key := by
        intro key hkey path hpath
        obtain ⟨entry, hentry, rfl⟩ := List.mem_map.mp hpath
        obtain ⟨rest, hrest, _⟩ := (mem_differencesAt same hkey).mp hentry
        rw [hrest]
        rfl
      rw [differences_node, List.map_flatMap, List.nodup_flatMap]
      constructor
      · intro key _
        unfold differencesAt
        cases hleft : lefts.lookup key with
        | none => simp
        | some left =>
            cases rights.lookup key with
            | none => simp
            | some right =>
                have hnodup := (ih key left right hleft).map (List.cons_injective (a := key))
                simpa [List.map_map, Function.comp_def] using hnodup
      · refine (unionKeys_nodup lefts rights).imp_of_mem
          fun {first second} hfirstKey hsecondKey hne ↦ ?_
        intro path hpath hpath'
        have hhead := hfirst first hfirstKey path hpath
        rw [hfirst second hsecondKey path hpath'] at hhead
        exact hne (Option.some.inj hhead).symm

end Listing

/-! ## Entry lists, pairwise and by key -/

section Entries

variable [DecidableEq Key]

theorem rel_lookup_of_forall₂ {related : Tree Key α → Tree Key α → Prop}
    {lefts rights : List (Key × Tree Key α)}
    (h : List.Forall₂ (fun left right ↦ left.1 = right.1 ∧ related left.2 right.2) lefts rights)
    (key : Key) : Option.Rel related (lefts.lookup key) (rights.lookup key) := by
  induction h with
  | nil => exact .none
  | @cons left right lefts rights hhead _ ih =>
      rw [List.lookup_cons, List.lookup_cons, ← hhead.1]
      cases key == left.1 with
      | true => exact .some hhead.2
      | false => exact ih

theorem forall₂_of_rel_lookup {related : Tree Key α → Tree Key α → Prop}
    {lefts rights : List (Key × Tree Key α)} (hkeys : lefts.map Prod.fst = rights.map Prod.fst)
    (hnodup : (lefts.map Prod.fst).Nodup)
    (h : ∀ key, Option.Rel related (lefts.lookup key) (rights.lookup key)) :
    List.Forall₂ (fun left right ↦ left.1 = right.1 ∧ related left.2 right.2) lefts rights := by
  induction lefts generalizing rights with
  | nil =>
      obtain rfl : rights = [] := by simpa using hkeys.symm
      exact .nil
  | cons left lefts ih =>
      obtain ⟨right, rights, rfl⟩ := List.exists_cons_of_ne_nil (l := rights)
        (by rintro rfl; simp at hkeys)
      obtain ⟨hhead, htail⟩ := List.cons.inj hkeys
      obtain ⟨hfresh, hnodup⟩ := List.nodup_cons.mp hnodup
      have habsent {entries : List (Key × Tree Key α)} (hentries : left.1 ∉ entries.map Prod.fst) :
          entries.lookup left.1 = none := by
        rwa [mem_keys_iff, Option.not_isSome_iff_eq_none] at hentries
      refine .cons ⟨hhead, ?_⟩ (ih htail hnodup fun key ↦ ?_)
      · have hfirst := h left.1
        rw [List.lookup_cons, List.lookup_cons, ← hhead, beq_self_eq_true] at hfirst
        cases hfirst
        assumption
      · by_cases hkey : key = left.1
        · rw [hkey, habsent hfresh, habsent (htail ▸ hfresh)]
          exact .none
        · have hrest := h key
          rw [List.lookup_cons, List.lookup_cons, ← hhead, beq_false_of_ne hkey] at hrest
          exact hrest

end Entries

/-! ## Trees without differences -/

section Alike

variable [DecidableEq Key] [LE Key] [DecidableLE Key]

variable (same : α → α → Bool)

/-- The walk finds no difference. -/
def Alike (a b : Tree Key α) : Prop := differences same a b = []

theorem alike_leaf {left right : α} :
    Alike same (leaf left : Tree Key α) (leaf right) ↔ same left right = true := by
  unfold Alike
  rw [differences_of_not_node same (by simp [isNode])]
  cases hsame : same left right <;> simp [Unequal, hsame]

/-- Nodes are alike when they have the same keys with alike values. -/
theorem alike_node {lefts rights : List (Key × Tree Key α)} :
    Alike same (node lefts) (node rights) ↔
      ∀ key, Option.Rel (Alike same) (lefts.lookup key) (rights.lookup key) := by
  have hkey (key : Key) (hmem : key ∈ unionKeys lefts rights) :
      differencesAt same lefts rights key = [] ↔
        Option.Rel (Alike same) (lefts.lookup key) (rights.lookup key) := by
    rw [mem_unionKeys] at hmem
    unfold differencesAt
    cases hleft : lefts.lookup key with
    | none =>
        rw [hleft] at hmem
        obtain ⟨right, hright⟩ := Option.isSome_iff_exists.mp (hmem.resolve_left (by simp))
        rw [hright]
        exact iff_of_false (by simp) (fun h ↦ nomatch h)
    | some left =>
        cases rights.lookup key with
        | none => exact iff_of_false (by simp) (fun h ↦ nomatch h)
        | some right =>
            simp only [List.map_eq_nil_iff]
            exact ⟨fun h ↦ .some h, fun h ↦ by cases h; assumption⟩
  unfold Alike
  rw [differences_node, List.flatMap_eq_nil_iff]
  constructor
  · intro h key
    by_cases hmem : key ∈ unionKeys lefts rights
    · exact (hkey key hmem).mp (h key hmem)
    · have habsent := mt mem_unionKeys.mpr hmem
      simp only [not_or, Bool.not_eq_true, Option.isSome_eq_false_iff, Option.isNone_iff_eq_none]
        at habsent
      rw [habsent.1, habsent.2]
      exact .none
  · intro h key hmem
    exact (hkey key hmem).mpr (h key)

/-- Nodes whose keys are listed in one strict order are alike when their entries are, pairwise. -/
theorem alike_node_of_sorted (lt : Key → Key → Prop) [Std.Asymm lt]
    {lefts rights : List (Key × Tree Key α)} (hlefts : (lefts.map Prod.fst).Pairwise lt)
    (hrights : (rights.map Prod.fst).Pairwise lt) :
    Alike same (node lefts) (node rights) ↔
      List.Forall₂ (fun left right ↦ left.1 = right.1 ∧ Alike same left.2 right.2) lefts rights := by
  have hnodup {keys : List Key} (hkeys : keys.Pairwise lt) : keys.Nodup :=
    hkeys.imp fun {first second} hlt hequal ↦ by
      rw [hequal] at hlt
      exact Std.Asymm.asymm _ _ hlt hlt
  rw [alike_node]
  constructor
  · intro h
    have hsame : ∀ key, key ∈ lefts.map Prod.fst ↔ key ∈ rights.map Prod.fst := by
      intro key
      rw [mem_keys_iff, mem_keys_iff]
      have hrel := h key
      cases hleft : lefts.lookup key <;> cases hright : rights.lookup key <;>
        rw [hleft, hright] at hrel <;> first | rfl | cases hrel
    have hkeys : lefts.map Prod.fst = rights.map Prod.fst :=
      ((List.perm_ext_iff_of_nodup (hnodup hlefts) (hnodup hrights)).mpr hsame).eq_of_pairwise
        (fun first second _ _ hlt hgt ↦ absurd hgt (Std.Asymm.asymm _ _ hlt)) hlefts hrights
    exact forall₂_of_rel_lookup hkeys (hnodup hlefts) h
  · exact rel_lookup_of_forall₂

theorem alike_iff_not_differsAt {a b : Tree Key α} :
    Alike same a b ↔ ∀ path difference, ¬ DiffersAt same a b path difference := by
  unfold Alike
  rw [List.eq_nil_iff_forall_not_mem]
  constructor
  · intro h path difference hdiffers
    exact h (path, difference) ((mem_differences same).mpr hdiffers)
  · rintro h ⟨path, difference⟩ hmem
    exact h path difference ((mem_differences same).mp hmem)

/-- A tree is alike itself when its leaves are. -/
theorem alike_self_iff {tree : Tree Key α} :
    Alike same tree tree ↔ tree.AllLeaves fun value ↦ same value value = true := by
  rw [alike_iff_not_differsAt]
  constructor
  · intro h path value hvalue
    have hsub := view?_eq_leaf_iff.mp hvalue
    by_contra hself
    exact h path _ (.unequal hsub hsub (by simpa [Unequal] using hself))
  · intro h path difference hdiffers
    cases hdiffers with
    | onlyRight parent key hleft hright hmissing hpresent =>
        obtain rfl := node.inj (Option.some.inj (hleft.symm.trans hright))
        simp [hmissing] at hpresent
    | onlyLeft parent key hleft hright hpresent hmissing =>
        obtain rfl := node.inj (Option.some.inj (hleft.symm.trans hright))
        simp [hmissing] at hpresent
    | unequal hleft hright hunequal =>
        obtain rfl := Option.some.inj (hleft.symm.trans hright)
        rename_i found
        cases found with
        | leaf value =>
            rw [Unequal, h path value (view?_eq_leaf_iff.mpr hleft)] at hunequal
            exact absurd hunequal (by decide)
        | node entries => exact hunequal

end Alike

end Tree

end ReflectNanobind.Library
