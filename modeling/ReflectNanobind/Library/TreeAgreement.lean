import ReflectNanobind.Library.KeyedTree

/-!
# Agreement of keyed trees

Two trees agree at a path when nothing stands there in both, a node in both, or leaves that compare
equal.  When the paths below a hidden one are hidden too, every difference of two trees is hidden
exactly when they agree at every path that is not.  Agreement is therefore as transitive as the
comparison of leaves, and it survives a change of the leaves that the comparison does not see.
Exchanging two trees mirrors their differences one by one.
-/

namespace ReflectNanobind.Library

namespace Tree

variable {Key α : Type}

-- `same` compares leaves
variable (same : α → α → Bool)

theorem unequal_comm (hcomm : ∀ left right, same left right = same right left)
    (a b : Tree Key α) : Unequal same a b ↔ Unequal same b a := by
  cases a <;> cases b <;> simp [Unequal, hcomm]

/-! ## Agreement at a path -/

variable [DecidableEq Key]

/-- Nothing, a node, or a leaf stands there on both sides, and the leaves compare equal. -/
def ViewsAgree : Option (Option α) → Option (Option α) → Prop
  | none, none | some none, some none => True
  | some (some left), some (some right) => same left right = true
  | _, _ => False

def AgreeAt (a b : Tree Key α) (path : List Key) : Prop :=
  ViewsAgree same (a.view? path) (b.view? path)

theorem ViewsAgree.trans
    (htrans : ∀ left middle right, same left middle = true → same middle right = true →
      same left right = true)
    {left middle right : Option (Option α)} (hleft : ViewsAgree same left middle)
    (hright : ViewsAgree same middle right) : ViewsAgree same left right := by
  rcases left with _ | _ | left <;> rcases middle with _ | _ | middle <;>
    rcases right with _ | _ | right <;> simp only [ViewsAgree] at hleft hright ⊢
  exact htrans left middle right hleft hright

theorem viewsAgree_map {f : α → α} (hsame : ∀ left right, same (f left) (f right) = same left right)
    (left right : Option (Option α)) :
    ViewsAgree same (left.map (Option.map f)) (right.map (Option.map f)) ↔
      ViewsAgree same left right := by
  rcases left with _ | _ | left <;> rcases right with _ | _ | right <;> simp [ViewsAgree, hsame]

theorem view?_append (tree : Tree Key α) (parent rest : List Key) :
    tree.view? (parent ++ rest) = (tree.sub? parent).bind (·.view? rest) := by
  unfold view?
  induction parent generalizing tree with
  | nil => simp
  | cons key parent ih =>
      cases tree with
      | leaf value => simp
      | node entries =>
          rw [List.cons_append, sub?_node_cons, sub?_node_cons]
          cases entries.lookup key with
          | none => rfl
          | some child => exact ih child

theorem view?_node_cons (entries : List (Key × Tree Key α)) (key : Key) (rest : List Key) :
    (node entries).view? (key :: rest) = (entries.lookup key).bind (·.view? rest) := by
  unfold view?
  rw [sub?_node_cons]
  cases entries.lookup key <;> rfl

theorem view?_singleton (entries : List (Key × Tree Key α)) (key : Key) :
    ((node entries).view? [key]).isSome = (entries.lookup key).isSome := by
  rw [view?_node_cons]
  cases entries.lookup key <;> simp [view?]

/-- A difference is a disagreement. -/
theorem DiffersAt.not_agreeAt {a b : Tree Key α} {path : List Key} {difference : Difference Key α}
    (h : DiffersAt same a b path difference) : ¬ AgreeAt same a b path := by
  have hpresence {left right : Option (Option α)} (h : left.isSome ≠ right.isSome) :
      ¬ ViewsAgree same left right := by
    rcases left with _ | _ | left <;> rcases right with _ | _ | right <;> simp_all [ViewsAgree]
  unfold AgreeAt
  cases h with
  | onlyRight parent key hleft hright hmissing hpresent =>
      apply hpresence
      rw [view?_append, view?_append, hleft, hright, Option.bind_some, Option.bind_some,
        view?_singleton, view?_singleton, hmissing, hpresent]
      simp
  | onlyLeft parent key hleft hright hpresent hmissing =>
      apply hpresence
      rw [view?_append, view?_append, hleft, hright, Option.bind_some, Option.bind_some,
        view?_singleton, view?_singleton, hmissing, hpresent]
      simp
  | @unequal _ left right hleft hright hunequal =>
      unfold view?
      rw [hleft, hright]
      cases left <;> cases right <;> simp_all [ViewsAgree, Unequal]

/-- Trees that disagree at a path differ there or above. -/
theorem exists_differsAt {a b : Tree Key α} {path : List Key} (h : ¬ AgreeAt same a b path) :
    ∃ ancestor, ancestor <+: path ∧ ∃ difference, DiffersAt same a b ancestor difference := by
  induction path generalizing a b with
  | nil =>
      refine ⟨[], List.prefix_rfl, .unequal a b, (differsAt_nil same).mpr ⟨?_, rfl⟩⟩
      cases a <;> cases b <;> simp_all [AgreeAt, ViewsAgree, view?, Unequal]
  | cons key rest ih =>
      cases a with
      | leaf left =>
          cases b with
          | leaf right => exact absurd trivial h
          | node rights =>
              exact ⟨[], List.nil_prefix, _, (differsAt_nil same).mpr ⟨trivial, rfl⟩⟩
      | node lefts =>
          cases b with
          | leaf right =>
              exact ⟨[], List.nil_prefix, _, (differsAt_nil same).mpr ⟨trivial, rfl⟩⟩
          | node rights =>
              have hkey : [key] <+: key :: rest := ⟨rest, rfl⟩
              rw [AgreeAt, view?_node_cons, view?_node_cons] at h
              cases hleft : lefts.lookup key with
              | none =>
                  cases hright : rights.lookup key with
                  | none =>
                      rw [hleft, hright] at h
                      exact absurd trivial h
                  | some right =>
                      exact ⟨[key], hkey, _, .onlyRight [] key (sub?_nil _) (sub?_nil _) hleft
                        (by rw [hright]; rfl)⟩
              | some left =>
                  cases hright : rights.lookup key with
                  | none =>
                      exact ⟨[key], hkey, _, .onlyLeft [] key (sub?_nil _) (sub?_nil _)
                        (by rw [hleft]; rfl) hright⟩
                  | some right =>
                      rw [hleft, hright] at h
                      obtain ⟨ancestor, hancestor, difference, hdiffers⟩ := ih h
                      exact ⟨key :: ancestor, (List.prefix_cons_inj key).mpr hancestor, difference,
                        hdiffers.of_child same hleft hright⟩

/-! ## Agreement outside hidden paths -/

section Outside

variable {hidden : List Key → Prop}

/-- The trees agree at every path that is not hidden. -/
def AgreeOutside (hidden : List Key → Prop) (a b : Tree Key α) : Prop :=
  ∀ path, ¬ hidden path → AgreeAt same a b path

/-- Every difference is hidden exactly when the trees agree at all other paths. -/
theorem differences_hidden_iff
    (hclosed : ∀ ancestor path, ancestor <+: path → hidden ancestor → hidden path)
    {a b : Tree Key α} : (∀ path difference, DiffersAt same a b path difference → hidden path) ↔
      AgreeOutside same hidden a b := by
  constructor
  · intro h path hpath
    by_contra hdisagree
    obtain ⟨ancestor, hancestor, difference, hdiffers⟩ := exists_differsAt same hdisagree
    exact hpath (hclosed ancestor path hancestor (h ancestor difference hdiffers))
  · intro h path difference hdiffers
    by_contra hpath
    exact hdiffers.not_agreeAt same (h path hpath)

theorem AgreeOutside.trans
    (htrans : ∀ left middle right, same left middle = true → same middle right = true →
      same left right = true)
    {a b c : Tree Key α} (hleft : AgreeOutside same hidden a b)
    (hright : AgreeOutside same hidden b c) : AgreeOutside same hidden a c :=
  fun path hpath ↦ (hleft path hpath).trans same htrans (hright path hpath)

/-- A change of the leaves that the comparison does not see keeps agreement. -/
theorem agreeOutside_congr {f : α → α}
    (hsame : ∀ left right, same (f left) (f right) = same left right) {a b c d : Tree Key α}
    (hleft : ∀ path, c.view? path = (a.view? path).map (Option.map f))
    (hright : ∀ path, d.view? path = (b.view? path).map (Option.map f)) :
    AgreeOutside same hidden c d ↔ AgreeOutside same hidden a b := by
  refine forall₂_congr fun path _ ↦ ?_
  rw [AgreeAt, AgreeAt, hleft, hright]
  exact viewsAgree_map same hsame _ _

end Outside

/-! ## Mirrored differences -/

/-- The difference as it is seen from the other side. -/
def Difference.mirror : Difference Key α → Difference Key α
  | .onlyRight => .onlyLeft
  | .onlyLeft => .onlyRight
  | .unequal left right => .unequal right left

section Mirror

variable [LE Key] [DecidableLE Key] [Std.Antisymm fun first second : Key ↦ first ≤ second]
  [Std.Total fun first second : Key ↦ first ≤ second] [IsTrans Key (· ≤ ·)]

theorem unionKeys_comm (lefts rights : List (Key × Tree Key α)) :
    unionKeys lefts rights = unionKeys rights lefts := by
  have hperm : (unionKeys lefts rights).Perm (unionKeys rights lefts) :=
    (List.perm_ext_iff_of_nodup (unionKeys_nodup _ _) (unionKeys_nodup _ _)).mpr fun key ↦ by
      rw [mem_unionKeys, mem_unionKeys, or_comm]
  exact hperm.eq_of_pairwise (fun _ _ _ _ ↦ Std.Antisymm.antisymm _ _)
    (List.pairwise_insertionSort _ _) (List.pairwise_insertionSort _ _)

/-- Exchanged trees have the mirrored differences, in the same order. -/
theorem differences_mirror (hcomm : ∀ left right, same left right = same right left)
    (a b : Tree Key α) : differences same b a =
      (differences same a b).map fun entry ↦ (entry.1, entry.2.mirror) := by
  induction a, b using pairInduction with
  | apart a b h =>
      rw [differences_of_not_node same h, differences_of_not_node same (by rwa [and_comm])]
      by_cases hunequal : Unequal same a b
      · rw [if_pos hunequal, if_pos ((unequal_comm same hcomm a b).mp hunequal)]
        rfl
      · rw [if_neg hunequal, if_neg (mt (unequal_comm same hcomm a b).mpr hunequal)]
        rfl
  | nodes lefts rights ih =>
      rw [differences_node, differences_node, unionKeys_comm, List.map_flatMap]
      refine List.flatMap_congr fun key hkey ↦ ?_
      rw [mem_unionKeys] at hkey
      unfold differencesAt
      cases hleft : lefts.lookup key with
      | none =>
          cases hright : rights.lookup key with
          | none => simp [hleft, hright] at hkey
          | some right => rfl
      | some left =>
          cases hright : rights.lookup key with
          | none => rfl
          | some right =>
              simp only [ih key left right hleft, List.map_map]
              rfl

end Mirror

end Tree

end ReflectNanobind.Library
