import ReflectNanobind.Gates.Invocation
import ReflectNanobind.Library.KeyedTree

/-!
# The surface comparison and its ignore patterns

`_diff`, the option loop of `main`, and the report of `compare` in `surface_diff.py`.  `_diff` tests the
patterns on growing path texts at three places of its recursion.  Its report is the list of all
differences of the two trees without the entries below a matched path, and the pattern list that it
gets is the one that the orchestrator put on the command line.
-/

namespace ReflectNanobind.Surface

open Gates Library

/-! ## The command line -/

/-- What `main` does with its argument vector. -/
inductive MainCall where
  | dump (buildDir moduleName : String)
  | compare (runDir moduleName : String) (ignores : List String)
  | usage
  deriving DecidableEq, Repr

/-- The option loop of the `compare` mode. -/
def collectIgnores : List String → List String
  | [] => []
  | [_] => []
  | option :: value :: rest =>
      if option = "--ignore" then value :: collectIgnores rest else collectIgnores (value :: rest)

def main : List String → MainCall
  | _ :: mode :: directory :: moduleName :: rest =>
      if mode = "dump" then .dump directory moduleName
      else if mode = "compare" then .compare directory moduleName (collectIgnores rest)
      else .usage
  | _ => .usage

/-- Every pattern comes back as the value of its option, also an empty one or one that reads like an
option. -/
theorem collectIgnores_flatMap (patterns : List String) :
    collectIgnores (patterns.flatMap fun pat ↦ ["--ignore", pat]) = patterns := by
  induction patterns with
  | nil => rfl
  | cons pat rest ih =>
      rw [List.flatMap_cons, List.cons_append, List.cons_append, List.nil_append, collectIgnores,
        if_pos rfl, ih]

/-- The interpreter hands the arguments after its own path to the script. -/
theorem main_surfaceDiffCommand (inv : Invocation) :
    main (inv.surfaceDiffCommand.args.drop 1) =
      .compare inv.run inv.toml.moduleName inv.ignores :=
  congrArg (MainCall.compare inv.run inv.toml.moduleName) (collectIgnores_flatMap inv.ignores)

/-! ## The comparison -/

section Comparison

variable {α : Type}

-- `search rx text`: the compiled pattern is found in the text
variable (search : String → String → Bool)

-- Python's equality of leaves and `repr`
variable (same : α → α → Bool) (pyRepr : Tree String α → String)

def ignored (ignore : List String) (path : String) : Bool := ignore.any fun rx ↦ search rx path

/-- The lines that `_diff` appends to its output. -/
def diff (a b : Tree String α) (path : String) (ignore : List String) : List String :=
  if ignored search ignore path then []
  else match a, b with
  | .node lefts, .node rights =>
      (Tree.unionKeys lefts rights).flatMap fun k ↦
        let p := path ++ "." ++ k
        if ignored search ignore p then []
        else match _ : lefts.lookup k, rights.lookup k with
        | none, _ => [p ++ ": only in emit"]
        | some _, none => [p ++ ": only in constexpr"]
        | some left, some right => diff left right p ignore
  | a, b =>
      if Tree.Unequal same a b then
        [path ++ ": constexpr=" ++ pyRepr a ++ " emit=" ++ pyRepr b]
      else []
termination_by sizeOf a
decreasing_by exact Tree.sizeOf_lookup_lt ‹_›

theorem diff_of_not_node {a b : Tree String α} (h : ¬ (a.isNode ∧ b.isNode)) (path : String)
    (ignore : List String) : diff search same pyRepr a b path ignore =
      if ignored search ignore path then []
      else if Tree.Unequal same a b then
        [path ++ ": constexpr=" ++ pyRepr a ++ " emit=" ++ pyRepr b]
      else [] := by
  cases a with
  | leaf left => rw [diff]; simp
  | node lefts =>
      cases b with
      | leaf right => rw [diff]; simp
      | node rights => exact absurd ⟨rfl, rfl⟩ h

/-- The lines below one key of two nodes. -/
def diffAt (lefts rights : List (String × Tree String α)) (path : String) (ignore : List String)
    (k : String) : List String :=
  if ignored search ignore (path ++ "." ++ k) then []
  else match lefts.lookup k, rights.lookup k with
  | none, _ => [path ++ "." ++ k ++ ": only in emit"]
  | some _, none => [path ++ "." ++ k ++ ": only in constexpr"]
  | some left, some right => diff search same pyRepr left right (path ++ "." ++ k) ignore

theorem diff_node (lefts rights : List (String × Tree String α)) (path : String)
    (ignore : List String) :
    diff search same pyRepr (.node lefts) (.node rights) path ignore =
      if ignored search ignore path then []
      else (Tree.unionKeys lefts rights).flatMap
        (diffAt search same pyRepr lefts rights path ignore) := by
  rw [diff]
  congr 1
  refine List.flatMap_congr fun k _ ↦ ?_
  unfold diffAt
  cases lefts.lookup k <;> cases rights.lookup k <;> rfl

/-- The outcome of `compare` for two loaded surfaces: it prints the mismatches and the summary. -/
structure Comparison where
  mismatches : List String
  summary : String
  returncode : ℤ

def compare (cx em : Tree String α) (ignorePatterns : List String) : Comparison :=
  let mismatches := diff search same pyRepr cx em "" ignorePatterns
  let topLevel := match cx with
    | .node entries => entries.length
    | .leaf _ => 0
  { mismatches := mismatches
    summary := "surface_diff: " ++ toString mismatches.length ++ " mismatch(es), " ++
      toString topLevel ++ " top-level object(s) compared"
    returncode := if mismatches ≠ [] then 1 else 0 }

/-! ## The report -/

/-- The text of a path below `path`. -/
def textFrom (path : String) (keys : List String) : String :=
  keys.foldl (fun path key ↦ path ++ "." ++ key) path

/-- The path of the entry or one of its ancestors is matched. -/
def suppressed (ignore : List String) (path : String) (keys : List String) : Bool :=
  keys.inits.any fun ancestor ↦ ignored search ignore (textFrom path ancestor)

/-- The line of a difference. -/
def line (path : String) (entry : List String × Tree.Difference String α) : String :=
  match entry.2 with
  | .onlyRight => textFrom path entry.1 ++ ": only in emit"
  | .onlyLeft => textFrom path entry.1 ++ ": only in constexpr"
  | .unequal left right =>
      textFrom path entry.1 ++ ": constexpr=" ++ pyRepr left ++ " emit=" ++ pyRepr right

theorem suppressed_nil (ignore : List String) (path : String) :
    suppressed search ignore path [] = ignored search ignore path := by
  simp [suppressed, textFrom]

theorem suppressed_cons (ignore : List String) (path key : String) (rest : List String) :
    suppressed search ignore path (key :: rest) =
      (ignored search ignore path || suppressed search ignore (path ++ "." ++ key) rest) := by
  simp [suppressed, textFrom, List.any_map, Function.comp_def]

theorem suppressed_of_ignored {ignore : List String} {path : String}
    (h : ignored search ignore path = true) (keys : List String) :
    suppressed search ignore path keys = true := by
  cases keys with
  | nil => rw [suppressed_nil, h]
  | cons key rest => rw [suppressed_cons, h, Bool.true_or]

theorem suppressed_iff (ignore : List String) (path : String) (keys : List String) :
    suppressed search ignore path keys = true ↔ ∃ rx ∈ ignore, ∃ ancestor, ancestor <+: keys ∧
      search rx (textFrom path ancestor) = true := by
  simp only [suppressed, ignored, List.any_eq_true, List.mem_inits]
  exact ⟨fun ⟨ancestor, hstarts, rx, hrx, hmatch⟩ ↦ ⟨rx, hrx, ancestor, hstarts, hmatch⟩,
    fun ⟨rx, hrx, ancestor, hstarts, hmatch⟩ ↦ ⟨ancestor, hstarts, rx, hrx, hmatch⟩⟩

/-- The report holds the differences that no pattern suppresses, in the order of the walk. -/
theorem diff_eq_differences (ignore : List String) (a b : Tree String α) (path : String) :
    diff search same pyRepr a b path ignore =
      ((Tree.differences same a b).filter fun entry ↦ !suppressed search ignore path entry.1).map
        (line pyRepr path) := by
  induction a, b using Tree.pairInduction generalizing path with
  | apart a b h =>
      rw [diff_of_not_node search same pyRepr h, Tree.differences_of_not_node same h]
      cases hignored : ignored search ignore path with
      | true => simp [suppressed_of_ignored search hignored]
      | false =>
          by_cases hunequal : Tree.Unequal same a b <;>
            simp [hunequal, suppressed_nil, hignored, line, textFrom]
  | nodes lefts rights ih =>
      rw [diff_node, Tree.differences_node, List.filter_flatMap, List.map_flatMap]
      cases hignored : ignored search ignore path with
      | true => simp [suppressed_of_ignored search hignored]
      | false =>
          rw [if_neg (by simp)]
          refine List.flatMap_congr fun key _ ↦ ?_
          have hbelow (keys : List String) : suppressed search ignore path (key :: keys) =
              suppressed search ignore (path ++ "." ++ key) keys := by
            rw [suppressed_cons, hignored, Bool.false_or]
          have hhere : suppressed search ignore path [key] =
              ignored search ignore (path ++ "." ++ key) := by
            rw [hbelow, suppressed_nil]
          unfold diffAt Tree.differencesAt
          cases hleft : lefts.lookup key with
          | none =>
              cases hkey : ignored search ignore (path ++ "." ++ key) <;>
                simp [hhere, hkey, line, textFrom]
          | some left =>
              cases rights.lookup key with
              | none =>
                  cases hkey : ignored search ignore (path ++ "." ++ key) <;>
                    simp [hhere, hkey, line, textFrom]
              | some right =>
                  have hline : line pyRepr path ∘ (fun found : List String ×
                      Tree.Difference String α ↦ (key :: found.1, found.2)) =
                      line pyRepr (path ++ "." ++ key) := rfl
                  simp only [List.filter_map, List.map_map, hline, Function.comp_def, hbelow]
                  cases hkey : ignored search ignore (path ++ "." ++ key) with
                  | true => simp [suppressed_of_ignored search hkey]
                  | false => exact ih key left right hleft _

/-- Without patterns nothing is suppressed. -/
theorem diff_no_ignores (a b : Tree String α) (path : String) :
    diff search same pyRepr a b path [] = (Tree.differences same a b).map (line pyRepr path) := by
  rw [diff_eq_differences, List.filter_eq_self.mpr]
  intro entry _
  simp [suppressed, ignored]

/-- More patterns suppress more. -/
theorem suppressed_mono {ignore more : List String} (h : ignore ⊆ more) {path : String}
    {keys : List String} (hsuppressed : suppressed search ignore path keys = true) :
    suppressed search more path keys = true := by
  rw [suppressed_iff] at hsuppressed ⊢
  obtain ⟨rx, hrx, hmatch⟩ := hsuppressed
  exact ⟨rx, h hrx, hmatch⟩

theorem diff_sublist {ignore more : List String} (h : ignore ⊆ more) (a b : Tree String α)
    (path : String) :
    (diff search same pyRepr a b path more).Sublist (diff search same pyRepr a b path ignore) := by
  rw [diff_eq_differences, diff_eq_differences]
  apply List.Sublist.map
  apply List.monotone_filter_right
  intro entry hentry
  cases hsuppressed : suppressed search ignore path entry.1 with
  | false => rfl
  | true =>
      rw [suppressed_mono search h hsuppressed] at hentry
      exact absurd hentry (by decide)

/-- The patterns of `meta.toml` reach the comparison unchanged, and they suppress exactly their
subtrees: the report without patterns lists every difference once, and with patterns it keeps the
entries that no pattern matches at their own path or at an ancestor's. -/
theorem compare_ignores_exact_subtrees (inv : Invocation) (a b : Tree String α) :
    main (inv.surfaceDiffCommand.args.drop 1) =
        .compare inv.run inv.toml.moduleName inv.ignores ∧
      ∃ report : List (List String × Tree.Difference String α),
        (report.map Prod.fst).Nodup ∧
        (∀ path difference,
          (path, difference) ∈ report ↔ Tree.DiffersAt same a b path difference) ∧
        diff search same pyRepr a b "" [] = report.map (line pyRepr "") ∧
        (∀ ignore, diff search same pyRepr a b "" ignore =
          (report.filter fun entry ↦ !suppressed search ignore "" entry.1).map (line pyRepr "")) ∧
        (∀ ignore more, ignore ⊆ more →
          (diff search same pyRepr a b "" more).Sublist (diff search same pyRepr a b "" ignore)) ∧
        ∀ ignore path difference, Tree.DiffersAt same a b path difference →
          (∀ rx ∈ ignore, ∀ ancestor, ancestor <+: path →
            search rx (textFrom "" ancestor) = false) →
          line pyRepr "" (path, difference) ∈ diff search same pyRepr a b "" ignore := by
  refine ⟨main_surfaceDiffCommand inv, Tree.differences same a b, Tree.differences_nodup same a b,
    fun path difference ↦ Tree.mem_differences same, diff_no_ignores search same pyRepr a b "",
    fun ignore ↦ diff_eq_differences search same pyRepr ignore a b "",
    fun ignore more h ↦ diff_sublist search same pyRepr h a b "", ?_⟩
  intro ignore path difference hdiffers hunmatched
  rw [diff_eq_differences]
  apply List.mem_map_of_mem
  rw [List.mem_filter]
  constructor
  · exact (Tree.mem_differences same).mpr hdiffers
  · by_contra hkept
    have hsuppressed : suppressed search ignore "" path = true := by simpa using hkept
    obtain ⟨rx, hrx, ancestor, hancestor, hmatch⟩ :=
      (suppressed_iff search ignore "" path).mp hsuppressed
    rw [hunmatched rx hrx ancestor hancestor] at hmatch
    exact absurd hmatch (by decide)

end Comparison

end ReflectNanobind.Surface
