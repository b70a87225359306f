import ReflectNanobind.Library.Grouping
import ReflectNanobind.Library.JsonAccess
import ReflectNanobind.Library.JsonDumps
import Mathlib.Data.List.Sort

/-!
# Aggregation

`aggregate.py` as a function of the result documents that it loads: `results.jsonl`, the counters and
tables of `report.md`, and the groups of `toolchain_bugs.md`.  Documents are read dynamically, so
that a document of another shape ends in an error; keys of counters and groups are texts, and a tier
is an integer or `None`.
-/

namespace ReflectNanobind.Corpus

open Library Library.JsonSchema Library.JsonAccess Library.Grouping

/-! ## Counters -/

/-- `OUTCOME_LABEL`. -/
def outcomeLabel : List (String × String) :=
  [("A", "won't compile under toolchain"), ("B", "binding failed to compile"),
    ("C", "import crashed"), ("D", "behavior wrong"), ("E", "clean success (behavioral)"),
    ("E-weak", "success (import/invariant only)")]

/-- The outcomes in the order of the tables. -/
def outcomeOrder : List String := ["E", "E-weak", "D", "C", "B", "A"]

/-- `r.get("tier")`. -/
def tierOf (r : Json) : Read (Option ℤ) := do
  match ← get r "tier" with
  | .scalar .null => pure none
  | .scalar (.int tier) => pure (some tier)
  | _ => throw .wrongType

/-- `by_tier` and `overall`. -/
def histogram (results : List Json) :
    Read (Dict (Option ℤ) (Dict String ℕ) × Dict String ℕ) :=
  results.foldlM (fun counts r ↦ do
    let tier ← tierOf r
    let outcome ← asText (← item r "outcome")
    pure (upsert tier [] (upsert outcome 0 (· + 1)) counts.1, upsert outcome 0 (· + 1) counts.2))
    ([], [])

/-- The order of `(t is None, t)`. -/
def TierBefore : Option ℤ → Option ℤ → Prop
  | some left, some right => left ≤ right
  | _, none => True
  | none, some _ => False

instance : DecidableRel TierBefore
  | some left, some right => inferInstanceAs (Decidable (left ≤ right))
  | some _, none => isTrue trivial
  | none, none => isTrue trivial
  | none, some _ => isFalse id

def tierText : Option ℤ → String
  | none => "None"
  | some tier => String.ofList (JsonNumber.writeInt tier)

/-- The cells of one line of a table. -/
def tableRow (cells : List String) : String := "| " ++ Text.join " | " cells ++ " |"

def overallRows (overall : Dict String ℕ) : List String :=
  (outcomeOrder.filter fun o ↦ decide (count overall o ≠ 0)).map fun o ↦
    tableRow [o, toString (count overall o), (outcomeLabel.lookup o).getD ""]

def tierRows (byTier : Dict (Option ℤ) (Dict String ℕ)) : List String :=
  (byTier.insertionSort fun left right ↦ TierBefore left.1 right.1).map fun entry ↦
    tableRow (tierText entry.1 :: outcomeOrder.map fun o ↦ toString (count entry.2 o))

/-! ## The per-run table -/

/-- `(r.get("tier") or 0, r["slug"])`. -/
def rowKey (r : Json) : Read (ℤ × String) := do
  let tier ← tierOf r
  let slug ← asText (← item r "slug")
  pure (tier.getD 0, slug)

/-- Tuples compare by their first components, then by the second. -/
def KeyBefore (left right : ℤ × String) : Prop :=
  left.1 < right.1 ∨ left.1 = right.1 ∧ left.2 ≤ right.2

instance : DecidableRel KeyBefore := fun _ _ ↦ inferInstanceAs (Decidable (_ ∨ _))

/-- `text[:90]`. -/
def clipped (text : String) : String := String.ofList (text.toList.take 90)

def perRunRow (r : Json) : Read String := do
  let failure := orElse (← get r "failure") emptyDict
  let fc := orElse (← get failure "code") (.str "")
  let lanes := orElse (← get r "lanes") emptyDict
  let cx ← getD (orElse (← get lanes "constexpr") emptyDict) "outcome" (← item r "outcome")
  let em ← getD (orElse (← get lanes "emit") emptyDict) "outcome" (.str "-")
  let sd ← getD (orElse (← get r "surface_diff") emptyDict) "status" (.str "-")
  let strategy ← getD (← item r "gate_results") "3_strategy" (.str "")
  let pin ← getD r "pinned_commit" (.str "")
  let notes ← asText (← getD r "notes" (.str ""))
  let cells ← [← item r "slug", ← get r "tier", ← item r "outcome", cx, em, sd,
    ← item r "furthest_gate", strategy, pin].mapM format
  pure (tableRow (cells ++ [(← format fc) ++ " " ++ clipped (Text.strip notes)]))

/-- The rows in the order of `sorted`, which is stable. -/
def perRunRows (results : List Json) : Read (List String) := do
  let keyed ← results.mapM fun r ↦ do pure (← rowKey r, r)
  (keyed.insertionSort fun left right ↦ KeyBefore left.1 right.1).mapM fun entry ↦
    perRunRow entry.2

/-! ## The emit lane -/

/-- `em_runs`. -/
def emitRuns (results : List Json) : Read (List Json) :=
  results.foldlM (fun runs r ↦ do
    let emit ← get (orElse (← get r "lanes") emptyDict) "emit"
    pure (if truthy emit then runs ++ [r] else runs)) []

/-- `r["lanes"]["emit"]`. -/
def emitLane (r : Json) : Read Json := do item (← item r "lanes") "emit"

def emitCounts (runs : List Json) : Read (Dict String ℕ) :=
  runs.foldlM (fun counts r ↦ do
    let outcome ← asText (← item (← emitLane r) "outcome")
    pure (upsert outcome 0 (· + 1) counts)) []

/-- `sd_fail`. -/
def surfaceFailures (runs : List Json) : Read (List Json) :=
  runs.foldlM (fun failed r ↦ do
    let status ← get (orElse (← get r "surface_diff") emptyDict) "status"
    if equalsText status "fail" then pure (failed ++ [← item r "slug"]) else pure failed) []

/-- `clusters`. -/
def failureClusters (runs : List Json) : Read (Dict String (List Json)) :=
  runs.foldlM (fun clusters r ↦ do
    let failure := orElse (← get (← emitLane r) "failure") emptyDict
    let code ← get failure "code"
    if truthy code then do
      let code ← asText code
      let slug ← item r "slug"
      pure (upsert code [] (· ++ [slug]) clusters)
    else pure clusters) []

/-- The order of `key=lambda kv: -len(kv[1])`. -/
def LongerBefore {κ ν : Type} (left right : κ × List ν) : Prop := right.2.length ≤ left.2.length

instance {κ ν : Type} : DecidableRel (@LongerBefore κ ν) :=
  fun _ _ ↦ inferInstanceAs (Decidable (_ ≤ _))

def ranked {κ ν : Type} (groups : Dict κ (List ν)) : Dict κ (List ν) :=
  groups.insertionSort LongerBefore

/-- `", ".join(slugs)`. -/
def joinSlugs (slugs : List Json) : Read String := do
  pure (Text.join ", " (← slugs.mapM asText))

def clusterLine (cluster : String × List Json) : Read String := do
  pure ("- `" ++ cluster.1 ++ "`: " ++ toString cluster.2.length ++ " run(s) -- " ++
    (← joinSlugs cluster.2))

def emitSection (results : List Json) : Read (List String) := do
  let runs ← emitRuns results
  let body ← if runs.isEmpty then
      pure ["_No run has an emit lane yet (meta.toml [emit])._"]
    else do
      let counts ← emitCounts runs
      let failed ← surfaceFailures runs
      let clusters ← failureClusters runs
      let outcomes := (counts.insertionSort fun left right ↦ left.1 ≤ right.1).map
        fun entry ↦ entry.1 ++ "=" ++ toString entry.2
      let failures ← if failed.isEmpty then pure [] else do
        pure ["Surface-diff failures: " ++ (← joinSlugs failed)]
      pure (["Runs with an emit lane: **" ++ toString runs.length ++ "** / " ++
        toString results.length ++ "; outcomes: " ++ Text.join ", " outcomes] ++
        (failures ++ (← (ranked clusters).mapM clusterLine)))
  pure (["## Emit lane (production-toolchain source codegen)", ""] ++ body)

/-! ## Toolchain bugs -/

/-- `tb.get("finding") or tb.get("signature") or tb.get("kind") or "unknown"`. -/
def bugKey (tb : Json) : Read Json := do
  let finding ← get tb "finding"
  let signature ← get tb "signature"
  let kind ← get tb "kind"
  pure (orElse finding (orElse signature (orElse kind (.str "unknown"))))

/-- `groups`: under each key the slugs and blocks that hit it. -/
def bugGroups (results : List Json) : Read (Dict String (List (Json × Json))) :=
  results.foldlM (fun groups r ↦ do
    let tb := orElse (← get r "toolchain_bug") emptyDict
    let status ← getD tb "status" (.str "none")
    if equalsText status "none" then pure groups
    else do
      let key ← asText (← bugKey tb)
      let slug ← item r "slug"
      pure (upsert key [] (· ++ [(slug, tb)]) groups)) []

def bugSection (group : String × List (Json × Json)) : Read (List String) :=
  match group.2 with
  | [] => throw .outOfRange
  | (_, tb) :: _ => do
      let status ← format (← get tb "status")
      let kind ← format (← get tb "kind")
      let slugs ← joinSlugs (group.2.map Prod.fst)
      pure ["## " ++ group.1 ++ "  —  " ++ toString group.2.length ++ " repo(s), " ++ status ++
        " (" ++ kind ++ ")", "- hit by: " ++ slugs, ""]

/-- The lines of `tlines` before the first group. -/
def bugPreamble (groups : Dict String (List (Json × Json))) : List String :=
  ["# Toolchain bugs (upstream queue)", "",
    "Grouped by signature/finding, ranked by repo-hit-count. Each distinct group is one upstream item.",
    ""] ++ if groups.isEmpty then
      ["_No toolchain bugs recorded in result.json yet. (Standalone findings live in corpus/findings/.)_"]
    else []

/-- `tlines`. -/
def bugLines (groups : Dict String (List (Json × Json))) : Read (List String) := do
  let sections ← groups.mapM bugSection
  pure (bugPreamble groups ++ sections.flatten)

/-! ## The deliverables -/

/-- What `main` computes from the results, with the groups in the order in which they are listed. -/
structure Aggregate where
  total : ℕ
  resultsJsonl : String
  byTier : Dict (Option ℤ) (Dict String ℕ)
  overall : Dict String ℕ
  perRun : List String
  emit : List String
  groups : Dict String (List (Json × Json))
  tlines : List String

/-- `lines`. -/
def Aggregate.lines (a : Aggregate) : List String :=
  ["# Corpus report", "", "Total runs: **" ++ toString a.total ++ "**", "",
    "## Outcomes (overall)", "", "| outcome | count | meaning |", "|---|---|---|"] ++
  (overallRows a.overall ++
  (["", "## Outcomes by tier", "", tableRow ("tier" :: outcomeOrder), "|---|---|---|---|---|---|---|"] ++
  (tierRows a.byTier ++
  (["", "## Per-run", "",
    "| slug | tier | outcome | constexpr | emit | surface | gate | strategy | pin | notes |",
    "|---|---|---|---|---|---|---|---|---|---|"] ++
  (a.perRun ++ ([""] ++ (a.emit ++ [""])))))))

/-- `report.md`. -/
def Aggregate.report (a : Aggregate) : String := Text.printLines a.lines

/-- `toolchain_bugs.md`. -/
def Aggregate.toolchainBugs (a : Aggregate) : String := Text.printLines a.tlines

/-- `main`, from the results that it loads. -/
def main (results : List Json) : Read Aggregate := do
  let (byTier, overall) ← histogram results
  let perRun ← perRunRows results
  let emit ← emitSection results
  let groups ← bugGroups results
  let tlines ← bugLines (ranked groups)
  pure {
    total := results.length
    resultsJsonl := Text.printLines (results.map JsonDumps.dumps)
    byTier, overall, perRun, emit
    groups := ranked groups
    tlines }

end ReflectNanobind.Corpus
