import ReflectNanobind.Corpus.Conservation
import ReflectNanobind.Gates.ResultDocument
import ReflectNanobind.Gates.ResultFile

/-!
# Histories of the corpus

Run directories are set up, gated and removed in any order, by either backend and with invocations that
may raise.  Every invocation writes the file that its suffix names, and only `result.json` is
aggregated.  The texts in the files are those of the documents that the last finished invocations wrote,
and their aggregation meets no error and reports exactly these documents.
-/

namespace ReflectNanobind.Corpus

open Library Library.JsonSchema Library.Grouping Library.Lines Gates

/-! ## Run directories -/

/-- What the gates read of a run directory and write back, without the results. -/
structure Sources where
  probe : Option String
  oracleNative : Bool
  testBindings : Bool
  expected : Option String

/-- A run directory with what its result files hold: texts, or the documents themselves. -/
structure RunFiles (ρ : Type) where
  sources : Sources
  /-- The result files by name. -/
  results : Dict String ρ

/-- `RUNS`: the run directories by name. -/
abbrev Runs (ρ : Type) := Dict String (RunFiles ρ)

section Files

variable {ρ σ : Type}

/-- The directory as an invocation finds it, before it has written a result. -/
def RunFiles.dir (files : RunFiles ρ) : RunDir where
  probe := files.sources.probe
  oracleNative := files.sources.oracleNative
  testBindings := files.sources.testBindings
  expected := files.sources.expected
  result := none

/-- The result files after `write_text` on one of them, or as they were. -/
def storeResult (file : String) : Option ρ → Dict String ρ → Dict String ρ
  | some document, results => upsert file document (fun _ ↦ document) results
  | none, results => results

/-- One invocation in the directory; a document that was written replaces the file of its name. -/
def RunFiles.gates (written : Record → ρ) (raw : RawHost) (inv : Invocation) (files : RunFiles ρ) :
    RunFiles ρ :=
  let dir := (raw.main inv files.dir).2
  { sources := ⟨dir.probe, dir.oracleNative, dir.testBindings, dir.expected⟩
    results := storeResult inv.resultFile (dir.result.map written) files.results }

/-! ## Events -/

inductive Event where
  /-- The sources of a run are put into its directory, or replaced. -/
  | setUp (name : String) (sources : Sources)
  /-- `run_gates.py` is invoked on the run directory. -/
  | gates (name : String) (raw : RawHost) (inv : Invocation)
  | remove (name : String)

def step (written : Record → ρ) (runs : Runs ρ) : Event → Runs ρ
  | .setUp name sources =>
      upsert name ⟨sources, []⟩ (fun files ↦ { files with sources := sources }) runs
  | .gates name raw inv =>
      runs.map fun entry ↦
        (entry.1, if entry.1 = name then entry.2.gates written raw inv else entry.2)
  | .remove name => runs.filter fun entry ↦ !decide (entry.1 = name)

/-- The run directories after a history. -/
def after (written : Record → ρ) (history : List Event) : Runs ρ :=
  history.foldl (step written) []

theorem after_concat (written : Record → ρ) (history : List Event) (event : Event) :
    after written (history ++ [event]) = step written (after written history) event := by
  simp [after]

/-! ## Texts and documents -/

def RunFiles.map (f : ρ → σ) (files : RunFiles ρ) : RunFiles σ :=
  ⟨files.sources, files.results.map fun entry ↦ (entry.1, f entry.2)⟩

theorem lookup_mapFiles (f : ρ → σ) (files : RunFiles ρ) (file : String) :
    (files.map f).results.lookup file = (files.results.lookup file).map f :=
  lookup_map_values (fun _ ↦ f) files.results file

def mapFiles (f : ρ → σ) (runs : Runs ρ) : Runs σ :=
  runs.map fun entry ↦ (entry.1, entry.2.map f)

theorem storeResult_map (f : ρ → σ) (file : String) (document : Option ρ) (results : Dict String ρ) :
    storeResult file (document.map f) (results.map fun entry ↦ (entry.1, f entry.2)) =
      (storeResult file document results).map fun entry ↦ (entry.1, f entry.2) := by
  cases document with
  | none => rfl
  | some document =>
      simp only [storeResult, Option.map_some]
      induction results with
      | nil => rfl
      | cons entry rest ih =>
          rw [List.map_cons, upsert, upsert, ih]
          split <;> rfl

theorem gates_map (f : ρ → σ) (written : Record → ρ) (raw : RawHost) (inv : Invocation)
    (files : RunFiles ρ) :
    (files.map f).gates (f ∘ written) raw inv = (files.gates written raw inv).map f := by
  have hdir : (files.map f).dir = files.dir := rfl
  have hstore := storeResult_map f inv.resultFile
    ((raw.main inv files.dir).2.result.map written) files.results
  rw [Option.map_map] at hstore
  rw [RunFiles.gates, hdir, RunFiles.map, RunFiles.map, hstore]
  rfl

theorem upsert_mapFiles (f : ρ → σ) (name : String) (sources : Sources) (runs : Runs ρ) :
    upsert name ⟨sources, []⟩ (fun files ↦ { files with sources := sources })
      (mapFiles f runs) = mapFiles f
        (upsert name ⟨sources, []⟩ (fun files ↦ { files with sources := sources }) runs) := by
  induction runs with
  | nil => rfl
  | cons entry rest ih =>
      obtain ⟨other, files⟩ := entry
      simp only [mapFiles, List.map_cons, upsert] at ih ⊢
      split
      · rfl
      · rw [ih]
        rfl

theorem step_mapFiles (f : ρ → σ) (written : Record → ρ) (runs : Runs ρ) (event : Event) :
    step (f ∘ written) (mapFiles f runs) event = mapFiles f (step written runs event) := by
  cases event with
  | setUp name sources => exact upsert_mapFiles f name sources runs
  | gates name raw inv =>
      simp only [step, mapFiles, List.map_map]
      refine List.map_congr_left fun entry _ ↦ ?_
      by_cases h : entry.1 = name <;> simp [h, gates_map]
  | remove name =>
      simp only [step, mapFiles, List.filter_map]
      rfl

/-- The files hold the texts of the documents. -/
theorem after_eq_mapFiles (written : Record → ρ) (history : List Event) :
    after written history = mapFiles written (after id history) := by
  induction history using List.reverseRecOn with
  | nil => rfl
  | append_singleton history event ih =>
      rw [after_concat, after_concat, ih]
      exact step_mapFiles written id (after id history) event

/-! ## The result file of a run -/

/-- What an event makes of one run directory, if there is one. -/
theorem lookup_step (written : Record → ρ) (runs : Runs ρ) (event : Event) (name : String) :
    (step written runs event).lookup name =
      match event with
      | .setUp other sources =>
          if name = other then
            some { (runs.lookup name).getD ⟨sources, []⟩ with sources := sources }
          else runs.lookup name
      | .gates other raw inv =>
          if name = other then (runs.lookup name).map (RunFiles.gates written raw inv)
          else runs.lookup name
      | .remove other => if name = other then none else runs.lookup name := by
  cases event with
  | setUp other sources =>
      rw [step, lookup_upsert]
      by_cases h : name = other <;> simp [h]
  | gates other raw inv =>
      have hmap := lookup_map_values (fun entryName (files : RunFiles ρ) ↦
        if entryName = other then files.gates written raw inv else files) runs name
      rw [step, hmap]
      by_cases h : name = other <;> simp [h]
  | remove other => exact lookup_filter_ne runs other name

/-- The name of the result file of a backend. -/
def resultName (isGcc : Bool) : String := if isGcc then "result-gcc16.json" else "result.json"

theorem resultFile_eq (inv : Invocation) : inv.resultFile = resultName inv.isGcc := by
  rw [Invocation.resultFile, Invocation.suffix]
  cases inv.isGcc <;> decide

theorem resultName_injective : Function.Injective resultName := by
  intro left right h
  cases left <;> cases right <;> first | rfl | exact absurd h (by decide)

theorem lookup_storeResult (file other : String) (document : Option ρ) (results : Dict String ρ) :
    (storeResult file document results).lookup other =
      if other = file then document.or (results.lookup other) else results.lookup other := by
  cases document with
  | none => simp [storeResult]
  | some document => rw [storeResult, lookup_upsert, Option.some_or]

/-- An invocation that nothing interrupts replaces the file that it names; every other file, and every
file under any other invocation, stays as it is. -/
theorem lookup_gates (written : Record → ρ) (raw : RawHost) (inv : Invocation)
    (files : RunFiles ρ) (file : String) :
    (inv.resultFile = file ∧ NothingRaises raw inv files.dir →
      (files.gates written raw inv).results.lookup file =
        some (written (document raw.text inv files.dir))) ∧
    (¬ (inv.resultFile = file ∧ NothingRaises raw inv files.dir) →
      (files.gates written raw inv).results.lookup file = files.results.lookup file) := by
  have hresult := main_result raw inv files.dir
  rw [RunFiles.gates, lookup_storeResult]
  constructor
  · rintro ⟨rfl, h⟩
    rw [if_pos rfl, hresult.1 h]
    rfl
  · intro h
    by_cases hfile : file = inv.resultFile
    · have hkept : (raw.main inv files.dir).2.result = none :=
        hresult.2 fun hraises ↦ h ⟨hfile.symm, hraises⟩
      rw [if_pos hfile, hkept]
      rfl
    · rw [if_neg hfile]

open Classical in
/-- The document of the last invocation of a backend that nothing interrupted, since the run directory
was made; the history is given from its last event on. -/
noncomputable def lastDocument (isGcc : Bool) (name : String) : List Event → Option Record
  | [] => none
  | .setUp _ _ :: earlier => lastDocument isGcc name earlier
  | .remove other :: earlier => if name = other then none else lastDocument isGcc name earlier
  | .gates other raw inv :: earlier =>
      match (after id earlier.reverse).lookup name with
      | none => none
      | some files =>
          if name = other ∧ inv.isGcc = isGcc ∧ NothingRaises raw inv files.dir then
            some (document raw.text inv files.dir)
          else lastDocument isGcc name earlier

/-- The content of a file of a run directory. -/
def contentOf (runs : Runs ρ) (name file : String) : Option ρ :=
  (runs.lookup name).bind fun files ↦ files.results.lookup file

/-- What an event makes of one file of a run directory. -/
theorem contentOf_step (written : Record → ρ) (history : List Event) (event : Event)
    (name file : String) : contentOf (after written (history ++ [event])) name file =
      match event with
      | .setUp _ _ => contentOf (after written history) name file
      | .gates other raw inv => ((after written history).lookup name).bind fun files ↦
          if name = other then (files.gates written raw inv).results.lookup file
          else files.results.lookup file
      | .remove other => if name = other then none else contentOf (after written history) name file := by
  rw [contentOf, after_concat, lookup_step]
  cases event with
  | setUp other sources =>
      by_cases h : name = other
      · subst h
        cases hlookup : (after written history).lookup name <;> simp [contentOf, hlookup]
      · simp [contentOf, h]
  | gates other raw inv =>
      cases hlookup : (after written history).lookup name <;>
        by_cases h : name = other <;> simp [h]
  | remove other => by_cases h : name = other <;> simp [contentOf, h]

/-- The result file of a backend holds the text of the last document that was finished by it. -/
theorem contentOf_resultName (written : Record → ρ) (isGcc : Bool) (name : String)
    (history : List Event) : contentOf (after written history) name (resultName isGcc) =
      (lastDocument isGcc name history.reverse).map written := by
  induction history using List.reverseRecOn with
  | nil => rfl
  | append_singleton history event ih =>
      rw [contentOf_step, List.reverse_concat]
      cases event with
      | setUp other sources => exact ih
      | gates other raw inv =>
          have hmap : (after written history).lookup name =
              ((after id history).lookup name).map (RunFiles.map written) := by
            rw [after_eq_mapFiles written]
            exact lookup_map_values (fun _ ↦ RunFiles.map written) _ name
          rw [lastDocument, List.reverse_reverse]
          cases hlookup : (after id history).lookup name with
          | none =>
              rw [hlookup] at hmap
              simp [hmap]
          | some files =>
              rw [hlookup] at hmap
              have hdir : (files.map written).dir = files.dir := rfl
              have hgates := lookup_gates written raw inv (files.map written) (resultName isGcc)
              rw [hdir, resultFile_eq, resultName_injective.eq_iff] at hgates
              rw [contentOf, hmap] at ih
              simp only [hmap, Option.map_some, Option.bind_some] at ih ⊢
              by_cases h : name = other
              · by_cases hraises : inv.isGcc = isGcc ∧ NothingRaises raw inv files.dir
                · simp [h, hraises, hgates.1 hraises]
                · simp [h, hraises, hgates.2 hraises, ih]
              · simp [h, ih]
      | remove other => by_cases h : name = other <;> simp [h, lastDocument, ih]

/-- No other result file is ever written. -/
theorem contentOf_other (written : Record → ρ) {file : String} (h : ∀ isGcc, file ≠ resultName isGcc)
    (name : String) (history : List Event) : contentOf (after written history) name file = none := by
  induction history using List.reverseRecOn with
  | nil => rfl
  | append_singleton history event ih =>
      rw [contentOf_step]
      cases event with
      | setUp other sources => exact ih
      | gates other raw inv =>
          rw [contentOf] at ih
          cases hlookup : (after written history).lookup name with
          | none => rfl
          | some files =>
              rw [hlookup] at ih
              have hother : ¬ (inv.resultFile = file ∧ NothingRaises raw inv files.dir) := by
                rw [resultFile_eq]
                exact fun hsame ↦ h inv.isGcc hsame.1.symm
              have hkept := (lookup_gates written raw inv files file).2 hother
              by_cases hname : name = other
              · exact (if_pos hname).trans (hkept.trans ih)
              · exact (if_neg hname).trans ih
      | remove other =>
          by_cases hname : name = other
          · exact if_pos hname
          · exact (if_neg hname).trans ih

/-- Over any history the two result files of a run directory hold the texts of the last documents that
their backends finished, and no other file appears. -/
theorem resultOf_after (written : Record → ρ) (name : String) (history : List Event) :
    contentOf (after written history) name "result.json" =
      (lastDocument false name history.reverse).map written ∧
    contentOf (after written history) name "result-gcc16.json" =
      (lastDocument true name history.reverse).map written ∧
    ∀ file, file ∉ ["result.json", "result-gcc16.json"] →
      contentOf (after written history) name file = none := by
  refine ⟨contentOf_resultName written false name history,
    contentOf_resultName written true name history, fun file hfile ↦ ?_⟩
  rw [List.mem_cons, List.mem_singleton, not_or] at hfile
  refine contentOf_other written (fun isGcc ↦ ?_) name history
  cases isGcc with
  | false => exact hfile.1
  | true => exact hfile.2

/-- The document is that of an invocation of the history. -/
theorem mem_of_lastDocument {isGcc : Bool} {name : String} {events : List Event} {r : Record}
    (h : lastDocument isGcc name events = some r) : ∃ raw inv dir,
      .gates name raw inv ∈ events ∧ inv.isGcc = isGcc ∧ r = document raw.text inv dir := by
  induction events with
  | nil => cases h
  | cons event earlier ih =>
      have hearlier (h : lastDocument isGcc name earlier = some r) : ∃ raw inv dir,
          .gates name raw inv ∈ event :: earlier ∧ inv.isGcc = isGcc ∧
            r = document raw.text inv dir := by
        obtain ⟨raw, inv, dir, hmem, hdocument⟩ := ih h
        exact ⟨raw, inv, dir, List.mem_cons_of_mem _ hmem, hdocument⟩
      cases event with
      | setUp other sources => exact hearlier h
      | remove other =>
          rw [lastDocument] at h
          split at h
          · cases h
          · exact hearlier h
      | gates other raw inv =>
          rw [lastDocument] at h
          split at h
          · cases h
          · next files hfiles =>
              split at h
              · next hlast =>
                  obtain ⟨rfl, hbackend, -⟩ := hlast
                  exact ⟨raw, inv, files.dir, List.mem_cons_self, hbackend, (Option.some.inj h).symm⟩
              · exact hearlier h

/-! ## The aggregated files -/

/-- `sorted(RUNS.glob("*/result.json"))`, with the contents of the files. -/
def published (runs : Runs ρ) : List (String × ρ) :=
  (runs.filterMap fun entry ↦ (entry.2.results.lookup "result.json").map
    fun result ↦ (entry.1, result)).insertionSort fun left right ↦ left.1 ≤ right.1

/-- `main` on the run directories; a text that is not JSON raises. -/
def aggregate (runs : Runs String) : Option (JsonAccess.Read Aggregate) :=
  ((published runs).mapM fun entry ↦ JsonDumps.loads entry.2).map main

theorem nodup_keys_after (written : Record → ρ) (history : List Event) :
    ((after written history).map Prod.fst).Nodup := by
  induction history using List.reverseRecOn with
  | nil => exact List.nodup_nil
  | append_singleton history event ih =>
      rw [after_concat]
      cases event with
      | setUp name sources => exact nodup_keys_upsert ih _ _ _
      | gates name raw inv =>
          rw [step, List.map_map]
          exact ih
      | remove name => exact ih.sublist (List.filter_sublist.map _)

theorem mem_published {runs : Runs ρ} {name : String} {result : ρ} :
    (name, result) ∈ published runs ↔
      ∃ files, (name, files) ∈ runs ∧ files.results.lookup "result.json" = some result := by
  rw [published, List.mem_insertionSort, List.mem_filterMap]
  constructor
  · rintro ⟨⟨other, files⟩, hmem, hresult⟩
    obtain ⟨value, hvalue, heq⟩ := Option.map_eq_some_iff.mp hresult
    obtain ⟨rfl, rfl⟩ := Prod.mk.inj heq
    exact ⟨files, hmem, hvalue⟩
  · rintro ⟨files, hmem, hresult⟩
    exact ⟨(name, files), hmem, by simp [hresult]⟩

theorem published_mapFiles {σ : Type} (f : ρ → σ) (runs : Runs ρ) :
    published (mapFiles f runs) = (published runs).map fun entry ↦ (entry.1, f entry.2) := by
  rw [published, published, List.map_insertionSort (fun left right : String × ρ ↦ left.1 ≤ right.1)
    (fun left right : String × σ ↦ left.1 ≤ right.1) _ _ fun _ _ _ _ ↦ Iff.rfl, mapFiles,
    List.filterMap_map, List.map_filterMap]
  refine congrArg _ (List.filterMap_congr fun entry _ ↦ ?_)
  simp only [Function.comp_apply, lookup_mapFiles, Option.map_map]
  rfl

/-- The published documents are the last ones of the clang backend. -/
theorem mem_published_after {history : List Event} {name : String} {r : Record} :
    (name, r) ∈ published (after id history) ↔
      lastDocument false name history.reverse = some r := by
  have hcontent : contentOf (after id history) name "result.json" =
      lastDocument false name history.reverse :=
    (contentOf_resultName id false name history).trans Option.map_id_apply
  rw [mem_published, ← hcontent]
  constructor
  · rintro ⟨files, hmem, hfiles⟩
    have hlookup : (after id history).lookup name = some files :=
      lookup_of_mem (nodup_keys_after id history) hmem
    rw [contentOf, hlookup]
    exact hfiles
  · intro h
    obtain ⟨files, hlookup, hfiles⟩ := Option.bind_eq_some_iff.mp h
    obtain ⟨before, behind, hsplit, -⟩ := List.lookup_eq_some_iff.mp hlookup
    exact ⟨files, by simp [hsplit], hfiles⟩

end Files

/-! ## Documents that were read back -/

/-- The strategies that the result schema knows. -/
def KnownStrategy (inv : Invocation) : Prop :=
  inv.strategy = "single_stage" ∨ inv.strategy = "two_stage"

def outcomeText (r : Record) : String := r.outcome.elim "" Outcome.text

/-- The order of the rows: `(r.get("tier") or 0, r["slug"])`. -/
def RecordBefore (left right : Record) : Prop :=
  KeyBefore (left.tier.getD 0, left.slug) (right.tier.getD 0, right.slug)

/-- The loaded document is the record with its measurements in shortest form. -/
structure ReadFrom (d : ResultDocument) (r : Record) : Prop where
  json : d.json = r.shortened.json
  tier : d.tier = r.tier
  slug : d.slug = r.slug
  outcome : d.outcome = outcomeText r
  unbroken : d.Unbroken ↔ Unbroken r.slug ∧ Unbroken r.pinnedCommit

theorem textAt_failureCode (failure : Failure) :
    JsonAccess.textAt failure.json "code" "" = failure.code.getD "" := by
  obtain ⟨code, diagnostics, signal⟩ := failure
  cases code <;> rfl

/-- The code of the failure and the notes of a record that an invocation wrote never break a row. -/
theorem unbroken_of_writtenBy {d : ResultDocument} {inv : Invocation} {r : Record}
    (h : r.WrittenBy inv) (hfields : d.json = r.shortened.json) :
    d.Unbroken ↔ Unbroken r.slug ∧ Unbroken r.pinnedCommit := by
  have hslug : d.slug = r.slug := by
    rw [ResultDocument.slug, hfields]
    rfl
  have hpin : d.pinnedCommit = r.pinnedCommit := by
    rw [ResultDocument.pinnedCommit, hfields]
    rfl
  have hnotes : Unbroken d.shownNotes := by
    have hread : JsonAccess.textAt d.json "notes" "" = r.notes := by
      rw [hfields]
      rfl
    rw [ResultDocument.shownNotes, hread]
    exact unbroken_of_oneLine fun char hchar ↦
      Text.oneLine_strip h.notes char (List.mem_of_mem_take (by simpa [clipped] using hchar))
  have hcode : Unbroken d.failureCode := by
    have hblock : d.failureBlock = r.failure.json := by
      rw [ResultDocument.failureBlock, Json.obj.inj hfields]
      rfl
    rw [ResultDocument.failureCode, hblock, textAt_failureCode]
    cases hcode : r.failure.code with
    | none => decide
    | some code => exact unbroken_of_oneLine (h.failure code hcode)
  simp only [ResultDocument.Unbroken, List.forall_mem_cons, hslug, hpin, hnotes, hcode, true_and]
  simp

theorem exists_readFrom {inv : Invocation} {r : Record} (h : r.WrittenBy inv)
    (hstrategy : KnownStrategy inv) (houtcome : r.outcome ≠ none) :
    ∃ d : ResultDocument, ReadFrom d r := by
  obtain ⟨outcome, houtcome⟩ := Option.ne_none_iff_exists'.mp houtcome
  have hloaded : JsonDumps.loaded r.shortened.json = true := by
    rw [← canonical_record]
    exact JsonLayout.loaded_canonical _ (distinct_record h)
  -- the schema of the document without its tier does not depend on the tier
  have htiered : Record.WellTyped { r.shortened with tier := some 0 } := by
    refine ⟨rfl, ?_, h.furthestGate, ?_⟩
    · have hrecorded : r.shortened.gateResults.strategy = inv.strategy := h.strategy
      exact hrecorded ▸ hstrategy
    · intro entry hentry
      obtain ⟨lane, hlane, rfl⟩ := List.mem_map.mp hentry
      exact (h.lanesWritten lane hlane).furthestGate
  have hvalid := validates_withoutTier (validates_record htiered (by simp [Record.shortened, houtcome]))
  have htier : tierAllowed (some (r.shortened.tier.elim .null .int)) = true := by
    cases r.shortened.tier <;> rfl
  refine ⟨⟨_, hloaded, hvalid, htier⟩, rfl, ?_, rfl, ?_, unbroken_of_writtenBy h rfl⟩
  · cases htier : r.tier <;>
      simp [ResultDocument.tier, Record.shortened, htier, lookup_cons, Json.int, Json.null]
  · rw [ResultDocument.outcome, outcomeText, houtcome]
    simp [ResultDocument.json, Record.shortened, houtcome, optOutcomeJson, JsonAccess.textAt,
      JsonAccess.getD, lookup_cons, Json.str]

theorem map_eq_of_forall₂ {α β γ : Type} {related : α → β → Prop} {f : α → γ} {g : β → γ}
    (hmap : ∀ left right, related left right → f left = g right) {lefts : List α} {rights : List β}
    (h : List.Forall₂ related lefts rights) : lefts.map f = rights.map g := by
  induction h with
  | nil => rfl
  | cons hhead _ ih => rw [List.map_cons, List.map_cons, hmap _ _ hhead, ih]

section Counts

variable {documents : List ResultDocument} {records : List Record}
  (h : List.Forall₂ ReadFrom documents records)

include h

theorem tally_outcome : tally ResultDocument.outcome documents = tally outcomeText records := by
  have houtcomes := map_eq_of_forall₂ (fun _ _ hread ↦ hread.outcome) h
  have hdocuments := collect_map ResultDocument.outcome id 0 (fun _ count ↦ count + 1) documents
  have hrecords := collect_map outcomeText id 0 (fun _ count ↦ count + 1) records
  rw [houtcomes] at hdocuments
  exact hdocuments.symm.trans hrecords

theorem tallyBy_outcome : tallyBy ResultDocument.tier ResultDocument.outcome documents =
    tallyBy Record.tier outcomeText records := by
  have hpairs : documents.map (fun d ↦ (d.tier, d.outcome)) =
      records.map fun r ↦ (r.tier, outcomeText r) :=
    map_eq_of_forall₂ (fun _ _ hread ↦ Prod.ext hread.tier hread.outcome) h
  have hdocuments := collect_map (fun d : ResultDocument ↦ (d.tier, d.outcome)) Prod.fst []
    (fun pair ↦ upsert pair.2 0 (· + 1)) documents
  have hrecords := collect_map (fun r : Record ↦ (r.tier, outcomeText r)) Prod.fst []
    (fun pair ↦ upsert pair.2 0 (· + 1)) records
  rw [hpairs] at hdocuments
  exact hdocuments.symm.trans hrecords

end Counts

/-! ## The aggregation of a history -/

/-- The row of a record is that of its loaded document; slug, tier and outcome come first. -/
def RecordRow (r : Record) (row : String) : Prop :=
  perRunRow r.shortened.json = .ok row ∧
    ∃ cells, row = tableRow (r.slug :: tierText r.tier :: outcomeText r :: cells)

/-- The deliverables are those of these records. -/
structure Summarises (records : List Record) (a : Aggregate) : Prop where
  lines : (Text.splitlines a.resultsJsonl).map JsonDumps.loads =
    records.map fun r ↦ some r.shortened.json
  total : a.total = records.length
  overall : a.overall = tally outcomeText records
  byTier : a.byTier = tallyBy Record.tier outcomeText records
  reported : a.Reported
  perRun : (∃ order : List Record, order.Perm records ∧ order.Pairwise RecordBefore ∧
      List.Forall₂ RecordRow order (tableUnder "## Per-run" (fileLines a.report))) ↔
    ∀ r ∈ records, Unbroken r.slug ∧ Unbroken r.pinnedCommit

theorem ReadFrom.recordRow {d : ResultDocument} {r : Record} (h : ReadFrom d r) :
    RecordRow r d.row := by
  refine ⟨h.json ▸ d.perRunRow_json, d.cells.drop 3, ?_⟩
  rw [← h.slug, ← h.tier, ← h.outcome]
  rfl

/-- The rows come in the order of the records that were read. -/
theorem pairwise_recordBefore {documents : List ResultDocument} {records : List Record}
    (h : List.Forall₂ ReadFrom documents records)
    (hsorted : documents.Pairwise ResultDocument.RowBefore) : records.Pairwise RecordBefore := by
  have hkeys : documents.map ResultDocument.rowKey =
      records.map fun r ↦ (r.tier.getD 0, r.slug) :=
    map_eq_of_forall₂ (fun d r hread ↦ by rw [ResultDocument.rowKey, hread.tier, hread.slug]) h
  have hpairs : (documents.map ResultDocument.rowKey).Pairwise KeyBefore :=
    List.pairwise_map.mpr hsorted
  rw [hkeys, List.pairwise_map] at hpairs
  exact hpairs

/-- A row of the table that is read back belongs to a record whose texts do not break it. -/
theorem ReadFrom.unbroken_of_recordRow {d : ResultDocument} {r : Record} (h : ReadFrom d r)
    {row : String} (hrow : RecordRow r row) (hunbroken : Unbroken row) :
    Unbroken r.slug ∧ Unbroken r.pinnedCommit := by
  have hread : perRunRow d.json = .ok row := h.json ▸ hrow.1
  obtain rfl : d.row = row := Except.ok.inj (d.perRunRow_json.symm.trans hread)
  exact h.unbroken.mp (d.unbroken_row.mp hunbroken)

/-- What stands at the right of a related pair has a partner at the left. -/
theorem exists_left {α β : Type} {related : α → β → Prop} {lefts : List α} {rights : List β}
    (h : List.Forall₂ related lefts rights) : ∀ right ∈ rights, ∃ left ∈ lefts, related left right := by
  induction h with
  | nil => simp
  | cons hhead _ ih =>
      refine List.forall_mem_cons.mpr ⟨⟨_, List.mem_cons_self, hhead⟩, fun right hright ↦ ?_⟩
      obtain ⟨left, hleft, hrelated⟩ := ih right hright
      exact ⟨left, List.mem_cons_of_mem _ hleft, hrelated⟩

theorem summarises_of_readFrom {documents : List ResultDocument} {records : List Record}
    (h : List.Forall₂ ReadFrom documents records) :
    ∃ a, main (documents.map ResultDocument.json) = .ok a ∧ Summarises records a := by
  obtain ⟨emit, sections, hmain, -⟩ := main_json documents
  refine ⟨_, hmain, ?_⟩
  have hjson : documents.map (fun d ↦ some d.json) = records.map fun r ↦ some r.shortened.json :=
    map_eq_of_forall₂ (fun _ _ hread ↦ congrArg some hread.json) h
  refine ⟨(loads_resultsJsonl documents).trans hjson, h.length_eq, tally_outcome h, tallyBy_outcome h,
    Aggregate.reported _, ?_⟩
  constructor
  · rintro ⟨order, hperm, -, hrows⟩ r hr
    obtain ⟨d, -, hread⟩ := exists_left h r hr
    obtain ⟨row, hrow, hrecordRow⟩ := exists_left hrows.flip r (hperm.mem_iff.mpr hr)
    exact hread.unbroken_of_recordRow hrecordRow
      (unbroken_of_mem_fileLines (mem_of_mem_tableUnder hrow))
  · intro hunbroken
    have hdocuments : ∀ d ∈ documents, d.Unbroken := by
      intro d hd
      obtain ⟨r, hr, hread⟩ := exists_left h.flip d hd
      exact hread.unbroken.mpr (hunbroken r hr)
    obtain ⟨order, hread, hperm⟩ := List.perm_comp_forall₂
      (List.perm_insertionSort ResultDocument.RowBefore documents) h
    refine ⟨order, hperm, pairwise_recordBefore hread (List.pairwise_insertionSort _ _), ?_⟩
    rw [table_of_unbroken documents rfl hdocuments, List.forall₂_map_right_iff]
    exact hread.flip.imp fun _ _ hread ↦ ReadFrom.recordRow hread

/-- Every run directory is published once, in the order of the names. -/
theorem published_sorted {ρ : Type} {runs : Runs ρ} (h : (runs.map Prod.fst).Nodup) :
    ((published runs).map Prod.fst).Nodup ∧ ((published runs).map Prod.fst).Pairwise (· ≤ ·) := by
  have hkeys : ((runs.filterMap fun entry ↦ (entry.2.results.lookup "result.json").map
      fun result ↦ (entry.1, result)).map Prod.fst).Sublist (runs.map Prod.fst) := by
    clear h
    induction runs with
    | nil => exact .slnil
    | cons entry rest ih =>
        cases hresult : entry.2.results.lookup "result.json" with
        | none => simpa [hresult] using ih.cons entry.1
        | some result => simpa [hresult] using ih.cons_cons entry.1
  constructor
  · exact (((List.perm_insertionSort _ _).map _).nodup_iff).mpr (h.sublist hkeys)
  · rw [published, List.map_insertionSort _ (· ≤ ·) _ _ fun _ _ _ _ ↦ Iff.rfl]
    exact List.pairwise_insertionSort _ _

/-- The texts of the results are loaded one by one. -/
theorem loads_published {entries : List (String × Record)}
    (h : ∀ entry ∈ entries, JsonDumps.loads entry.2.resultText = some entry.2.shortened.json) :
    (entries.map fun entry ↦ (entry.1, entry.2.resultText)).mapM
      (fun entry ↦ JsonDumps.loads entry.2) =
      some ((entries.map Prod.snd).map fun r ↦ r.shortened.json) := by
  induction entries with
  | nil => rfl
  | cons entry rest ih =>
      obtain ⟨hentry, hrest⟩ := List.forall_mem_cons.mp h
      simp [hentry, ih hrest]

theorem exists_documents {records : List Record}
    (h : ∀ r ∈ records, ∃ d : ResultDocument, ReadFrom d r) :
    ∃ documents, List.Forall₂ ReadFrom documents records := by
  induction records with
  | nil => exact ⟨[], .nil⟩
  | cons r rest ih =>
      obtain ⟨⟨d, hd⟩, hrest⟩ := List.forall_mem_cons.mp h
      obtain ⟨documents, hdocuments⟩ := ih hrest
      exact ⟨d :: documents, .cons hd hdocuments⟩

/-- After any history the aggregation of the texts in the files meets no error, and summarises exactly
the last finished document of every run directory, in the order of the directories. -/
theorem aggregate_after (history : List Event)
    (h : ∀ name raw inv, .gates name raw inv ∈ history → KnownStrategy inv) :
    ∃ documents : List (String × Record),
      (documents.map Prod.fst).Nodup ∧ (documents.map Prod.fst).Pairwise (· ≤ ·) ∧
      (∀ name r, (name, r) ∈ documents ↔ lastDocument false name history.reverse = some r) ∧
      ∃ a, aggregate (after Record.resultText history) = some (.ok a) ∧
        Summarises (documents.map Prod.snd) a := by
  obtain ⟨hnodup, hsorted⟩ := published_sorted (nodup_keys_after id history)
  refine ⟨published (after id history), hnodup, hsorted, fun name r ↦ mem_published_after, ?_⟩
  have hread : ∀ entry ∈ published (after id history),
      JsonDumps.loads entry.2.resultText = some entry.2.shortened.json ∧
        ∃ d : ResultDocument, ReadFrom d entry.2 := by
    rintro ⟨name, r⟩ hentry
    obtain ⟨raw, inv, dir, hmem, -, rfl⟩ := mem_of_lastDocument (mem_published_after.mp hentry)
    have hwritten := document_writtenBy inv dir raw.text
    exact ⟨loads_resultText hwritten, exists_readFrom hwritten
      (h name raw inv (List.mem_reverse.mp hmem)) (document_coherent raw.text inv dir).decided⟩
  obtain ⟨documents, hdocuments⟩ :
      ∃ documents, List.Forall₂ ReadFrom documents ((published (after id history)).map Prod.snd) :=
    exists_documents fun r hr ↦ by
      obtain ⟨entry, hentry, rfl⟩ := List.mem_map.mp hr
      exact (hread entry hentry).2
  obtain ⟨a, hmain, hsummary⟩ := summarises_of_readFrom hdocuments
  refine ⟨a, ?_, hsummary⟩
  rw [aggregate, after_eq_mapFiles Record.resultText, published_mapFiles,
    loads_published fun entry hentry ↦ (hread entry hentry).1, Option.map_some,
    ← map_eq_of_forall₂ (fun _ _ hdocument ↦ hdocument.json) hdocuments, hmain]

/-! ## Three invocations on one run directory -/

/-- Every command succeeds in silence. -/
def quietHost : RawHost where
  sh := fun _ ↦ ⟨0, ⟨#[]⟩, ⟨#[]⟩⟩
  elapsed := fun _ ↦ 150
  generatedTu := none

def clangInvocation : Invocation := { latin1Invocation with onLinux := false }

/-- A finished run of the clang backend, one that raises, and a finished run of the other backend. -/
def sampleHistory : List Event :=
  [.setUp "fmt" ⟨some "", false, true, none⟩, .gates "fmt" quietHost clangInvocation,
    .gates "fmt" latin1Host clangInvocation, .gates "fmt" quietHost latin1Invocation]

theorem aggregate_after_three : ∃ documents : List (String × Record),
    (documents.map Prod.fst).Nodup ∧ (documents.map Prod.fst).Pairwise (· ≤ ·) ∧
    (∀ name r, (name, r) ∈ documents ↔ lastDocument false name sampleHistory.reverse = some r) ∧
    ∃ a, aggregate (after Record.resultText sampleHistory) = some (.ok a) ∧
      Summarises (documents.map Prod.snd) a := by
  refine aggregate_after sampleHistory fun name raw inv hmem ↦ .inl ?_
  simp only [sampleHistory, List.mem_cons, Event.gates.injEq, List.not_mem_nil, or_false,
    reduceCtorEq, false_or] at hmem
  rcases hmem with ⟨-, -, rfl⟩ | ⟨-, -, rfl⟩ | ⟨-, -, rfl⟩ <;> rfl

end ReflectNanobind.Corpus
