import Mathlib.Logic.Function.Basic

/-!
# Plans of jobs that write files

A plan performs jobs one after the other over a store of files and stops at the first that fails.  A
job's answer is a function of the files it reads.  A plan is clean over a set of files when each job
reads only from the set and from what earlier jobs of the plan have written; then nothing else in the
store has a say in its result.
-/

namespace ReflectNanobind.Library.Plan

abbrev Store (Path Value : Type*) := Path → Option Value

structure Rules (Job Path Value : Type*) where
  target : Job → Path
  Reads : Job → Path → Prop
  /-- Whether the job succeeds, and what it writes to its target, if it does write. -/
  answer : Job → Store Path Value → Bool × Option Value

namespace Rules

variable {Job Path Value : Type*} (rules : Rules Job Path Value)

/-- A job knows only what it reads, and it has written its target when it succeeds. -/
structure Sound : Prop where
  reads : ∀ (job : Job) (store store' : Store Path Value),
    (∀ path, rules.Reads job path → store path = store' path) →
      rules.answer job store = rules.answer job store'
  writes : ∀ (job : Job) (store : Store Path Value),
    (rules.answer job store).1 = true → (rules.answer job store).2 ≠ none

/-- Every job reads from the set or what an earlier job of the plan writes. -/
def Clean : (Path → Prop) → List Job → Prop
  | _, [] => True
  | base, job :: jobs =>
      (∀ path, rules.Reads job path → base path) ∧
        Clean (fun path ↦ base path ∨ path = rules.target job) jobs

/-! ## Clean plans -/

section Clean

variable {rules} {base base' : Path → Prop} {jobs first second : List Job}

theorem Clean.mono (h : rules.Clean base jobs) (hbase : ∀ path, base path → base' path) :
    rules.Clean base' jobs := by
  induction jobs generalizing base base' with
  | nil => trivial
  | cons job jobs ih =>
      exact ⟨fun path hpath ↦ hbase path (h.1 path hpath),
        ih h.2 fun path hpath ↦ hpath.imp_left (hbase path)⟩

theorem clean_append : rules.Clean base (first ++ second) ↔
    rules.Clean base first ∧
      rules.Clean (fun path ↦ base path ∨ path ∈ first.map rules.target) second := by
  induction first generalizing base with
  | nil => simp [Clean]
  | cons job first ih =>
      rw [List.cons_append, Clean, Clean, ih, and_assoc]
      simp only [List.map_cons, List.mem_cons, or_assoc]

/-- Jobs that read nothing of each other's. -/
theorem clean_of_forall (h : ∀ job ∈ jobs, ∀ path, rules.Reads job path → base path) :
    rules.Clean base jobs := by
  induction jobs generalizing base with
  | nil => trivial
  | cons job jobs ih =>
      exact ⟨h job List.mem_cons_self, ih fun other hother path hpath ↦
        .inl (h other (List.mem_cons_of_mem _ hother) path hpath)⟩

end Clean

/-! ## What a job and a plan do -/

section Build

variable [DecidableEq Path]

/-- The store after a job. -/
def perform (job : Job) (store : Store Path Value) : Store Path Value :=
  (rules.answer job store).2.elim store fun value ↦
    Function.update store (rules.target job) (some value)

/-- The job that failed, and the store. -/
def build : List Job → Store Path Value → Option Job × Store Path Value
  | [], store => (none, store)
  | job :: jobs, store =>
      if (rules.answer job store).1 then build jobs (rules.perform job store)
      else (some job, rules.perform job store)

variable {rules} {base : Path → Prop} {store store' : Store Path Value} {job : Job} {jobs : List Job}

theorem perform_of_ne {path : Path} (h : path ≠ rules.target job) :
    rules.perform job store path = store path := by
  rw [perform]
  cases (rules.answer job store).2 with
  | none => rfl
  | some value => exact Function.update_of_ne h _ _

/-- The job that failed is one of the plan. -/
theorem build_failed_mem (h : (rules.build jobs store).1 = some job) : job ∈ jobs := by
  induction jobs generalizing store with
  | nil => exact absurd h (by simp [build])
  | cons first jobs ih =>
      rw [build] at h
      split at h
      · exact List.mem_cons_of_mem _ (ih h)
      · exact List.mem_cons.mpr (.inl (Option.some_inj.mp h).symm)

/-- A plan writes nothing but its targets. -/
theorem build_frame {path : Path} (h : path ∉ jobs.map rules.target) :
    (rules.build jobs store).2 path = store path := by
  induction jobs generalizing store with
  | nil => rfl
  | cons job jobs ih =>
      obtain ⟨hjob, hjobs⟩ := not_or.mp (mt List.mem_cons.mpr h)
      rw [build]
      split
      · rw [ih hjobs, perform_of_ne hjob]
      · exact perform_of_ne hjob

/-- A job that succeeds writes the same wherever it reads the same. -/
theorem perform_agree (hsound : rules.Sound) (hreads : ∀ path, rules.Reads job path → base path)
    (hagree : ∀ path, base path → store path = store' path)
    (hsuccess : (rules.answer job store).1 = true) (path : Path)
    (hpath : base path ∨ path = rules.target job) :
    rules.perform job store path = rules.perform job store' path := by
  have hsame := hsound.reads job store store' fun read hread ↦ hagree read (hreads read hread)
  obtain ⟨value, hvalue⟩ := Option.ne_none_iff_exists'.mp (hsound.writes job store hsuccess)
  rw [perform, perform, ← hsame, hvalue, Option.elim_some, Option.elim_some]
  by_cases htarget : path = rules.target job
  · rw [htarget, Function.update_self, Function.update_self]
  · rw [Function.update_of_ne htarget, Function.update_of_ne htarget]
    exact hagree path (hpath.resolve_right htarget)

/-- A clean plan over the same base fails at the same job, and when it does not fail, it has written the
same files. -/
theorem build_agree (hsound : rules.Sound) (hclean : rules.Clean base jobs)
    (hagree : ∀ path, base path → store path = store' path) :
    (rules.build jobs store).1 = (rules.build jobs store').1 ∧
      ((rules.build jobs store).1 = none → ∀ path, base path ∨ path ∈ jobs.map rules.target →
        (rules.build jobs store).2 path = (rules.build jobs store').2 path) := by
  induction jobs generalizing base store store' with
  | nil => exact ⟨rfl, fun _ path hpath ↦ hagree path (by simpa using hpath)⟩
  | cons job jobs ih =>
      obtain ⟨hreads, hclean⟩ := hclean
      have hsame := hsound.reads job store store' fun read hread ↦ hagree read (hreads read hread)
      rw [build, build, ← hsame]
      split
      · next hsuccess =>
          obtain ⟨hfailed, hfiles⟩ := ih hclean (perform_agree hsound hreads hagree hsuccess)
          refine ⟨hfailed, fun hnone path hpath ↦ hfiles hnone path ?_⟩
          simpa only [List.map_cons, List.mem_cons, or_assoc] using hpath
      · exact ⟨rfl, fun hnone ↦ absurd hnone (Option.some_ne_none job)⟩

/-- When no job failed, every target is there. -/
theorem build_written (hsound : rules.Sound) (hnone : (rules.build jobs store).1 = none) {path : Path}
    (hpath : path ∈ jobs.map rules.target) : (rules.build jobs store).2 path ≠ none := by
  induction jobs generalizing store with
  | nil => simp at hpath
  | cons job jobs ih =>
      rw [build] at hnone ⊢
      split at hnone
      · next hsuccess =>
          rw [if_pos hsuccess]
          by_cases hlater : path ∈ jobs.map rules.target
          · exact ih hnone hlater
          · rw [build_frame hlater]
            obtain rfl : path = rules.target job :=
              (List.mem_cons.mp hpath).resolve_right hlater
            obtain ⟨value, hvalue⟩ :=
              Option.ne_none_iff_exists'.mp (hsound.writes job store hsuccess)
            rw [perform, hvalue, Option.elim_some, Function.update_self]
            exact Option.some_ne_none value
      · exact absurd hnone (Option.some_ne_none job)

end Build

end Rules

end ReflectNanobind.Library.Plan
