import ReflectNanobind.Gates.Traces

/-!
# Runs over bytes

The orchestrator on the bytes that its subprocesses really print.  Capturing a command decodes both
streams strictly, and so does the read of the generated translation unit; either raises on bytes
that are not UTF-8, and nothing catches the exception before the document is written at the end.
A command line with a NUL character cannot be launched at all.  The text run of the other modules is
what this run computes as long as nothing raises.
-/

namespace ReflectNanobind.Gates

open Library

/-! ## Bytes -/

/-- The exit status of a command and the bytes it left in its two pipes. -/
structure RawCompleted where
  returncode : ℤ
  stdout : ByteArray
  stderr : ByteArray

/-- The strict decoding of both streams. -/
def RawCompleted.decode (raw : RawCompleted) : Option Completed :=
  match Text.decode raw.stdout, Text.decode raw.stderr with
  | some stdout, some stderr => some ⟨raw.returncode, stdout, stderr⟩
  | _, _ => none

/-- A host that answers in bytes; the emit build leaves the generated translation unit as a file. -/
structure RawHost where
  sh : Command → RawCompleted
  elapsed : LaunchSite → ℕ
  generatedTu : Option ByteArray

/-- The text view of a raw host, with no text where the bytes do not decode. -/
def RawHost.text (raw : RawHost) : Host where
  sh := fun command ↦
    ((raw.sh command).decode).getD ⟨(raw.sh command).returncode, "", ""⟩
  elapsed := raw.elapsed
  generatedTu := raw.generatedTu.map fun bytes ↦ (Text.decode bytes).getD ""

@[simp] theorem RawHost.text_succeeds (raw : RawHost) (command : Command) :
    raw.text.Succeeds command ↔ (raw.sh command).returncode = 0 := by
  simp only [Host.Succeeds, RawHost.text, RawCompleted.decode]
  split <;> rfl

/-! ## What can raise -/

inductive Raised where
  /-- Bytes that are not valid in the locale encoding. -/
  | unicodeDecodeError
  /-- A NUL character in an argument, a variable or a path. -/
  | embeddedNull
  deriving DecidableEq, Repr

def nulFree (text : String) : Bool := !text.toList.contains (Char.ofNat 0)

/-- The variables that the orchestrator sets; an inherited value cannot hold a NUL character. -/
def ownVariables : List String :=
  ["DYLD_LIBRARY_PATH", "PYTHONPATH", "NB_EXTRA_SOURCES", "NB_EXTRA_LIBS", "NB_EXTRA_LIBS_PROD",
    "NB_GEN_CFLAGS", "NB_PROD_CFLAGS", "NB_PROD_STD"]

/-- No argument and no variable that the run sets holds a NUL. The size limits of the operating system
are taken to be kept. -/
def Command.spawnable (command : Command) : Bool :=
  command.args.all nulFree && ownVariables.all fun name ↦ (command.environ name).all nulFree

/-- Launch a command and decode what it printed. -/
def RawHost.capture (raw : RawHost) (command : Command) : Except Raised Completed :=
  if command.spawnable then
    match (raw.sh command).decode with
    | some completed => .ok completed
    | none => .error .unicodeDecodeError
  else .error .embeddedNull

/-- `gen.read_text()`. -/
def RawHost.readGenerated (raw : RawHost) : Except Raised String :=
  match Text.decode (raw.generatedTu.getD ⟨#[]⟩) with
  | some text => .ok text
  | none => .error .unicodeDecodeError

def RawHost.handler (raw : RawHost) :
    Program.FallibleHandler Request Reply RunDir Raised
  | .sh command, dir => (raw.capture command, dir)
  | .readGeneratedTu, dir => (raw.readGenerated, dir)
  | request, dir =>
      (.ok (raw.text.handler request dir).1, (raw.text.handler request dir).2)

/-- `main` over bytes. The extra sources are resolved before anything is launched. -/
def RawHost.main (raw : RawHost) (inv : Invocation) (dir : RunDir) : Except Raised ℤ × RunDir :=
  if (inv.toml.extraSources.getD []).all nulFree then
    (Gates.main inv).attempt raw.handler dir
  else (.error .embeddedNull, dir)

/-! ## The text run -/

section Undecodable

variable (raw : RawHost) (inv : Invocation) (dir : RunDir)

theorem RawHost.handler_extends :
    Program.Extends raw.text.handler raw.handler := by
  intro request world reply world' h
  cases request with
  | sh command =>
      simp only [RawHost.handler, RawHost.capture] at h
      split at h
      · split at h
        next completed hdecode =>
          simp only [Prod.mk.injEq, Except.ok.injEq] at h
          obtain ⟨rfl, rfl⟩ := h
          simp [Host.handler, RawHost.text, hdecode]
        next hdecode => simp at h
      · simp at h
  | readGeneratedTu =>
      simp only [RawHost.handler, RawHost.readGenerated] at h
      split at h
      next text hdecode =>
        simp only [Prod.mk.injEq, Except.ok.injEq] at h
        obtain ⟨rfl, rfl⟩ := h
        cases hgen : raw.generatedTu with
        | none =>
            have hempty : Text.decode ⟨#[]⟩ = some "" := by decide
            rw [hgen, Option.getD_none, hempty, Option.some_inj] at hdecode
            simp [Host.handler, RawHost.text, hgen, hdecode]
        | some bytes =>
            rw [hgen, Option.getD_some] at hdecode
            simp [Host.handler, RawHost.text, hgen, hdecode]
      next hdecode => simp at h
  | _ =>
      obtain ⟨hreply, hworld⟩ := Prod.mk.inj h
      exact Prod.ext (Except.ok.inj hreply) hworld

/-- The command can be launched and what it prints decodes. -/
def RawHost.Captures (command : Command) : Prop :=
  command.spawnable = true ∧ ((raw.sh command).decode).isSome = true

/-- The generated translation unit is UTF-8 text, if the emit build left one. -/
def RawHost.GeneratedTuDecodes : Prop :=
  ∀ bytes, raw.generatedTu = some bytes → (Text.decode bytes).isSome = true

theorem RawHost.answers_sh_iff (command : Command) :
    Program.Answers raw.handler (.sh command, dir) ↔ raw.Captures command := by
  simp only [Program.Answers, RawHost.handler, RawHost.capture, RawHost.Captures]
  cases command.spawnable <;> cases hdecode : (raw.sh command).decode <;> simp

theorem RawHost.answers_readGeneratedTu_iff :
    Program.Answers raw.handler (.readGeneratedTu, dir) ↔
      (Text.decode (raw.generatedTu.getD ⟨#[]⟩)).isSome = true := by
  simp only [Program.Answers, RawHost.handler, RawHost.readGenerated]
  cases hdecode : Text.decode (raw.generatedTu.getD ⟨#[]⟩) <;> simp

/-- Every other request is answered as in the text run. -/
theorem RawHost.answers_of_total (request : Request) (hsh : ∀ command, request ≠ .sh command)
    (hread : request ≠ .readGeneratedTu) : Program.Answers raw.handler (request, dir) := by
  cases request with
  | sh command => exact absurd rfl (hsh command)
  | readGeneratedTu => exact absurd rfl hread
  | _ => exact ⟨_, _, rfl⟩

/-- The requests of a trace are all answered exactly when its launches are captured and its reads of
the generated translation unit decode. -/
theorem RawHost.answers_trace_iff (events : List (Request × RunDir)) :
    (∀ event ∈ events, Program.Answers raw.handler event) ↔
      (∀ launch ∈ launches events, raw.Captures launch.1) ∧
        (ReadsGeneratedTu events →
          (Text.decode (raw.generatedTu.getD ⟨#[]⟩)).isSome = true) := by
  induction events with
  | nil => simp [launches]
  | cons event rest ih =>
      obtain ⟨request, world⟩ := event
      rw [List.forall_mem_cons, ih]
      cases request with
      | sh command => simp [launches, raw.answers_sh_iff, and_assoc]
      | readGeneratedTu =>
          simp only [launches, raw.answers_readGeneratedTu_iff, readsGeneratedTu_cons, true_or,
            true_imp_iff]
          tauto
      | _ => simp [launches, raw.answers_of_total]

/-! ## The document of a run over bytes -/

/-- `main` returns, and the result file holds this invocation's document. -/
def EndsWithOwnDocument : Prop :=
  (∃ code, (raw.main inv dir).1 = .ok code) ∧
    (raw.main inv dir).2.result = some (document raw.text inv dir)

/-- Nothing on the way to the document raises: no path, argument or variable holds a NUL character,
every launched command prints UTF-8 text, and so is the generated translation unit of an emit build
that succeeds. -/
def NothingRaises : Prop :=
  (inv.toml.extraSources.getD []).all nulFree = true ∧
    (∀ command ∈ launchedCommands raw.text inv dir, raw.Captures command) ∧
    (raw.text.Succeeds inv.probeCommand → .emit ∈ inv.lanesToRun →
      raw.text.Succeeds (inv.buildCommand .emit) → raw.GeneratedTuDecodes)

theorem finish_attempt_returns (r : Record) :
    ∃ code, ((finish r).attempt raw.handler dir).1 = .ok code := by
  refine (Program.attempt_returns_iff raw.handler_extends _ _).mpr fun event hevent ↦ ?_
  have honly : (finish r).Only fun request ↦
      (∀ command, request ≠ .sh command) ∧ request ≠ .readGeneratedTu := by
    refine Program.only_bind (Program.only_ask (by simp)) fun _ ↦
      Program.only_bind (Program.only_ask (by simp)) fun _ ↦ ?_
    split
    · trivial
    · exact Program.only_bind (Program.only_ask (by simp)) fun _ ↦ trivial
  obtain ⟨hsh, hread⟩ := Program.allowed_of_mem_trace raw.text.handler honly hevent
  exact raw.answers_of_total event.2 event.1 hsh hread

/-- A run that raises leaves the result file as it found it: the document is only written after the
last request that can raise. -/
theorem attempt_main_result
    (hraised : ¬ ∃ code, ((Gates.main inv).attempt raw.handler dir).1 = .ok code) :
    ((Gates.main inv).attempt raw.handler dir).2.result = dir.result := by
  have hkeeps : ((gatedRecord inv).attempt raw.handler dir).2.result = dir.result := by
    have hstep (request : Request) (world : RunDir) (hrequest : request.KeepsResult)
        (hworld : world.result = dir.result) :
        (raw.handler request world).2.result = dir.result := by
      cases request with
      | «exists» file => cases file <;> exact hworld
      | writeResult record => exact hrequest.elim
      | _ => exact hworld
    exact Program.attempt_invariant hstep (gatedRecord_only inv) rfl
  rw [Gates.main, Program.attempt_bind] at hraised ⊢
  cases hgated : (gatedRecord inv).attempt raw.handler dir with
  | mk result world =>
      rw [hgated] at hraised hkeeps
      cases result with
      | ok r => exact absurd (finish_attempt_returns raw world r) hraised
      | error raised => exact hkeeps

theorem rawMain_returns_iff :
    (∃ code, (raw.main inv dir).1 = .ok code) ↔ NothingRaises raw inv dir := by
  unfold RawHost.main NothingRaises
  by_cases hsources : (inv.toml.extraSources.getD []).all nulFree = true
  · rw [if_pos hsources, Program.attempt_returns_iff raw.handler_extends, raw.answers_trace_iff,
      readsGeneratedTu_main, ← launches_main_map_fst]
    simp only [hsources, true_and, List.mem_map, forall_exists_index, and_imp,
      forall_apply_eq_imp_iff₂]
    refine and_congr_right fun _ ↦ ?_
    have hgen : raw.text.generatedTu.isSome = raw.generatedTu.isSome := by
      simp [RawHost.text]
    unfold RawHost.GeneratedTuDecodes
    rw [hgen]
    cases raw.generatedTu <;> simp
  · rw [if_neg hsources]
    simp [hsources]

/-- A run over bytes ends with its own document exactly when nothing raises; otherwise it raises and
whatever document was there before stays. -/
theorem main_endsWithOwnDocument_iff :
    (EndsWithOwnDocument raw inv dir ↔ NothingRaises raw inv dir) ∧
      (¬ NothingRaises raw inv dir →
        (∃ raised, (raw.main inv dir).1 = .error raised) ∧
          (raw.main inv dir).2.result = dir.result) := by
  constructor
  · refine ⟨fun h ↦ (rawMain_returns_iff raw inv dir).mp h.1, fun h ↦ ?_⟩
    have hreturns := (rawMain_returns_iff raw inv dir).mpr h
    refine ⟨hreturns, ?_⟩
    unfold RawHost.main at hreturns ⊢
    rw [if_pos h.1] at hreturns ⊢
    have hanswers := (Program.attempt_returns_iff raw.handler_extends _ _).mp hreturns
    rw [Program.attempt_eq_run raw.handler_extends _ _ hanswers, main_run]
  · intro h
    have hraised := mt (rawMain_returns_iff raw inv dir).mp h
    constructor
    · cases hresult : (raw.main inv dir).1 with
      | ok code => exact absurd ⟨code, hresult⟩ hraised
      | error raised => exact ⟨raised, rfl⟩
    · unfold RawHost.main at hraised ⊢
      split at hraised
      · rename_i hsources
        rw [if_pos hsources]
        exact attempt_main_result raw inv dir hraised
      · rename_i hsources
        rw [if_neg hsources]

end Undecodable

/-! ## A probe that prints a byte -/

/-- Every command succeeds in silence, but the probe prints the byte `0xff` to stderr. -/
def latin1Host : RawHost where
  sh := fun command ↦
    ⟨0, ⟨#[]⟩, if command.site = .probe then ⟨#[0xff]⟩ else ⟨#[]⟩⟩
  elapsed := fun _ ↦ 0
  generatedTu := none

def latin1Invocation : Invocation :=
  Invocation.onLinuxRepo (Meta.required "fmt" "fmt_bind") none

/-- An earlier run of the same corpus entry left its document behind. -/
def latin1Dir : RunDir where
  probe := some ""
  oracleNative := false
  testBindings := false
  expected := none
  result := some (document (Host.silent fun _ ↦ 0) latin1Invocation ⟨none, false, false, none, none⟩)

/-- The run raises on the captured probe and the earlier document stays its record. -/
theorem main_raises_on_latin1 :
    (latin1Host.main latin1Invocation latin1Dir).1 = .error .unicodeDecodeError ∧
      (latin1Host.main latin1Invocation latin1Dir).2.result = latin1Dir.result ∧
      ¬ EndsWithOwnDocument latin1Host latin1Invocation latin1Dir := by
  have hraised : (latin1Host.main latin1Invocation latin1Dir).1 = .error .unicodeDecodeError := by
    decide
  have hraises : ¬ ∃ code, (latin1Host.main latin1Invocation latin1Dir).1 = .ok code := by
    rintro ⟨code, hcode⟩
    rw [hraised] at hcode
    cases hcode
  exact ⟨hraised, attempt_main_result latin1Host latin1Invocation latin1Dir hraises,
    fun h ↦ hraises h.1⟩

end ReflectNanobind.Gates
