/-!
# Sequential programs over answered requests

A program issues requests one after the other and continues with each reply.  A total handler
answers every request and may change a world; a fallible handler may instead raise.  The run of a
program, its trace of requests with the worlds they were made in, and its fallible attempt are
separate structural recursions over one tree.  The main rules say how they compose with `bind`, that
an attempt agrees with the run exactly while every traced request is answered, and that a world
fact survives an attempt when no request of the program can break it.
-/

namespace ReflectNanobind.Library

universe u v w

/-- A sequential program: every request carries its own type of reply. -/
inductive Program (Request : Type u) (Reply : Request → Type v) (α : Type w) where
  | done (value : α)
  | request (question : Request) (next : Reply question → Program Request Reply α)

namespace Program

variable {Request : Type u} {Reply : Request → Type v} {α β : Type w} {World ε : Type}

def bind (program : Program Request Reply α) (next : α → Program Request Reply β) :
    Program Request Reply β :=
  match program with
  | .done value => next value
  | .request question rest => .request question fun reply ↦ (rest reply).bind next

instance : Monad (Program Request Reply) where
  pure := .done
  bind := bind

/-- Issue one request and return its reply. -/
def ask {Request : Type u} {Reply : Request → Type v} (question : Request) :
    Program Request Reply (Reply question) :=
  .request question .done

@[simp] theorem pure_eq_done (value : α) :
    (pure value : Program Request Reply α) = .done value := rfl

@[simp] theorem done_bind (value : α) (next : α → Program Request Reply β) :
    (Program.done value >>= next) = next value := rfl

@[simp] theorem request_bind (question : Request)
    (rest : Reply question → Program Request Reply α) (next : α → Program Request Reply β) :
    (Program.request question rest >>= next) =
      .request question fun reply ↦ rest reply >>= next := rfl

/-! ## Runs and traces under a total handler -/

/-- A handler that answers every request, possibly changing the world. -/
abbrev Handler (Request : Type u) (Reply : Request → Type v) (World : Type) :=
  (question : Request) → World → Reply question × World

def run (handler : Handler Request Reply World) :
    Program Request Reply α → World → α × World
  | .done value, world => (value, world)
  | .request question next, world =>
      (next (handler question world).1).run handler (handler question world).2

/-- The requests of a run in order, each with the world it was made in. -/
def trace (handler : Handler Request Reply World) :
    Program Request Reply α → World → List (Request × World)
  | .done _, _ => []
  | .request question next, world =>
      (question, world) ::
        (next (handler question world).1).trace handler (handler question world).2

variable (handler : Handler Request Reply World)

@[simp] theorem run_done (value : α) (world : World) :
    (Program.done value : Program Request Reply α).run handler world = (value, world) := rfl

@[simp] theorem trace_done (value : α) (world : World) :
    (Program.done value : Program Request Reply α).trace handler world = [] := rfl

@[simp] theorem run_bind (program : Program Request Reply α)
    (next : α → Program Request Reply β) (world : World) :
    (program >>= next).run handler world =
      (next (program.run handler world).1).run handler (program.run handler world).2 := by
  induction program generalizing world with
  | done value => rfl
  | request question rest ih =>
      simp only [request_bind, run]
      exact ih (handler question world).1 (handler question world).2

@[simp] theorem trace_bind (program : Program Request Reply α)
    (next : α → Program Request Reply β) (world : World) :
    (program >>= next).trace handler world =
      program.trace handler world ++
        (next (program.run handler world).1).trace handler (program.run handler world).2 := by
  induction program generalizing world with
  | done value => rfl
  | request question rest ih =>
      simp only [request_bind, trace, run, List.cons_append]
      rw [ih (handler question world).1 (handler question world).2]

@[simp] theorem run_ask {Reply : Request → Type w} (handler : Handler Request Reply World)
    (question : Request) (world : World) :
    (ask question : Program Request Reply (Reply question)).run handler world =
      handler question world := rfl

@[simp] theorem trace_ask {Reply : Request → Type w} (handler : Handler Request Reply World)
    (question : Request) (world : World) :
    (ask question : Program Request Reply (Reply question)).trace handler world =
      [(question, world)] := rfl

/-! ## Which requests a program may issue -/

/-- Every request the program can issue, whatever the replies, satisfies `allowed`. -/
def Only (allowed : Request → Prop) : Program Request Reply α → Prop
  | .done _ => True
  | .request question next => allowed question ∧ ∀ reply, (next reply).Only allowed

@[simp] theorem only_done (allowed : Request → Prop) (value : α) :
    (Program.done value : Program Request Reply α).Only allowed := trivial

theorem only_bind {allowed : Request → Prop} {program : Program Request Reply α}
    {next : α → Program Request Reply β} (hprogram : program.Only allowed)
    (hnext : ∀ value, (next value).Only allowed) : (program >>= next).Only allowed := by
  induction program with
  | done value => exact hnext value
  | request question rest ih =>
      exact ⟨hprogram.1, fun reply ↦ ih reply (hprogram.2 reply)⟩

theorem only_ask {Reply : Request → Type w} {allowed : Request → Prop} {question : Request}
    (h : allowed question) :
    (ask question : Program Request Reply (Reply question)).Only allowed :=
  ⟨h, fun _ ↦ trivial⟩

theorem Only.mono {allowed wider : Request → Prop} (hwider : ∀ question, allowed question →
    wider question) {program : Program Request Reply α} (hprogram : program.Only allowed) :
    program.Only wider := by
  induction program with
  | done value => trivial
  | request question rest ih =>
      exact ⟨hwider question hprogram.1, fun reply ↦ ih reply (hprogram.2 reply)⟩

/-- Every traced request is one the program may issue. -/
theorem allowed_of_mem_trace {allowed : Request → Prop} {program : Program Request Reply α}
    (hprogram : program.Only allowed) {world : World} {event : Request × World}
    (hevent : event ∈ program.trace handler world) : allowed event.1 := by
  induction program generalizing world with
  | done value => simp at hevent
  | request question rest ih =>
      rcases List.mem_cons.mp hevent with rfl | hrest
      · exact hprogram.1
      · exact ih _ (hprogram.2 _) hrest

/-! ## What a program returns -/

/-- Whatever the replies, the value of the program meets the postcondition. -/
def Returns (post : α → Prop) : Program Request Reply α → Prop
  | .done value => post value
  | .request _ next => ∀ reply, (next reply).Returns post

section Returns

variable {mid post : α → Prop} {program : Program Request Reply α}

@[simp] theorem returns_done {value : α} :
    (Program.done value : Program Request Reply α).Returns post ↔ post value := Iff.rfl

/-- Nothing is known of the value, so that every postcondition is met that all values meet. -/
theorem returns_of_forall (program : Program Request Reply α) (h : ∀ value, post value) :
    program.Returns post := by
  induction program with
  | done value => exact h value
  | request question rest ih => exact ih

theorem returns_bind {next : α → Program Request Reply β} {post : β → Prop}
    (hprogram : program.Returns mid) (hnext : ∀ value, mid value → (next value).Returns post) :
    (program >>= next).Returns post := by
  induction program with
  | done value => exact hnext value hprogram
  | request question rest ih => exact fun reply ↦ ih reply (hprogram reply)

/-- A first request may be answered in any way. -/
theorem returns_ask_bind {Reply : Request → Type w} {question : Request} {β : Type w}
    {next : Reply question → Program Request Reply β} {post : β → Prop}
    (h : ∀ reply, (next reply).Returns post) : (ask question >>= next).Returns post := h

theorem Returns.run (hprogram : program.Returns post) (handler : Handler Request Reply World)
    (world : World) : post (program.run handler world).1 := by
  induction program generalizing world with
  | done value => exact hprogram
  | request question rest ih => exact ih _ (hprogram _) _

end Returns

/-! ## Attempts under a handler that may raise -/

/-- A handler that answers a request or raises; the world keeps what was done before. -/
abbrev FallibleHandler (Request : Type u) (Reply : Request → Type v) (World ε : Type) :=
  (question : Request) → World → Except ε (Reply question) × World

def attempt (fallible : FallibleHandler Request Reply World ε) :
    Program Request Reply α → World → Except ε α × World
  | .done value, world => (.ok value, world)
  | .request question next, world =>
      match fallible question world with
      | (.ok reply, world') => (next reply).attempt fallible world'
      | (.error raised, world') => (.error raised, world')

/-- The fallible handler answers this request in this world. -/
def Answers (fallible : FallibleHandler Request Reply World ε) (event : Request × World) : Prop :=
  ∃ reply world', fallible event.1 event.2 = (.ok reply, world')

/-- Whenever the fallible handler answers, the total handler gives the same answer and world. -/
def Extends (fallible : FallibleHandler Request Reply World ε) : Prop :=
  ∀ question world reply world', fallible question world = (.ok reply, world') →
    handler question world = (reply, world')

variable {handler} {fallible : FallibleHandler Request Reply World ε}

/-- While every traced request is answered, the attempt is the run. -/
theorem attempt_eq_run (hextends : Extends handler fallible)
    (program : Program Request Reply α) (world : World)
    (hanswers : ∀ event ∈ program.trace handler world, Answers fallible event) :
    program.attempt fallible world =
      (.ok (program.run handler world).1, (program.run handler world).2) := by
  induction program generalizing world with
  | done value => rfl
  | request question rest ih =>
      obtain ⟨reply, world', hreply⟩ := hanswers (question, world) (by simp [trace])
      have hhandler := hextends question world reply world' hreply
      simp only [trace, hhandler] at hanswers
      simp only [attempt, hreply, run, hhandler]
      exact ih reply world' fun event hevent ↦ hanswers event (List.mem_cons_of_mem _ hevent)

/-- The attempt returns a value exactly when every request of the total run is answered. -/
theorem attempt_returns_iff (hextends : Extends handler fallible)
    (program : Program Request Reply α) (world : World) :
    (∃ value, (program.attempt fallible world).1 = .ok value) ↔
      ∀ event ∈ program.trace handler world, Answers fallible event := by
  constructor
  · rintro ⟨value, hvalue⟩
    induction program generalizing world with
    | done value' => simp
    | request question rest ih =>
        simp only [attempt] at hvalue
        split at hvalue
        next reply world' hreply =>
          have hhandler := hextends question world reply world' hreply
          simp only [trace, hhandler, List.mem_cons]
          rintro event (rfl | hevent)
          · exact ⟨reply, world', hreply⟩
          · exact ih reply world' hvalue event hevent
        next raised world' hraised => cases hvalue
  · intro hanswers
    exact ⟨_, congrArg Prod.fst (attempt_eq_run hextends program world hanswers)⟩

/-- A world fact that no allowed request changes survives the attempt, raised or not. -/
theorem attempt_invariant {allowed : Request → Prop} {invariant : World → Prop}
    (hstep : ∀ question world, allowed question → invariant world →
      invariant (fallible question world).2)
    {program : Program Request Reply α} (hprogram : program.Only allowed) {world : World}
    (hworld : invariant world) : invariant (program.attempt fallible world).2 := by
  induction program generalizing world with
  | done value => exact hworld
  | request question rest ih =>
      have hnext := hstep question world hprogram.1 hworld
      simp only [attempt]
      split
      next reply world' hreply =>
        rw [hreply] at hnext
        exact ih reply (hprogram.2 reply) hnext
      next raised world' hraised =>
        rw [hraised] at hnext
        exact hnext

/-- An attempt that returns a value returns one that meets the postcondition. -/
theorem Returns.attempt {post : α → Prop} {program : Program Request Reply α}
    (hprogram : program.Returns post) {world : World} {value : α}
    (hvalue : (program.attempt fallible world).1 = .ok value) : post value := by
  induction program generalizing world with
  | done result => exact Except.ok.inj hvalue ▸ hprogram
  | request question rest ih =>
      simp only [Program.attempt] at hvalue
      split at hvalue
      next reply world' hreply => exact ih reply (hprogram reply) hvalue
      next raised world' hraised => cases hvalue

/-- An attempt of a sequence raises in its first part, or continues from the first part's world. -/
theorem attempt_bind (program : Program Request Reply α) (next : α → Program Request Reply β)
    (world : World) :
    (program >>= next).attempt fallible world =
      match program.attempt fallible world with
      | (.ok value, world') => (next value).attempt fallible world'
      | (.error raised, world') => (.error raised, world') := by
  induction program generalizing world with
  | done value => rfl
  | request question rest ih =>
      simp only [request_bind, attempt]
      cases hreply : fallible question world with
      | mk result world' =>
          cases result with
          | ok reply => exact ih reply world'
          | error raised => rfl

end Program

end ReflectNanobind.Library
