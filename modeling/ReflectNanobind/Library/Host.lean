import ReflectNanobind.Library.Program

/-!
# Programs under a host that may answer in several ways

A host relates a request and a world to the replies and worlds that may follow.  A program may be
stopped after any request, so that beside the results it reaches there are the worlds it passes
through.  `Ensures` and `Always` are the weakest preconditions of these over all of the host's
answers.
-/

namespace ReflectNanobind.Library.Program

universe u v w

variable {Request : Type u} {Reply : Request → Type v} {α β : Type w} {World : Type}

/-- The replies to a request, each with the world it leaves. -/
abbrev Host (Request : Type u) (Reply : Request → Type v) (World : Type) :=
  (question : Request) → World → Reply question → World → Prop

/-- The program may end with this value in this world. -/
def Reaches (host : Host Request Reply World) :
    Program Request Reply α → World → α → World → Prop
  | .done value, world, value', world' => value' = value ∧ world' = world
  | .request question next, world, value', world' =>
      ∃ reply between, host question world reply between ∧
        (next reply).Reaches host between value' world'

/-- The program may have got as far as this world, finished or not. -/
def Passes (host : Host Request Reply World) : Program Request Reply α → World → World → Prop
  | .done _, world, world' => world' = world
  | .request question next, world, world' => world' = world ∨
      ∃ reply between, host question world reply between ∧ (next reply).Passes host between world'

/-- However the host answers, the program ends as the postcondition says. -/
def Ensures (host : Host Request Reply World) (post : α → World → Prop) :
    Program Request Reply α → World → Prop
  | .done value, world => post value world
  | .request question next, world =>
      ∀ reply world', host question world reply world' → (next reply).Ensures host post world'

/-- Whatever the host answers, and wherever the program is stopped, the fact about the world holds. -/
def Always (host : Host Request Reply World) (fact : World → Prop) :
    Program Request Reply α → World → Prop
  | .done _, world => fact world
  | .request question next, world => fact world ∧
      ∀ reply world', host question world reply world' → (next reply).Always host fact world'

variable {host : Host Request Reply World}

/-! ## Where a program may be stopped -/

section Always

variable {fact : World → Prop}

@[simp] theorem always_done (value : α) (world : World) :
    (Program.done value : Program Request Reply α).Always host fact world ↔ fact world := Iff.rfl

@[simp] theorem always_ask_bind {Reply : Request → Type w} {host : Host Request Reply World}
    (question : Request) (next : Reply question → Program Request Reply α) (world : World) :
    (ask question >>= next).Always host fact world ↔ fact world ∧
      ∀ reply world', host question world reply world' → (next reply).Always host fact world' :=
  Iff.rfl

/-- A sequence keeps a fact when its second part keeps it from every world where it holds. -/
theorem always_bind {program : Program Request Reply α} {next : α → Program Request Reply β}
    {world : World} (hprogram : program.Always host fact world)
    (hnext : ∀ value world', fact world' → (next value).Always host fact world') :
    (program >>= next).Always host fact world := by
  induction program generalizing world with
  | done value => exact hnext value world hprogram
  | request question rest ih =>
      exact ⟨hprogram.1, fun reply world' hreply ↦ ih reply (hprogram.2 reply world' hreply)⟩

theorem always_iff (program : Program Request Reply α) (world : World) :
    program.Always host fact world ↔
      ∀ world', program.Passes host world world' → fact world' := by
  induction program generalizing world with
  | done value => simp [Always, Passes]
  | request question rest ih =>
      simp only [Always, Passes, ih]
      constructor
      · rintro ⟨hworld, h⟩ world' (rfl | ⟨reply, between, hreply, hrest⟩)
        · exact hworld
        · exact h reply between hreply world' hrest
      · intro h
        exact ⟨h world (.inl rfl), fun reply between hreply world' hrest ↦
          h world' (.inr ⟨reply, between, hreply, hrest⟩)⟩

end Always

/-! ## What a program ends with -/

section Ensures

variable {post : α → World → Prop}

@[simp] theorem ensures_done (value : α) (world : World) :
    (Program.done value : Program Request Reply α).Ensures host post world ↔ post value world :=
  Iff.rfl

@[simp] theorem ensures_ask_bind {Reply : Request → Type w} {host : Host Request Reply World}
    (question : Request) (next : Reply question → Program Request Reply α) (world : World) :
    (ask question >>= next).Ensures host post world ↔
      ∀ reply world', host question world reply world' → (next reply).Ensures host post world' :=
  Iff.rfl

theorem ensures_bind (program : Program Request Reply α) (next : α → Program Request Reply β)
    (post : β → World → Prop) (world : World) :
    (program >>= next).Ensures host post world ↔
      program.Ensures host (fun value world' ↦ (next value).Ensures host post world') world := by
  induction program generalizing world with
  | done value => rfl
  | request question rest ih => simp only [request_bind, Ensures, ih]

theorem Ensures.mono {weaker : α → World → Prop} (h : ∀ value world, post value world →
    weaker value world) {program : Program Request Reply α} {world : World}
    (hprogram : program.Ensures host post world) : program.Ensures host weaker world := by
  induction program generalizing world with
  | done value => exact h value world hprogram
  | request question rest ih =>
      exact fun reply world' hreply ↦ ih reply (hprogram reply world' hreply)

/-- The program, started this many times one after the other, whatever it ends with. -/
def again (program : Program Request Reply α) : Nat → Program Request Reply PUnit
  | 0 => .done ⟨⟩
  | times + 1 => program >>= fun _ ↦ again program times

/-- What one start preserves, any number of them preserves. -/
theorem ensures_again {program : Program Request Reply α} {invariant : World → Prop}
    (hprogram : ∀ world, invariant world →
      program.Ensures host (fun _ world' ↦ invariant world') world) (times : Nat) {world : World}
    (hworld : invariant world) :
    (again program times).Ensures host (fun _ world' ↦ invariant world') world := by
  induction times generalizing world with
  | zero => exact hworld
  | succ times ih =>
      rw [again, ensures_bind]
      exact (hprogram world hworld).mono fun _ _ ↦ ih

theorem ensures_iff (program : Program Request Reply α) (world : World) :
    program.Ensures host post world ↔
      ∀ value world', program.Reaches host world value world' → post value world' := by
  induction program generalizing world with
  | done value => simp [Ensures, Reaches]
  | request question rest ih =>
      simp only [Ensures, Reaches, ih]
      constructor
      · rintro h value world' ⟨reply, between, hreply, hrest⟩
        exact h reply between hreply value world' hrest
      · intro h reply between hreply value world' hrest
        exact h value world' ⟨reply, between, hreply, hrest⟩

end Ensures

/-! ## Total handlers -/

/-- A program passes through the world that its run ends in. -/
theorem passes_run {handler : Handler Request Reply World}
    (hhost : ∀ question world, host question world (handler question world).1
      (handler question world).2)
    (program : Program Request Reply α) (world : World) :
    program.Passes host world (program.run handler world).2 := by
  induction program generalizing world with
  | done value => rfl
  | request question rest ih => exact .inr ⟨_, _, hhost question world, ih _ _⟩

theorem Ensures.run {handler : Handler Request Reply World} {post : α → World → Prop}
    (hhost : ∀ question world, host question world (handler question world).1
      (handler question world).2)
    {program : Program Request Reply α} {world : World} (h : program.Ensures host post world) :
    post (program.run handler world).1 (program.run handler world).2 := by
  induction program generalizing world with
  | done value => exact h
  | request question rest ih => exact ih _ (h _ _ (hhost question world))

end ReflectNanobind.Library.Program
