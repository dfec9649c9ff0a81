import Mathlib.Data.List.Basic

/-!
# Interactive programs

A sequential program of a concurrent process either ends, or calls its environment
and continues with the answer, or edits the memory it shares with the other programs
of the process.  A call is the only place where another program can come in between;
edits that follow a call take effect together with it.

What a program may do is described by a contract on its exchanges: which call and
which edit is allowed after which exchanges, and which answers the environment may
give.  `Keeps` says that a program does its part as long as the environment does, and
its rules follow the shape of the program.
-/

namespace Kruntimes.Transition

/-- The calls of a program, the type of each answer, and the edits of its memory. -/
structure Interface where
  Call : Type
  Answer : Call → Type
  Edit : Type

/-- A call together with its answer. -/
abbrev Exchange (interface : Interface) :=
  (request : interface.Call) × interface.Answer request

/-- An interactive program with a result of type `α`. -/
inductive Program (interface : Interface) (α : Type)
  | done (value : α)
  | call (request : interface.Call) (next : interface.Answer request → Program interface α)
  | edit (change : interface.Edit) (next : Program interface α)

namespace Program

variable {interface : Interface} {α β σ : Type}

/-- Continue with the result. -/
def andThen : Program interface α → (α → Program interface β) → Program interface β
  | done value, rest => rest value
  | call request next, rest => call request fun answer => (next answer).andThen rest
  | edit change next, rest => edit change (next.andThen rest)

instance : Monad (Program interface) where
  pure := done
  bind := andThen

/-- Make a call and return its answer. -/
def ask (request : interface.Call) : Program interface (interface.Answer request) :=
  call request done

/-- Edit the memory. -/
def amend (change : interface.Edit) : Program interface Unit :=
  edit change (done ())

/-! ## Execution -/

section Execution

variable (apply : interface.Edit → σ → σ)

/-- Carry out the edits in front of the next call. -/
def settle : Program interface α → σ → Program interface α × σ
  | edit change next, memory => next.settle (apply change memory)
  | program, memory => (program, memory)

variable (respond : (request : interface.Call) → σ → interface.Answer request × σ)

/-- Run a program without interruption, where `respond` answers its calls. -/
def execute : Program interface α → σ → α × σ
  | done value, state => (value, state)
  | call request next, state => (next (respond request state).1).execute (respond request state).2
  | edit change next, state => next.execute (apply change state)

@[simp]
theorem execute_bind (program : Program interface α) (rest : α → Program interface β) (state : σ) :
    execute apply respond (program >>= rest) state =
      execute apply respond (rest (execute apply respond program state).1)
        (execute apply respond program state).2 := by
  change execute apply respond (program.andThen rest) state = _
  induction program generalizing state with
  | done => rfl
  | call request next ih => exact ih _ _
  | edit change next ih => exact ih _

end Execution

/-! ## Contracts -/

/-- The calls and the edits that the program may make after a list of exchanges, the
newest first, and the answers that it may rely on. -/
structure Contract (interface : Interface) where
  calls : List (Exchange interface) → interface.Call → Prop
  edits : List (Exchange interface) → interface.Edit → Prop
  answers : List (Exchange interface) → Exchange interface → Prop

/-- The program keeps the contract from now on, and ends with `post`. -/
def Keeps (contract : Contract interface) (post : α → List (Exchange interface) → Prop) :
    Program interface α → List (Exchange interface) → Prop
  | done value, history => post value history
  | call request next, history =>
    contract.calls history request ∧ ∀ answer, contract.answers history ⟨request, answer⟩ →
        (next answer).Keeps contract post (⟨request, answer⟩ :: history)
  | edit change next, history => contract.edits history change ∧ next.Keeps contract post history

section Rules

variable {contract : Contract interface} {post : α → List (Exchange interface) → Prop}
  {history : List (Exchange interface)}

@[simp]
theorem keeps_pure (value : α) :
    Keeps contract post (pure value : Program interface α) history ↔ post value history :=
  Iff.rfl

/-- The rule of composition. -/
@[simp]
theorem keeps_bind (program : Program interface α) (rest : α → Program interface β)
    {post : β → List (Exchange interface) → Prop} :
    Keeps contract post (program >>= rest) history ↔
      Keeps contract (fun value later => Keeps contract post (rest value) later) program
        history := by
  change Keeps contract post (program.andThen rest) history ↔ _
  induction program generalizing history with
  | done => exact Iff.rfl
  | call request next ih =>
    simp only [andThen, Keeps]
    exact and_congr_right fun _ => forall_congr' fun answer =>
      imp_congr_right fun _ => ih answer
  | edit change next ih =>
    simp only [andThen, Keeps]
    exact and_congr_right fun _ => ih

/-- The rule of consequence: the exchanges only grow, and the result condition may be
weakened. -/
theorem Keeps.weaken {weaker : α → List (Exchange interface) → Prop}
    {program : Program interface α} (keeps : Keeps contract post program history)
    (implies : ∀ value later, history <:+ later → post value later → weaker value later) :
    Keeps contract weaker program history := by
  induction program generalizing history with
  | done value => exact implies value history (List.suffix_refl history) keeps
  | call request next ih =>
    refine ⟨keeps.1, fun answer given => ih answer (keeps.2 answer given) ?_⟩
    intro value later longer
    exact implies value later ((List.suffix_cons _ _).trans longer)
  | edit change next ih => exact ⟨keeps.1, ih keeps.2 implies⟩

/-- Settling keeps the contract. -/
theorem Keeps.settled {apply : interface.Edit → σ → σ} {program : Program interface α}
    {memory : σ} (keeps : Keeps contract post program history) :
    Keeps contract post (program.settle apply memory).1 history := by
  induction program generalizing memory with
  | done | call => exact keeps
  | edit change next ih => exact ih keeps.2

/-- Settling keeps every property of the memory that the allowed edits keep. -/
theorem Keeps.settle {apply : interface.Edit → σ → σ} {Inv : σ → Prop}
    {program : Program interface α} {memory : σ}
    (keeps : Keeps contract post program history)
    (preserved : ∀ change memory, contract.edits history change → Inv memory →
      Inv (apply change memory))
    (initial : Inv memory) : Inv (program.settle apply memory).2 := by
  induction program generalizing memory with
  | done | call => exact initial
  | edit change next ih => exact ih keeps.2 (preserved change memory keeps.1 initial)

end Rules

/-! ## Arbitrary environments -/

section Always

variable {post : α → List (Exchange interface) → Prop} {history : List (Exchange interface)}

/-- The contract that allows everything. -/
def Contract.free (interface : Interface) : Contract interface :=
  ⟨fun _ _ => True, fun _ _ => True, fun _ _ => True⟩

/-- The program ends with `post`, whatever it is answered. -/
def Always (post : α → List (Exchange interface) → Prop) (program : Program interface α)
    (history : List (Exchange interface)) : Prop :=
  program.Keeps (.free interface) post history

@[simp]
theorem always_pure (value : α) :
    Always post (pure value : Program interface α) history ↔ post value history :=
  Iff.rfl

@[simp]
theorem always_bind (program : Program interface α) (rest : α → Program interface β)
    {post : β → List (Exchange interface) → Prop} :
    Always post (program >>= rest) history ↔
      Always (fun value later => Always post (rest value) later) program history :=
  keeps_bind program rest

@[simp]
theorem always_ask (request : interface.Call)
    {post : interface.Answer request → List (Exchange interface) → Prop} :
    Always post (ask request) history ↔ ∀ answer, post answer (⟨request, answer⟩ :: history) :=
  ⟨fun keeps answer => keeps.2 answer trivial, fun later => ⟨trivial, fun answer _ => later answer⟩⟩

theorem Always.weaken {weaker : α → List (Exchange interface) → Prop}
    {program : Program interface α} (always : Always post program history)
    (implies : ∀ value later, history <:+ later → post value later → weaker value later) :
    Always weaker program history :=
  Keeps.weaken always implies

/-- The exchanges of a program only grow. -/
theorem always_suffix (program : Program interface α) (history : List (Exchange interface)) :
    Always (fun _ later => history <:+ later) program history := by
  induction program generalizing history with
  | done => exact List.suffix_refl history
  | call request next ih =>
    refine ⟨trivial, fun answer _ => ?_⟩
    exact (ih answer _).weaken fun _ _ _ longer => (List.suffix_cons _ _).trans longer
  | edit change next ih => exact ⟨trivial, ih history⟩

/-- A program in front whose answers do not matter. -/
theorem always_bind_of_suffix {program : Program interface β} {rest : β → Program interface α}
    (continues : ∀ value later, history <:+ later → Always post (rest value) later) :
    Always post (program >>= rest) history := by
  rw [always_bind]
  apply (always_suffix program history).weaken
  intro value later longer _
  exact continues value later longer

end Always

end Program

end Kruntimes.Transition
