/-!
# Programs

A program makes calls to its environment, one after the other, and goes on with their answers. It
is a tree of calls: what an environment does with a call is left open, so the same program can be
run alone, be interleaved with others at its calls, or be met with failing calls.
-/

namespace AssetCache

variable {Call Call' : Type} {Answer : Call → Type} {Answer' : Call' → Type} {α β σ : Type}

/-- A program that makes calls and comes to a result. -/
inductive Program (Call : Type) (Answer : Call → Type) (α : Type) where
  /-- The result is there. -/
  | done (result : α)
  /-- A call, and how the program goes on with its answer. -/
  | ask (call : Call) (next : Answer call → Program Call Answer α)

namespace Program

/-- The program that goes on with the result of another. -/
def bind : Program Call Answer α → (α → Program Call Answer β) → Program Call Answer β
  | done result, next => next result
  | ask call rest, next => ask call fun answer => (rest answer).bind next

instance : Monad (Program Call Answer) where
  pure := done
  bind := bind

/-- The program in which every call is replaced by a program that answers it. -/
def lower (replace : (call : Call) → Program Call' Answer' (Answer call)) :
    Program Call Answer α → Program Call' Answer' α
  | done result => done result
  | ask call next => (replace call).bind fun answer => (next answer).lower replace

/-- The result of a program and the state after it, in an environment that answers every call at
once. -/
def run (answer : σ → (call : Call) → Answer call × σ) : σ → Program Call Answer α → α × σ
  | state, done result => (result, state)
  | state, ask call next =>
    let (reply, state) := answer state call
    run answer state (next reply)

@[simp] theorem bind_done (result : α) (next : α → Program Call Answer β) :
    (done result).bind next = next result := rfl

@[simp] theorem bind_ask (call : Call) (rest : Answer call → Program Call Answer α)
    (next : α → Program Call Answer β) :
    (ask call rest).bind next = ask call fun answer => (rest answer).bind next := rfl

@[simp] theorem bind_eq (program : Program Call Answer α) (next : α → Program Call Answer β) :
    program >>= next = program.bind next := rfl

@[simp] theorem pure_eq (result : α) : (pure result : Program Call Answer α) = done result := rfl

theorem bind_pure (program : Program Call Answer α) : program.bind done = program := by
  induction program with
  | done result => rfl
  | ask call next ih => simp [ih]

theorem bind_assoc {γ : Type} (program : Program Call Answer α)
    (next : α → Program Call Answer β) (last : β → Program Call Answer γ) :
    (program.bind next).bind last = program.bind fun result => (next result).bind last := by
  induction program with
  | done result => rfl
  | ask call rest ih => simp [ih]

@[simp] theorem run_done (answer : σ → (call : Call) → Answer call × σ) (state : σ) (result : α) :
    run answer state (done result) = (result, state) := rfl

@[simp] theorem run_ask (answer : σ → (call : Call) → Answer call × σ) (state : σ) (call : Call)
    (next : Answer call → Program Call Answer α) :
    run answer state (ask call next) =
      run answer (answer state call).2 (next (answer state call).1) := rfl

theorem run_bind (answer : σ → (call : Call) → Answer call × σ) (state : σ)
    (program : Program Call Answer α) (next : α → Program Call Answer β) :
    run answer state (program.bind next) =
      run answer (run answer state program).2 (next (run answer state program).1) := by
  induction program generalizing state with
  | done result => rfl
  | ask call rest ih => simp [ih]

end Program

/-! ### One call at a time -/

/-- What comes of one attempt to answer a call. -/
inductive Attempt (Call : Type) (Answer : Call → Type) (σ : Type) (call : Call) where
  /-- The call is answered. -/
  | answered (answer : Answer call) (state : σ)
  /-- The call is under way: what remains of it is another call, whose answer answers it. -/
  | ongoing (rest : Call) (answer : Answer rest → Answer call) (state : σ)
  /-- Nothing can be done for the call at present. -/
  | blocked

/-- A program after one attempt at its next call. -/
inductive Progress (Call : Type) (Answer : Call → Type) (α σ : Type) where
  | finished (result : α)
  | moved (program : Program Call Answer α) (state : σ)
  | blocked

/-- One attempt at the next call of a program. -/
def Program.step (attempt : σ → (call : Call) → Attempt Call Answer σ call) (state : σ) :
    Program Call Answer α → Progress Call Answer α σ
  | .done result => .finished result
  | .ask call next =>
    match attempt state call with
    | .answered answer state => .moved (next answer) state
    | .ongoing rest answer state => .moved (.ask rest fun reply => next (answer reply)) state
    | .blocked => .blocked

end AssetCache
