import AssetCache.Program
import Mathlib.Tactic.Common

/-!
# Agreements between programs and environments

A program seldom makes its calls in any order, and an environment seldom answers in any way. An
agreement says, for every stage that a program can be in, which calls it may make and which
stages may follow on which answers. A program keeps to it by itself, whatever it is answered; an
environment honours it with respect to an invariant that ties its own state to the stage.

What a program that keeps to an agreement comes to in an environment that honours it is known at
its end (`Program.Keeps.run`).
-/

namespace AssetCache

variable {Call : Type} {Answer : Call → Type} {α β φ σ : Type}

/-- What is agreed on: whether a call may be made in a stage, and whether something holds of every
answer together with the stage that follows. -/
abbrev Agreement (Call : Type) (Answer : Call → Type) (φ : Type) :=
  φ → (call : Call) → (Answer call → φ → Prop) → Prop

/-- In the stage that belongs to it, every state answers a call that is agreed on with an agreed
answer, and the state after it belongs to the stage that follows. -/
def Agreement.HonouredBy (agreed : Agreement Call Answer φ) (holds : σ → φ → Prop)
    (answer : σ → (call : Call) → Answer call × σ) : Prop :=
  ∀ state stage call follows, holds state stage → agreed stage call follows →
    ∃ stage', follows (answer state call).1 stage' ∧ holds (answer state call).2 stage'

namespace Program

/-- A program keeps to an agreement from a stage on, and is done with a result in a stage such
that `post` holds. -/
def Keeps (agreed : Agreement Call Answer φ) (post : α → φ → Prop) :
    φ → Program Call Answer α → Prop
  | stage, done result => post result stage
  | stage, ask call next =>
    agreed stage call fun reply stage => Keeps agreed post stage (next reply)

variable {agreed : Agreement Call Answer φ} {post : α → φ → Prop} {stage : φ}

@[simp] lemma keeps_done (result : α) :
    (done result : Program Call Answer α).Keeps agreed post stage ↔ post result stage := Iff.rfl

@[simp] lemma keeps_ask (call : Call) (next : Answer call → Program Call Answer α) :
    (ask call next).Keeps agreed post stage ↔
      agreed stage call fun reply stage => (next reply).Keeps agreed post stage := Iff.rfl

/-- A program that goes on with the result of another keeps to an agreement if the other does, up
to a stage from which the rest keeps to it. -/
lemma keeps_bind (program : Program Call Answer β) (next : β → Program Call Answer α) :
    (program.bind next).Keeps agreed post stage ↔
      program.Keeps agreed (fun result stage => (next result).Keeps agreed post stage) stage := by
  induction program generalizing stage with
  | done result => rfl
  | ask call rest ih => simp only [bind_ask, keeps_ask, ih]

/-- What is known at the end of a run: the result and the last stage are as the program says, and
the last state belongs to that stage. -/
theorem Keeps.run {holds : σ → φ → Prop} {answer : σ → (call : Call) → Answer call × σ}
    (honoured : agreed.HonouredBy holds answer) {program : Program Call Answer α} {state : σ}
    (keeps : program.Keeps agreed post stage) (h : holds state stage) :
    ∃ stage', post (program.run answer state).1 stage' ∧
      holds (program.run answer state).2 stage' := by
  induction program generalizing state stage with
  | done result => exact ⟨stage, keeps, h⟩
  | ask call next ih =>
    obtain ⟨stage', kept, h'⟩ := honoured state stage call _ h keeps
    exact ih _ kept h'

/-- What every answer preserves is preserved by every run. -/
theorem run_preserves {holds : σ → Prop} {answer : σ → (call : Call) → Answer call × σ}
    (preserved : ∀ state call, holds state → holds (answer state call).2)
    (program : Program Call Answer α) {state : σ} (h : holds state) :
    holds (program.run answer state).2 := by
  induction program generalizing state with
  | done result => exact h
  | ask call next ih => exact ih _ (preserved state call h)

/-! ### Programs that make certain calls only -/

/-- Whatever it is answered, a program makes allowed calls only, and comes to a result of some
kind. -/
def Within (allowed : Call → Prop) (kind : α → Prop) : Program Call Answer α → Prop
  | done result => kind result
  | ask call next => allowed call ∧ ∀ reply, (next reply).Within allowed kind

variable {allowed allowed' : Call → Prop} {kind : α → Prop} {program : Program Call Answer α}

@[simp] lemma within_done (result : α) :
    (done result : Program Call Answer α).Within allowed kind ↔ kind result := Iff.rfl

@[simp] lemma within_ask (call : Call) (next : Answer call → Program Call Answer α) :
    (ask call next).Within allowed kind ↔
      allowed call ∧ ∀ reply, (next reply).Within allowed kind := Iff.rfl

lemma Within.bind {kind' : β → Prop} {next : α → Program Call Answer β}
    (within : program.Within allowed kind)
    (rest : ∀ result, kind result → (next result).Within allowed kind') :
    (program.bind next).Within allowed kind' := by
  induction program with
  | done result => exact rest result within
  | ask call next ih => exact ⟨within.1, fun reply => ih reply (within.2 reply)⟩

lemma Within.mono {kind' : α → Prop} (within : program.Within allowed kind)
    (weaker : ∀ call, allowed call → allowed' call) (other : ∀ result, kind result → kind' result) :
    program.Within allowed' kind' := by
  induction program with
  | done result => exact other result within
  | ask call next ih => exact ⟨weaker call within.1, fun reply => ih reply (within.2 reply)⟩

/-- A program whose calls leave a stage as it is keeps to an agreement. -/
lemma Within.keeps (within : program.Within allowed kind)
    (h : ∀ result, kind result → post result stage)
    (neutral : ∀ call next, allowed call → (∀ reply, next reply stage) → agreed stage call next) :
    program.Keeps agreed post stage := by
  induction program with
  | done result => exact h result within
  | ask call next ih => exact neutral call _ within.1 fun reply => ih reply (within.2 reply)

/-- What the answers to allowed calls preserve is preserved by the runs of a program that makes no
others. -/
lemma Within.run {holds : σ → Prop} {answer : σ → (call : Call) → Answer call × σ}
    (within : program.Within allowed kind)
    (preserved : ∀ state call, allowed call → holds state → holds (answer state call).2)
    {state : σ} (h : holds state) : holds (program.run answer state).2 := by
  induction program generalizing state with
  | done result => exact h
  | ask call next ih => exact ih _ (within.2 _) (preserved state call within.1 h)

end Program

end AssetCache
