import AssetCache.Proofs.Agreement
import Mathlib.Logic.Function.Basic

/-!
# Programs side by side

A crew is a number of programs at work on one state. Its moves are the calls of its members, in any
order, and new members that come in. If every program keeps to an agreement, then every call that a
member makes is agreed on in the stage that the member is in (`Crew.Accords.advance`), whatever the
others have done in between.
-/

namespace AssetCache

variable {Call κ σ φ : Type} {Answer : Call → Type} {Result : κ → Type}

/-- Programs at work on one state, each with what it was called to do. -/
structure Crew (Call : Type) (Answer : Call → Type) {κ : Type} (Result : κ → Type) (σ : Type) where
  state : σ
  members : List ((task : κ) × Program Call Answer (Result task)) := []

/-- What happens next: a member comes in, or one that is there makes its next call. -/
inductive Move (κ : Type) where
  | start (task : κ)
  | advance (member : Nat)
deriving DecidableEq

/-- Whether a program has come to its result. -/
def Program.isDone {α : Type} : Program Call Answer α → Bool
  | .done _ => true
  | .ask _ _ => false

namespace Crew

variable (program : (task : κ) → Program Call Answer (Result task))
  (answer : σ → (call : Call) → Answer call × σ) (crew : Crew Call Answer Result σ)

def start (task : κ) : Crew Call Answer Result σ :=
  { crew with members := crew.members ++ [⟨task, program task⟩] }

/-- A member makes its next call, if it is there and has one. -/
def advance (member : Nat) : Crew Call Answer Result σ :=
  match crew.members[member]? with
  | some ⟨task, .ask call next⟩ =>
    let (reply, state) := answer crew.state call
    ⟨state, crew.members.set member ⟨task, next reply⟩⟩
  | _ => crew

/-- The crew after a move. -/
def move : Move κ → Crew Call Answer Result σ
  | .start task => crew.start program task
  | .advance member => crew.advance answer member

/-- The crew after some moves. -/
def play (moves : List (Move κ)) : Crew Call Answer Result σ :=
  moves.foldl (fun crew move => crew.move program answer move) crew

/-- The next call of a member. -/
def Asks (member : Nat) (call : Call) : Prop :=
  ∃ task next, crew.members[member]? = some ⟨task, .ask call next⟩

/-- No member has anything left to do. -/
def IsAtRest : Prop :=
  ∀ member ∈ crew.members, member.2.isDone = true

instance : Decidable crew.IsAtRest :=
  inferInstanceAs (Decidable (∀ member ∈ crew.members, member.2.isDone = true))

variable {program answer crew}

@[simp] lemma play_concat (moves : List (Move κ)) (move : Move κ) :
    crew.play program answer (moves ++ [move]) =
      (crew.play program answer moves).move program answer move := by
  simp [play]

/-- Either nothing happens, or a call is answered. -/
lemma advance_cases (answer : σ → (call : Call) → Answer call × σ)
    (crew : Crew Call Answer Result σ) (member : Nat) :
    crew.advance answer member = crew ∨
      ∃ task call next, crew.members[member]? = some ⟨task, .ask call next⟩ ∧
        crew.advance answer member =
          ⟨(answer crew.state call).2,
            crew.members.set member ⟨task, next (answer crew.state call).1⟩⟩ := by
  unfold advance
  split
  · next task call next found => exact Or.inr ⟨task, call, next, found, rfl⟩
  · exact Or.inl rfl

lemma Asks.of_start {task : κ} {member : Nat} {call : Call}
    (asks : (crew.start program task).Asks member call) :
    crew.Asks member call ∨ ∃ next, program task = .ask call next := by
  obtain ⟨task', next, found⟩ := asks
  rw [Crew.start, List.getElem?_append] at found
  split at found
  · exact Or.inl ⟨task', next, found⟩
  · rw [List.getElem?_singleton] at found
    split at found
    · obtain ⟨rfl, same⟩ := Sigma.mk.inj (Option.some.inj found)
      exact Or.inr ⟨next, eq_of_heq same⟩
    · contradiction

lemma Asks.of_advance {mover member : Nat} {call : Call}
    (asks : (crew.advance answer mover).Asks member call) :
    crew.Asks member call ∨ ∃ task before next next',
      crew.members[mover]? = some ⟨task, .ask before next⟩ ∧
        next (answer crew.state before).1 =
          (.ask call next' : Program Call Answer (Result task)) := by
  rcases advance_cases answer crew mover with same | ⟨task, before, next, found, moved⟩
  · rw [same] at asks
    exact Or.inl asks
  obtain ⟨task', next', found'⟩ := asks
  rw [moved] at found'
  by_cases same : mover = member
  · subst same
    rw [List.getElem?_set_self (List.getElem?_eq_some_iff.1 found).1] at found'
    obtain ⟨rfl, same⟩ := Sigma.mk.inj (Option.some.inj found')
    exact Or.inr ⟨task, before, next, next', found, eq_of_heq same⟩
  · rw [List.getElem?_set_ne same] at found'
    exact Or.inl ⟨task', next', found'⟩

/-! ### Crews that keep to an agreement -/

/-- Every member keeps to the agreement from the stage that it is in. -/
structure Accords (agreed : Agreement Call Answer φ) (post : (task : κ) → Result task → φ → Prop)
    (idle : φ) (stages : Nat → φ) (crew : Crew Call Answer Result σ) : Prop where
  keeps (member : Nat) (task : κ) (program : Program Call Answer (Result task)) :
    crew.members[member]? = some ⟨task, program⟩ →
      program.Keeps agreed (post task) (stages member)
  /-- A member that is still to come is in the stage that all begin in. -/
  waits (member : Nat) : crew.members.length ≤ member → stages member = idle

variable {agreed : Agreement Call Answer φ} {post : (task : κ) → Result task → φ → Prop}
  {idle : φ} {stages : Nat → φ}

lemma accords_nil (state : σ) : Accords agreed post idle (fun _ => idle)
    (⟨state, []⟩ : Crew Call Answer Result σ) := by
  refine ⟨?_, fun _ _ => rfl⟩
  intro member task program found
  simp at found

lemma Accords.start (accords : Accords agreed post idle stages crew)
    (keeps : ∀ task, (program task).Keeps agreed (post task) idle) (task : κ) :
    Accords agreed post idle stages (crew.start program task) := by
  refine ⟨?_, ?_⟩
  · intro member task' program' found
    rcases Nat.lt_trichotomy member crew.members.length with old | rfl | far
    · rw [Crew.start, List.getElem?_append_left old] at found
      exact accords.keeps member task' program' found
    · simp only [Crew.start, List.getElem?_concat_length, Option.some.injEq] at found
      cases found
      rw [accords.waits _ (Nat.le_refl _)]
      exact keeps task
    · rw [Crew.start, List.getElem?_eq_none (by simp; omega)] at found
      contradiction
  · intro member late
    simp only [Crew.start, List.length_append] at late
    exact accords.waits member (by omega)

/-- The crew keeps to the agreement when a member goes on from another stage. -/
lemma Accords.set (accords : Accords agreed post idle stages crew) {member : Nat} {task : κ}
    {before after : Program Call Answer (Result task)} {stage : φ} (state : σ)
    (found : crew.members[member]? = some ⟨task, before⟩)
    (keeps : after.Keeps agreed (post task) stage) :
    Accords agreed post idle (Function.update stages member stage)
      (⟨state, crew.members.set member ⟨task, after⟩⟩ : Crew Call Answer Result σ) := by
  have present : member < crew.members.length := (List.getElem?_eq_some_iff.1 found).1
  refine ⟨?_, ?_⟩
  · intro other task' program' found'
    by_cases same : member = other
    · subst same
      rw [List.getElem?_set_self present] at found'
      cases found'
      rw [Function.update_self]
      exact keeps
    · rw [List.getElem?_set_ne same] at found'
      rw [Function.update_of_ne (Ne.symm same)]
      exact accords.keeps other task' program' found'
  · intro other late
    rw [List.length_set] at late
    have different : other ≠ member := by omega
    rw [Function.update_of_ne different]
    exact accords.waits other late

/-- Whatever call a member makes, it is agreed on in the stage that the member is in, so that an
invariant that every agreed call preserves is preserved by every move. -/
theorem Accords.move {holds : σ → (Nat → φ) → Prop}
    (honoured : ∀ state stages member call follows, holds state stages →
      agreed (stages member) call follows →
        ∃ stage, follows (answer state call).1 stage ∧
          holds (answer state call).2 (Function.update stages member stage))
    (keeps : ∀ task, (program task).Keeps agreed (post task) idle)
    (accords : Accords agreed post idle stages crew) (h : holds crew.state stages)
    (move : Move κ) :
    ∃ stages', Accords agreed post idle stages' (crew.move program answer move) ∧
      holds (crew.move program answer move).state stages' := by
  cases move with
  | start task => exact ⟨stages, accords.start keeps task, h⟩
  | advance member =>
    rcases advance_cases answer crew member with same | ⟨task, call, next, found, moved⟩
    · rw [Crew.move, same]
      exact ⟨stages, accords, h⟩
    · rw [Crew.move, moved]
      obtain ⟨stage, kept, h'⟩ :=
        honoured crew.state stages member call _ h (accords.keeps member task _ found)
      exact ⟨_, accords.set _ found kept, h'⟩

/-- The same holds through any moves. -/
theorem Accords.play {holds : σ → (Nat → φ) → Prop}
    (honoured : ∀ state stages member call follows, holds state stages →
      agreed (stages member) call follows →
        ∃ stage, follows (answer state call).1 stage ∧
          holds (answer state call).2 (Function.update stages member stage))
    (keeps : ∀ task, (program task).Keeps agreed (post task) idle)
    (accords : Accords agreed post idle stages crew) (h : holds crew.state stages)
    (moves : List (Move κ)) :
    ∃ stages', Accords agreed post idle stages' (crew.play program answer moves) ∧
      holds (crew.play program answer moves).state stages' := by
  induction moves generalizing crew stages with
  | nil => exact ⟨stages, accords, h⟩
  | cons move rest ih =>
    obtain ⟨stages', accords', h'⟩ := accords.move honoured keeps h move
    exact ih accords' h'

end Crew

end AssetCache
