import AssetCache.Depot
import AssetCache.Proofs.Crew
import Mathlib.Data.List.Forall2

/-!
# Operations side by side, item by item

A team is a number of operations at work on one depot. It takes turns: an operation begins, or one
that is under way makes one attempt at its next call, or the time changes. A stream that is put
takes many attempts, and the turns of others may fall between any two of them. The log of a team
holds the calls that were answered, in order.

If every operation keeps to an agreement, then an invariant of the depot and the stages of all
members is preserved by every turn, as long as every answer and every step of a call preserves it
(`Team.Accords.play`).
-/

namespace AssetCache

variable {κ φ β δ : Type} {Result : κ → Type}

/-- A call that a member of a team has made, and what it was answered. -/
structure Answered where
  member : Nat
  call : Call
  answer : call.Answer

/-- Operations at work on one depot, each with what it was called to do. -/
structure Team {κ : Type} (Result : κ → Type) (β δ : Type) where
  depot : Depot β δ
  members : List ((task : κ) × Operation (Result task)) := []
  /-- The calls answered so far. -/
  log : List Answered := []

/-- What happens next. -/
inductive Team.Turn (κ : Type) where
  /-- An operation begins. -/
  | start (task : κ)
  /-- A member makes one attempt at its next call. -/
  | advance (member : Nat)
  /-- The clock will show another time. -/
  | clock (now : Instant)
deriving DecidableEq

namespace Depot

variable [BlobStore β] [DescriptorStore δ] {depot depot' : Depot β δ} {call : Call}

/-- Every call but the put of a stream is answered in one attempt. -/
lemma attempt_eq (depot : Depot β δ) (call : Call)
    (whole : ∀ transfer, call ≠ .blob (.put transfer)) :
    depot.attempt call = .answered (depot.answer call).1 (depot.answer call).2 := by
  cases call with
  | blob call =>
    cases call with
    | put transfer => exact absurd rfl (whole transfer)
    | _ => rfl
  | _ => rfl

lemma answered_cases {reply : call.Answer} (attempted : depot.attempt call = .answered reply depot') :
    (∃ transfer, call = .blob (.put transfer)) ∨
      (∀ transfer, call ≠ .blob (.put transfer)) ∧ depot.answer call = (reply, depot') := by
  by_cases put : ∃ transfer, call = .blob (.put transfer)
  · exact Or.inl put
  · have whole (transfer : Transfer) (same : call = .blob (.put transfer)) : False :=
      put ⟨transfer, same⟩
    rw [depot.attempt_eq call whole] at attempted
    cases attempted
    exact Or.inr ⟨whole, rfl⟩

/-- Only the put of a stream takes more than one attempt. -/
lemma put_of_ongoing {rest : Call} {answer : rest.Answer → call.Answer}
    (attempted : depot.attempt call = .ongoing rest answer depot') :
    ∃ transfer, call = .blob (.put transfer) := by
  by_contra none
  rw [depot.attempt_eq call fun transfer same => none ⟨transfer, same⟩] at attempted
  contradiction

/-- A put of a stream leaves the descriptors and the slots alone. -/
lemma attempt_put (depot : Depot β δ) (transfer : Transfer) :
    match depot.attempt (.blob (.put transfer)) with
    | .answered _ depot' =>
      depot'.descriptors = depot.descriptors ∧ depot'.slots = depot.slots
    | .ongoing rest _ depot' => (∃ transfer', rest = .blob (.put transfer')) ∧
      depot'.descriptors = depot.descriptors ∧ depot'.slots = depot.slots
    | .blocked => True := by
  have begun : (if transfer.token.isNone then depot.issue else (⟨0⟩, depot)).2.descriptors =
      depot.descriptors ∧
      (if transfer.token.isNone then depot.issue else (⟨0⟩, depot)).2.slots = depot.slots := by
    cases transfer.token with
    | none => exact ⟨rfl, rfl⟩
    | some token => exact ⟨rfl, rfl⟩
  simp only [Depot.attempt]
  generalize (if transfer.token.isNone then depot.issue else (⟨0⟩, depot)) = start at begun ⊢
  cases transfer.advance start.2.blobs start.1 with
  | finished reply blobs => exact begun
  | moved transfer' blobs => exact ⟨⟨transfer', rfl⟩, begun⟩
  | waiting => trivial

end Depot

namespace Team

variable [BlobStore β] [DescriptorStore δ] (program : (task : κ) → Operation (Result task))
  (team : Team Result β δ)

def start (task : κ) : Team Result β δ :=
  { team with members := team.members ++ [⟨task, program task⟩] }

/-- A member makes one attempt at its next call, if it is there and has one. -/
def advance (member : Nat) : Team Result β δ :=
  match team.members[member]? with
  | some ⟨task, .ask call next⟩ =>
    match team.depot.attempt call with
    | .answered answer depot =>
      ⟨depot, team.members.set member ⟨task, next answer⟩, team.log ++ [⟨member, call, answer⟩]⟩
    | .ongoing rest answer depot =>
      ⟨depot, team.members.set member ⟨task, .ask rest fun reply => next (answer reply)⟩, team.log⟩
    | .blocked => team
  | _ => team

/-- The team after a turn. -/
def turn : Turn κ → Team Result β δ
  | .start task => team.start program task
  | .advance member => team.advance member
  | .clock now => { team with depot := { team.depot with now } }

/-- The team after some turns. -/
def play (turns : List (Turn κ)) : Team Result β δ :=
  turns.foldl (fun team turn => team.turn program turn) team

/-- No member has anything left to do. -/
def IsAtRest : Prop :=
  ∀ member ∈ team.members, member.2.isDone = true

instance : Decidable team.IsAtRest :=
  inferInstanceAs (Decidable (∀ member ∈ team.members, member.2.isDone = true))

variable {program team}

/-- Either nothing happens, or a call is answered, or a call gets under way. -/
lemma advance_cases (team : Team Result β δ) (member : Nat) :
    team.advance member = team ∨
    ∃ front task call next back,
      team.members = front ++ ⟨task, .ask call next⟩ :: back ∧ front.length = member ∧
      ((∃ reply depot, team.depot.attempt call = .answered reply depot ∧
        team.advance member =
          ⟨depot, front ++ ⟨task, next reply⟩ :: back, team.log ++ [⟨member, call, reply⟩]⟩) ∨
      ∃ rest answer depot, team.depot.attempt call = .ongoing rest answer depot ∧
        team.advance member =
          ⟨depot, front ++ ⟨task, .ask rest fun reply => next (answer reply)⟩ :: back,
            team.log⟩) := by
  obtain ⟨depot, members, log⟩ := team
  unfold advance
  dsimp only
  split
  · next task call next found =>
    obtain ⟨inside, same⟩ := List.getElem?_eq_some_iff.1 found
    have long : (members.take member).length = member := by
      rw [List.length_take]
      omega
    have split : members = members.take member ++
        ⟨task, .ask call next⟩ :: members.drop (member + 1) := by
      rw [← same, List.getElem_cons_drop, List.take_append_drop]
    cases attempted : depot.attempt call with
    | answered reply depot' =>
      refine Or.inr ⟨_, task, call, next, _, split, long, Or.inl ⟨reply, depot', attempted, ?_⟩⟩
      simp only [List.set_eq_take_append_cons_drop, if_pos inside]
    | ongoing rest answer depot' =>
      refine Or.inr ⟨_, task, call, next, _, split, long, Or.inr ⟨rest, answer, depot', attempted, ?_⟩⟩
      simp only [List.set_eq_take_append_cons_drop, if_pos inside]
    | blocked => exact Or.inl rfl
  · exact Or.inl rfl

/-! ### Teams that keep to an agreement -/

/-- Every member keeps to the agreement from the stage that it is in. -/
def Accords (agreed : Agreement Call Call.Answer φ) (post : (task : κ) → Result task → φ → Prop)
    (members : List ((task : κ) × Operation (Result task))) (stages : List φ) : Prop :=
  List.Forall₂ (fun member stage => member.2.Keeps agreed (post member.1) stage) members stages

/-- What is given of two lists pairwise is given of their parts. -/
lemma forall₂_middle {α γ : Type} {related : α → γ → Prop} {front back : List α} {member : α}
    {stages : List γ} (all : List.Forall₂ related (front ++ member :: back) stages) :
    ∃ front' stage back', stages = front' ++ stage :: back' ∧
      front'.length = front.length ∧ related member stage ∧
      ∀ member' stage', related member' stage' →
        List.Forall₂ related (front ++ member' :: back) (front' ++ stage' :: back') := by
  induction front generalizing stages with
  | nil =>
    obtain ⟨stage, back', first, rest, rfl⟩ := List.forall₂_cons_left_iff.1 all
    exact ⟨[], stage, back', rfl, rfl, first, fun _ _ first' => .cons first' rest⟩
  | cons head front ih =>
    obtain ⟨stage, stages', first, rest, rfl⟩ := List.forall₂_cons_left_iff.1 all
    obtain ⟨front', middle, back', rfl, long, second, join⟩ := ih rest
    refine ⟨stage :: front', middle, back', rfl, by simp [long], second, ?_⟩
    intro member' stage' second'
    exact .cons first (join member' stage' second')

lemma exists_of_forall₂ {α γ : Type} {related : α → γ → Prop} {members : List α} {stages : List γ}
    (all : List.Forall₂ related members stages) {member : α} (inside : member ∈ members) :
    ∃ stage ∈ stages, related member stage := by
  induction all with
  | nil => contradiction
  | @cons head stage members stages first rest ih =>
    rcases List.mem_cons.1 inside with rfl | inside
    · exact ⟨stage, List.mem_cons_self, first⟩
    · obtain ⟨stage', inside', related'⟩ := ih inside
      exact ⟨stage', List.mem_cons_of_mem _ inside', related'⟩

/-- A relation of a depot, a log and the stages of all members that every turn preserves: whatever
a member in the middle calls for, it may be answered, and the call may get under way. -/
structure Preserved (agreed : Agreement Call Call.Answer φ) (idle : κ → φ)
    (holds : Depot β δ → List Answered → List φ → Prop) : Prop where
  answered {depot : Depot β δ} {log front stage back call follows reply depot'} :
    holds depot log (front ++ stage :: back) → agreed stage call follows →
      depot.attempt call = .answered reply depot' →
        ∃ stage', follows reply stage' ∧
          holds depot' (log ++ [⟨front.length, call, reply⟩]) (front ++ stage' :: back)
  ongoing {depot : Depot β δ} {log front stage back call follows rest answer depot'} :
    holds depot log (front ++ stage :: back) → agreed stage call follows →
      depot.attempt call = .ongoing rest answer depot' →
        ∃ stage', agreed stage' rest (fun reply => follows (answer reply)) ∧
          holds depot' log (front ++ stage' :: back)
  start {depot : Depot β δ} {log stages} (task : κ) :
    holds depot log stages → holds depot log (stages ++ [idle task])
  clock {depot : Depot β δ} {log stages} (now : Instant) :
    holds depot log stages → holds { depot with now } log stages

variable {agreed : Agreement Call Call.Answer φ} {post : (task : κ) → Result task → φ → Prop}
  {idle : κ → φ} {holds : Depot β δ → List Answered → List φ → Prop} {stages : List φ}

/-- What every turn preserves holds after a turn. -/
theorem Accords.turn (preserved : Preserved agreed idle holds) (turn : Turn κ)
    (keeps : ∀ task, turn = .start task → (program task).Keeps agreed (post task) (idle task))
    (accords : Accords agreed post team.members stages)
    (h : holds team.depot team.log stages) :
    ∃ stages', Accords agreed post (team.turn program turn).members stages' ∧
      holds (team.turn program turn).depot (team.turn program turn).log stages' := by
  cases turn with
  | start task =>
    refine ⟨stages ++ [idle task], ?_, preserved.start task h⟩
    exact List.rel_append accords (.cons (keeps task rfl) .nil)
  | clock now => exact ⟨stages, accords, preserved.clock now h⟩
  | advance member =>
    rcases advance_cases team member with
      same | ⟨front, task, call, next, back, split, rfl, moved⟩
    · rw [Team.turn, same]
      exact ⟨stages, accords, h⟩
    unfold Accords at accords
    rw [split] at accords
    obtain ⟨front', stage, back', rfl, long, kept, join⟩ := forall₂_middle accords
    rcases moved with ⟨reply, depot, attempted, moved⟩ | ⟨rest, answer, depot, attempted, moved⟩
    · obtain ⟨stage', follows, h'⟩ := preserved.answered h kept attempted
      rw [Team.turn, moved, ← long]
      exact ⟨_, join ⟨task, next reply⟩ stage' follows, h'⟩
    · obtain ⟨stage', agreed', h'⟩ := preserved.ongoing h kept attempted
      rw [Team.turn, moved]
      exact ⟨_, join ⟨task, .ask rest fun reply => next (answer reply)⟩ stage' agreed', h'⟩

/-- What every turn preserves holds after any turns. -/
theorem Accords.play (preserved : Preserved agreed idle holds) (turns : List (Turn κ))
    (keeps : ∀ task, .start task ∈ turns → (program task).Keeps agreed (post task) (idle task))
    (accords : Accords agreed post team.members stages)
    (h : holds team.depot team.log stages) :
    ∃ stages', Accords agreed post (team.play program turns).members stages' ∧
      holds (team.play program turns).depot (team.play program turns).log stages' := by
  induction turns generalizing team stages with
  | nil => exact ⟨stages, accords, h⟩
  | cons turn rest ih =>
    obtain ⟨stages', accords', h'⟩ := accords.turn preserved turn
      (fun task same => keeps task (same ▸ List.mem_cons_self)) h
    exact ih (fun task later => keeps task (List.mem_cons_of_mem _ later)) accords' h'

/-- What every turn preserves holds after any turns of a team that begins with nobody at work. -/
theorem exists_accords (preserved : Preserved agreed idle holds) (depot : Depot β δ)
    (turns : List (Turn κ))
    (keeps : ∀ task, .start task ∈ turns → (program task).Keeps agreed (post task) (idle task))
    (h : holds depot [] []) :
    ∃ stages, Accords agreed post (play program ⟨depot, [], []⟩ turns).members stages ∧
      holds (play program ⟨depot, [], []⟩ turns).depot (play program ⟨depot, [], []⟩ turns).log
        stages := by
  have accords : Accords agreed post (⟨depot, [], []⟩ : Team Result β δ).members [] := .nil
  exact accords.play preserved turns keeps h

/-- Where all members have come to their results, these are what the agreement says. -/
lemma Accords.settled {members : List ((task : κ) × Operation (Result task))}
    (accords : Accords agreed post members stages)
    (rest : ∀ member ∈ members, member.2.isDone = true) :
    List.Forall₂ (fun member stage => ∃ result, member.2 = .done result ∧
      post member.1 result stage) members stages := by
  refine ((List.forall₂_and_left _ _).2 ⟨rest, accords⟩).imp ?_
  rintro ⟨task, program⟩ stage ⟨ended, keeps⟩
  cases program with
  | done result => exact ⟨result, rfl, keeps⟩
  | ask call next => contradiction

end Team

end AssetCache
