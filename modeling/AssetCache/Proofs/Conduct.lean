import AssetCache.Proofs.Team
import Mathlib.Data.List.Induction

/-!
# What the log of a team says of its members

A conduct says which calls a member of a team may make, by what it has done so far and by its task.
What a member has done is read off the log. If every operation keeps to a conduct from its start,
then every call in the log was one that its member was permitted to make when it made it, however
the turns of others fell in between (`Team.follows_play`).
-/

namespace AssetCache

variable {κ φ β δ : Type} {Result : κ → Type}

/-! ### Parts of lists -/

section Parts

variable {α : Type} {front back before after : List α} {here there last : α}

lemma getElem?_middle (front back : List α) (here : α) :
    (front ++ here :: back)[front.length]? = some here := by
  simp

lemma getElem?_beside (front back : List α) (here there : α) {index : Nat}
    (apart : index ≠ front.length) :
    (front ++ here :: back)[index]? = (front ++ there :: back)[index]? := by
  have set : front ++ here :: back = (front ++ there :: back).set front.length here := by simp
  rw [set, List.getElem?_set_ne apart.symm]

/-- What stands in a list that is one longer stood there before, or is the last. -/
lemma concat_eq_append_cons_iff :
    front ++ [last] = before ++ here :: after ↔
      (after = [] ∧ before = front ∧ here = last) ∨
        ∃ between, after = between ++ [last] ∧ front = before ++ here :: between := by
  constructor
  · intro parts
    rcases List.eq_nil_or_concat' after with rfl | ⟨between, other, rfl⟩
    · obtain ⟨rfl, same⟩ := List.append_inj' parts rfl
      cases same
      exact Or.inl ⟨rfl, rfl, rfl⟩
    · rw [← List.cons_append, ← List.append_assoc] at parts
      obtain ⟨rfl, same⟩ := List.append_inj' parts rfl
      cases same
      exact Or.inr ⟨between, rfl, rfl⟩
  · rintro (⟨rfl, rfl, rfl⟩ | ⟨between, rfl, rfl⟩)
    · rfl
    · simp

/-- Of two places in a list, one comes before the other, or they are the same. -/
lemma append_cons_cases {before' after' : List α}
    (same : before ++ here :: after = before' ++ there :: after') :
    (before = before' ∧ here = there ∧ after = after') ∨
      (∃ between, before' = before ++ here :: between ∧ after = between ++ there :: after') ∨
        ∃ between, before = before' ++ there :: between ∧ after' = between ++ here :: after := by
  rcases List.append_eq_append_iff.1 same with ⟨between, first, rest⟩ | ⟨between, first, rest⟩
  · cases between with
    | nil =>
      cases rest
      exact Or.inl ⟨by rw [first, List.append_nil], rfl, rfl⟩
    | cons other between =>
      cases rest
      exact Or.inr (Or.inl ⟨between, first, rfl⟩)
  · cases between with
    | nil =>
      cases rest
      exact Or.inl ⟨by rw [first, List.append_nil], rfl, rfl⟩
    | cons other between =>
      cases rest
      exact Or.inr (Or.inr ⟨between, first, rfl⟩)

end Parts

/-- How the members of a team go about their tasks. -/
structure Conduct (κ φ : Type) where
  /-- What a member has done that has only begun. -/
  start : φ
  /-- What a member has done when one more call of its own is answered. -/
  after : φ → (call : Call) → call.Answer → φ
  /-- Whether a member with a task may make a call, after what it has done. -/
  permits : κ → φ → Call → Prop
  /-- Whether a call may be answered so. -/
  admits : (call : Call) → call.Answer → Prop

namespace Conduct

variable (conduct : Conduct κ φ)

/-- What is agreed on with an operation that has a task. -/
def agreement (task : κ) : Agreement Call Call.Answer φ := fun deeds call next =>
  conduct.permits task deeds call ∧
    ∀ reply, conduct.admits call reply → next reply (conduct.after deeds call reply)

/-- What a member has done, by a log. -/
def deeds (log : List Answered) (member : Nat) : φ :=
  (log.filter fun answered => answered.member = member).foldl
    (fun deeds answered => conduct.after deeds answered.call answered.answer) conduct.start

/-- Depots answer as the conduct admits, and a call that is under way is permitted as long as it
takes. -/
structure Upheld (β δ : Type) [BlobStore β] [DescriptorStore δ] : Prop where
  answered {task deeds call reply} {depot depot' : Depot β δ} :
    conduct.permits task deeds call → depot.attempt call = .answered reply depot' →
      conduct.admits call reply
  ongoing {task deeds call rest answer} {depot depot' : Depot β δ} :
    conduct.permits task deeds call → depot.attempt call = .ongoing rest answer depot' →
      conduct.permits task deeds rest ∧ ∀ reply, conduct.admits rest reply →
        conduct.admits call (answer reply) ∧
          conduct.after deeds rest reply = conduct.after deeds call (answer reply)

variable {conduct}

lemma deeds_concat (log : List Answered) (answered : Answered) (member : Nat) :
    conduct.deeds (log ++ [answered]) member =
      if answered.member = member then
        conduct.after (conduct.deeds log member) answered.call answered.answer
      else conduct.deeds log member := by
  simp only [deeds, List.filter_append, List.foldl_append, List.filter_singleton]
  split
  · simp [*]
  · simp [*]

/-- A member whose calls the log does not know has done nothing. -/
lemma deeds_of_unlogged {log : List Answered} {member : Nat}
    (unlogged : ∀ answered ∈ log, answered.member ≠ member) :
    conduct.deeds log member = conduct.start := by
  have nothing : log.filter (fun answered => answered.member = member) = [] := by
    simpa [List.filter_eq_nil_iff] using unlogged
  rw [deeds, nothing, List.foldl_nil]

end Conduct

namespace Team

variable [BlobStore β] [DescriptorStore δ] {program : (task : κ) → Operation (Result task)}
  {team : Team Result β δ} {conduct : Conduct κ φ}
  {post : (task : κ) → Result task → φ → Prop}

/-! ### Tasks and turns -/

/-- Whoever has come in has a task, and keeps it. -/
def HasTask (team : Team Result β δ) (member : Nat) (task : κ) : Prop :=
  ∃ operation, team.members[member]? = some ⟨task, operation⟩

omit [BlobStore β] [DescriptorStore δ] in
lemma HasTask.lt {member : Nat} {task : κ} (has : team.HasTask member task) :
    member < team.members.length := by
  obtain ⟨operation, found⟩ := has
  exact (List.getElem?_eq_some_iff.1 found).1

lemma play_append (program : (task : κ) → Operation (Result task)) (team : Team Result β δ)
    (first second : List (Turn κ)) :
    team.play program (first ++ second) = (team.play program first).play program second :=
  List.foldl_append

/-- In one turn an operation begins, or nothing happens to any, or one of them goes on. -/
lemma turn_cases (program : (task : κ) → Operation (Result task)) (team : Team Result β δ)
    (turn : Turn κ) :
    (∃ task, turn = .start task ∧ team.turn program turn = team.start program task) ∨
    ((team.turn program turn).members = team.members ∧ (team.turn program turn).log = team.log ∧
      (team.turn program turn).depot.slots = team.depot.slots) ∨
    ∃ front task call next back,
      team.members = front ++ ⟨task, .ask call next⟩ :: back ∧
      ((∃ reply depot, team.depot.attempt call = .answered reply depot ∧
        team.turn program turn = ⟨depot, front ++ ⟨task, next reply⟩ :: back,
          team.log ++ [⟨front.length, call, reply⟩]⟩) ∨
      ∃ rest answer depot, team.depot.attempt call = .ongoing rest answer depot ∧
        team.turn program turn =
          ⟨depot, front ++ ⟨task, .ask rest fun reply => next (answer reply)⟩ :: back,
            team.log⟩) := by
  cases turn with
  | start task => exact Or.inl ⟨task, rfl, rfl⟩
  | clock now => exact Or.inr (Or.inl ⟨rfl, rfl, rfl⟩)
  | advance member =>
    rcases advance_cases team member with
      same | ⟨front, task, call, next, back, split, rfl, moved⟩
    · rw [Team.turn, same]
      exact Or.inr (Or.inl ⟨rfl, rfl, rfl⟩)
    · exact Or.inr (Or.inr ⟨front, task, call, next, back, split, moved⟩)

/-- The task of the operation that begins in a turn. -/
def Turn.task? : Turn κ → Option κ
  | .start task => some task
  | _ => none

/-- A turn gives nobody another task. -/
lemma tasks_turn (team : Team Result β δ) (turn : Turn κ) :
    (team.turn program turn).members.map Sigma.fst =
      team.members.map Sigma.fst ++ turn.task?.toList := by
  cases turn with
  | start task => exact List.map_append
  | clock now => exact (List.append_nil _).symm
  | advance member =>
    show (team.advance member).members.map Sigma.fst = team.members.map Sigma.fst ++ []
    rw [List.append_nil]
    rcases advance_cases team member with
      same | ⟨front, task, call, next, back, split, -, moved⟩
    · rw [same]
    · rcases moved with ⟨reply, depot, -, moved⟩ | ⟨rest, answer, depot, -, moved⟩
      · rw [moved, split, List.map_append, List.map_append]
        rfl
      · rw [moved, split, List.map_append, List.map_append]
        rfl

/-- The members of a team have the tasks that were begun, in order. -/
lemma tasks_play (depot : Depot β δ) (turns : List (Turn κ)) :
    (play program ⟨depot, [], []⟩ turns).members.map Sigma.fst = turns.filterMap Turn.task? := by
  induction turns using List.reverseRecOn with
  | nil => rfl
  | append_singleton turns turn ih =>
    rw [play_append, List.filterMap_append, ← ih]
    show (Team.turn program _ turn).members.map Sigma.fst = _
    rw [tasks_turn]
    cases turn with
    | _ => rfl

omit [BlobStore β] [DescriptorStore δ] in
lemma hasTask_iff {member : Nat} {task : κ} :
    team.HasTask member task ↔ (team.members.map Sigma.fst)[member]? = some task := by
  rw [List.getElem?_map, Option.map_eq_some_iff]
  constructor
  · rintro ⟨operation, found⟩
    exact ⟨_, found, rfl⟩
  · rintro ⟨⟨task, operation⟩, found, rfl⟩
    exact ⟨operation, found⟩

omit [BlobStore β] [DescriptorStore δ] in
lemma HasTask.unique {member : Nat} {task task' : κ} (has : team.HasTask member task)
    (has' : team.HasTask member task') : task = task' := by
  rw [hasTask_iff] at has has'
  exact Option.some.inj (has.symm.trans has')

lemma HasTask.turn {member : Nat} {task : κ} (has : team.HasTask member task) (turn : Turn κ) :
    (team.turn program turn).HasTask member task := by
  rw [hasTask_iff] at has ⊢
  rw [tasks_turn, List.getElem?_append_left (List.getElem?_eq_some_iff.1 has).1]
  exact has

/-- Whoever has a task was called to do it. -/
lemma start_of_hasTask {depot : Depot β δ} {turns : List (Turn κ)} {member : Nat} {task : κ}
    (has : (play program ⟨depot, [], []⟩ turns).HasTask member task) : .start task ∈ turns := by
  rw [hasTask_iff, tasks_play] at has
  obtain ⟨turn, inside, begun⟩ := List.mem_filterMap.1 (List.mem_of_getElem? has)
  cases turn with
  | start task =>
    cases begun
    exact inside
  | _ => cases begun

lemma log_prefix_turn (team : Team Result β δ) (turn : Turn κ) :
    team.log <+: (team.turn program turn).log := by
  rcases team.turn_cases program turn with
    ⟨task, -, started⟩ | ⟨-, log, -⟩ | ⟨front, task, call, next, back, -, moved⟩
  · exact ⟨[], by rw [started, start, List.append_nil]⟩
  · exact ⟨[], by rw [log, List.append_nil]⟩
  · rcases moved with ⟨reply, depot, -, moved⟩ | ⟨rest, answer, depot, -, moved⟩
    · exact ⟨[⟨front.length, call, reply⟩], by rw [moved]⟩
    · exact ⟨[], by rw [moved, List.append_nil]⟩

/-- What is in the log of a team stays there. -/
lemma log_prefix_play (team : Team Result β δ) (turns : List (Turn κ)) :
    team.log <+: (team.play program turns).log := by
  induction turns generalizing team with
  | nil => exact List.prefix_refl _
  | cons turn rest ih => exact (team.log_prefix_turn turn).trans (ih _)

/-! ### Teams whose members keep to a conduct -/

/-- Every member keeps to a conduct, and has made no call that it was not permitted to make. -/
structure Follows (conduct : Conduct κ φ) (post : (task : κ) → Result task → φ → Prop)
    (team : Team Result β δ) : Prop where
  keeps (member : Nat) (task : κ) (operation : Operation (Result task)) :
    team.members[member]? = some ⟨task, operation⟩ →
      operation.Keeps (conduct.agreement task) (post task) (conduct.deeds team.log member)
  permitted (before after : List Answered) (answered : Answered) :
    team.log = before ++ answered :: after → ∃ task, team.HasTask answered.member task ∧
      conduct.permits task (conduct.deeds before answered.member) answered.call ∧
      conduct.admits answered.call answered.answer

omit [BlobStore β] [DescriptorStore δ] in
lemma Follows.lt_of_mem (follows : Follows conduct post team) {answered : Answered}
    (inside : answered ∈ team.log) : answered.member < team.members.length := by
  obtain ⟨before, after, split⟩ := List.append_of_mem inside
  obtain ⟨task, has, -⟩ := follows.permitted before after answered split
  exact has.lt

lemma Follows.start (follows : Follows conduct post team) {task : κ}
    (keeps : (program task).Keeps (conduct.agreement task) (post task) conduct.start) :
    Follows conduct post (team.start program task) := by
  constructor
  · intro member task' operation found
    rcases Nat.lt_trichotomy member team.members.length with old | rfl | far
    · rw [Team.start, List.getElem?_append_left old] at found
      exact follows.keeps member task' operation found
    · rw [Team.start, List.getElem?_concat_length] at found
      cases found
      rw [Team.start, Conduct.deeds_of_unlogged]
      · exact keeps
      · intro answered inside
        exact Nat.ne_of_lt (follows.lt_of_mem inside)
    · rw [Team.start, List.getElem?_eq_none (by simp; omega)] at found
      contradiction
  · intro before after answered split
    obtain ⟨task', has, permitted⟩ := follows.permitted before after answered split
    exact ⟨task', has.turn (.start task), permitted⟩

section Middle

variable {team' : Team Result β δ} {front back : List ((task : κ) × Operation (Result task))}
  {task : κ} {call : Call} {next : call.Answer → Operation (Result task)}

omit [BlobStore β] [DescriptorStore δ] in
/-- A call that a member was permitted to make is answered. -/
lemma Follows.answered (follows : Follows conduct post team)
    (split : team.members = front ++ ⟨task, .ask call next⟩ :: back) {reply : call.Answer}
    (admitted : conduct.admits call reply)
    (members : team'.members = front ++ ⟨task, next reply⟩ :: back)
    (log : team'.log = team.log ++ [⟨front.length, call, reply⟩])
    (stay : ∀ member task, team.HasTask member task → team'.HasTask member task) :
    Follows conduct post team' := by
  have own : team.members[front.length]? = some ⟨task, .ask call next⟩ := by
    rw [split, getElem?_middle]
  obtain ⟨permitted, goesOn⟩ := follows.keeps front.length task _ own
  constructor
  · intro member task' operation found
    rw [members] at found
    rw [log, Conduct.deeds_concat]
    by_cases same : member = front.length
    · subst same
      rw [getElem?_middle] at found
      cases found
      rw [if_pos rfl]
      exact goesOn reply admitted
    · rw [getElem?_beside _ _ _ ⟨task, .ask call next⟩ same, ← split] at found
      rw [if_neg (Ne.symm same)]
      exact follows.keeps member task' operation found
  · intro before after answered parts
    rw [log] at parts
    rcases concat_eq_append_cons_iff.1 parts with ⟨-, rfl, rfl⟩ | ⟨between, -, earlier⟩
    · exact ⟨task, stay _ _ ⟨_, own⟩, permitted, admitted⟩
    · obtain ⟨task', has, allowed⟩ := follows.permitted before between answered earlier
      exact ⟨task', stay _ _ has, allowed⟩

omit [BlobStore β] [DescriptorStore δ] in
/-- A call that a member was permitted to make gets under way. -/
lemma Follows.ongoing (follows : Follows conduct post team)
    (split : team.members = front ++ ⟨task, .ask call next⟩ :: back) {rest : Call}
    {answer : rest.Answer → call.Answer}
    (still : conduct.permits task (conduct.deeds team.log front.length) rest)
    (answers : ∀ reply, conduct.admits rest reply → conduct.admits call (answer reply) ∧
      conduct.after (conduct.deeds team.log front.length) rest reply =
        conduct.after (conduct.deeds team.log front.length) call (answer reply))
    (members : team'.members =
      front ++ ⟨task, .ask rest fun reply => next (answer reply)⟩ :: back)
    (log : team'.log = team.log)
    (stay : ∀ member task, team.HasTask member task → team'.HasTask member task) :
    Follows conduct post team' := by
  have own : team.members[front.length]? = some ⟨task, .ask call next⟩ := by
    rw [split, getElem?_middle]
  obtain ⟨-, goesOn⟩ := follows.keeps front.length task _ own
  constructor
  · intro member task' operation found
    rw [members] at found
    rw [log]
    by_cases same : member = front.length
    · subst same
      rw [getElem?_middle] at found
      cases found
      refine ⟨still, ?_⟩
      intro reply admitted
      obtain ⟨admitted, same⟩ := answers reply admitted
      rw [same]
      exact goesOn _ admitted
    · rw [getElem?_beside _ _ _ ⟨task, .ask call next⟩ same, ← split] at found
      exact follows.keeps member task' operation found
  · intro before after answered parts
    rw [log] at parts
    obtain ⟨task', has, allowed⟩ := follows.permitted before after answered parts
    exact ⟨task', stay _ _ has, allowed⟩

end Middle

/-- Every turn of a team keeps its members to their conduct. -/
theorem Follows.turn (upheld : conduct.Upheld β δ) (turn : Turn κ)
    (keeps : ∀ task, turn = .start task →
      (program task).Keeps (conduct.agreement task) (post task) conduct.start)
    (follows : Follows conduct post team) : Follows conduct post (team.turn program turn) := by
  have stay (member : Nat) (task : κ) (has : team.HasTask member task) :
      (team.turn program turn).HasTask member task := has.turn turn
  rcases team.turn_cases program turn with
    ⟨task, begun, started⟩ | ⟨members, log, -⟩ | ⟨front, task, call, next, back, split, moved⟩
  · rw [started]
    exact follows.start (keeps task begun)
  · constructor
    · rw [members, log]
      exact follows.keeps
    · intro before after answered parts
      rw [log] at parts
      obtain ⟨task, has, permitted⟩ := follows.permitted before after answered parts
      exact ⟨task, stay _ _ has, permitted⟩
  · have own : team.members[front.length]? = some ⟨task, .ask call next⟩ := by
      rw [split, getElem?_middle]
    have permitted := (follows.keeps front.length task _ own).1
    rcases moved with ⟨reply, depot, attempted, moved⟩ | ⟨rest, answer, depot, attempted, moved⟩
    · have admitted := upheld.answered permitted attempted
      exact follows.answered split admitted (by rw [moved]) (by rw [moved]) stay
    · obtain ⟨still, answers⟩ := upheld.ongoing permitted attempted
      exact follows.ongoing split still answers (by rw [moved]) (by rw [moved]) stay

/-- A team that nobody has joined keeps to its conduct in all turns that it takes. -/
theorem follows_play (upheld : conduct.Upheld β δ) (depot : Depot β δ) (turns : List (Turn κ))
    (keeps : ∀ task, (program task).Keeps (conduct.agreement task) (post task) conduct.start) :
    Follows conduct post (play program ⟨depot, [], []⟩ turns) := by
  induction turns using List.reverseRecOn with
  | nil =>
    constructor
    · intro member task operation found
      simp [play] at found
    · intro before after answered split
      simp [play] at split
  | append_singleton turns turn ih =>
    rw [play_append]
    exact ih.turn upheld turn fun task _ => keeps task

end Team

end AssetCache
