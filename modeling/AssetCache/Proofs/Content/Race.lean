import AssetCache.Proofs.Content.Crew
import Mathlib.Data.List.Induction

/-!
# Content that loses its blob

Content that is registered can lose its blob while operations work side by side: between the call
that takes the last owner away and the call that deletes the blob, another operation may store the
content again (`exists_dangling`). This is the only way (`dangles_iff_overtaken`).
-/

namespace AssetCache

namespace ContentStore

variable {store : ContentStore} {admits : Source → Prop} {call : Call} {stage : Stage}
  {token : Token} {bytes : Bytes} {id : ContentId}

/-! ### Content that is in use -/

/-- Content is registered, or an operation is about to register it. -/
def InUse (id : ContentId) (crew : ContentCrew) : Prop :=
  id ∈ crew.state.descriptors.keys ∨
    ∃ member record, crew.Asks member (.descriptor (.create id record))

/-- A move that makes staged bytes the blob of some content. -/
def Promotes (store : ContentStore) (id : ContentId) (crew : ContentCrew)
    (move : Move ContentCall) : Prop :=
  ∃ member source, move = .advance member ∧
    crew.Asks member (.blob (.rename source (store.objectKey id)))

/-- A move that deletes the blob of some content. -/
def Removes (store : ContentStore) (id : ContentId) (crew : ContentCrew)
    (move : Move ContentCall) : Prop :=
  ∃ member, move = .advance member ∧ crew.Asks member (.blob (.delete (store.objectKey id)))

section Moves

variable {crew : ContentCrew} {stages : Nat → Stage}

/-- Content is about to be registered only by an operation that has left its blob. -/
lemma promoted_of_agreed {record : Descriptor} {follows : Except StoreError Nat → Stage → Prop}
    (agreed : store.agreement admits stage (.descriptor (.create id record)) follows) :
    ∃ token bytes, stage = .promoted token bytes ∧ id = .ofBytes bytes := by
  cases stage with
  | promoted token bytes => exact ⟨token, bytes, rfl, agreed.1⟩
  | _ => exact agreed.elim

/-- An operation that has left its blob goes on to register it. -/
lemma create_of_agreed {follows : call.Answer → Stage → Prop}
    (agreed : store.agreement admits (.promoted token bytes) call follows) :
    ∃ record, call = .descriptor (.create (.ofBytes bytes) record) := by
  cases call with
  | descriptor call =>
    cases call with
    | create id record =>
      obtain ⟨rfl, -⟩ := agreed
      exact ⟨record, rfl⟩
    | _ => exact agreed.elim
  | blob call => cases call with | _ => exact agreed.elim
  | _ => exact agreed.elim

/-- Content is about to be registered only after its blob was left by the same operation. -/
lemma asks_create_of_move (accords : store.InStep stages crew)
    (move : Move ContentCall) {member : Nat} {record : Descriptor}
    (asks : (crew.move store.answer Depot.answer move).Asks member
      (.descriptor (.create id record))) :
    InUse id crew ∨ Promotes store id crew move := by
  cases move with
  | start task =>
    rcases asks.of_start with before | ⟨next, first⟩
    · exact Or.inl (Or.inr ⟨member, record, before⟩)
    · have keeps : (store.answer task).Keeps (store.agreement fun _ => True) (Concludes task)
          .idle := keeps_answer task fun _ _ => trivial
      rw [first] at keeps
      exact keeps.elim
  | advance mover =>
    rcases asks.of_advance with before | ⟨task, call, next, next', found, goes⟩
    · exact Or.inl (Or.inr ⟨member, record, before⟩)
    obtain ⟨stage', keeps, step⟩ := step_answer crew.state (accords.keeps mover task _ found)
    rw [goes] at keeps
    obtain ⟨token, bytes, is, rfl⟩ := promoted_of_agreed keeps
    rcases step.promoted is with before | rfl
    · have agreed := accords.keeps mover task _ found
      rw [before] at agreed
      obtain ⟨record', rfl⟩ := create_of_agreed agreed
      exact Or.inl (Or.inr ⟨mover, record', task, next, found⟩)
    · exact Or.inr ⟨mover, _, rfl, task, next, found⟩

/-- Content comes into use only where staged bytes become its blob. -/
lemma inUse_of_move (accords : store.InStep stages crew)
    (move : Move ContentCall) (uses : InUse id (crew.move store.answer Depot.answer move)) :
    InUse id crew ∨ Promotes store id crew move := by
  rcases uses with registered | ⟨member, record, asks⟩
  · rcases move_cases accords move with same | ⟨member, call, stage', rfl, asks, step⟩
    · exact Or.inl (Or.inl (same ▸ registered : id ∈ crew.state.contents.descriptors.keys))
    · rcases step.registered registered with before | ⟨record, rfl⟩
      · exact Or.inl (Or.inl before)
      · exact Or.inl (Or.inr ⟨member, record, asks⟩)
  · exact asks_create_of_move accords move asks

lemma absent_of_move (apart : store.layout.Apart) (accords : store.InStep stages crew)
    (move : Move ContentCall) (absent : crew.state.blobs.get? (store.objectKey id) = none)
    (elsewhere : ¬ Promotes store id crew move) :
    (crew.move store.answer Depot.answer move).state.blobs.get? (store.objectKey id) = none := by
  rcases move_cases accords move with same | ⟨member, call, stage', rfl, asks, step⟩
  · exact (congrArg (·.blobs.get? (store.objectKey id)) same).trans absent
  · rcases step.object_cases apart id with
      same | ⟨token, taken, found, -, -, rfl, -⟩ | ⟨-, gone⟩
    · exact same.trans absent
    · exact absurd ⟨member, _, rfl, asks⟩ elsewhere
    · exact gone

/-- A blob disappears only where it is deleted. -/
lemma removes_of_move (apart : store.layout.Apart) (accords : store.InStep stages crew)
    (move : Move ContentCall) (present : crew.state.blobs.get? (store.objectKey id) ≠ none)
    (gone : (crew.move store.answer Depot.answer move).state.blobs.get? (store.objectKey id) =
      none) : Removes store id crew move := by
  rcases move_cases accords move with same | ⟨member, call, stage', rfl, asks, step⟩
  · exact absurd ((congrArg (·.blobs.get? (store.objectKey id)) same).symm.trans gone) present
  · rcases step.object_cases apart id with
      same | ⟨token, taken, found, -, -, -, -, there⟩ | ⟨rfl, -⟩
    · exact absurd (same.symm.trans gone) present
    · have none_some : none = some found := gone.symm.trans there
      contradiction
    · exact ⟨member, rfl, asks⟩

lemma absent_of_removes {move : Move ContentCall} (removes : Removes store id crew move) :
    (crew.move store.answer Depot.answer move).state.blobs.get? (store.objectKey id) = none := by
  obtain ⟨member, rfl, task, next, found⟩ := removes
  simp only [Crew.move, Crew.advance, found]
  show (MemoryBlobs.delete crew.state.blobs (store.objectKey id)).2.get? _ = none
  cases there : crew.state.blobs.get? (store.objectKey id) with
  | none =>
    rw [MemoryBlobs.delete_of_absent there]
    exact there
  | some bytes =>
    rw [MemoryBlobs.delete_of_present there]
    exact Table.get?_erase_self _ _

/-- Staged bytes are there to be moved. -/
lemma present_of_promotes (accords : store.InStep stages crew)
    (consistent : Consistent store crew.state stages) {move : Move ContentCall}
    (promotes : Promotes store id crew move) :
    (crew.move store.answer Depot.answer move).state.blobs.get? (store.objectKey id) ≠ none := by
  obtain ⟨member, source, rfl, task, next, found⟩ := promotes
  have agreed := accords.keeps member task _ found
  have staged : ∃ bytes, crew.state.blobs.get? source = some bytes := by
    cases is : stages member with
    | staged token bytes =>
      rw [is] at agreed
      obtain ⟨rfl, -⟩ := agreed
      exact ⟨bytes, consistent.staged member token bytes is⟩
    | _ =>
      rw [is] at agreed
      exact agreed.elim
  obtain ⟨bytes, staged⟩ := staged
  simp only [Crew.move, Crew.advance, found]
  show (MemoryBlobs.rename crew.state.blobs source (store.objectKey id)).2.get? _ ≠ none
  rw [MemoryBlobs.rename_of_present staged, Table.get?_insert_self]
  exact Option.some_ne_none bytes

end Moves

/-! ### Content without a blob -/

/-- At some time the blob of some content was deleted although the content was in use, and since
then no bytes have become its blob. -/
def Overtaken (store : ContentStore) (now : Instant) (id : ContentId)
    (moves : List (Move ContentCall)) : Prop :=
  ∃ before move after, moves = before ++ move :: after ∧
    InUse id (store.crewAfter now before) ∧ Removes store id (store.crewAfter now before) move ∧
    ∀ front later back, after = front ++ later :: back →
      ¬ Promotes store id (store.crewAfter now (before ++ move :: front)) later

/-- The blob of some content is there, and it is this content. -/
def HasBlob (store : ContentStore) (id : ContentId) (crew : ContentCrew) : Prop :=
  ∃ bytes, crew.state.blobs.get? (store.objectKey id) = some bytes ∧
    Sha1.hexDigest bytes = id.text

variable {now : Instant} {moves : List (Move ContentCall)}

lemma not_inUse_nil : ¬ InUse id (store.crewAfter now []) := by
  rintro (registered | ⟨member, record, task, next, found⟩)
  · contradiction
  · contradiction

lemma overtaken_of_removes {move : Move ContentCall} (uses : InUse id (store.crewAfter now moves))
    (removes : Removes store id (store.crewAfter now moves) move) :
    Overtaken store now id (moves ++ [move]) := by
  refine ⟨moves, move, [], rfl, uses, removes, ?_⟩
  intro front later back none
  simp at none

lemma Overtaken.concat {move : Move ContentCall} (overtaken : Overtaken store now id moves)
    (elsewhere : ¬ Promotes store id (store.crewAfter now moves) move) :
    Overtaken store now id (moves ++ [move]) := by
  obtain ⟨before, removal, after, rfl, uses, removes, quiet⟩ := overtaken
  refine ⟨before, removal, after ++ [move], by simp, uses, removes, ?_⟩
  intro front later back split
  rcases List.eq_nil_or_concat back with rfl | ⟨back, last, rfl⟩
  · obtain ⟨rfl, same⟩ := List.append_inj' split rfl
    obtain rfl := List.singleton_inj.1 same
    exact elsewhere
  · have split' : after ++ [move] = (front ++ later :: back) ++ [last] := by
      simpa using split
    exact quiet front later back (List.append_inj' split' rfl).1

/-- Content that is in use and has no blob was overtaken. -/
lemma overtaken_of_absent (apart : store.layout.Apart)
    (uses : InUse id (store.crewAfter now moves))
    (absent : (store.crewAfter now moves).state.blobs.get? (store.objectKey id) = none) :
    Overtaken store now id moves := by
  induction moves using List.reverseRecOn with
  | nil => exact absurd uses not_inUse_nil
  | append_singleton moves move ih =>
    obtain ⟨stages, accords, consistent⟩ := exists_consistent store apart now moves
    rw [crewAfter_concat] at uses absent
    have elsewhere : ¬ Promotes store id (store.crewAfter now moves) move :=
      fun promotes => present_of_promotes accords consistent promotes absent
    have used : InUse id (store.crewAfter now moves) :=
      (inUse_of_move accords move uses).resolve_right elsewhere
    by_cases before : (store.crewAfter now moves).state.blobs.get? (store.objectKey id) = none
    · exact (ih used before).concat elsewhere
    · exact overtaken_of_removes used (removes_of_move apart accords move before absent)

/-- Content that was overtaken has no blob. -/
lemma Overtaken.absent (apart : store.layout.Apart) (overtaken : Overtaken store now id moves) :
    (store.crewAfter now moves).state.blobs.get? (store.objectKey id) = none := by
  obtain ⟨before, removal, after, rfl, -, removes, quiet⟩ := overtaken
  induction after using List.reverseRecOn with
  | nil =>
    rw [crewAfter_concat]
    exact absent_of_removes removes
  | append_singleton after move ih =>
    have gone := ih fun front later back split =>
      quiet front later (back ++ [move]) (by rw [split]; simp)
    obtain ⟨stages, accords, -⟩ :=
      exists_consistent store apart now (before ++ removal :: after)
    have same : before ++ removal :: (after ++ [move]) =
        (before ++ removal :: after) ++ [move] := by simp
    rw [same, crewAfter_concat]
    exact absent_of_move apart accords move gone (quiet after move [] rfl)

/-- Content that is registered lacks its blob if and only if it was overtaken: its blob was deleted
for the sake of earlier owners when the content was in use again. -/
theorem dangles_iff_overtaken (limits : IngestLimits) (now : Instant)
    (moves : List (Move ContentCall)) (id : ContentId) :
    (id ∈ (crewAfter { limits } now moves).state.descriptors.keys ∧
        ¬ HasBlob { limits } id (crewAfter { limits } now moves)) ↔
      (id ∈ (crewAfter { limits } now moves).state.descriptors.keys ∧
        Overtaken { limits } now id moves) := by
  have apart : KeyLayout.fanned.Apart := KeyLayout.fanned_apart
  refine and_congr_right ?_
  intro registered
  constructor
  · intro dangles
    refine overtaken_of_absent apart (Or.inl registered) ?_
    obtain ⟨stages, -, consistent⟩ := exists_consistent { limits } apart now moves
    by_contra present
    obtain ⟨bytes, found⟩ := Option.ne_none_iff_exists'.1 present
    exact dangles ⟨bytes, found, congrArg ContentId.text (consistent.hashed id bytes found).symm⟩
  · rintro overtaken ⟨bytes, found, -⟩
    have gone := overtaken.absent apart
    rw [found] at gone
    contradiction

/-- The references to some content that finished operations have obtained. -/
def obtained (id : ContentId) (crew : ContentCrew) : Nat :=
  crew.members.countP fun
    | ⟨.create _, .done (.ok stored)⟩ => stored.id = id
    | _ => false

/-- The references to some content that operations have begun to give back. -/
def givenBack (id : ContentId) (crew : ContentCrew) : Nat :=
  crew.members.countP fun
    | ⟨.delete other, _⟩ => other = id
    | _ => false

/-- Content is only stored and deleted, and what is deleted is a reference that was obtained and
not given back before. -/
def givesBack (store : ContentStore) : ContentCrew → List (Move ContentCall) → Bool
  | _, [] => true
  | crew, move :: rest =>
    (match move with
      | .start (.create _) => true
      | .start (.delete id) => givenBack id crew < obtained id crew
      | .start _ => false
      | .advance _ => true) &&
      store.givesBack (crew.move store.answer Depot.answer move) rest

/-- The only owner of some content is taken away, and before the blob is deleted, the content is
stored again. -/
def lateRemoval (bytes : Bytes) : List (Move ContentCall) :=
  .start (.create (.ofBytes bytes)) :: List.replicate 6 (.advance 0) ++
    [.start (.delete (.ofBytes bytes)), .advance 1, .start (.create (.ofBytes bytes))] ++
      List.replicate 6 (.advance 2) ++ List.replicate 2 (.advance 1)

/-- Registered content may lack its blob although nobody gives back more than was obtained, and
nothing is left to do. -/
theorem exists_dangling : ¬ ∀ (limits : IngestLimits) (now : Instant)
    (moves : List (Move ContentCall)), givesBack { limits } ⟨.vacant now, []⟩ moves = true →
      (crewAfter { limits } now moves).IsAtRest →
        ∀ id ∈ (crewAfter { limits } now moves).state.descriptors.keys,
          HasBlob { limits } id (crewAfter { limits } now moves) := by
  intro claimed
  have run : givesBack {} ⟨.vacant ⟨0, 0⟩, []⟩ (lateRemoval [120]) = true ∧
      (crewAfter {} ⟨0, 0⟩ (lateRemoval [120])).IsAtRest ∧
      ContentId.ofBytes [120] ∈ (crewAfter {} ⟨0, 0⟩ (lateRemoval [120])).state.descriptors.keys ∧
      (crewAfter {} ⟨0, 0⟩ (lateRemoval [120])).state.blobs.get?
        (objectKey {} (.ofBytes [120])) = none := by
    decide +kernel
  obtain ⟨given, rested, registered, gone⟩ := run
  obtain ⟨bytes, found, -⟩ := claimed {} ⟨0, 0⟩ _ given rested _ registered
  exact Option.some_ne_none bytes (found.symm.trans gone)

end ContentStore

end AssetCache
