import AssetCache.Content.Store
import AssetCache.Proofs.Agreement

/-!
# Which calls the operations of a content store make

An operation that does not succeed in storing content, and one that reads it, leaves the owners of
all content alone; and no operation of a content store makes a call to the slots of a cache.
-/

namespace AssetCache

open Program

variable {α : Type}

/-- The calls that leave the owners of all content alone. -/
def Call.Neutral : Call → Prop
  | .clock | .token | .report _ | .blob _ => True
  | .descriptor (.read _) | .descriptor (.contains _) => True
  | .descriptor _ | .slots _ => False

/-- The calls that are not to the slots. -/
def Call.Beside : Call → Prop
  | .slots _ => False
  | _ => True

lemma Call.Neutral.beside {call : Call} (neutral : call.Neutral) : call.Beside := by
  cases call with
  | slots call => exact neutral
  | _ => trivial

lemma beside_of_neutral {program : Operation α} {kind : α → Prop}
    (neutral : program.Within Call.Neutral kind) :
    program.Within Call.Beside fun _ => True :=
  neutral.mono (fun _ => Call.Neutral.beside) fun _ _ => trivial

namespace ContentStore

open Operation

variable {store : ContentStore} {id : ContentId} {record : Descriptor} {staging : String}
  {source : Source}

lemma neutral_discardStaging :
    (discardStaging staging).Within Call.Neutral fun _ => True := by
  simp only [discardStaging, blob, bind_eq, bind_ask, bind_done, within_ask]
  refine ⟨trivial, ?_⟩
  rintro (error | _)
  · dsimp only
    split
    · trivial
    · simp [report, Call.Neutral]
  · trivial

lemma neutral_discardOrphan :
    (store.discardOrphan id).Within Call.Neutral fun _ => True := by
  simp only [discardOrphan, blob, descriptor, bind_eq, bind_ask, bind_done, within_ask]
  refine ⟨trivial, ?_⟩
  rintro (error | _ | _)
  · simp [report, Call.Neutral]
  · refine ⟨trivial, ?_⟩
    rintro (error | _)
    · dsimp only
      split
      · trivial
      · simp [report, Call.Neutral]
    · trivial
  · trivial

lemma neutral_deduplicate {owners : Nat} :
    (deduplicate staging id record owners).Within Call.Neutral fun stored => stored.id = id := by
  simp only [deduplicate, blob, descriptor, bind_eq, bind_ask, bind_done, within_ask]
  refine ⟨trivial, ?_⟩
  rintro (error | _)
  · refine ⟨trivial, fun _ => ⟨trivial, ?_⟩⟩
    rintro (error | stored)
    · simp [report, Call.Neutral]
    · rfl
  · refine ⟨trivial, ?_⟩
    rintro (error | stored)
    · simp [report, Call.Neutral]
    · rfl

lemma neutral_ingest {limits : IngestLimits} :
    (ingest limits staging source).Within Call.Neutral fun _ => True := by
  simp only [ingest, blob, bind_eq, bind_ask, bind_done, within_ask]
  refine ⟨trivial, ?_⟩
  intro reply
  cases reply.event? with
  | none => trivial
  | some event => simp [report, Call.Neutral]

lemma neutral_read : (store.read id).Within Call.Neutral fun _ => True := by
  simp only [read, blob, descriptor, bind_eq, bind_ask, bind_done, within_ask]
  refine ⟨trivial, ?_⟩
  rintro (error | record)
  · trivial
  · refine ⟨trivial, ?_⟩
    rintro (error | stream)
    · trivial
    · trivial

/-- Content is stored under the identity that it has, or not at all. -/
lemma beside_promote : (store.promote staging id record).Within Call.Beside fun result =>
    ∀ stored, result = .ok stored → stored.id = id := by
  simp only [promote, blob, descriptor, bind_eq, bind_ask, bind_done, within_ask]
  refine ⟨trivial, ?_⟩
  rintro (error | _)
  · rintro stored ⟨⟩
  · refine ⟨trivial, ?_⟩
    rintro (error | owners)
    · apply (beside_of_neutral neutral_discardOrphan).bind
      rintro _ - stored ⟨⟩
    · rintro stored ⟨⟩
      rfl

lemma beside_commit {attributes : Attributes} :
    (store.commit staging attributes).Within Call.Beside fun result =>
      ∀ stored, result = .ok stored → attributes.id = some stored.id := by
  unfold commit
  cases attributes.id with
  | none => rintro stored ⟨⟩
  | some id =>
    have promoted (record : Descriptor) :
        (store.promote staging id record).Within Call.Beside fun result =>
          ∀ stored, result = .ok stored → some id = some stored.id :=
      beside_promote.mono (fun _ allowed => allowed) fun _ named stored same =>
        congrArg some (named stored same).symm
    simp only [descriptor, bind_eq, bind_ask, bind_done, within_ask]
    refine ⟨trivial, ?_⟩
    rintro (error | _ | _)
    · rintro stored ⟨⟩
    · exact promoted _
    · refine ⟨trivial, ?_⟩
      rintro (error | owners)
      · dsimp only
        split
        · exact promoted _
        · rintro stored ⟨⟩
      · have joined : (deduplicate staging id (.ofAttributes attributes) owners).Within Call.Neutral
            fun stored => stored.id = id := neutral_deduplicate
        apply (joined.mono (fun _ => Call.Neutral.beside) fun _ named => named).bind
        rintro stored named other ⟨⟩
        exact congrArg some named.symm

lemma beside_create : (store.create source).Within Call.Beside fun _ => True := by
  simp only [create, Operation.token, bind_eq, bind_ask, bind_done, within_ask]
  refine ⟨trivial, ?_⟩
  intro token
  apply (beside_of_neutral neutral_ingest).bind
  rintro (error | attributes) -
  · exact (beside_of_neutral neutral_discardStaging).bind fun _ _ => trivial
  · apply beside_commit.bind
    rintro (error | stored) _
    · exact (beside_of_neutral neutral_discardStaging).bind fun _ _ => trivial
    · exact ⟨trivial, fun _ => trivial⟩

lemma beside_delete : (store.delete id).Within Call.Beside fun _ => True := by
  simp only [delete, blob, descriptor, bind_eq, bind_ask, bind_done, within_ask]
  refine ⟨trivial, ?_⟩
  rintro (error | outcome)
  · trivial
  · dsimp only
    split
    · refine ⟨trivial, ?_⟩
      rintro (error | _)
      · exact ⟨trivial, fun _ => trivial⟩
      · exact ⟨trivial, fun _ => trivial⟩
    · trivial

end ContentStore

end AssetCache
