import AssetCache.Proofs.Depots

/-!
# Renaming a blob by copying it

A store that has no way of its own to move a blob copies it to its new key and then deletes it under
the old one. That answers as a move does, and it leaves the same blobs as long as the two keys are
different. A blob that is renamed to its own key stays where it is if it is moved; if it is copied
onto itself, then the deletion that follows takes it away (`MemoryBlobs.copies_as_moved`,
`MemoryBlobs.exists_lost`).
-/

namespace AssetCache

namespace MemoryBlobs

variable {blobs : MemoryBlobs} {source target : String} {bytes : Bytes}

/-- A moved blob lies under its new key, and all others lie where they were. -/
lemma get?_rename_of_present (found : blobs.get? source = some bytes) (target key : String) :
    (rename blobs source target).2.get? key =
      if key = target then some bytes else if key = source then none else blobs.get? key := by
  rw [rename_of_present found, Table.get?_insert, Table.get?_erase]

/-- Renaming by copying, in blobs in memory. -/
def copy (token : Token) (blobs : MemoryBlobs) (source target : String) :
    Except StoreError Unit × MemoryBlobs :=
  (renameByCopy source target).run (BlobStore.answer token) blobs

lemma copy_of_absent (token : Token) (absent : blobs.get? source = none) :
    copy token blobs source target = (.error (.notFound source), blobs) := by
  have unread : BlobStore.answer token blobs (.get source) =
      (.error (.notFound source), blobs) := by
    simp only [BlobStore.answer, BlobStore.get, MemoryBlobs.get, absent]
  rw [copy, renameByCopy, Program.run_ask, unread]
  rfl

/-- The blob is there under its old key until the last of the three calls, also where the copy has
just taken its place. -/
lemma copy_of_present (token : Token) (found : blobs.get? source = some bytes) :
    copy token blobs source target = (.ok (), (blobs.insert target bytes).erase source) := by
  have read : BlobStore.answer token blobs (.get source) = (.ok (.ofBytes bytes), blobs) := by
    simp only [BlobStore.answer, BlobStore.get, MemoryBlobs.get, found]
  have written : BlobStore.answer token blobs (.ofStream target (.ofBytes bytes)) =
      (⟨.ok bytes.length, none⟩, blobs.insert target bytes) :=
    put_ofBytes token bytes
  obtain ⟨held, there⟩ : ∃ held, (blobs.insert target bytes).get? source = some held := by
    rw [Table.get?_insert]
    split
    · exact ⟨bytes, rfl⟩
    · exact ⟨bytes, found⟩
  have deleted : BlobStore.answer token (blobs.insert target bytes) (.delete source) =
      (.ok (), (blobs.insert target bytes).erase source) :=
    delete_of_present there
  rw [copy, renameByCopy, Program.run_ask, read]
  dsimp only
  rw [Program.run_ask, written]
  dsimp only
  rw [Program.run_ask, deleted]
  rfl

/-- A copied blob lies under its new key, unless that is its old one. -/
lemma get?_copy_of_present (token : Token) (found : blobs.get? source = some bytes)
    (target key : String) : (copy token blobs source target).2.get? key =
      if key = source then none else if key = target then some bytes else blobs.get? key := by
  rw [copy_of_present token found, Table.get?_erase, Table.get?_insert]

/-- What renaming by copying comes to, beside a move. -/
structure CopiesAsMoved (blobs : MemoryBlobs) (source target : String)
    (copied moved : Except StoreError Unit × MemoryBlobs) : Prop where
  /-- Both answer the same: the blob is renamed if it is there, and not found otherwise. -/
  answers : copied.1 = moved.1
  succeeds : moved.1 = .ok () ↔ ∃ bytes, blobs.get? source = some bytes
  refuses : moved.1 = .error (.notFound source) ↔ blobs.get? source = none
  /-- A move changes nothing but the place of the blob, and replaces what was there. -/
  moves : ∀ key, moved.2.get? key =
    match blobs.get? source with
    | none => blobs.get? key
    | some bytes =>
      if key = target then some bytes else if key = source then none else blobs.get? key
  /-- A copy leaves nothing under the old key, -/
  empties : copied.2.get? source = none
  /-- and all else as a move does. -/
  others : ∀ key, key ≠ source → copied.2.get? key = moved.2.get? key
  /-- So both leave the same blobs just when no blob is renamed to its own key. -/
  alike : (∀ key, copied.2.get? key = moved.2.get? key) ↔
    (source = target → blobs.get? source = none)

/-- Renaming by copying is a move, unless a blob is renamed to its own key. -/
theorem copies_as_moved (token : Token) (blobs : MemoryBlobs) (source target : String) :
    CopiesAsMoved blobs source target
      ((renameByCopy source target).run (BlobStore.answer token) blobs)
      (rename blobs source target) := by
  change CopiesAsMoved blobs source target (copy token blobs source target) _
  cases found : blobs.get? source with
  | none =>
    rw [copy_of_absent token found, rename_of_absent found]
    refine ⟨rfl, ?_, ?_, ?_, found, fun _ _ => rfl, ?_⟩
    · simp [found]
    · simp [found]
    · intro key
      rw [found]
    · simp [found]
  | some bytes =>
    have moved := get?_rename_of_present found target
    have copied := get?_copy_of_present token found target
    have others (key : String) (other : key ≠ source) :
        (copy token blobs source target).2.get? key = (rename blobs source target).2.get? key := by
      rw [copied, moved, if_neg other, if_neg other]
    have empties : (copy token blobs source target).2.get? source = none := by
      rw [copied, if_pos rfl]
    refine ⟨?_, ?_, ?_, ?_, empties, others, ?_⟩
    · rw [copy_of_present token found, rename_of_present found]
    · simp [rename_of_present found, found]
    · simp [rename_of_present found, found]
    · intro key
      rw [moved, found]
    · rw [found]
      constructor
      · rintro alike rfl
        rw [← empties, alike, moved, if_pos rfl]
      · intro apart key
        by_cases own : key = source
        · have different : source ≠ target := fun same => by cases apart same
          rw [own, empties, moved, if_neg different, if_pos rfl]
        · exact others key own

/-- A blob that is renamed to its own key by copying is lost. -/
theorem exists_lost : ¬ ∀ (token : Token) (blobs : MemoryBlobs) (source target : String),
    ((renameByCopy source target).run (BlobStore.answer token) blobs).1 =
        (rename blobs source target).1 ∧
      ∀ key, ((renameByCopy source target).run (BlobStore.answer token) blobs).2.get? key =
        (rename blobs source target).2.get? key := by
  intro claimed
  have run : ((renameByCopy "a" "a").run (BlobStore.answer ⟨0⟩)
        ((∅ : MemoryBlobs).insert "a" [120])).2.get? "a" = none ∧
      (rename ((∅ : MemoryBlobs).insert "a" [120]) "a" "a").2.get? "a" = some [120] := by
    decide +kernel
  obtain ⟨lost, kept⟩ := run
  have same := (claimed ⟨0⟩ ((∅ : MemoryBlobs).insert "a" [120]) "a" "a").2 "a"
  rw [lost, kept] at same
  contradiction

end MemoryBlobs

end AssetCache
