import AssetCache.Proofs.Content.Ledger
import AssetCache.Proofs.Team
import AssetCache.Proofs.Transfers

/-!
# Equal contents that come in side by side

Any number of streams come in at the same time, item by item, and nothing is taken away meanwhile.
Whatever the turns are that the operations take, equal contents are stored once in the end, and
each of the operations that brought them is an owner: they were answered the numbers from one on,
each of them once.

The operations do not know of each other. That they come to share one blob and one descriptor is
seen from their courses: the course of an operation says which blobs it answers for and which number
it has drawn, and at all times the blobs and the descriptors are what the courses say together
(`Sound`).
-/

namespace AssetCache

namespace ContentStore

open Program Operation

/-- How far an operation has come that stores content, where no call fails and nothing is ever
taken away. -/
inductive Course where
  /-- It has done nothing yet. -/
  | idle
  /-- It has a token, and nothing is staged under it. -/
  | issued (token : Token)
  /-- The bytes of its stream are staged. -/
  | staged (token : Token) (bytes : Bytes)
  /-- It has become an owner of content that was there, and its own bytes are still staged. -/
  | shared (token : Token) (bytes : Bytes) (number : Nat)
  /-- Its bytes have become the blob of their content. -/
  | promoted (bytes : Bytes)
  /-- It has become an owner. -/
  | owning (bytes : Bytes) (number : Nat)
deriving DecidableEq

namespace Course

/-- The token under which something is staged or may yet be. -/
def token? : Course → Option Token
  | issued token | staged token _ | shared token _ _ => some token
  | idle | promoted _ | owning _ _ => none

/-- The bytes that have come in. -/
def bytes? : Course → Option Bytes
  | staged _ bytes | shared _ bytes _ | promoted bytes | owning bytes _ => some bytes
  | idle | issued _ => none

/-- The number that was drawn as an owner of some content. -/
def number? (content : Bytes) : Course → Option Nat
  | shared _ bytes number | owning bytes number => if bytes = content then some number else none
  | idle | issued _ | staged _ _ | promoted _ => none

/-- The blobs that an operation answers for. -/
def blobs (store : ContentStore) : Course → List (String × Bytes)
  | staged token bytes => [(store.stagingKey token, bytes)]
  | shared token bytes _ =>
    [(store.stagingKey token, bytes), (store.objectKey (.ofBytes bytes), bytes)]
  | promoted bytes | owning bytes _ => [(store.objectKey (.ofBytes bytes), bytes)]
  | idle | issued _ => []

end Course

open ContentStore.Course in
/-- What operations that store content and the stores agree on, where no call fails and nothing is
ever taken away. -/
def sharing (store : ContentStore) (admits : Source → Prop) :
    Agreement Call Call.Answer Course
  | stage, .report _, next => next () stage
  | idle, .token, next => ∀ token, next token (issued token)
  | issued token, .blob (.put transfer), next =>
    ∃ source, admits source ∧ transfer.Carries store.limits source ∧
      transfer.key = store.stagingKey token ∧
      (∀ bytes, store.limits.accepted? source = some bytes →
        next ⟨.ok bytes.length, some (.ok (store.limits.attributesOf bytes))⟩
          (staged token bytes)) ∧
      (store.limits.accepted? source = none →
        ∀ error outcome, next ⟨.error error, outcome⟩ (issued token))
  | issued token, .blob (.delete key), next =>
    key = store.stagingKey token ∧ next (.error (.notFound key)) (issued token)
  | staged token bytes, .descriptor (.contains id), next =>
    id = .ofBytes bytes ∧ ∀ present, next (.ok present) (staged token bytes)
  | staged token bytes, .descriptor (.duplicate id), next =>
    id = .ofBytes bytes ∧ next (.error (.notFound id.text)) (staged token bytes) ∧
      ∀ number, next (.ok number) (shared token bytes number)
  | staged token bytes, .blob (.rename source target), next =>
    source = store.stagingKey token ∧ target = store.objectKey (.ofBytes bytes) ∧
      next (.ok ()) (promoted bytes)
  | shared token bytes number, .blob (.delete key), next =>
    key = store.stagingKey token ∧ next (.ok ()) (owning bytes number)
  | promoted bytes, .descriptor (.create id record), next =>
    id = .ofBytes bytes ∧ record = store.limits.descriptorOf bytes ∧
      ∀ number, next (.ok number) (owning bytes number)
  | owning bytes number, .descriptor (.read id), next =>
    id = .ofBytes bytes ∧ next (.ok (store.limits.descriptorOf bytes)) (owning bytes number)
  | _, _, _ => False

/-- What storing the content of a stream comes to, and the course of the operation then. -/
def Settles (store : ContentStore) (source : Source) :
    Except StoreError StoredContent → Course → Prop
  | .ok stored, course => ∃ bytes, store.limits.accepted? source = some bytes ∧
    stored.id = .ofBytes bytes ∧ stored.descriptor = store.limits.descriptorOf bytes ∧
    course = .owning bytes stored.refcount
  | .error _, course => store.limits.accepted? source = none ∧ ∃ token, course = .issued token

variable {store : ContentStore} {admits : Source → Prop} {source : Source} {token : Token}
  {bytes : Bytes} {number : Nat}

/-! ### Every operation keeps to the agreement -/

/-- Content that is stored, with its own descriptor and its number of owners. -/
def storedAs (store : ContentStore) (bytes : Bytes) (number : Nat) : StoredContent :=
  ⟨.ofBytes bytes, store.limits.descriptorOf bytes, number⟩

lemma shares_promote {post : Except StoreError StoredContent → Course → Prop}
    (h : ∀ number, post (.ok (store.storedAs bytes number)) (.owning bytes number)) :
    (store.promote (store.stagingKey token) (.ofBytes bytes)
      (store.limits.descriptorOf bytes)).Keeps (store.sharing admits) post
        (.staged token bytes) := by
  simp only [promote, blob, descriptor, bind_eq, bind_ask, bind_done, keeps_ask, sharing, true_and]
  exact ⟨rfl, h⟩

lemma shares_deduplicate {post : StoredContent → Course → Prop}
    (h : post (store.storedAs bytes number) (.owning bytes number)) :
    (deduplicate (store.stagingKey token) (.ofBytes bytes) (store.limits.descriptorOf bytes)
      number).Keeps (store.sharing admits) post (.shared token bytes number) := by
  simp only [deduplicate, blob, descriptor, bind_eq, bind_ask, bind_done, keeps_ask, sharing,
    true_and, pure_eq]
  exact h

lemma shares_commit {post : Except StoreError StoredContent → Course → Prop}
    (h : ∀ number, post (.ok (store.storedAs bytes number)) (.owning bytes number)) :
    (store.commit (store.stagingKey token) (store.limits.attributesOf bytes)).Keeps
      (store.sharing admits) post (.staged token bytes) := by
  simp only [commit, IngestLimits.id_attributesOf, descriptor, bind_eq, bind_ask, bind_done,
    keeps_ask, sharing, true_and]
  rintro (_ | _)
  · exact shares_promote h
  · simp only [keeps_ask, sharing, true_and]
    refine ⟨shares_promote h, ?_⟩
    intro number
    rw [keeps_bind]
    exact shares_deduplicate (h number)

lemma shares_ingest {post : Except StoreError Attributes → Course → Prop}
    (admitted : admits source)
    (taken : ∀ bytes, store.limits.accepted? source = some bytes →
      post (.ok (store.limits.attributesOf bytes)) (.staged token bytes))
    (failed : store.limits.accepted? source = none → ∀ error, post (.error error) (.issued token)) :
    (ingest store.limits (store.stagingKey token) source).Keeps (store.sharing admits) post
      (.issued token) := by
  simp only [ingest, blob, bind_eq, bind_ask, bind_done, keeps_ask, sharing]
  refine ⟨source, admitted, Transfer.carries_digested _ _ _, trivial, ?_, ?_⟩
  · intro bytes accepted
    simp only [PutReply.event?]
    split
    · exact taken bytes accepted
    · exact taken bytes accepted
  · intro refused error outcome
    exact failed refused error

/-- Storing content keeps to the agreement, from its start to its end. -/
theorem shares_create (admitted : admits source) :
    (store.create source).Keeps (store.sharing admits) (store.Settles source) .idle := by
  simp only [create, Operation.token, bind_eq, bind_ask, bind_done, keeps_ask, sharing]
  intro token
  rw [keeps_bind]
  apply shares_ingest admitted
  · intro bytes accepted
    rw [keeps_bind]
    apply shares_commit
    intro number
    exact ⟨bytes, accepted, rfl, rfl, rfl⟩
  · intro refused error
    rw [keeps_bind]
    simp only [discardStaging, blob, bind_eq, bind_ask, bind_done, keeps_ask, sharing]
    exact ⟨rfl, refused, token, rfl⟩

/-! ### The blobs and the descriptors are what the courses say -/

/-- The numbers that were drawn by the owners of some content. -/
def numbers (content : Bytes) (courses : List Course) : List Nat :=
  courses.filterMap (Course.number? content)

/-- The descriptors hold some content with as many owners as have drawn a number. -/
def Registered (store : ContentStore) (descriptors : MemoryDescriptors) (bytes : Bytes) :
    Nat → Prop
  | 0 => descriptors.get? (.ofBytes bytes) = none
  | owners + 1 =>
    descriptors.get? (.ofBytes bytes) = some ⟨store.limits.descriptorOf bytes, owners + 1⟩

/-- The blobs and the descriptors are what the courses of the operations say together, where the
next token has the number `supply`. -/
structure Sound (store : ContentStore) (admits : Source → Prop) (supply : Nat)
    (contents : Contents) (courses : List Course) : Prop where
  /-- No two operations have the same token. -/
  apart : (courses.filterMap Course.token?).Nodup
  issued (token : Token) : token ∈ courses.filterMap Course.token? → token.number < supply
  ingested (bytes : Bytes) : bytes ∈ courses.filterMap Course.bytes? → store.Ingests admits bytes
  /-- There are no blobs but those that an operation answers for. -/
  blobs (key : String) (bytes : Bytes) : contents.blobs.get? key = some bytes ↔
    (key, bytes) ∈ courses.flatMap (Course.blobs store)
  /-- The owners of content have drawn the numbers from one on. -/
  numbered (bytes : Bytes) : store.Ingests admits bytes →
    (numbers bytes courses).Perm (List.range' 1 (numbers bytes courses).length)
  registered (bytes : Bytes) : store.Ingests admits bytes →
    store.Registered contents.descriptors bytes (numbers bytes courses).length
  only (id : ContentId) (holding : Holding) : contents.descriptors.get? id = some holding →
    ∃ bytes, store.Ingests admits bytes ∧ id = .ofBytes bytes

variable {supply : Nat} {contents : Contents} {courses courses' others : List Course}
  {course : Course} {blobs : MemoryBlobs} {descriptors : MemoryDescriptors}

/-- It does not matter in which order the operations have come in. -/
lemma Sound.perm (sound : store.Sound admits supply contents courses)
    (perm : courses.Perm courses') : store.Sound admits supply contents courses' := by
  have drawn (bytes : Bytes) : (numbers bytes courses).Perm (numbers bytes courses') :=
    perm.filterMap _
  refine ⟨?_, ?_, ?_, ?_, ?_, ?_, sound.only⟩
  · exact (perm.filterMap _).nodup_iff.1 sound.apart
  · intro token held
    exact sound.issued token ((perm.filterMap _).mem_iff.2 held)
  · intro bytes held
    exact sound.ingested bytes ((perm.filterMap _).mem_iff.2 held)
  · intro key bytes
    rw [sound.blobs, (perm.flatMap_right _).mem_iff]
  · intro bytes ingested
    rw [← (drawn bytes).length_eq]
    exact (drawn bytes).symm.trans (sound.numbered bytes ingested)
  · intro bytes ingested
    rw [← (drawn bytes).length_eq]
    exact sound.registered bytes ingested

lemma sound_vacant (now : Instant) :
    store.Sound admits 0 (MemoryDepot.vacant now).contents [] := by
  refine ⟨List.nodup_nil, ?_, ?_, ?_, ?_, ?_, ?_⟩
  · intro token held
    contradiction
  · intro bytes held
    contradiction
  · intro key bytes
    simp [MemoryDepot.contents, MemoryDepot.vacant]
  · intro bytes ingested
    exact List.Perm.nil
  · intro bytes ingested
    rfl
  · intro id holding found
    contradiction

/-- An operation answers for blobs under its own staging key, and where its content belongs. -/
lemma Course.blobs_cases {key : String} (answers : (key, bytes) ∈ course.blobs store) :
    (∃ token, course.token? = some token ∧ key = store.stagingKey token) ∨
      (course.bytes? = some bytes ∧ key = store.objectKey (.ofBytes bytes)) := by
  cases course with
  | idle => contradiction
  | issued token => contradiction
  | staged token staged =>
    obtain ⟨rfl, rfl⟩ := Prod.mk.inj (List.mem_singleton.1 answers)
    exact Or.inl ⟨token, rfl, rfl⟩
  | shared token shared number =>
    rcases List.mem_cons.1 answers with same | same
    · obtain ⟨rfl, rfl⟩ := Prod.mk.inj same
      exact Or.inl ⟨token, rfl, rfl⟩
    · obtain ⟨rfl, rfl⟩ := Prod.mk.inj (List.mem_singleton.1 same)
      exact Or.inr ⟨rfl, rfl⟩
  | promoted promoted =>
    obtain ⟨rfl, rfl⟩ := Prod.mk.inj (List.mem_singleton.1 answers)
    exact Or.inr ⟨rfl, rfl⟩
  | owning owned number =>
    obtain ⟨rfl, rfl⟩ := Prod.mk.inj (List.mem_singleton.1 answers)
    exact Or.inr ⟨rfl, rfl⟩

/-- Nobody else answers for a blob under the staging key of an operation. -/
lemma Sound.staging_free (sound : store.Sound admits supply contents (course :: others))
    (apart : store.layout.Apart) (held : course.token? = some token) (bytes : Bytes) :
    (store.stagingKey token, bytes) ∉ others.flatMap (Course.blobs store) := by
  intro answers
  obtain ⟨other, member, answers⟩ := List.mem_flatMap.1 answers
  rcases Course.blobs_cases answers with ⟨token', held', same⟩ | ⟨-, same⟩
  · obtain rfl : token = token' := apart.staging same
    have distinct := sound.apart
    rw [List.filterMap_cons_some held, List.nodup_cons] at distinct
    exact distinct.1 (List.mem_filterMap.2 ⟨other, member, held'⟩)
  · exact apart.staging_ne_object _ _ same

/-- Whoever answers for a blob where some content belongs has brought that content. -/
lemma Sound.object_same (sound : store.Sound admits supply contents courses)
    (apart : store.layout.Apart) (collisionless : store.Collisionless admits)
    (ingested : store.Ingests admits bytes) {found : Bytes}
    (answers : (store.objectKey (.ofBytes bytes), found) ∈ courses.flatMap (Course.blobs store)) :
    found = bytes := by
  obtain ⟨other, member, answers⟩ := List.mem_flatMap.1 answers
  rcases Course.blobs_cases answers with ⟨token, -, same⟩ | ⟨brought, same⟩
  · exact absurd same (objectKey_ne_stagingKey apart _ _)
  · have ingested' := sound.ingested found (List.mem_filterMap.2 ⟨other, member, brought⟩)
    exact collisionless.ofBytes_inj ingested' ingested (apart.object same).symm

/-! ### Every step of an operation leaves them so -/

/-- Issuing a token. -/
lemma Sound.issue (sound : store.Sound admits supply contents (.idle :: others)) :
    store.Sound admits (supply + 1) contents (.issued ⟨supply⟩ :: others) := by
  refine ⟨?_, ?_, sound.ingested, sound.blobs, sound.numbered, sound.registered, sound.only⟩
  · show (⟨supply⟩ :: others.filterMap Course.token?).Nodup
    refine List.nodup_cons.2 ⟨?_, sound.apart⟩
    intro held
    exact Nat.lt_irrefl _ (sound.issued _ held)
  · intro token held
    rcases List.mem_cons.1 held with rfl | held
    · exact Nat.lt_succ_self _
    · exact Nat.lt_succ_of_lt (sound.issued token held)

/-- Tokens that are issued to somebody else do no harm. -/
lemma Sound.later (sound : store.Sound admits supply contents courses) {later : Nat}
    (le : supply ≤ later) : store.Sound admits later contents courses :=
  { sound with issued := fun token held => Nat.lt_of_lt_of_le (sound.issued token held) le }

/-- A stream is taken in. -/
lemma Sound.stage (sound : store.Sound admits supply ⟨blobs, descriptors⟩ (.issued token :: others))
    (apart : store.layout.Apart) (ingested : store.Ingests admits bytes) :
    store.Sound admits supply ⟨blobs.insert (store.stagingKey token) bytes, descriptors⟩
      (.staged token bytes :: others) := by
  refine ⟨sound.apart, sound.issued, ?_, ?_, sound.numbered, sound.registered, sound.only⟩
  · intro content held
    rcases List.mem_cons.1 held with rfl | held
    · exact ingested
    · exact sound.ingested content held
  · intro key content
    show (blobs.insert (store.stagingKey token) bytes).get? key = some content ↔
      (key, content) ∈ (store.stagingKey token, bytes) :: others.flatMap (Course.blobs store)
    have old : blobs.get? key = some content ↔
      (key, content) ∈ others.flatMap (Course.blobs store) := sound.blobs key content
    rw [Table.get?_insert, List.mem_cons, Prod.mk.injEq]
    by_cases own : key = store.stagingKey token
    · subst own
      simp [sound.staging_free apart rfl, eq_comm]
    · simp [own, old]

/-- The staged bytes become the blob of their content. -/
lemma Sound.promote
    (sound : store.Sound admits supply ⟨blobs, descriptors⟩ (.staged token bytes :: others))
    (apart : store.layout.Apart) (collisionless : store.Collisionless admits) :
    store.Sound admits supply
      ⟨(blobs.erase (store.stagingKey token)).insert (store.objectKey (.ofBytes bytes)) bytes,
        descriptors⟩ (.promoted bytes :: others) := by
  have ingested : store.Ingests admits bytes := sound.ingested bytes List.mem_cons_self
  have distinct := (List.nodup_cons.1 sound.apart).2
  refine ⟨distinct, ?_, sound.ingested, ?_, sound.numbered, sound.registered, sound.only⟩
  · intro token' held
    exact sound.issued token' (List.mem_cons_of_mem _ held)
  · intro key content
    show ((blobs.erase (store.stagingKey token)).insert (store.objectKey (.ofBytes bytes))
      bytes).get? key = some content ↔ (key, content) ∈
        (store.objectKey (.ofBytes bytes), bytes) :: others.flatMap (Course.blobs store)
    have old : blobs.get? key = some content ↔ (key, content) ∈
      (store.stagingKey token, bytes) :: others.flatMap (Course.blobs store) :=
        sound.blobs key content
    rw [Table.get?_insert, Table.get?_erase, List.mem_cons, Prod.mk.injEq]
    by_cases object : key = store.objectKey (.ofBytes bytes)
    · subst object
      simp only [if_true, Option.some.injEq, true_and]
      constructor
      · rintro rfl
        exact Or.inl rfl
      · rintro (rfl | answers)
        · rfl
        · exact (sound.object_same apart collisionless ingested
            (List.mem_cons_of_mem _ answers)).symm
    · by_cases own : key = store.stagingKey token
      · subst own
        simp [object, sound.staging_free apart rfl]
      · simp [object, own, old]

/-- The staged bytes of an owner are dropped. -/
lemma Sound.unstage
    (sound : store.Sound admits supply ⟨blobs, descriptors⟩ (.shared token bytes number :: others))
    (apart : store.layout.Apart) :
    store.Sound admits supply ⟨blobs.erase (store.stagingKey token), descriptors⟩
      (.owning bytes number :: others) := by
  have distinct := (List.nodup_cons.1 sound.apart).2
  refine ⟨distinct, ?_, sound.ingested, ?_, sound.numbered, sound.registered, sound.only⟩
  · intro token' held
    exact sound.issued token' (List.mem_cons_of_mem _ held)
  · intro key content
    show (blobs.erase (store.stagingKey token)).get? key = some content ↔ (key, content) ∈
        (store.objectKey (.ofBytes bytes), bytes) :: others.flatMap (Course.blobs store)
    have old : blobs.get? key = some content ↔ (key, content) ∈
      (store.stagingKey token, bytes) :: (store.objectKey (.ofBytes bytes), bytes) ::
        others.flatMap (Course.blobs store) := sound.blobs key content
    rw [Table.get?_erase]
    by_cases own : key = store.stagingKey token
    · subst own
      have other : store.stagingKey token ≠ store.objectKey (.ofBytes bytes) :=
        apart.staging_ne_object _ _
      simp [other, sound.staging_free apart rfl]
    · simp [own, old]

/-! ### Drawing numbers -/

/-- Another number is drawn after the numbers from one on. -/
lemma perm_range'_succ {drawn : List Nat} (perm : drawn.Perm (List.range' 1 drawn.length)) :
    ((drawn.length + 1) :: drawn).Perm (List.range' 1 (drawn.length + 1)) := by
  rw [List.range'_1_concat, Nat.add_comm 1]
  exact (perm.cons _).trans (List.perm_append_singleton _ _).symm

lemma Registered.create {owners : Nat} (registered : store.Registered descriptors bytes owners) :
    descriptors.create (.ofBytes bytes) (store.limits.descriptorOf bytes) =
      (.ok (owners + 1),
        descriptors.insert (.ofBytes bytes) ⟨store.limits.descriptorOf bytes, owners + 1⟩) := by
  rw [MemoryDescriptors.create_eq]
  cases owners with
  | zero =>
    rw [show descriptors.get? (.ofBytes bytes) = none from registered]
    rfl
  | succ owners =>
    rw [show descriptors.get? (.ofBytes bytes) = some _ from registered]
    rfl

/-- The content of which an owner has drawn a number is where it belongs. -/
lemma mem_blobs_of_mem_numbers (drawn : number ∈ numbers bytes courses) :
    (store.objectKey (.ofBytes bytes), bytes) ∈ courses.flatMap (Course.blobs store) := by
  obtain ⟨course, member, drawn⟩ := List.mem_filterMap.1 drawn
  refine List.mem_flatMap.2 ⟨course, member, ?_⟩
  cases course with
  | shared token shared number' =>
    obtain ⟨rfl, -⟩ := Option.ite_none_right_eq_some.1 drawn
    exact List.mem_cons_of_mem _ List.mem_cons_self
  | owning owned number' =>
    obtain ⟨rfl, -⟩ := Option.ite_none_right_eq_some.1 drawn
    exact List.mem_cons_self
  | _ => contradiction

section Draw

variable (sound : store.Sound admits supply ⟨blobs, descriptors⟩ (course :: others))
  (undrawn : ∀ content, course.number? content = none) (after : Course)
  (drawn : ∀ content, after.number? content =
    if bytes = content then some ((numbers bytes others).length + 1) else none)

include drawn in
lemma numbers_drawn (content : Bytes) : numbers content (after :: others) =
    if bytes = content then ((numbers bytes others).length + 1) :: numbers bytes others
    else numbers content others := by
  unfold numbers at drawn ⊢
  rw [List.filterMap_cons, drawn]
  by_cases same : bytes = content
  · subst same
    simp
  · simp [same]

include sound undrawn in
lemma Sound.numbers_undrawn (content : Bytes) (ingested : store.Ingests admits content) :
    (numbers content others).Perm (List.range' 1 (numbers content others).length) ∧
      store.Registered descriptors content (numbers content others).length := by
  have same : numbers content (course :: others) = numbers content others :=
    List.filterMap_cons_none (undrawn content)
  have numbered := sound.numbered content ingested
  have registered := sound.registered content ingested
  rw [same] at numbered registered
  exact ⟨numbered, registered⟩

include sound undrawn drawn in
/-- An operation that draws the next number of its content is the last of its owners. -/
lemma Sound.draw (collisionless : store.Collisionless admits)
    (ingested : store.Ingests admits bytes) (content : Bytes)
    (ingested' : store.Ingests admits content) :
    (numbers content (after :: others)).Perm
        (List.range' 1 (numbers content (after :: others)).length) ∧
      store.Registered (descriptors.insert (.ofBytes bytes)
          ⟨store.limits.descriptorOf bytes, (numbers bytes others).length + 1⟩) content
        (numbers content (after :: others)).length := by
  obtain ⟨numbered, registered⟩ := sound.numbers_undrawn undrawn content ingested'
  rw [numbers_drawn after drawn]
  by_cases same : bytes = content
  · subst same
    rw [if_pos rfl]
    exact ⟨perm_range'_succ numbered, Table.get?_insert_self _ _ _⟩
  · rw [if_neg same]
    have other : ContentId.ofBytes content ≠ .ofBytes bytes := fun equal =>
      same (collisionless.ofBytes_inj ingested' ingested equal).symm
    refine ⟨numbered, ?_⟩
    cases owners : (numbers content others).length with
    | zero =>
      rw [owners] at registered
      exact (Table.get?_insert _ _ _ _).trans ((if_neg other).trans registered)
    | succ owners' =>
      rw [owners] at registered
      exact (Table.get?_insert _ _ _ _).trans ((if_neg other).trans registered)

include sound in
lemma Sound.only_insert (ingested : store.Ingests admits bytes) {holding : Holding}
    (id : ContentId) (found : Holding)
    (there : (descriptors.insert (.ofBytes bytes) holding).get? id = some found) :
    ∃ bytes, store.Ingests admits bytes ∧ id = .ofBytes bytes := by
  rw [Table.get?_insert] at there
  split at there
  · next same => exact ⟨bytes, ingested, same⟩
  · exact sound.only id found there

end Draw

/-- An operation becomes an owner of content that is there. -/
lemma Sound.share
    (sound : store.Sound admits supply ⟨blobs, descriptors⟩ (.staged token bytes :: others))
    (collisionless : store.Collisionless admits) (positive : 0 < (numbers bytes others).length) :
    store.Sound admits supply
      ⟨blobs, descriptors.insert (.ofBytes bytes)
        ⟨store.limits.descriptorOf bytes, (numbers bytes others).length + 1⟩⟩
      (.shared token bytes ((numbers bytes others).length + 1) :: others) := by
  have ingested : store.Ingests admits bytes := sound.ingested bytes List.mem_cons_self
  have draw := sound.draw (fun _ => rfl) (.shared token bytes _) (fun _ => rfl) collisionless
    ingested
  refine ⟨sound.apart, sound.issued, sound.ingested, ?_, fun content ingested =>
    (draw content ingested).1, fun content ingested => (draw content ingested).2,
    sound.only_insert ingested⟩
  intro key content
  obtain ⟨number, drawn⟩ := List.exists_mem_of_length_pos positive
  have there : (store.objectKey (.ofBytes bytes), bytes) ∈ others.flatMap (Course.blobs store) :=
    mem_blobs_of_mem_numbers drawn
  rw [sound.blobs]
  show (key, content) ∈ (store.stagingKey token, bytes) :: others.flatMap (Course.blobs store) ↔
    (key, content) ∈ (store.stagingKey token, bytes) ::
      (store.objectKey (.ofBytes bytes), bytes) :: others.flatMap (Course.blobs store)
  simp only [List.mem_cons]
  constructor
  · rintro (own | other)
    · exact Or.inl own
    · exact Or.inr (Or.inr other)
  · rintro (own | object | other)
    · exact Or.inl own
    · exact Or.inr (object ▸ there)
    · exact Or.inr other

/-- An operation becomes an owner of content that it has brought. -/
lemma Sound.register
    (sound : store.Sound admits supply ⟨blobs, descriptors⟩ (.promoted bytes :: others))
    (collisionless : store.Collisionless admits) :
    store.Sound admits supply
      ⟨blobs, descriptors.insert (.ofBytes bytes)
        ⟨store.limits.descriptorOf bytes, (numbers bytes others).length + 1⟩⟩
      (.owning bytes ((numbers bytes others).length + 1) :: others) := by
  have ingested : store.Ingests admits bytes := sound.ingested bytes List.mem_cons_self
  have draw := sound.draw (fun _ => rfl) (.owning bytes _) (fun _ => rfl) collisionless ingested
  exact ⟨sound.apart, sound.issued, sound.ingested, sound.blobs,
    fun content ingested => (draw content ingested).1,
    fun content ingested => (draw content ingested).2, sound.only_insert ingested⟩

/-! ### Turns -/

/-- The state of a depot is what the courses of all operations say. -/
def SoundDepot (store : ContentStore) (admits : Source → Prop) (depot : MemoryDepot)
    (courses : List Course) : Prop :=
  store.Sound admits depot.issued depot.contents courses

variable {depot depot' : MemoryDepot} {front back : List Course}

lemma sound_middle : store.Sound admits supply contents (front ++ course :: back) ↔
    store.Sound admits supply contents (course :: (front ++ back)) :=
  ⟨fun sound => sound.perm List.perm_middle, fun sound => sound.perm List.perm_middle.symm⟩

/-- A step of a put that is under way, or its end. -/
lemma sound_put {transfer : Transfer} {follows : PutReply → Course → Prop}
    (apart : store.layout.Apart)
    (sound : store.Sound admits depot.issued depot.contents (course :: others))
    (agreed : store.sharing admits course (.blob (.put transfer)) follows) :
    match depot.attempt (.blob (.put transfer)) with
    | .answered reply depot' => ∃ course', follows reply course' ∧
      store.Sound admits depot'.issued (MemoryDepot.contents depot') (course' :: others)
    | .ongoing rest answer depot' => ∃ course',
      store.sharing admits course' rest (fun reply => follows (answer reply)) ∧
        store.Sound admits depot'.issued (MemoryDepot.contents depot') (course' :: others)
    | .blocked => True := by
  cases course with
  | issued token =>
    obtain ⟨source, admitted, carries, key, taken, failed⟩ := agreed
    have begun : ∃ fresh supply, depot.issued ≤ supply ∧
        (if transfer.token.isNone then depot.issue else (⟨0⟩, depot)) =
          (fresh, { depot with issued := supply }) := by
      cases transfer.token with
      | none => exact ⟨⟨depot.issued⟩, depot.issued + 1, Nat.le_succ _, rfl⟩
      | some token => exact ⟨⟨0⟩, depot.issued, Nat.le_refl _, rfl⟩
    obtain ⟨fresh, supply, le, begun⟩ := begun
    have advanced := Transfer.advance_of_carries depot.blobs fresh carries
    simp only [Depot.attempt, begun]
    generalize transfer.advance depot.blobs fresh = progress at advanced ⊢
    cases progress with
    | finished reply blobs =>
      rw [key] at advanced
      cases advanced with
      | taken accepted =>
        exact ⟨_, taken _ accepted, (sound.later le).stage apart ⟨source, admitted, accepted⟩⟩
      | refused error outcome refused =>
        exact ⟨_, failed refused error outcome, sound.later le⟩
    | moved after blobs =>
      obtain ⟨rfl, same, carries'⟩ := advanced
      exact ⟨.issued token, ⟨source, admitted, carries', same.trans key, taken, failed⟩,
        sound.later le⟩
    | waiting => trivial
  | _ => exact agreed.elim

/-- Nothing is staged under a token that is issued. -/
lemma Sound.unstaged (sound : store.Sound admits supply ⟨blobs, descriptors⟩ (course :: others))
    (apart : store.layout.Apart) (held : course.token? = some token)
    (nothing : course.blobs store = []) : blobs.get? (store.stagingKey token) = none := by
  cases found : blobs.get? (store.stagingKey token) with
  | none => rfl
  | some bytes =>
    have answers := (sound.blobs _ bytes).1 found
    rw [List.flatMap_cons, nothing] at answers
    exact absurd answers (sound.staging_free apart held bytes)

lemma sound_blob {call : BlobCall} {follows : call.Answer → Course → Prop}
    (apart : store.layout.Apart) (collisionless : store.Collisionless admits) (fresh : Token)
    (sound : store.Sound admits supply ⟨blobs, descriptors⟩ (course :: others))
    (agreed : store.sharing admits course (.blob call) follows)
    (whole : ∀ transfer, call ≠ .put transfer) :
    ∃ course', follows (BlobStore.answer fresh blobs call).1 course' ∧
      store.Sound admits supply ⟨(BlobStore.answer fresh blobs call).2, descriptors⟩
        (course' :: others) := by
  have mine {key : String} {bytes : Bytes} (answers : (key, bytes) ∈ course.blobs store) :
      blobs.get? key = some bytes :=
    (sound.blobs key bytes).2 (List.mem_flatMap.2 ⟨course, List.mem_cons_self, answers⟩)
  cases call with
  | put transfer => exact absurd rfl (whole transfer)
  | delete key =>
    cases course with
    | issued token =>
      obtain ⟨rfl, dropped⟩ := agreed
      have absent := sound.unstaged apart rfl rfl
      simp only [BlobStore.answer, BlobStore.delete, MemoryBlobs.delete_of_absent absent]
      exact ⟨_, dropped, sound⟩
    | shared token bytes number =>
      obtain ⟨rfl, dropped⟩ := agreed
      have present := mine List.mem_cons_self
      simp only [BlobStore.answer, BlobStore.delete, MemoryBlobs.delete_of_present present]
      exact ⟨_, dropped, sound.unstage apart⟩
    | _ => exact agreed.elim
  | rename source target =>
    cases course with
    | staged token bytes =>
      obtain ⟨rfl, rfl, promoted⟩ := agreed
      have present := mine List.mem_cons_self
      simp only [BlobStore.answer, BlobStore.rename, MemoryBlobs.rename_of_present present]
      exact ⟨_, promoted, sound.promote apart collisionless⟩
    | _ => exact agreed.elim
  | _ =>
    cases course with
    | _ => exact agreed.elim

lemma sound_descriptor {call : DescriptorCall} {follows : call.Answer → Course → Prop}
    (collisionless : store.Collisionless admits)
    (sound : store.Sound admits supply ⟨blobs, descriptors⟩ (course :: others))
    (agreed : store.sharing admits course (.descriptor call) follows) :
    ∃ course', follows (DescriptorStore.perform descriptors call).1 course' ∧
      store.Sound admits supply ⟨blobs, (DescriptorStore.perform descriptors call).2⟩
        (course' :: others) := by
  have counted {bytes : Bytes} (brought : course.bytes? = some bytes)
      (undrawn : ∀ content, course.number? content = none) :
      store.Registered descriptors bytes (numbers bytes others).length :=
    (sound.numbers_undrawn undrawn bytes
      (sound.ingested bytes (List.mem_filterMap.2 ⟨course, List.mem_cons_self, brought⟩))).2
  cases call with
  | create id record =>
    cases course with
    | promoted bytes =>
      obtain ⟨rfl, rfl, registered⟩ := agreed
      have created := (counted rfl fun _ => rfl).create
      simp only [DescriptorStore.perform, DescriptorStore.create, created]
      exact ⟨_, registered _, sound.register collisionless⟩
    | _ => exact agreed.elim
  | read id =>
    cases course with
    | owning bytes number =>
      obtain ⟨rfl, read⟩ := agreed
      have registered := sound.registered bytes (sound.ingested bytes List.mem_cons_self)
      rw [numbers, List.filterMap_cons_some (show Course.number? bytes (.owning bytes number) =
        some number from if_pos rfl), List.length_cons] at registered
      simp only [DescriptorStore.perform, DescriptorStore.read, MemoryDescriptors.read]
      rw [show descriptors.get? (.ofBytes bytes) = _ from registered]
      exact ⟨_, read, sound⟩
    | _ => exact agreed.elim
  | contains id =>
    cases course with
    | staged token bytes => exact ⟨_, agreed.2 _, sound⟩
    | _ => exact agreed.elim
  | duplicate id =>
    cases course with
    | staged token bytes =>
      obtain ⟨rfl, missing, shared⟩ := agreed
      have registered := counted rfl fun _ => rfl
      cases owners : (numbers bytes others).length with
      | zero =>
        rw [owners] at registered
        simp only [DescriptorStore.perform, DescriptorStore.duplicate,
          MemoryDescriptors.duplicate_of_absent registered]
        exact ⟨_, missing, sound⟩
      | succ owners' =>
        rw [owners] at registered
        simp only [DescriptorStore.perform, DescriptorStore.duplicate,
          MemoryDescriptors.duplicate_of_present registered]
        have share := sound.share collisionless (by omega)
        rw [owners] at share
        exact ⟨_, shared _, share⟩
    | _ => exact agreed.elim
  | delete id =>
    cases course with
    | _ => exact agreed.elim

/-- Every call but the put of a stream leaves a depot sound. -/
lemma sound_answer {call : Call} {follows : call.Answer → Course → Prop}
    (apart : store.layout.Apart) (collisionless : store.Collisionless admits)
    (sound : store.Sound admits depot.issued depot.contents (course :: others))
    (agreed : store.sharing admits course call follows)
    (whole : ∀ transfer, call ≠ .blob (.put transfer)) :
    ∃ course', follows (depot.answer call).1 course' ∧
      store.Sound admits (depot.answer call).2.issued (MemoryDepot.contents (depot.answer call).2)
        (course' :: others) := by
  cases call with
  | clock =>
    cases course with
    | _ => exact agreed.elim
  | token =>
    cases course with
    | idle => exact ⟨_, agreed _, sound.issue⟩
    | _ => exact agreed.elim
  | report event =>
    cases course with
    | _ => exact ⟨_, agreed, sound⟩
  | blob call =>
    obtain ⟨course', follows', sound'⟩ := sound_blob apart collisionless ⟨depot.issued⟩ sound
      agreed (fun transfer same => whole transfer (congrArg Call.blob same))
    exact ⟨course', follows', sound'.later (Nat.le_succ _)⟩
  | descriptor call => exact sound_descriptor collisionless sound agreed
  | slots call =>
    cases course with
    | _ => exact agreed.elim

/-- Every turn leaves a depot sound. -/
theorem preserved_sound (apart : store.layout.Apart) (collisionless : store.Collisionless admits) :
    Team.Preserved (store.sharing admits) (fun _ : Source => .idle)
      (fun depot _ courses => store.SoundDepot admits depot courses) where
  answered := by
    intro depot log front course back call follows reply depot' sound agreed attempted
    have sound : store.SoundDepot admits depot (course :: (front ++ back)) :=
      sound_middle.1 sound
    rcases Depot.answered_cases attempted with ⟨transfer, rfl⟩ | ⟨whole, answered⟩
    · have step := sound_put apart sound agreed
      rw [attempted] at step
      obtain ⟨course', follows', sound'⟩ := step
      exact ⟨course', follows', sound_middle.2 sound'⟩
    · have step := sound_answer apart collisionless sound agreed whole
      rw [answered] at step
      obtain ⟨course', follows', sound'⟩ := step
      exact ⟨course', follows', sound_middle.2 sound'⟩
  ongoing := by
    intro depot log front course back call follows rest answer depot' sound agreed attempted
    have sound : store.SoundDepot admits depot (course :: (front ++ back)) :=
      sound_middle.1 sound
    obtain ⟨transfer, rfl⟩ := Depot.put_of_ongoing attempted
    have step := sound_put apart sound agreed
    rw [attempted] at step
    obtain ⟨course', agreed', sound'⟩ := step
    exact ⟨course', agreed', sound_middle.2 sound'⟩
  start := by
    intro depot log courses source sound
    have sound' : store.SoundDepot admits depot (.idle :: courses) :=
      ⟨sound.apart, sound.issued, sound.ingested, sound.blobs, sound.numbered, sound.registered,
        sound.only⟩
    exact sound'.perm (List.perm_append_singleton _ _).symm
  clock := fun _ sound => sound

/-! ### What there is in the end -/

/-- The numbers of owners that storing some content was answered with. -/
def answeredNumbers (store : ContentStore) (bytes : Bytes)
    (members : List ((_ : Source) × Operation (Except StoreError StoredContent))) : List Nat :=
  members.filterMap fun
    | ⟨source, .done (.ok stored)⟩ =>
      if store.limits.accepted? source = some bytes then some stored.refcount else none
    | _ => none

/-- All operations that have come to their results have shared equal contents. -/
structure Deduplicated (store : ContentStore) (depot : MemoryDepot)
    (members : List ((_ : Source) × Operation (Except StoreError StoredContent))) : Prop where
  /-- A stream is stored if it ends without an error and is not too large. -/
  created (source : Source) (stored : StoredContent) : ⟨source, .done (.ok stored)⟩ ∈ members →
    ∃ bytes, store.limits.accepted? source = some bytes ∧ stored.id = .ofBytes bytes ∧
      stored.descriptor = store.limits.descriptorOf bytes
  refused (source : Source) (error : StoreError) : ⟨source, .done (.error error)⟩ ∈ members →
    store.limits.accepted? source = none
  /-- As many operations as have stored some content were answered the numbers from one on, each
  of them once. -/
  numbered (bytes : Bytes) : (store.answeredNumbers bytes members).Perm
    (List.range' 1 (store.answeredNumbers bytes members).length)
  /-- Content that was stored has one descriptor, with all its owners. -/
  registered (id : ContentId) (holding : Holding) :
    depot.descriptors.get? id = some holding ↔ ∃ bytes, id = .ofBytes bytes ∧
      store.answeredNumbers bytes members ≠ [] ∧
      holding = ⟨store.limits.descriptorOf bytes, (store.answeredNumbers bytes members).length⟩
  /-- The blobs are the contents that were stored, where they belong. -/
  blobs (key : String) (bytes : Bytes) : depot.blobs.get? key = some bytes ↔
    key = store.objectKey (.ofBytes bytes) ∧ store.answeredNumbers bytes members ≠ []
  /-- Nothing is staged any more. -/
  unstaged (token : Token) : depot.blobs.get? (store.stagingKey token) = none

/-- The numbers that operations at their end were answered are those that were drawn. -/
lemma answeredNumbers_eq
    {members : List ((_ : Source) × Operation (Except StoreError StoredContent))}
    (settled : List.Forall₂ (fun member course => ∃ result, member.2 = .done result ∧
      store.Settles member.1 result course) members courses) (bytes : Bytes) :
    store.answeredNumbers bytes members = numbers bytes courses := by
  induction settled with
  | nil => rfl
  | @cons member course members courses settles rest ih =>
    obtain ⟨source, program⟩ := member
    obtain ⟨result, rfl, settles⟩ := settles
    unfold answeredNumbers numbers at ih ⊢
    rw [List.filterMap_cons, List.filterMap_cons, ih]
    cases result with
    | error error =>
      obtain ⟨-, token, rfl⟩ := settles
      rfl
    | ok stored =>
      obtain ⟨brought, accepted, -, -, rfl⟩ := settles
      simp only [accepted, Option.some.injEq, Course.number?]

/-- Where all operations have come to their results, the blobs are the contents of which an owner
has drawn a number. -/
lemma mem_blobs_iff_of_settled
    {members : List ((_ : Source) × Operation (Except StoreError StoredContent))}
    (settled : List.Forall₂ (fun member course => ∃ result, member.2 = .done result ∧
      store.Settles member.1 result course) members courses) (key : String) (bytes : Bytes) :
    (key, bytes) ∈ courses.flatMap (Course.blobs store) ↔
      key = store.objectKey (.ofBytes bytes) ∧ numbers bytes courses ≠ [] := by
  constructor
  · intro answers
    obtain ⟨course, member, answers⟩ := List.mem_flatMap.1 answers
    obtain ⟨_, -, result, -, settles⟩ := Team.exists_of_forall₂ settled.flip member
    cases result with
    | error error =>
      obtain ⟨-, token, rfl⟩ := settles
      contradiction
    | ok stored =>
      obtain ⟨brought, -, -, -, rfl⟩ := settles
      obtain ⟨rfl, rfl⟩ := Prod.mk.inj (List.mem_singleton.1 answers)
      refine ⟨rfl, List.ne_nil_of_mem (List.mem_filterMap.2 ⟨_, member, if_pos rfl⟩)⟩
  · rintro ⟨rfl, drawn⟩
    obtain ⟨number, drawn⟩ := List.exists_mem_of_ne_nil _ drawn
    exact mem_blobs_of_mem_numbers drawn

/-- Only content that has come in is numbered. -/
lemma Sound.ingests_of_numbers (sound : store.Sound admits supply contents courses)
    (drawn : numbers bytes courses ≠ []) : store.Ingests admits bytes := by
  obtain ⟨number, drawn⟩ := List.exists_mem_of_ne_nil _ drawn
  obtain ⟨course, member, drawn⟩ := List.mem_filterMap.1 drawn
  refine sound.ingested bytes (List.mem_filterMap.2 ⟨course, member, ?_⟩)
  cases course with
  | shared token shared number' =>
    obtain ⟨rfl, -⟩ := Option.ite_none_right_eq_some.1 drawn
    rfl
  | owning owned number' =>
    obtain ⟨rfl, -⟩ := Option.ite_none_right_eq_some.1 drawn
    rfl
  | _ => contradiction

lemma Sound.get?_eq_some_iff (sound : store.Sound admits supply contents courses) (id : ContentId)
    (holding : Holding) : contents.descriptors.get? id = some holding ↔
      ∃ bytes, id = .ofBytes bytes ∧ numbers bytes courses ≠ [] ∧
        holding = ⟨store.limits.descriptorOf bytes, (numbers bytes courses).length⟩ := by
  constructor
  · intro found
    obtain ⟨bytes, ingested, rfl⟩ := sound.only id holding found
    have registered := sound.registered bytes ingested
    cases drawn : numbers bytes courses with
    | nil =>
      rw [drawn] at registered
      exact absurd (found.symm.trans registered) nofun
    | cons number rest =>
      rw [drawn] at registered
      exact ⟨bytes, rfl, drawn ▸ List.cons_ne_nil _ _, by
        rw [drawn]; exact Option.some.inj (found.symm.trans registered)⟩
  · rintro ⟨bytes, rfl, drawn, rfl⟩
    have registered := sound.registered bytes (sound.ingests_of_numbers drawn)
    generalize numbers bytes courses = numbers at drawn registered ⊢
    cases numbers with
    | nil => contradiction
    | cons number rest => exact registered

/-- Streams come in side by side, item by item, and nothing is taken away. When all have come to
their ends, equal contents are stored once, and their owners have drawn the numbers from one on. -/
theorem creates_deduplicate {limits : IngestLimits} (now : Instant)
    (turns : List (Team.Turn Source))
    (collisionless : Collisionless { limits } fun source => .start source ∈ turns)
    (rest : (Team.play (create { limits }) ⟨MemoryDepot.vacant now, [], []⟩ turns).IsAtRest) :
    Deduplicated { limits }
      (Team.play (create { limits }) ⟨MemoryDepot.vacant now, [], []⟩ turns).depot
      (Team.play (create { limits }) ⟨MemoryDepot.vacant now, [], []⟩ turns).members := by
  have apart : KeyLayout.fanned.Apart := KeyLayout.fanned_apart
  have keeps (source : Source) (started : .start source ∈ turns) :
      (create { limits } source).Keeps (sharing { limits } fun source => .start source ∈ turns)
        (Settles { limits } source) .idle := shares_create started
  obtain ⟨courses, accords, sound⟩ := Team.exists_accords (preserved_sound apart collisionless)
    (MemoryDepot.vacant now) turns keeps (sound_vacant now)
  have settled := accords.settled rest
  generalize Team.play (create { limits }) ⟨MemoryDepot.vacant now, [], []⟩ turns = team
    at settled sound
  have drawn (bytes : Bytes) := answeredNumbers_eq settled bytes
  have blobs (key : String) (bytes : Bytes) : team.depot.blobs.get? key = some bytes ↔
      key = KeyLayout.fanned.objectKey (.ofBytes bytes) ∧
        answeredNumbers { limits } bytes team.members ≠ [] := by
    rw [drawn]
    exact (sound.blobs key bytes).trans (mem_blobs_iff_of_settled settled key bytes)
  have ended {member : (_ : Source) × Operation (Except StoreError StoredContent)}
      (member_mem : member ∈ team.members) : ∃ course result, member.2 = .done result ∧
        Settles { limits } member.1 result course := by
    obtain ⟨course, -, result, settles⟩ := Team.exists_of_forall₂ settled member_mem
    exact ⟨course, result, settles⟩
  refine ⟨?_, ?_, ?_, ?_, blobs, ?_⟩
  · intro source stored member
    obtain ⟨course, result, same, settles⟩ := ended member
    cases same
    obtain ⟨bytes, accepted, named, described, -⟩ := settles
    exact ⟨bytes, accepted, named, described⟩
  · intro source error member
    obtain ⟨course, result, same, settles⟩ := ended member
    cases same
    exact settles.1
  · intro bytes
    rw [drawn]
    by_cases none : numbers bytes courses = []
    · rw [none]
      exact List.Perm.nil
    · exact sound.numbered bytes (sound.ingests_of_numbers none)
  · intro id holding
    simp only [drawn]
    exact sound.get?_eq_some_iff id holding
  · intro token
    cases found : team.depot.blobs.get? (stagingKey { limits } token) with
    | none => rfl
    | some bytes => exact absurd ((blobs _ _).1 found).1 (apart.staging_ne_object _ _)

/-- Two streams of the same bytes and one of others come in together, and every operation makes an
attempt in every round. -/
theorem creates_deduplicate_three :
    Deduplicated {}
      (Team.play (create {}) ⟨MemoryDepot.vacant ⟨0, 0⟩, [], []⟩
        (.start (.ofBytes [120]) :: .start (.ofBytes [121]) :: .start (.ofBytes [120]) ::
          (List.replicate 12 [.advance 0, .advance 1, .advance 2]).flatten)).depot
      (Team.play (create {}) ⟨MemoryDepot.vacant ⟨0, 0⟩, [], []⟩
        (.start (.ofBytes [120]) :: .start (.ofBytes [121]) :: .start (.ofBytes [120]) ::
          (List.replicate 12 [.advance 0, .advance 1, .advance 2]).flatten)).members := by
  refine creates_deduplicate ⟨0, 0⟩ _ ?_ (by decide +kernel)
  refine collisionless_of_nodup [[120], [121]] ?_ (by decide +kernel)
  rintro bytes ⟨source, started, accepted⟩
  have one : source = .ofBytes [120] ∨ source = .ofBytes [121] := by
    simp at started
    tauto
  rcases one with rfl | rfl
  · obtain rfl : [120] = bytes := Option.some.inj accepted
    exact List.mem_cons_self
  · obtain rfl : [121] = bytes := Option.some.inj accepted
    exact List.mem_cons_of_mem _ List.mem_cons_self

end ContentStore

end AssetCache
