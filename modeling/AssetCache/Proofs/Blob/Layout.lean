import AssetCache.Proofs.Digests
import AssetCache.Proofs.Keys
import AssetCache.Proofs.MediaType.Markup

/-!
# The layout of a store

Object keys that fan out and staging keys never collide, and no character of an identity is cut
where its first bytes become directories. Of the keys that a store comes to use, none names a
directory in which another one lies (`KeyLayout.fanned_never_collides`).
-/

namespace AssetCache

/-! ### Identities and tokens that are in use -/

/-- The digits of an identity. -/
def hashDigits : List Char :=
  "0123456789abcdef".toList

/-- The identity has the form of a hash: forty lowercase hexadecimal digits. -/
structure ContentId.IsHash (id : ContentId) : Prop where
  length_eq : id.text.toList.length = 40
  digit : ∀ c ∈ id.text.toList, c ∈ hashDigits

lemma length_digest (bytes : Bytes) : (Sha1.digest bytes).length = 20 := by
  simp [Sha1.digest, Sha1.Hasher.finish, Sha1.Hasher.bigEndian]

lemma mem_hashDigits_of_mem_hexPair {byte : UInt8} {c : Char} (among : c ∈ Bytes.hexPair byte) :
    c ∈ hashDigits := by
  have digit : ∀ n < 16, Bytes.hexDigit n ∈ hashDigits := by decide
  have small := byte.toNat_lt
  rcases List.mem_pair.1 among with rfl | rfl
  · exact digit _ (by omega)
  · exact digit _ (Nat.mod_lt _ (by decide))

/-- What content is stored under is a hash. -/
lemma ContentId.isHash_ofBytes (bytes : Bytes) : (ofBytes bytes).IsHash where
  length_eq := by
    rw [ofBytes, Sha1.hexDigest, Bytes.toHex, String.toList_ofList, Bytes.length_flatMap_hexPair,
      length_digest]
  digit c among := by
    rw [ofBytes, Sha1.hexDigest, Bytes.toHex, String.toList_ofList] at among
    obtain ⟨byte, _, among⟩ := List.mem_flatMap.1 among
    exact mem_hashDigits_of_mem_hexPair among

namespace KeyLayout

variable {id text : List Char} {key other : String} {size : Nat}

/-! ### Cutting at bytes -/

/-- What stands between two numbers of bytes in a text; none if a character is cut at either. -/
def slice? (text : List Char) (first last : Nat) : Option (List Char) := do
  let front ← Markup.takeBytes text first
  let whole ← Markup.takeBytes text last
  return whole.drop front.length

/-- The object key of an identity, where the two directories are cut out of it at bytes. -/
def slicedKey? (id : List Char) : Option (List Char) :=
  if 4 < Markup.byteSize id ∧ id.all isAscii = true then do
    return (← slice? id 0 2) ++ '/' :: (← slice? id 2 4) ++ '/' :: id
  else some id

lemma takeBytes_of_ascii (ascii : text.all isAscii = true) (long : size ≤ text.length) :
    Markup.takeBytes text size = some (text.take size) := by
  have front : (text.take size).all isAscii = true :=
    List.all_eq_true.2 fun c among => List.all_eq_true.1 ascii c (List.mem_of_mem_take among)
  rw [Markup.takeBytes_eq_some_iff, utf8Len_of_isAscii front, List.length_take,
    Nat.min_eq_left long]
  exact ⟨List.take_prefix size text, rfl⟩

lemma slice?_of_ascii {first last : Nat} (ascii : text.all isAscii = true) (order : first ≤ last)
    (long : last ≤ text.length) :
    slice? text first last = some ((text.drop first).take (last - first)) := by
  rw [slice?, takeBytes_of_ascii ascii (order.trans long), takeBytes_of_ascii ascii long]
  simp only [Option.bind_eq_bind, Option.bind_some, Option.pure_def, List.length_take,
    Nat.min_eq_left (order.trans long), List.drop_take]

/-- Where no character takes more than a byte, there are as many bytes as characters. -/
lemma isFannedOut_iff_byteSize (id : List Char) :
    isFannedOut id = true ↔ 4 < Markup.byteSize id ∧ id.all isAscii = true := by
  rw [isFannedOut_iff, Markup.byteSize_eq]
  refine and_congr_left fun ascii => ?_
  rw [utf8Len_of_isAscii ascii]

/-- No character of an identity is cut: its object key is found by cutting at bytes. -/
lemma slicedKey?_eq (id : List Char) : slicedKey? id = some (fannedKey id) := by
  rw [slicedKey?, fannedKey]
  by_cases out : isFannedOut id = true
  · obtain ⟨long, ascii⟩ := (isFannedOut_iff id).1 out
    have front := slice?_of_ascii ascii (show 0 ≤ 2 by decide) (show 2 ≤ id.length by omega)
    have next := slice?_of_ascii ascii (show 2 ≤ 4 by decide) (show 4 ≤ id.length by omega)
    rw [if_pos ((isFannedOut_iff_byteSize id).1 out), if_pos out, front, next]
    rfl
  · rw [if_neg (mt (isFannedOut_iff_byteSize id).2 out), if_neg out]

/-! ### Keys and directories -/

/-- A key lies below another one, when that is taken for a directory: it starts with the other key,
which ends at a slash. -/
def LiesBelow (key directory : String) : Prop :=
  ∃ rest, rest ≠ [] ∧ key.toList = directory.toList ++ rest ∧
    (directory.toList.getLast? = some '/' ∨ rest.head? = some '/')

/-- The keys of objects and of streams on their way into a store. -/
inductive IsInUse : String → Prop where
  | object {id : ContentId} : id.IsHash → IsInUse (fanned.objectKey id)
  | staging {token : String} : token ≠ "" → '/' ∉ token.toList → IsInUse (fanned.stagingKey token)

/-- The tokens of streams have no slash. -/
lemma isInUse_stagingKey (token : Token) : IsInUse (fanned.stagingKey token.text) := by
  apply IsInUse.staging
  · intro empty
    have dash : '-' ∈ token.text.toList := by
      rw [token.toList_text, Token.separated]
      exact List.mem_append_right _ List.mem_cons_self
    rw [empty] at dash
    contradiction
  · intro among
    have other := token.all_text (p := (· ≠ '/')) (by decide) (by decide)
    exact absurd rfl (of_decide_eq_true (List.all_eq_true.1 other '/' among))

lemma toList_objectKey (id : ContentId) :
    (fanned.objectKey id).toList = fannedKey id.text.toList :=
  String.toList_ofList

lemma toList_stagingKey (token : String) :
    (fanned.stagingKey token).toList = "__staging/".toList ++ token.toList :=
  String.toList_append

/-- An identity is the end of its key, and its first character the start. -/
lemma ends_fannedKey (id : List Char) :
    (fannedKey id).head? = id.head? ∧ (fannedKey id).getLast? = id.getLast? := by
  by_cases out : isFannedOut id = true
  · have long := ((isFannedOut_iff id).1 out).1
    have inhabited : id ≠ [] := List.ne_nil_of_length_pos (by omega)
    have front : id.take 2 ≠ [] := by simp [inhabited]
    rw [fannedKey, if_pos out]
    constructor
    · rw [List.append_assoc, List.head?_append_of_ne_nil _ front, List.head?_take,
        if_neg (by decide)]
    · rw [List.getLast?_append_of_ne_nil _ (List.cons_ne_nil _ _),
        List.getLast?_cons_of_ne_nil inhabited]
  · rw [fannedKey, if_neg out]
    exact ⟨rfl, rfl⟩

lemma slash_not_mem {id : ContentId} (hash : id.IsHash) : '/' ∉ id.text.toList := by
  intro among
  have other : '/' ∉ hashDigits := by decide
  exact other (hash.digit '/' among)

lemma isFannedOut_of_isHash {id : ContentId} (hash : id.IsHash) :
    isFannedOut id.text.toList = true := by
  have narrow : hashDigits.all isAscii = true := by decide
  rw [isFannedOut_iff, hash.length_eq, List.all_eq_true]
  exact ⟨by decide, fun c among => List.all_eq_true.1 narrow c (hash.digit c among)⟩

/-- An object lies two directories deep, whatever its hash. -/
lemma count_objectKey {id : ContentId} (hash : id.IsHash) :
    (fanned.objectKey id).toList.count '/' = 2 := by
  have none (part : List Char) (sub : part ⊆ id.text.toList) : part.count '/' = 0 :=
    List.count_eq_zero.2 fun among => slash_not_mem hash (sub among)
  have front := none (id.text.toList.take 2) (List.take_subset _ _)
  have next := none ((id.text.toList.drop 2).take 2)
    (List.Subset.trans (List.take_subset _ _) (List.drop_subset _ _))
  have whole := none id.text.toList (List.Subset.refl _)
  simp only [toList_objectKey, fannedKey, isFannedOut_of_isHash hash, if_true, List.count_append,
    List.count_cons_self, front, next, whole]

/-- A stream that comes in lies in the one directory for them. -/
lemma count_stagingKey {token : String} (flat : '/' ∉ token.toList) :
    (fanned.stagingKey token).toList.count '/' = 1 := by
  have front : "__staging/".toList.count '/' = 1 := by decide
  rw [toList_stagingKey, List.count_append, front, List.count_eq_zero.2 flat]

lemma IsInUse.getLast?_ne (used : IsInUse key) : key.toList.getLast? ≠ some '/' := by
  cases used with
  | @object id hash =>
    rw [toList_objectKey, (ends_fannedKey _).2]
    intro last
    exact slash_not_mem hash (List.mem_of_mem_getLast? last)
  | @staging token inhabited flat =>
    have inhabited' : token.toList ≠ [] := by
      rwa [ne_eq, String.toList_eq_nil_iff]
    rw [toList_stagingKey, List.getLast?_append_of_ne_nil _ inhabited']
    intro last
    exact flat (List.mem_of_mem_getLast? last)

/-- What lies below a key that is in use has a slash more. -/
lemma LiesBelow.count_lt (below : LiesBelow key other) (used : IsInUse other) :
    other.toList.count '/' < key.toList.count '/' := by
  obtain ⟨rest, _, whole, last | first⟩ := below
  · exact absurd last used.getLast?_ne
  · have slash : 0 < rest.count '/' := List.count_pos_iff.2 (List.mem_of_mem_head? first)
    rw [whole, List.count_append]
    omega

lemma not_liesBelow (used : IsInUse key) (used' : IsInUse other) : ¬LiesBelow key other := by
  intro below
  have deeper := below.count_lt used'
  cases used' with
  | object hash' =>
    rw [count_objectKey hash'] at deeper
    cases used with
    | object hash =>
      rw [count_objectKey hash] at deeper
      omega
    | staging _ flat =>
      rw [count_stagingKey flat] at deeper
      omega
  | staging _ flat' =>
    rw [count_stagingKey flat'] at deeper
    cases used with
    | staging _ flat =>
      rw [count_stagingKey flat] at deeper
      omega
    | @object id hash =>
      obtain ⟨rest, -, whole, -⟩ := below
      have first := congrArg List.head? whole
      rw [toList_objectKey, (ends_fannedKey _).1, toList_stagingKey] at first
      have other : '_' ∉ hashDigits := by decide
      exact other (hash.digit '_' (List.mem_of_mem_head? first))

/-- Keys that fan out never collide. Identities of any characters have keys of their own, none of
which is a staging key; finding the key cuts no character; and of the keys of hashes and of streams
on their way, none lies below another. -/
theorem fanned_never_collides :
    Function.Injective fanned.objectKey ∧
      (∀ (id : ContentId) (token : String), token.toList.all isAscii = true →
        fanned.objectKey id ≠ fanned.stagingKey token) ∧
      (∀ id : ContentId,
        (slicedKey? id.text.toList).map String.ofList = some (fanned.objectKey id)) ∧
      ∀ key other, IsInUse key → IsInUse other → ¬LiesBelow key other := by
  refine ⟨fanned_objectKey_injective, fun id token ascii => ?_, fun id => ?_,
    fun key other used used' => not_liesBelow used used'⟩
  · exact (fanned_stagingKey_ne_objectKey ascii id).symm
  · rw [slicedKey?_eq]
    rfl

/-- The key of some content and those of two streams. -/
theorem fanned_never_collides_content :
    let object := fanned.objectKey (.ofBytes [120])
    let first := fanned.stagingKey (Token.mk 1).text
    let second := fanned.stagingKey (Token.mk 2).text
    object ≠ first ∧ ¬LiesBelow object first ∧ ¬LiesBelow first object ∧
      ¬LiesBelow second first := by
  obtain ⟨-, apart, -, flat⟩ := fanned_never_collides
  have object := IsInUse.object (ContentId.isHash_ofBytes [120])
  have first := isInUse_stagingKey ⟨1⟩
  have second := isInUse_stagingKey ⟨2⟩
  exact ⟨apart _ _ (Token.all_isAscii_text ⟨1⟩), flat _ _ object first, flat _ _ first object,
    flat _ _ second first⟩

end KeyLayout

end AssetCache
