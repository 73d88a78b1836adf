import AssetCache.Blob.Key
import AssetCache.Token
import Mathlib.Tactic.Common

/-!
# Keys that stay apart

No key of a content store stands for two things. Different tokens have different texts, so no two
streams are staged under one key; objects that fan out over directories keep their identities in
their keys; and what is staged never lies where an object lies.
-/

namespace AssetCache

/-! ### Texts of tokens -/

namespace Token

/-- The value of a hexadecimal digit. -/
def hexValue (c : Char) : Nat :=
  if c.toNat < 58 then c.toNat - 48 else c.toNat - 87

/-- The number that some hexadecimal digits spell. -/
def hexNumber (digits : List Char) : Nat :=
  digits.foldl (fun value c => 16 * value + hexValue c) 0

lemma hexValue_digitChar {n : Nat} (h : n < 16) : hexValue (Nat.digitChar n) = n := by
  have all : ∀ n ∈ List.range 16, hexValue (Nat.digitChar n) = n := by decide
  exact all n (List.mem_range.2 h)

lemma hexNumber_concat (digits : List Char) (c : Char) :
    hexNumber (digits ++ [c]) = 16 * hexNumber digits + hexValue c := by
  simp [hexNumber]

lemma hexNumber_toDigits (n : Nat) : hexNumber (Nat.toDigits 16 n) = n := by
  induction n using Nat.strongRecOn with
  | ind n ih =>
    rw [Nat.toDigits_eq_if (by decide)]
    split
    · next h =>
      simp [hexNumber, hexValue_digitChar h]
    · next h =>
      rw [hexNumber_concat, ih (n / 16) (by omega), hexValue_digitChar (Nat.mod_lt n (by decide))]
      omega

lemma hexNumber_zeros (count : Nat) (digits : List Char) :
    hexNumber (List.replicate count '0' ++ digits) = hexNumber digits := by
  induction count with
  | zero => rfl
  | succ count ih =>
    rw [List.replicate_succ, List.cons_append]
    exact ih

lemma hexNumber_digits (token : Token) : hexNumber token.digits = token.number := by
  rw [digits, hexNumber_zeros, hexNumber_toDigits]

lemma length_digits (token : Token) : 30 ≤ token.digits.length := by
  simp only [digits, List.length_append, List.length_replicate]
  omega

/-- A text with a separator after its first characters, and with a way of writing the others. -/
def separated (size : Nat) (separator : Char) (write : List Char → List Char)
    (text : List Char) : List Char :=
  text.take size ++ separator :: write (text.drop size)

/-- Texts of some length and more are told apart by how they are written. -/
def TellsApart (length : Nat) (write : List Char → List Char) : Prop :=
  ∀ xs ys, length ≤ xs.length → length ≤ ys.length → write xs = write ys → xs = ys

lemma tellsApart_id : TellsApart 0 id := fun _ _ _ _ h => h

lemma TellsApart.separated {length : Nat} {write : List Char → List Char}
    (h : TellsApart length write) (size : Nat) (separator : Char) :
    TellsApart (size + length) (separated size separator write) := by
  intro xs ys hx hy same
  have lengths : (xs.take size).length = (ys.take size).length := by
    simp only [List.length_take]
    omega
  obtain ⟨front, back⟩ := List.append_inj same lengths
  have rest : xs.drop size = ys.drop size :=
    h _ _ (by rw [List.length_drop]; omega) (by rw [List.length_drop]; omega)
      (List.cons.inj back).2
  rw [← List.take_append_drop size xs, ← List.take_append_drop size ys, front, rest]

lemma marked_eq_separated (digits : List Char) :
    marked digits = separated 12 '4' (separated 3 '8' id) digits := by
  simp [marked, separated]

lemma toList_text (token : Token) :
    token.text.toList =
      separated 8 '-' (separated 4 '-' (separated 4 '-' (separated 4 '-' id)))
        (marked token.digits) := by
  simp [text, separated]

lemma length_marked (digits : List Char) (h : 30 ≤ digits.length) :
    32 ≤ (marked digits).length := by
  simp only [marked, List.length_append, List.length_cons, List.length_take, List.length_drop]
  omega

/-- No two tokens have the same text. -/
theorem text_injective : Function.Injective text := by
  intro s t same
  have long (token : Token) : 20 ≤ (marked token.digits).length :=
    Nat.le_trans (by decide) (length_marked _ token.length_digits)
  have texts : marked s.digits = marked t.digits := by
    apply ((((tellsApart_id.separated 4 '-').separated 4 '-').separated 4 '-').separated 8 '-')
      _ _ (long s) (long t)
    rw [← toList_text, ← toList_text, same]
  have digits : s.digits = t.digits := by
    apply (tellsApart_id.separated 3 '8').separated 12 '4' _ _
      (Nat.le_trans (by decide) s.length_digits) (Nat.le_trans (by decide) t.length_digits)
    rw [← marked_eq_separated, ← marked_eq_separated, texts]
  have numbers : s.number = t.number := by
    rw [← hexNumber_digits, ← hexNumber_digits, digits]
  cases s
  cases t
  exact congrArg Token.mk numbers

section

variable {p : Char → Bool} (digit : ∀ n < 16, p (Nat.digitChar n) = true)

include digit

lemma all_toDigits (n : Nat) : (Nat.toDigits 16 n).all p = true := by
  induction n using Nat.strongRecOn with
  | ind n ih =>
    rw [Nat.toDigits_eq_if (by decide)]
    split
    · next h =>
      simp [digit n h]
    · next h =>
      have last := digit _ (Nat.mod_lt n (show 16 > 0 by decide))
      simp [ih (n / 16) (by omega), last]

/-- What holds of every hexadecimal digit holds of all digits of a token. -/
lemma all_digits (token : Token) : token.digits.all p = true := by
  have zero : p '0' = true := digit 0 (by decide)
  rw [digits, List.all_append, all_toDigits digit, List.all_replicate]
  simp [zero]

end

lemma isAscii_digitChar (n : Nat) (h : n < 16) : isAscii (Nat.digitChar n) = true := by
  have all : ∀ n ∈ List.range 16, isAscii (Nat.digitChar n) = true := by decide
  exact all n (List.mem_range.2 h)

lemma all_separated {p : Char → Bool} {size : Nat} {separator : Char}
    {write : List Char → List Char} (hs : p separator = true)
    (hw : ∀ text : List Char, text.all p = true → (write text).all p = true)
    (text : List Char) (ht : text.all p = true) :
    (separated size separator write text).all p = true := by
  rw [← List.take_append_drop size text, List.all_append, Bool.and_eq_true] at ht
  rw [separated, List.all_append, List.all_cons, ht.1, hs, hw _ ht.2]
  rfl

/-- What holds of dashes and hexadecimal digits holds of all characters of a token. -/
lemma all_text {p : Char → Bool} (dash : p '-' = true)
    (digit : ∀ n < 16, p (Nat.digitChar n) = true) (token : Token) :
    token.text.toList.all p = true := by
  rw [toList_text, marked_eq_separated]
  apply all_separated dash
  · apply all_separated dash
    apply all_separated dash
    exact all_separated dash fun _ h => h
  · apply all_separated (digit 4 (by decide))
    · exact all_separated (digit 8 (by decide)) fun _ h => h
    · exact token.all_digits digit

/-- The text of a token has characters of a single byte only. -/
theorem all_isAscii_text (token : Token) : token.text.toList.all isAscii = true :=
  token.all_text (by decide) isAscii_digitChar

end Token

/-! ### Keys of objects and of staged content -/

namespace KeyLayout

lemma isFannedOut_iff (id : List Char) :
    isFannedOut id = true ↔ 4 < id.length ∧ id.all isAscii = true := by
  simp only [isFannedOut, Bool.and_eq_true, decide_eq_true_eq]

lemma length_fannedKey {id : List Char} (h : isFannedOut id = true) :
    (fannedKey id).length = id.length + 6 := by
  have long := ((isFannedOut_iff id).1 h).1
  simp only [fannedKey, h, if_true, List.length_append, List.length_cons, List.length_take,
    List.length_drop]
  omega

/-- The identity is the end of its own key. -/
lemma drop_fannedKey {id : List Char} (h : isFannedOut id = true) : (fannedKey id).drop 6 = id := by
  match id, ((isFannedOut_iff id).1 h).1 with
  | a :: b :: c :: d :: rest, _ => simp [fannedKey, h]

lemma getElem?_fannedKey {id : List Char} (h : isFannedOut id = true) :
    (fannedKey id)[2]? = some '/' := by
  match id, ((isFannedOut_iff id).1 h).1 with
  | a :: b :: c :: d :: rest, _ => simp [fannedKey, h]

/-- A key below directories has characters of a single byte only, as its identity has. -/
lemma isFannedOut_fannedKey {id : List Char} (h : isFannedOut id = true) :
    isFannedOut (fannedKey id) = true := by
  obtain ⟨long, ascii⟩ := (isFannedOut_iff id).1 h
  have slash : isAscii '/' = true := by decide
  refine (isFannedOut_iff _).2 ⟨?_, ?_⟩
  · rw [length_fannedKey h]
    omega
  · match id, long with
    | a :: b :: c :: d :: rest, _ =>
      simp only [List.all_cons, Bool.and_eq_true] at ascii
      simp [fannedKey, h, slash, ascii]

theorem fannedKey_injective : Function.Injective fannedKey := by
  intro a b same
  cases ha : isFannedOut a <;> cases hb : isFannedOut b
  · simpa [fannedKey, ha, hb] using same
  · have plain : fannedKey a = a := by simp [fannedKey, ha]
    rw [← plain, same, isFannedOut_fannedKey hb] at ha
    contradiction
  · have plain : fannedKey b = b := by simp [fannedKey, hb]
    rw [← plain, ← same, isFannedOut_fannedKey ha] at hb
    contradiction
  · rw [← drop_fannedKey ha, ← drop_fannedKey hb, same]

/-- A layout keeps its keys apart if no key stands for two things. -/
structure Apart (layout : KeyLayout) : Prop where
  object : Function.Injective layout.objectKey
  staging : Function.Injective fun token : Token => layout.stagingKey token.text
  staging_ne_object (token : Token) (id : ContentId) :
    layout.stagingKey token.text ≠ layout.objectKey id

theorem fanned_objectKey_injective : Function.Injective fanned.objectKey := by
  intro a b same
  have texts : a.text.toList = b.text.toList :=
    fannedKey_injective (String.ofList_injective same)
  cases a
  cases b
  exact congrArg ContentId.mk (String.toList_injective texts)

/-- Staged content lies in a directory of its own: where the directories of an object would start
there is no slash, and a key without directories is too short or has characters of several
bytes. -/
theorem fanned_stagingKey_ne_objectKey {token : String} (h : token.toList.all isAscii = true)
    (id : ContentId) : fanned.stagingKey token ≠ fanned.objectKey id := by
  intro same
  have chars : "__staging/".toList ++ token.toList = fannedKey id.text.toList := by
    have := congrArg String.toList same
    simpa [fanned] using this
  cases hid : isFannedOut id.text.toList
  · have plain : fannedKey id.text.toList = id.text.toList := by simp [fannedKey, hid]
    have fannedOut : isFannedOut ("__staging/".toList ++ token.toList) = true := by
      have front : "__staging/".toList.all isAscii = true := by decide
      have long : "__staging/".toList.length = 10 := by decide
      rw [isFannedOut_iff, List.length_append, List.all_append, front, h, long]
      exact ⟨by omega, rfl⟩
    rw [chars, plain, hid] at fannedOut
    contradiction
  · have third := getElem?_fannedKey hid
    rw [← chars] at third
    simp at third

theorem fanned_apart : fanned.Apart where
  object := fanned_objectKey_injective
  staging s t same := by
    have keys : "__staging/" ++ s.text = "__staging/" ++ t.text := same
    exact Token.text_injective ((String.append_right_inj _).1 keys)
  staging_ne_object token := fanned_stagingKey_ne_objectKey token.all_isAscii_text

end KeyLayout

end AssetCache
