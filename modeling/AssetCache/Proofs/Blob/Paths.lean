import AssetCache.Blob.Path
import AssetCache.Proofs.Keys
import Mathlib.Data.List.TakeWhile
import Mathlib.Data.String.Basic
import Mathlib.Tactic.Common

/-!
# Paths of plain names

Where every piece of a path is a plain name, the path says what it seems to say: each piece leads
one directory down, the parent is the path without its last name, and the temporary file for the
last name lies beside it. Only a name of two dots and a text without a dot has no temporary file
(`FilePath.temporaryName_eq_upward_iff`).
-/

namespace AssetCache

/-! ### Texts that are cut -/

lemma cut_ne_nil (mark : Char) (text : List Char) : cut mark text ≠ [] := by
  fun_cases cut mark text <;> simp

/-- A text that was cut is put together again. -/
lemma intercalate_cut (mark : Char) (text : List Char) :
    [mark].intercalate (cut mark text) = text := by
  fun_induction cut mark text with
  | case1 => rfl
  | case2 rest ih =>
    rw [List.intercalate_cons_of_ne_nil (cut_ne_nil mark rest), ih]
    rfl
  | case3 c rest _ none _ => exact absurd none (cut_ne_nil mark rest)
  | case4 c rest _ piece more some ih =>
    rw [List.intercalate_cons_cons_left, ← some, ih]

/-! ### Texts of tokens -/

lemma utf8Len_of_isAscii {text : List Char} (ascii : text.all isAscii = true) :
    String.utf8Len text = text.length := by
  induction text with
  | nil => rfl
  | cons c rest ih =>
    rw [List.all_cons, Bool.and_eq_true] at ascii
    have single : c.utf8Size = 1 := by
      rw [Char.utf8Size_eq_one_iff]
      have small : c.val.toNat < 128 := by simpa [isAscii] using ascii.1
      exact UInt32.le_iff_toNat_le.2 (Nat.le_of_lt_succ small)
    rw [String.utf8Len_cons, ih ascii.2, single, List.length_cons]

namespace Token

/-- Whether the number of a token fits into a random identifier. -/
def Fits (token : Token) : Prop :=
  token.number < 16 ^ 30

instance (token : Token) : Decidable token.Fits :=
  inferInstanceAs (Decidable (_ < _))

lemma all_plainText {p : Char → Bool} (digit : ∀ n < 16, p (Nat.digitChar n) = true)
    (token : Token) : token.plainText.toList.all p = true := by
  rw [plainText, String.toList_ofList, marked_eq_separated]
  apply all_separated (digit 4 (by decide))
  · exact all_separated (digit 8 (by decide)) fun _ h => h
  · exact token.all_digits digit

lemma utf8ByteSize_plainText (token : Token) :
    token.plainText.utf8ByteSize = (marked token.digits).length := by
  have ascii := token.all_plainText isAscii_digitChar
  rw [plainText, String.toList_ofList] at ascii
  rw [plainText, String.utf8ByteSize_ofList, utf8Len_of_isAscii ascii]

lemma Fits.utf8ByteSize_plainText {token : Token} (fits : token.Fits) :
    token.plainText.utf8ByteSize = 32 := by
  have digits : (Nat.toDigits 16 token.number).length ≤ 30 :=
    (Nat.length_toDigits_le_iff (by decide) (by decide)).2 fits
  have whole : token.digits.length = 30 := by
    simp only [Token.digits, List.length_append, List.length_replicate]
    omega
  rw [Token.utf8ByteSize_plainText]
  simp only [marked, List.length_append, List.length_cons, List.length_take, List.length_drop,
    whole]
  omega

end Token

namespace FilePath

theorem ofText_injective : Function.Injective ofText := by
  intro text text' same
  have pieces : cut '/' text.toList = cut '/' text'.toList :=
    List.map_injective_iff.2 (fun _ _ => String.ofList_injective) (FilePath.mk.inj same)
  apply String.toList_injective
  rw [← intercalate_cut '/' text.toList, pieces, intercalate_cut]

lemma pieces_ofText_ne_nil (text : String) : (ofText text).pieces ≠ [] := by
  simp [ofText, cut_ne_nil]

/-! ### Plain names -/

/-- A piece that leads to what has this name, in the directory in which it is read. -/
structure IsPlain (piece : String) : Prop where
  busy : isIdle piece = false
  down : piece ≠ upward
  whole : isBroken piece = false
  short : isLong piece = false

variable {piece name : String} {pieces above base : List String} {depth : Nat}

instance (piece : String) : Decidable (IsPlain piece) :=
  decidable_of_iff
    (isIdle piece = false ∧ piece ≠ upward ∧ isBroken piece = false ∧ isLong piece = false)
    ⟨fun ⟨busy, down, whole, short⟩ => ⟨busy, down, whole, short⟩,
      fun ⟨busy, down, whole, short⟩ => ⟨busy, down, whole, short⟩⟩

lemma IsPlain.ne_empty (plain : IsPlain piece) : piece ≠ "" := by
  rintro rfl
  exact absurd plain.busy (by decide)

lemma backward_of_plain (plain : ∀ piece ∈ pieces, IsPlain piece) :
    backward ⟨pieces⟩ = pieces.reverse := by
  unfold backward
  rw [List.dropWhile_eq_self_iff]
  intro inhabited idle
  have busy := (plain _ (List.mem_reverse.1 (List.getElem_mem inhabited))).busy
  rw [idle] at busy
  cases busy

lemma parent_of_plain (plain : ∀ piece ∈ pieces, IsPlain piece) :
    parent ⟨pieces⟩ = ⟨pieces.dropLast⟩ := by
  have before : ∀ piece ∈ pieces.dropLast, IsPlain piece := fun piece among =>
    plain piece (List.dropLast_subset pieces among)
  have shorter : pieces.reverse.drop 1 = pieces.dropLast.reverse := by simp
  have front := backward_of_plain before
  rw [backward] at front
  rw [parent, backward_of_plain plain, shorter, front, List.reverse_reverse]

lemma join_of_plain (plain : ∀ piece ∈ base, IsPlain piece) (path : FilePath) :
    join ⟨base⟩ path = ⟨base ++ path.pieces⟩ := by
  rw [join, if_neg]
  intro slash
  exact (plain "" (List.mem_of_getLast? slash)).ne_empty rfl

/-- A key whose path has plain names only is taken as that path. -/
lemma ofKey?_of_plain {key : String} (plain : ∀ piece ∈ (ofText key).pieces, IsPlain piece) :
    ofKey? key = some (ofText key) := by
  rw [ofKey?, if_pos]
  obtain ⟨first, rest, split⟩ := List.exists_cons_of_ne_nil (pieces_ofText_ne_nil key)
  have busy := (plain first (split ▸ List.mem_cons_self)).busy
  have down : upward ∉ (ofText key).pieces := fun among => (plain upward among).down rfl
  simp only [staysBelow, Bool.and_eq_true, Bool.not_eq_true', List.contains_eq_mem,
    decide_eq_false_iff_not]
  refine ⟨?_, down⟩
  simp [split, busy]

lemma ofKey_of_plain {key : String} (plain : ∀ piece ∈ (ofText key).pieces, IsPlain piece) :
    ofKey key = .ok (ofText key) := by
  rw [ofKey, ofKey?_of_plain plain]

lemma hasBroken_of_plain (plain : ∀ piece ∈ pieces, IsPlain piece) :
    hasBroken ⟨pieces⟩ = false := by
  simp only [hasBroken, List.any_eq_false, Bool.not_eq_true]
  intro piece among
  exact (plain piece among).whole

lemma hasBroken_concat (plain : ∀ piece ∈ above, IsPlain piece) (whole : isBroken name = false) :
    hasBroken ⟨above ++ [name]⟩ = false := by
  have front := hasBroken_of_plain plain
  rw [hasBroken] at front ⊢
  simp [List.any_append, front, whole]

/-! ### Lengths -/

lemma length_append (depth : Nat) (front back : List String) :
    length depth ⟨front ++ back⟩ = length (length depth ⟨front⟩) ⟨back⟩ := by
  simp only [length, List.foldl_append]

lemma length_singleton (depth : Nat) (name : String) :
    length depth ⟨[name]⟩ = depth + 1 + name.utf8ByteSize := rfl

lemma le_length (depth : Nat) (pieces : List String) : depth ≤ length depth ⟨pieces⟩ := by
  induction pieces generalizing depth with
  | nil => exact Nat.le_refl depth
  | cons piece rest ih =>
    calc depth
      _ ≤ depth + 1 + piece.utf8ByteSize := by omega
      _ ≤ length depth ⟨piece :: rest⟩ := ih _

/-- A path is as long as any path that it starts with, or longer. -/
lemma length_mono {front whole : List String} (start : front <+: whole) :
    length depth ⟨front⟩ ≤ length depth ⟨whole⟩ := by
  obtain ⟨back, rfl⟩ := start
  rw [length_append]
  exact le_length _ back

/-! ### Names of temporary files -/

/-- A text, cut before the last characters of some kind. -/
lemma reverse_dropWhile_append (p : Char → Bool) (text : List Char) :
    (text.reverse.dropWhile p).reverse ++ (text.reverse.takeWhile p).reverse = text := by
  rw [← List.reverse_append, List.takeWhile_append_dropWhile, List.reverse_reverse]

lemma prefix_stem (name : List Char) : stem name <+: name := by
  have parts := reverse_dropWhile_append (· ≠ '.') name
  unfold stem
  split
  · exact List.prefix_rfl
  · exact List.prefix_rfl
  · next dot before _ split =>
    rw [split, List.reverse_cons, List.append_assoc] at parts
    exact ⟨_, parts⟩

/-- The stem of a name is a single dot where the name is two dots and a text without a dot. -/
lemma stem_eq_dot_iff {name : List Char} (named : name ≠ ['.']) :
    stem name = ['.'] ↔ ∃ rest, '.' ∉ rest ∧ name = '.' :: '.' :: rest := by
  constructor
  · intro dot
    have parts := reverse_dropWhile_append (· ≠ '.') name
    unfold stem at dot
    split at dot
    · exact absurd dot named
    · exact absurd dot named
    · next last before _ split =>
      obtain rfl : before = ['.'] := List.reverse_injective dot
      have first := List.head?_dropWhile_not (· ≠ '.') name.reverse
      rw [split] at first parts
      obtain rfl : last = '.' := by simpa using first
      refine ⟨(name.reverse.takeWhile (· ≠ '.')).reverse, ?_, parts.symm⟩
      rw [List.mem_reverse]
      intro among
      simpa using List.mem_takeWhile_imp among
  · rintro ⟨rest, dotless, rfl⟩
    have cutOff : ('.' :: '.' :: rest).reverse.dropWhile (· ≠ '.') = ['.', '.'] := by
      rw [List.reverse_cons, List.reverse_cons, List.append_assoc]
      rw [List.dropWhile_append_of_pos]
      · rfl
      · intro c among
        have : c ≠ '.' := by
          rintro rfl
          exact dotless (List.mem_reverse.1 among)
        simpa using this
    unfold stem
    rw [cutOff]
    rfl

lemma temporaryName_eq (stemmed : stem name.toList ≠ ['.']) (token : Token) :
    temporaryName name true token =
      String.ofList (stem name.toList) ++ "." ++ token.plainText ++ ".tmp" := by
  simp [temporaryName, stemmed]

lemma utf8ByteSize_temporaryName (stemmed : stem name.toList ≠ ['.']) (token : Token) :
    (temporaryName name true token).utf8ByteSize =
      String.utf8Len (stem name.toList) + token.plainText.utf8ByteSize + 5 := by
  have ending : ".tmp".utf8ByteSize = 4 := by decide
  have dot : ".".utf8ByteSize = 1 := by decide
  rw [temporaryName_eq stemmed]
  simp only [String.utf8ByteSize_append, String.utf8ByteSize_ofList, ending, dot]
  omega

/-- A name has no temporary file beside it if and only if it is two dots and a text without a
dot: cut off at its last dot, it would lead back up. -/
theorem temporaryName_eq_upward_iff (plain : IsPlain name) (token : Token) :
    temporaryName name true token = upward ↔
      ∃ rest, '.' ∉ rest ∧ name.toList = '.' :: '.' :: rest := by
  have named : name.toList ≠ ['.'] := by
    intro dot
    have idle := plain.busy
    obtain rfl : name = "." := String.toList_injective dot
    exact absurd idle (by decide)
  rw [← stem_eq_dot_iff named]
  constructor
  · intro up
    by_contra stemmed
    have size := utf8ByteSize_temporaryName stemmed token
    have two : upward.utf8ByteSize = 2 := by decide
    rw [up, two] at size
    omega
  · intro stemmed
    simp [temporaryName, stemmed]

lemma utf8Len_stem_le (name : String) :
    String.utf8Len (stem name.toList) ≤ name.utf8ByteSize := by
  obtain ⟨rest, whole⟩ := prefix_stem name.toList
  calc String.utf8Len (stem name.toList)
    _ ≤ String.utf8Len (stem name.toList ++ rest) := by rw [String.utf8Len_append]; omega
    _ = name.utf8ByteSize := by rw [whole, ← String.utf8ByteSize_ofList, String.ofList_toList]

lemma isBroken_temporaryName (plain : IsPlain name) (token : Token) :
    isBroken (temporaryName name true token) = false := by
  by_cases stemmed : stem name.toList = ['.']
  · have up : temporaryName name true token = upward := by simp [temporaryName, stemmed]
    rw [up]
    decide
  have front : '\x00' ∉ stem name.toList := by
    intro among
    have whole := plain.whole
    rw [isBroken, List.contains_eq_mem, decide_eq_false_iff_not] at whole
    exact whole ((prefix_stem _).subset among)
  have digits : '\x00' ∉ token.plainText.toList := by
    intro among
    have all := token.all_plainText (p := (· != '\x00')) (by decide)
    simpa using List.all_eq_true.1 all _ among
  rw [temporaryName_eq stemmed, isBroken, List.contains_eq_mem, decide_eq_false_iff_not]
  simp only [String.toList_append, String.toList_ofList, List.mem_append, not_or]
  exact ⟨⟨⟨front, by decide⟩, digits⟩, by decide⟩

/-- The name of a temporary file is plain, if there is one. -/
lemma isPlain_temporaryName {token : Token} (plain : IsPlain name) (fits : token.Fits)
    (short : name.utf8ByteSize ≤ 200) (other : temporaryName name true token ≠ upward) :
    IsPlain (temporaryName name true token) := by
  have stemmed : stem name.toList ≠ ['.'] := by
    intro stemmed
    exact other (by simp [temporaryName, stemmed])
  have size := utf8ByteSize_temporaryName stemmed token
  rw [fits.utf8ByteSize_plainText] at size
  have cut := utf8Len_stem_le name
  refine ⟨?_, other, isBroken_temporaryName plain token, ?_⟩
  · have empty : "".utf8ByteSize = 0 := by decide
    have dot : ".".utf8ByteSize = 1 := by decide
    simp only [isIdle, Bool.or_eq_false_iff, decide_eq_false_iff_not]
    constructor
    · intro same
      rw [same, empty] at size
      omega
    · intro same
      rw [same, dot] at size
      omega
  · rw [isLong, decide_eq_false_iff_not, nameLimit]
    omega

/-- Names of temporary files differ in their tokens, not in their lengths. -/
lemma utf8ByteSize_temporaryName_congr {token token' : Token} (name : String) (fits : token.Fits)
    (fits' : token'.Fits) :
    (temporaryName name true token).utf8ByteSize =
      (temporaryName name true token').utf8ByteSize := by
  by_cases stemmed : stem name.toList = ['.']
  · simp [temporaryName, stemmed]
  · rw [utf8ByteSize_temporaryName stemmed, utf8ByteSize_temporaryName stemmed,
      fits.utf8ByteSize_plainText, fits'.utf8ByteSize_plainText]

/-- The temporary file lies beside what it is for. -/
lemma temporary_concat (plain : ∀ piece ∈ above ++ [name], IsPlain piece) (token : Token) :
    temporary ⟨above ++ [name]⟩ token = ⟨above ++ [temporaryName name true token]⟩ := by
  have back := backward_of_plain plain
  rw [List.reverse_append] at back
  simp [temporary, back]

end FilePath

end AssetCache
