import AssetCache.Text.Utf8
import Mathlib.Data.List.Infix
import Mathlib.Tactic.Common

/-!
# Reading and writing UTF-8

What is read as a character is what a character is written as, and what is read as the start of a
character is what one starts with (`Text.Utf8.front_eq_char_iff`, `Text.Utf8.front_eq_cutOff_iff`).
So the bytes that are read as a text are those of the text, and after them, if anything, the start
of one more character (`Text.Utf8.lenient_eq_some_iff`).
-/

namespace AssetCache.Text.Utf8

variable {first byte : UInt8} {others rest bytes bytes' : Bytes} {c : Char} {text : List Char}
  {count : Nat}

/-! ### The numbers of bytes -/

/-- How many bytes follow a first byte, by its number. -/
inductive Opens : Nat → Nat → Prop
  | single {n : Nat} : n < 0x80 → Opens n 0
  | double {n : Nat} : 0xC2 ≤ n → n < 0xE0 → Opens n 1
  | triple {n : Nat} : 0xE0 ≤ n → n < 0xF0 → Opens n 2
  | quadruple {n : Nat} : 0xF0 ≤ n → n < 0xF5 → Opens n 3

lemma following_eq_some_iff : following first = some count ↔ Opens first.toNat count := by
  simp only [following, UInt8.lt_iff_toNat_lt, UInt8.reduceToNat]
  constructor
  · intro start
    split_ifs at start with one none two three four <;> cases start
    · exact .single one
    · exact .double (Nat.not_lt.1 none) two
    · exact .triple (Nat.not_lt.1 two) three
    · exact .quadruple (Nat.not_lt.1 three) four
  · intro opens
    cases opens <;> split_ifs <;> first | rfl | omega

/-- The number of a byte that continues a character. -/
def IsTail (byte : Nat) : Prop :=
  0x80 ≤ byte ∧ byte < 0xC0

/-- The numbers of a first and a second byte. -/
def Follows (first byte : Nat) : Prop :=
  IsTail byte ∧ (first = 0xE0 → 0xA0 ≤ byte) ∧ (first = 0xED → byte < 0xA0) ∧
    (first = 0xF0 → 0x90 ≤ byte) ∧ (first = 0xF4 → byte < 0x90)

lemma isContinuation_iff : isContinuation byte = true ↔ IsTail byte.toNat := by
  simp [isContinuation, IsTail, UInt8.le_iff_toNat_le, UInt8.lt_iff_toNat_lt]

lemma toNat_second (first : UInt8) :
    ((second first).1.toNat, (second first).2.toNat) =
      if first.toNat = 0xE0 then (0xA0, 0xBF)
      else if first.toNat = 0xED then (0x80, 0x9F)
      else if first.toNat = 0xF0 then (0x90, 0xBF)
      else if first.toNat = 0xF4 then (0x80, 0x8F)
      else (0x80, 0xBF) := by
  simp only [second, ← UInt8.toNat_inj, UInt8.reduceToNat]
  split_ifs <;> rfl

/-- Whether some bytes can follow a first one, as far as they go. -/
def continues (first : UInt8) (others : Bytes) : Bool :=
  (others.take 1).all (fun byte => (second first).1 ≤ byte && byte ≤ (second first).2) &&
    (others.drop 1).all isContinuation

lemma continues_cons :
    continues first (byte :: others) = true ↔
      Follows first.toNat byte.toNat ∧ ∀ other ∈ others, IsTail other.toNat := by
  have range := toNat_second first
  simp only [continues, List.take_succ_cons, List.take_zero, List.all_cons, List.all_nil,
    Bool.and_true, List.drop_succ_cons, List.drop_zero, Bool.and_eq_true, decide_eq_true_eq,
    List.all_eq_true, isContinuation_iff, UInt8.le_iff_toNat_le]
  refine and_congr_left fun _ => ?_
  unfold Follows IsTail
  split_ifs at range <;> (simp only [Prod.mk.injEq] at range; omega)

/-! ### The bytes of a character -/

lemma toNat_ofNat {n : Nat} (valid : n.isValidChar) : (Char.ofNat n).toNat = n := by
  rw [Char.ofNat, dif_pos valid]
  rfl

lemma map_toNat_injective (same : bytes.map UInt8.toNat = bytes'.map UInt8.toNat) :
    bytes = bytes' :=
  List.map_injective_iff.2 (fun _ _ => UInt8.toNat_inj.1) same

lemma map_toNat_encodeChar (c : Char) :
    (encodeChar c).map UInt8.toNat =
      if c.toNat < 0x80 then [c.toNat]
      else if c.toNat < 0x800 then [0xC0 + c.toNat / 0x40, 0x80 + c.toNat % 0x40]
      else if c.toNat < 0x10000 then
        [0xE0 + c.toNat / 0x1000, 0x80 + c.toNat / 0x40 % 0x40, 0x80 + c.toNat % 0x40]
      else
        [0xF0 + c.toNat / 0x40000, 0x80 + c.toNat / 0x1000 % 0x40, 0x80 + c.toNat / 0x40 % 0x40,
          0x80 + c.toNat % 0x40] := by
  have valid : c.toNat.isValidChar := c.valid
  have byte {n : Nat} (small : n < 256) : n.toUInt8.toNat = n := UInt8.toNat_ofNat_of_lt small
  unfold Nat.isValidChar at valid
  simp only [encodeChar]
  split_ifs <;> simp only [List.map_cons, List.map_nil] <;> (repeat rw [byte (by omega)])

/-- Characters are written as the standard library writes them. -/
lemma encodeChar_eq (c : Char) : encodeChar c = String.utf8EncodeChar c := by
  have valid : c.toNat.isValidChar := c.valid
  have number : c.val.toNat = c.toNat := rfl
  unfold Nat.isValidChar at valid
  apply map_toNat_injective
  simp only [map_toNat_encodeChar, String.utf8EncodeChar, number, Nat.le_iff_lt_add_one,
    Nat.reduceAdd]
  split_ifs
  all_goals simp only [List.map_cons, List.map_nil, UInt8.toNat_ofNat', List.cons.injEq, and_true]
  all_goals omega

lemma encode_eq (text : List Char) : encode text = text.flatMap String.utf8EncodeChar := by
  simp only [encode, funext encodeChar_eq]

lemma number_one (first second : UInt8) :
    number first [second] = first.toNat % 0x20 * 0x40 + second.toNat % 0x40 := rfl

lemma number_two (first second third : UInt8) :
    number first [second, third] =
      (first.toNat % 0x10 * 0x40 + second.toNat % 0x40) * 0x40 + third.toNat % 0x40 := rfl

lemma number_three (first second third fourth : UInt8) :
    number first [second, third, fourth] =
      ((first.toNat % 0x08 * 0x40 + second.toNat % 0x40) * 0x40 + third.toNat % 0x40) * 0x40 +
        fourth.toNat % 0x40 := rfl

/-- Bytes that continue a first one, as many as have to follow it, spell a character. -/
lemma encodeChar_number (start : following first = some others.length)
    (fits : continues first others = true) :
    (number first others).isValidChar ∧
      encodeChar (Char.ofNat (number first others)) = first :: others := by
  suffices whole : (number first others).isValidChar ∧ ((number first others).isValidChar →
      (encodeChar (Char.ofNat (number first others))).map UInt8.toNat =
        (first :: others).map UInt8.toNat) from
    ⟨whole.1, map_toNat_injective (whole.2 whole.1)⟩
  rw [following_eq_some_iff] at start
  generalize size : others.length = count at start
  match others, size with
  | [], rfl =>
    cases start with
    | single small =>
      have spelt : number first [] = first.toNat := rfl
      refine ⟨Or.inl (by omega), fun valid => ?_⟩
      rw [map_toNat_encodeChar, toNat_ofNat valid, spelt, if_pos small]
      rfl
  | [second], rfl =>
    cases start with
    | double =>
      obtain ⟨follows, -⟩ := continues_cons.1 fits
      unfold Follows IsTail at follows
      rw [number_one]
      refine ⟨Or.inl (by omega), fun valid => ?_⟩
      rw [map_toNat_encodeChar, toNat_ofNat valid, if_neg (by omega), if_pos (by omega)]
      simp only [List.map_cons, List.map_nil, List.cons.injEq, and_true]
      omega
  | [second, third], rfl =>
    cases start with
    | triple =>
      obtain ⟨follows, tail⟩ := continues_cons.1 fits
      rw [List.forall_mem_singleton] at tail
      unfold Follows IsTail at *
      rw [number_two]
      refine ⟨by unfold Nat.isValidChar; omega, fun valid => ?_⟩
      rw [map_toNat_encodeChar, toNat_ofNat valid, if_neg (by omega), if_neg (by omega),
        if_pos (by omega)]
      simp only [List.map_cons, List.map_nil, List.cons.injEq, and_true]
      omega
  | [second, third, fourth], rfl =>
    cases start with
    | quadruple =>
      obtain ⟨follows, tail⟩ := continues_cons.1 fits
      rw [List.forall_mem_cons, List.forall_mem_singleton] at tail
      unfold Follows IsTail at *
      rw [number_three]
      refine ⟨by unfold Nat.isValidChar; omega, fun valid => ?_⟩
      rw [map_toNat_encodeChar, toNat_ofNat valid, if_neg (by omega), if_neg (by omega),
        if_neg (by omega)]
      simp only [List.map_cons, List.map_nil, List.cons.injEq, and_true]
      omega
  | _ :: _ :: _ :: _ :: _, rfl => cases start

/-- The bytes of a character: a first one, and as many as have to follow it. -/
lemma exists_encodeChar_eq_cons (c : Char) :
    ∃ first others, encodeChar c = first :: others ∧ following first = some others.length ∧
      continues first others = true ∧ number first others = c.toNat := by
  have valid : c.toNat.isValidChar := c.valid
  have numbers := map_toNat_encodeChar c
  unfold Nat.isValidChar at valid
  split_ifs at numbers with one two three
  · obtain ⟨first, _, split, number₀, rest⟩ := List.map_eq_cons_iff.1 numbers
    obtain rfl := List.map_eq_nil_iff.1 rest
    refine ⟨first, [], split, following_eq_some_iff.2 ?_, rfl, number₀⟩
    rw [number₀]
    exact .single one
  · obtain ⟨first, _, split, number₀, rest⟩ := List.map_eq_cons_iff.1 numbers
    obtain ⟨second, _, rfl, number₁, rest⟩ := List.map_eq_cons_iff.1 rest
    obtain rfl := List.map_eq_nil_iff.1 rest
    refine ⟨first, [second], split, following_eq_some_iff.2 ?_, continues_cons.2 ⟨?_, by simp⟩, ?_⟩
    · rw [number₀]
      exact .double (by omega) (by omega)
    · unfold Follows IsTail
      omega
    · rw [number_one]
      omega
  · obtain ⟨first, _, split, number₀, rest⟩ := List.map_eq_cons_iff.1 numbers
    obtain ⟨second, _, rfl, number₁, rest⟩ := List.map_eq_cons_iff.1 rest
    obtain ⟨third, _, rfl, number₂, rest⟩ := List.map_eq_cons_iff.1 rest
    obtain rfl := List.map_eq_nil_iff.1 rest
    refine ⟨first, [second, third], split, following_eq_some_iff.2 ?_,
      continues_cons.2 ⟨?_, ?_⟩, ?_⟩
    · rw [number₀]
      exact .triple (by omega) (by omega)
    · unfold Follows IsTail
      omega
    · rw [List.forall_mem_singleton, IsTail]
      omega
    · rw [number_two]
      omega
  · obtain ⟨first, _, split, number₀, rest⟩ := List.map_eq_cons_iff.1 numbers
    obtain ⟨second, _, rfl, number₁, rest⟩ := List.map_eq_cons_iff.1 rest
    obtain ⟨third, _, rfl, number₂, rest⟩ := List.map_eq_cons_iff.1 rest
    obtain ⟨fourth, _, rfl, number₃, rest⟩ := List.map_eq_cons_iff.1 rest
    obtain rfl := List.map_eq_nil_iff.1 rest
    refine ⟨first, [second, third, fourth], split, following_eq_some_iff.2 ?_,
      continues_cons.2 ⟨?_, ?_⟩, ?_⟩
    · rw [number₀]
      exact .quadruple (by omega) (by omega)
    · unfold Follows IsTail
      omega
    · rw [List.forall_mem_cons, List.forall_mem_singleton, IsTail, IsTail]
      omega
    · rw [number_three]
      omega

lemma encodeChar_ne_nil (c : Char) : encodeChar c ≠ [] := by
  obtain ⟨first, others, split, -⟩ := exists_encodeChar_eq_cons c
  simp [split]

lemma length_encodeChar_le (c : Char) : (encodeChar c).length ≤ 4 := by
  rw [← List.length_map UInt8.toNat, map_toNat_encodeChar]
  split_ifs <;> simp

/-- The start of a character whose end is missing. -/
def IsCut (bytes : Bytes) : Prop :=
  bytes ≠ [] ∧ ∃ c, bytes <+: encodeChar c ∧ bytes ≠ encodeChar c

lemma isCut_take {n : Nat} (inhabited : n ≠ 0) (short : n < (encodeChar c).length) :
    IsCut ((encodeChar c).take n) := by
  have size : ((encodeChar c).take n).length = n := List.length_take_of_le (Nat.le_of_lt short)
  refine ⟨?_, c, List.take_prefix n _, ?_⟩
  · intro none
    rw [none] at size
    exact inhabited size.symm
  · intro same
    rw [same] at size
    omega

lemma IsCut.take {n : Nat} (cut : IsCut bytes) (inhabited : n ≠ 0) : IsCut (bytes.take n) := by
  obtain ⟨named, c, start, different⟩ := cut
  refine ⟨by simp [inhabited, named], c, (List.take_prefix n _).trans start, ?_⟩
  intro same
  have whole : encodeChar c <+: bytes := same ▸ List.take_prefix n bytes
  exact different (start.eq_of_length_le whole.length_le)

/-! ### What stands at the front of some bytes -/

lemma front_cons (start : following first = some count) (rest : Bytes) :
    front (first :: rest) =
      if !continues first (rest.take count) then .malformed
      else if (rest.take count).length < count then .cutOff
      else .char (Char.ofNat (number first (rest.take count))) (rest.drop count) := by
  simp only [front, start]
  rfl

/-- What is not malformed goes on after its first byte as a character does, as far as it goes. -/
lemma front_cons_cases (first : UInt8) (rest : Bytes) :
    front (first :: rest) = .malformed ∨
      ∃ count, following first = some count ∧ continues first (rest.take count) = true ∧
        front (first :: rest) =
          if (rest.take count).length < count then .cutOff
          else .char (Char.ofNat (number first (rest.take count))) (rest.drop count) := by
  cases start : following first with
  | none => exact .inl (by simp only [front, start])
  | some count =>
    rw [front_cons start]
    cases fits : continues first (rest.take count) with
    | false => exact .inl rfl
    | true => exact .inr ⟨count, rfl, fits, rfl⟩

/-- What is read as a character is what the character is written as. -/
theorem front_eq_char_iff : front bytes = .char c rest ↔ bytes = encodeChar c ++ rest := by
  constructor
  · intro read
    cases bytes with
    | nil => cases read
    | cons first more =>
      rcases front_cons_cases first more with malformed | ⟨count, start, fits, shown⟩
      · rw [malformed] at read
        cases read
      · rw [shown] at read
        split_ifs at read with short
        have size : (more.take count).length = count :=
          Nat.le_antisymm (List.length_take_le _ _) (Nat.not_lt.1 short)
        obtain ⟨-, spelt⟩ := encodeChar_number (by rw [start, size]) fits
        cases read
        rw [spelt, List.cons_append, List.take_append_drop]
  · rintro rfl
    obtain ⟨first, others, split, start, fits, spelt⟩ := exists_encodeChar_eq_cons c
    rw [split, List.cons_append, front_cons start, List.take_left, List.drop_left, fits, spelt,
      Char.ofNat_toNat]
    simp

/-- Fewer bytes continue a first one if more of them do. -/
lemma continues_of_prefix (start : bytes <+: others) (fits : continues first others = true) :
    continues first bytes = true := by
  obtain ⟨rest, rfl⟩ := start
  cases bytes with
  | nil => rfl
  | cons byte bytes =>
    obtain ⟨follows, tail⟩ := continues_cons.1 fits
    exact continues_cons.2 ⟨follows, fun other among => tail other (List.mem_append_left _ among)⟩

lemma exists_follows (first : UInt8) : ∃ byte : UInt8, Follows first.toNat byte.toNat := by
  by_cases large : first.toNat = 0xE0 ∨ first.toNat = 0xF0
  · refine ⟨0xA0, ?_⟩
    simp only [Follows, IsTail, UInt8.reduceToNat]
    omega
  · refine ⟨0x80, ?_⟩
    simp only [Follows, IsTail, UInt8.reduceToNat]
    omega

/-- Bytes that continue a first one can be completed. -/
lemma exists_completion (fits : continues first bytes = true) (short : bytes.length ≤ count) :
    ∃ others, bytes <+: others ∧ others.length = count ∧ continues first others = true := by
  have tail : IsTail (0x80 : UInt8).toNat := ⟨by decide, by decide⟩
  cases bytes with
  | nil =>
    obtain ⟨second, follows⟩ := exists_follows first
    cases count with
    | zero => exact ⟨[], List.prefix_rfl, rfl, rfl⟩
    | succ count =>
      refine ⟨second :: List.replicate count 0x80, List.nil_prefix, by simp,
        continues_cons.2 ⟨follows, ?_⟩⟩
      intro other among
      rw [List.eq_of_mem_replicate among]
      exact tail
  | cons second bytes =>
    obtain ⟨follows, others⟩ := continues_cons.1 fits
    rw [List.length_cons] at short
    refine ⟨second :: bytes ++ List.replicate (count - (bytes.length + 1)) 0x80,
      List.prefix_append _ _, ?_, continues_cons.2 ⟨follows, ?_⟩⟩
    · simp only [List.length_append, List.length_cons, List.length_replicate]
      omega
    · intro other among
      rcases List.mem_append.1 among with among | among
      · exact others other among
      · rw [List.eq_of_mem_replicate among]
        exact tail

/-- What is read as the start of a character is what some character starts with. -/
theorem front_eq_cutOff_iff : front bytes = .cutOff ↔ IsCut bytes := by
  constructor
  · intro read
    cases bytes with
    | nil => cases read
    | cons first more =>
      rcases front_cons_cases first more with malformed | ⟨count, start, fits, shown⟩
      · rw [malformed] at read
        cases read
      · rw [shown] at read
        split_ifs at read with short
        have all : more.take count = more := by
          apply List.take_of_length_le
          rw [List.length_take] at short
          omega
        rw [all] at fits short
        obtain ⟨others, front, size, fits'⟩ := exists_completion fits (Nat.le_of_lt short)
        obtain ⟨-, spelt⟩ := encodeChar_number (by rw [start, size]) fits'
        refine ⟨by simp, Char.ofNat (number first others), ?_, ?_⟩
        · rw [spelt]
          exact (List.prefix_cons_inj first).2 front
        · rw [spelt]
          rintro same
          rw [(List.cons.inj same).2, size] at short
          exact Nat.lt_irrefl _ short
  · rintro ⟨inhabited, c, start, different⟩
    obtain ⟨first, others, split, following, fits, -⟩ := exists_encodeChar_eq_cons c
    rw [split] at start different
    cases bytes with
    | nil => exact absurd rfl inhabited
    | cons first' more =>
      obtain ⟨rfl, front⟩ := List.cons_prefix_cons.1 start
      have short : more.length < others.length := by
        apply Nat.lt_of_le_of_ne front.length_le
        intro size
        exact different (congrArg _ (front.eq_of_length size))
      have all : more.take others.length = more := List.take_of_length_le (Nat.le_of_lt short)
      rw [front_cons following, all, continues_of_prefix front fits]
      simp [short]

lemma front_eq_empty_iff : front bytes = .empty ↔ bytes = [] := by
  constructor
  · intro read
    cases bytes with
    | nil => rfl
    | cons first more =>
      simp only [front] at read
      split at read
      · cases read
      · split_ifs at read
  · rintro rfl
    rfl

/-! ### Whole texts -/

lemma encode_cons (c : Char) (text : List Char) :
    encode (c :: text) = encodeChar c ++ encode text := rfl

/-- Reading goes on after the characters that were written. -/
lemma decodeAfter_encode_append (before text : List Char) (rest : Bytes) :
    decodeAfter before (encode text ++ rest) = decodeAfter (text.reverse ++ before) rest := by
  induction text generalizing before with
  | nil => rfl
  | cons c text ih =>
    have read : front (encode (c :: text) ++ rest) = .char c (encode text ++ rest) := by
      rw [front_eq_char_iff, encode_cons, List.append_assoc]
    rw [decodeAfter]
    split
    · next none => rw [read] at none; cases none
    · next cut => rw [read] at cut; cases cut
    · next malformed => rw [read] at malformed; cases malformed
    · next c' rest' char =>
      rw [read] at char
      cases char
      rw [ih]
      simp

/-- Bytes are those of some characters, and a rest that does not go on with a character. -/
lemma exists_encode_append (bytes : Bytes) :
    ∃ text rest, bytes = encode text ++ rest ∧ ∀ c more, front rest ≠ .char c more := by
  induction size : bytes.length using Nat.strongRecOn generalizing bytes with
  | ind n ih =>
    by_cases goesOn : ∃ c more, front bytes = .char c more
    · obtain ⟨c, more, read⟩ := goesOn
      obtain ⟨text, rest, rfl, stuck⟩ :=
        ih more.length (size ▸ length_lt_of_front_eq_char read) more rfl
      refine ⟨c :: text, rest, ?_, stuck⟩
      rw [front_eq_char_iff.1 read, encode_cons, List.append_assoc]
    · exact ⟨[], bytes, rfl, fun c more read => goesOn ⟨c, more, read⟩⟩

/-- What reading comes to that is stuck after some characters. -/
lemma decode_encode_append (text : List Char) (stuck : ∀ c more, front rest ≠ .char c more) :
    decode (encode text ++ rest) =
      (text, match front rest with
        | .empty => .complete
        | .cutOff => .cutOff
        | _ => .malformed) := by
  rw [decode, decodeAfter_encode_append, decodeAfter, List.append_nil, List.reverse_reverse]
  split
  · next none => rw [none]
  · next cut => rw [cut]
  · next malformed => rw [malformed]
  · next c more read => exact absurd read (stuck c more)

lemma lenient_encode (text : List Char) : lenient (encode text) = some text := by
  have stuck : ∀ c more, front [] ≠ .char c more := fun _ _ => nofun
  have read := decode_encode_append text stuck
  rw [List.append_nil] at read
  rw [lenient, read]
  rfl

lemma lenient_encode_append_of_isCut (inhabited : text ≠ []) (cut : IsCut rest) :
    lenient (encode text ++ rest) = some text := by
  have read := front_eq_cutOff_iff.2 cut
  rw [lenient, decode_encode_append text (by rw [read]; exact fun _ _ => nofun), read]
  cases text with
  | nil => contradiction
  | cons c text => rfl

/-- What is left of the bytes of a text when they are cut off somewhere: those of its first
characters, and after them nothing or the start of one more. -/
lemma exists_take_encode_append (text : List Char) (tail : rest = [] ∨ IsCut rest) (n : Nat) :
    ∃ text' rest', (encode text ++ rest).take n = encode text' ++ rest' ∧ text' <+: text ∧
      (rest' = [] ∨ IsCut rest') ∧ (text ≠ [] → 4 ≤ n → text' ≠ []) := by
  induction text generalizing n with
  | nil =>
    refine ⟨[], rest.take n, rfl, List.prefix_rfl, ?_, fun other => absurd rfl other⟩
    by_cases none : n = 0
    · exact Or.inl (by simp [none])
    · exact tail.imp (fun empty => by simp [empty]) (fun cut => cut.take none)
  | cons c text ih =>
    have size := length_encodeChar_le c
    by_cases short : n < (encodeChar c).length
    · refine ⟨[], (encodeChar c).take n, ?_, List.nil_prefix, ?_, ?_⟩
      · rw [encode_cons, List.append_assoc, List.take_append_of_le_length (Nat.le_of_lt short)]
        rfl
      · by_cases none : n = 0
        · exact Or.inl (by simp [none])
        · exact Or.inr (isCut_take none short)
      · intro _ bound
        omega
    · obtain ⟨text', rest', split, start, tail', -⟩ := ih (n - (encodeChar c).length)
      refine ⟨c :: text', rest', ?_, (List.prefix_cons_inj c).2 start, tail', fun _ _ => by simp⟩
      rw [encode_cons, List.append_assoc, List.take_append, split,
        List.take_of_length_le (Nat.not_lt.1 short), encode_cons, List.append_assoc]

/-- The bytes of a text, as it is read: those of its characters, and after them nothing or, if
there is a character before it, the start of one more. -/
theorem lenient_eq_some_iff :
    lenient bytes = some text ↔
      ∃ rest, bytes = encode text ++ rest ∧ (rest = [] ∨ text ≠ [] ∧ IsCut rest) := by
  constructor
  · intro read
    obtain ⟨text', rest, rfl, stuck⟩ := exists_encode_append bytes
    rw [lenient, decode_encode_append text' stuck] at read
    cases shown : front rest with
    | char c more => exact absurd shown (stuck c more)
    | empty =>
      rw [shown] at read
      cases read
      exact ⟨rest, rfl, Or.inl (front_eq_empty_iff.1 shown)⟩
    | cutOff =>
      rw [shown] at read
      cases text' with
      | nil => cases read
      | cons c text' =>
        cases read
        exact ⟨rest, rfl, Or.inr ⟨by simp, front_eq_cutOff_iff.1 shown⟩⟩
    | malformed =>
      rw [shown] at read
      cases read
  · rintro ⟨rest, rfl, rfl | ⟨inhabited, cut⟩⟩
    · rw [List.append_nil, lenient_encode]
    · exact lenient_encode_append_of_isCut inhabited cut

end AssetCache.Text.Utf8
