import AssetCache.Proofs.Blob.Paths
import AssetCache.Proofs.MediaType.Text
import Mathlib.Data.List.Infix
import Mathlib.Data.String.Basic

/-!
# Kinds of text

What kind of text some content is shows at its start, in any case of the letters: a graphic starts
with its tag, or with the declaration of a document that holds the tag. But a graphic whose tag is
followed at once by a character of more than one byte is a plain text, because the first five bytes
are looked at together and that character is cut (`MediaType.classifies_text`,
`MediaType.exists_unrecognised`).
-/

namespace AssetCache

open Text

namespace Markup

variable {text front tag : List Char} {c : Char} {size : Nat}

/-! ### The first bytes of a text -/

lemma byteSize_eq (text : List Char) : byteSize text = String.utf8Len text := by
  induction text with
  | nil => rfl
  | cons c text ih => rw [byteSize, ih, String.utf8Len_cons, Nat.add_comm]

/-- Bytes of a text are taken if they are those of its first characters. -/
lemma takeBytes_eq_some_iff :
    takeBytes text size = some front ↔ front <+: text ∧ String.utf8Len front = size := by
  induction text generalizing size front with
  | nil =>
    cases size with
    | zero =>
      simp only [takeBytes, Option.some.injEq, List.prefix_nil, String.utf8Len_eq_zero, and_self]
      exact eq_comm
    | succ size =>
      simp only [takeBytes, reduceCtorEq, List.prefix_nil, false_iff]
      rintro ⟨rfl, short⟩
      contradiction
  | cons c text ih =>
    cases size with
    | zero =>
      simp only [takeBytes, Option.some.injEq, String.utf8Len_eq_zero]
      constructor
      · rintro rfl
        exact ⟨List.nil_prefix, rfl⟩
      · exact fun none => none.2.symm
    | succ size =>
      simp only [takeBytes, Option.ite_none_right_eq_some, Option.map_eq_some_iff]
      constructor
      · rintro ⟨fits, front, taken, rfl⟩
        obtain ⟨start, whole⟩ := ih.1 taken
        refine ⟨List.cons_prefix_cons.2 ⟨rfl, start⟩, ?_⟩
        rw [String.utf8Len_cons, whole, Nat.sub_add_cancel fits]
      · rintro ⟨start, whole⟩
        cases front with
        | nil => contradiction
        | cons d front =>
          obtain ⟨rfl, start'⟩ := List.cons_prefix_cons.1 start
          rw [String.utf8Len_cons] at whole
          exact ⟨by omega, front, ih.2 ⟨start', by omega⟩, rfl⟩

/-- Characters of one byte each. -/
def IsNarrow (text : List Char) : Prop :=
  ∀ c ∈ text, c.utf8Size = 1

lemma IsNarrow.utf8Len_eq (narrow : IsNarrow text) : String.utf8Len text = text.length := by
  induction text with
  | nil => rfl
  | cons c text ih =>
    rw [String.utf8Len_cons, ih fun d among => narrow d (List.mem_cons_of_mem c among),
      narrow c List.mem_cons_self, List.length_cons]

lemma length_le_utf8Len (text : List Char) : text.length ≤ String.utf8Len text := by
  induction text with
  | nil => exact Nat.le_refl 0
  | cons c text ih =>
    rw [String.utf8Len_cons, List.length_cons]
    exact Nat.add_le_add ih c.utf8Size_pos

/-- The head of a text whose first characters are narrow. -/
lemma head_of_narrow (narrow : IsNarrow (text.take 5)) :
    head text = (text.take 5).map Char.toLower := by
  have whole : String.utf8Len (text.take 5) = min (byteSize text) 5 := by
    have long := length_le_utf8Len text
    have split := String.utf8Len_append (text.take 5) (text.drop 5)
    rw [List.take_append_drop] at split
    rw [byteSize_eq, split, narrow.utf8Len_eq, List.length_take]
    by_cases short : text.length ≤ 5
    · simp [List.drop_eq_nil_of_le short, short]
    · omega
  rw [head, takeBytes_eq_some_iff.2 ⟨List.take_prefix 5 text, whole⟩, Option.getD_some]

/-- What a text begins with, in any case of its letters. -/
def StartsWith (tag text : List Char) : Prop :=
  (text.take tag.length).map Char.toLower = tag

instance (tag text : List Char) : Decidable (StartsWith tag text) :=
  inferInstanceAs (Decidable (_ = _))

lemma utf8Size_of_toLower (small : c.toLower.utf8Size = 1) : c.utf8Size = 1 := by
  unfold Char.toLower at small
  split at small
  · next upper =>
    rw [Char.utf8Size_eq_one_iff]
    exact UInt32.le_trans upper.2 (by decide)
  · exact small

lemma StartsWith.isNarrow (starts : StartsWith tag text) (narrow : IsNarrow tag) :
    IsNarrow (text.take tag.length) := by
  intro c among
  apply utf8Size_of_toLower
  apply narrow
  rw [← starts]
  exact List.mem_map_of_mem among

lemma isNarrow_of_utf8Len_le (short : String.utf8Len text ≤ text.length) : IsNarrow text := by
  induction text with
  | nil => exact fun _ => nofun
  | cons c text ih =>
    have wide := c.utf8Size_pos
    have long := length_le_utf8Len text
    rw [String.utf8Len_cons, List.length_cons] at short
    intro d among
    rcases List.mem_cons.1 among with rfl | among
    · omega
    · exact ih (by omega) d among

/-- A tag of four or five narrow characters is at the head of a text if the text starts with it and
none of its first five characters is wide. -/
lemma prefix_head_iff (narrow : IsNarrow tag) (long : 4 ≤ tag.length) (short : tag.length ≤ 5) :
    tag <+: head text ↔ StartsWith tag text ∧ IsNarrow (text.take 5) := by
  constructor
  · intro shown
    unfold head at shown
    cases taken : takeBytes text (min (byteSize text) 5) with
    | none =>
      rw [taken] at shown
      obtain rfl := List.prefix_nil.1 shown
      contradiction
    | some front =>
      obtain ⟨⟨rest, rfl⟩, size⟩ := takeBytes_eq_some_iff.1 taken
      rw [taken, Option.getD_some] at shown
      have reached : tag.length ≤ front.length := by simpa using shown.length_le
      have starts : StartsWith tag (front ++ rest) := by
        rw [StartsWith, List.take_append_of_le_length reached, List.map_take]
        exact (List.prefix_iff_eq_take.1 shown).symm
      have least := length_le_utf8Len front
      have most : String.utf8Len front ≤ 5 := size ▸ Nat.min_le_right _ _
      refine ⟨starts, ?_⟩
      by_cases whole : front.length = 5
      · rw [List.take_append_of_le_length whole.ge, ← whole, List.take_length]
        exact isNarrow_of_utf8Len_le (whole ▸ most)
      · -- The text has four characters only, and they are those of the tag.
        have four : tag.length = front.length := by omega
        have same := starts.isNarrow narrow
        rw [four, List.take_append_of_le_length (Nat.le_refl _), List.take_length] at same
        rw [same.utf8Len_eq, byteSize_eq, String.utf8Len_append, same.utf8Len_eq] at size
        have ended : rest = [] := String.utf8Len_eq_zero.1 (by omega)
        rw [ended, List.append_nil, List.take_of_length_le (by omega)]
        exact same
  · rintro ⟨starts, narrow'⟩
    have part : (text.take 5).take tag.length = text.take tag.length := by
      rw [List.take_take, Nat.min_eq_left short]
    rw [head_of_narrow narrow', List.prefix_iff_eq_take, ← List.map_take, part]
    exact starts.symm

lemma contains_iff (part text : List Char) : contains part text = true ↔ part <:+: text := by
  induction text with
  | nil => simp [contains, List.isEmpty_iff]
  | cons c text ih =>
    rw [contains, Bool.or_eq_true, ih, List.isPrefixOf_iff_prefix, List.infix_cons_iff]

/-! ### Kinds of text -/

lemma isNarrow_of_isAscii (ascii : tag.all isAscii = true) : IsNarrow tag :=
  isNarrow_of_utf8Len_le (utf8Len_of_isAscii ascii).le

lemma isNarrow_graphicTag : IsNarrow graphicTag :=
  isNarrow_of_isAscii (by decide)

lemma isNarrow_declaration : IsNarrow declaration :=
  isNarrow_of_isAscii (by decide)

/-- A text starts with the tag of a graphic, and no wide character follows the tag. -/
def OpensGraphic (text : List Char) : Prop :=
  StartsWith graphicTag text ∧ ∀ c ∈ text[4]?, c.utf8Size = 1

instance (text : List Char) : Decidable (OpensGraphic text) :=
  inferInstanceAs (Decidable (_ ∧ _))

lemma graphicTag_prefix_head_iff : graphicTag <+: head text ↔ OpensGraphic text := by
  rw [prefix_head_iff isNarrow_graphicTag (by decide) (by decide)]
  refine and_congr_right fun starts => ?_
  have narrow : IsNarrow (text.take 4) := starts.isNarrow isNarrow_graphicTag
  rw [IsNarrow, List.take_add_one]
  simp only [List.mem_append, Option.mem_toList]
  constructor
  · exact fun all c among => all c (Or.inr among)
  · exact fun last c among => among.elim (narrow c) (last c)

lemma declaration_prefix_head_iff : declaration <+: head text ↔ StartsWith declaration text := by
  rw [prefix_head_iff isNarrow_declaration (by decide) (by decide)]
  exact and_iff_left_of_imp fun starts => starts.isNarrow isNarrow_declaration

lemma classify_eq (text : List Char) :
    classify text =
      if OpensGraphic (body text) ∨ StartsWith declaration (body text) ∧ graphicTag <:+: body text
      then .svg
      else if StartsWith declaration (body text) then .xml else .plainText := by
  simp only [classify, Bool.or_eq_true, Bool.and_eq_true, List.isPrefixOf_iff_prefix,
    contains_iff, graphicTag_prefix_head_iff, declaration_prefix_head_iff]

/-- No text starts with both tags. -/
lemma StartsWith.not_opensGraphic (starts : StartsWith declaration text) :
    ¬ OpensGraphic text := by
  rintro ⟨graphic, -⟩
  have same : declaration.take 4 = graphicTag := by
    rw [← starts, ← List.map_take, List.take_take]
    exact graphic
  contradiction

lemma classify_eq_svg_iff :
    classify text = .svg ↔ OpensGraphic (body text) ∨
      StartsWith declaration (body text) ∧ graphicTag <:+: body text := by
  rw [classify_eq]
  split_ifs with graphic document
  · exact iff_of_true rfl graphic
  · exact iff_of_false nofun graphic
  · exact iff_of_false nofun graphic

lemma classify_eq_xml_iff :
    classify text = .xml ↔
      StartsWith declaration (body text) ∧ ¬ graphicTag <:+: body text := by
  rw [classify_eq]
  split_ifs with graphic document
  · refine iff_of_false nofun ?_
    rintro ⟨starts, empty⟩
    exact graphic.elim starts.not_opensGraphic fun drawn => empty drawn.2
  · exact iff_of_true rfl ⟨document, fun drawn => graphic (Or.inr ⟨document, drawn⟩)⟩
  · exact iff_of_false nofun fun starts => document starts.1

lemma classify_eq_plainText_iff :
    classify text = .plainText ↔
      ¬ OpensGraphic (body text) ∧ ¬ StartsWith declaration (body text) := by
  rw [classify_eq]
  split_ifs with graphic document
  · refine iff_of_false nofun ?_
    rintro ⟨closed, plain⟩
    exact graphic.elim closed fun drawn => plain drawn.1
  · exact iff_of_false nofun fun plain => plain.2 document
  · exact iff_of_true rfl ⟨fun opens => graphic (Or.inl opens), document⟩

end Markup

namespace MediaType

open Markup

variable {content : Bytes} {text : List Char}

/-- What is read of some content as a text: the bytes of its characters, and after them nothing or
the start of one more. -/
def ReadsAs (content : Bytes) (text : List Char) : Prop :=
  ∃ rest : Bytes, content = text.flatMap String.utf8EncodeChar ++ rest ∧
    (rest = [] ∨ text ≠ [] ∧
      rest ≠ [] ∧ ∃ c, rest <+: String.utf8EncodeChar c ∧ rest ≠ String.utf8EncodeChar c)

lemma readsAs_iff : ReadsAs content text ↔ Text.Utf8.lenient content = some text := by
  simp only [ReadsAs, Utf8.lenient_eq_some_iff, Utf8.IsCut, Utf8.encode_eq, Utf8.encodeChar_eq]

/-- What kind of text some content is that is recognised and has no signature. -/
lemma sniff_eq_classify (unsigned : ofSignature? content = none)
    (known : sniff content ≠ .octetStream) :
    ∃ text, Text.Utf8.lenient content = some text ∧ sniff content = classify text := by
  have inhabited : content ≠ [] := by
    rintro rfl
    exact known sniff_nil
  rw [sniff_of_unsigned inhabited unsigned, ofContent?_eq] at known ⊢
  cases read : Text.Utf8.lenient content with
  | none => simp [read] at known
  | some text =>
    simp only [read, Option.bind_some] at known ⊢
    refine ⟨text, rfl, ?_⟩
    by_cases textual : text.all isTextual = true
    · rw [if_pos textual, Option.getD_some]
    · rw [if_neg textual, Option.getD_none] at known
      contradiction

/-- The kind of a text that content without a signature is recognised as. It is told from the text
that follows the marks and then the blanks at its start. -/
theorem classifies_text (unsigned : ofSignature? content = none)
    (known : sniff content ≠ .octetStream) :
    ∃ text, (∀ other, ReadsAs content other ↔ other = text) ∧
      let u := (text.dropWhile (· = '\uFEFF')).dropWhile isBlank
      (sniff content = .svg ↔
        OpensGraphic u ∨ StartsWith declaration u ∧ graphicTag <:+: u) ∧
      (sniff content = .xml ↔ StartsWith declaration u ∧ ¬ graphicTag <:+: u) ∧
      (sniff content = .plainText ↔ ¬ OpensGraphic u ∧ ¬ StartsWith declaration u) := by
  obtain ⟨text, read, kind⟩ := sniff_eq_classify unsigned known
  refine ⟨text, fun other => ?_, ?_⟩
  · rw [readsAs_iff, read, Option.some.injEq]
    exact eq_comm
  · rw [kind]
    exact ⟨classify_eq_svg_iff, classify_eq_xml_iff, classify_eq_plainText_iff⟩

/-- A document with a mark and a blank before it, in capital letters. -/
theorem classifies_text_capital :
    let content := Utf8.encode "\uFEFF <?XML?>".toList
    ofSignature? content = none ∧ sniff content = .xml ∧
      ∃ text, (∀ other, ReadsAs content other ↔ other = text) ∧
        StartsWith declaration ((text.dropWhile (· = '\uFEFF')).dropWhile isBlank) := by
  intro content
  have unsigned : ofSignature? content = none := by decide +kernel
  have recognised : sniff content = .xml := by decide +kernel
  have known : sniff content ≠ .octetStream := by
    rw [recognised]
    decide
  obtain ⟨text, read, -, document, -⟩ := classifies_text unsigned known
  exact ⟨unsigned, recognised, text, read, (document.1 recognised).1⟩

/-- A text may start with the tag of a graphic and not be recognised as one. -/
theorem exists_unrecognised : ¬ ∀ (content : Bytes) (text : List Char),
    ofSignature? content = none → sniff content ≠ .octetStream → ReadsAs content text →
      let u := (text.dropWhile (· = '\uFEFF')).dropWhile isBlank
      (sniff content = .svg ↔
        StartsWith graphicTag u ∨ StartsWith declaration u ∧ graphicTag <:+: u) := by
  intro claimed
  let text : List Char := ['<', 's', 'v', 'g', 'é']
  have unsigned : ofSignature? (Utf8.encode text) = none := by decide +kernel
  have plain : sniff (Utf8.encode text) = .plainText := by decide +kernel
  have graphic : StartsWith graphicTag ((text.dropWhile (· = '\uFEFF')).dropWhile isBlank) := by
    decide +kernel
  have known : sniff (Utf8.encode text) ≠ .octetStream := by
    rw [plain]
    decide
  have read : ReadsAs (Utf8.encode text) text := readsAs_iff.2 (Utf8.lenient_encode text)
  have recognised := (claimed _ text unsigned known read).2 (Or.inl graphic)
  rw [plain] at recognised
  contradiction

end MediaType

end AssetCache
