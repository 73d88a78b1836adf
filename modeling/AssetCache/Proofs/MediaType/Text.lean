import AssetCache.MediaType.Sniff
import AssetCache.Proofs.Text.Utf8

/-!
# Content that is recognised as text

Content without a signature is recognised if and only if it is the UTF-8 of some characters, none
of which is a control character other than white space, and after them nothing or the start of one
more character (`MediaType.sniff_ne_octetStream_iff`).
-/

namespace AssetCache

open Text

variable {content : Bytes} {text : List Char} {c : Char}

namespace Markup

/-- The kinds of text that content is recognised as. -/
def kinds : List MediaType :=
  [.plainText, .xml, .svg]

lemma classify_mem_kinds (text : List Char) : classify text ∈ kinds := by
  simp only [classify, kinds]
  split_ifs <;> simp

lemma ne_octetStream_of_mem_kinds {kind : MediaType} (among : kind ∈ kinds) :
    kind ≠ .octetStream := by
  rintro rfl
  simp [kinds] at among

lemma isTextual_iff :
    isTextual c = true ↔
      (isControl c = true → c = '\t' ∨ c = '\n' ∨ c = '\r' ∨ c = '\x0C') := by
  cases control : isControl c <;> simp [isTextual, control, or_assoc]

/-- Content that reads as a text: some characters that may stand in one, and after them nothing or
the start of one more. -/
def IsText (content : Bytes) : Prop :=
  ∃ text rest, content = Utf8.encode text ++ rest ∧ text ≠ [] ∧ (∀ c ∈ text, isTextual c = true) ∧
    (rest = [] ∨ Utf8.IsCut rest)

lemma ofContent?_eq (content : Bytes) :
    ofContent? content = (Utf8.lenient content).bind fun text =>
      if text.all isTextual then some (classify text) else none := by
  rw [ofContent?]
  cases Utf8.lenient content <;> rfl

lemma mem_kinds_of_ofContent? {kind : MediaType} (found : ofContent? content = some kind) :
    kind ∈ kinds := by
  rw [ofContent?_eq] at found
  obtain ⟨text, -, classified⟩ := Option.bind_eq_some_iff.1 found
  obtain ⟨-, same⟩ := Option.ite_none_right_eq_some.1 classified
  rw [← Option.some.inj same]
  exact classify_mem_kinds text

lemma exists_ofContent?_iff (inhabited : content ≠ []) :
    (∃ kind, ofContent? content = some kind) ↔ IsText content := by
  simp only [ofContent?_eq, Option.bind_eq_some_iff, Option.ite_none_right_eq_some,
    Option.some.injEq, List.all_eq_true]
  constructor
  · rintro ⟨kind, text, read, textual, -⟩
    obtain ⟨rest, rfl, tail⟩ := Utf8.lenient_eq_some_iff.1 read
    have named : text ≠ [] := by
      rintro rfl
      rcases tail with rfl | ⟨other, -⟩
      · exact inhabited rfl
      · exact other rfl
    exact ⟨text, rest, rfl, named, textual, tail.imp_right And.right⟩
  · rintro ⟨text, rest, rfl, named, textual, tail⟩
    have read : Utf8.lenient (Utf8.encode text ++ rest) = some text :=
      Utf8.lenient_eq_some_iff.2 ⟨rest, rfl, tail.imp_right fun cut => ⟨named, cut⟩⟩
    exact ⟨classify text, text, read, textual, rfl⟩

end Markup

namespace MediaType

lemma ne_nil_of_isText (reads : Markup.IsText content) : content ≠ [] := by
  obtain ⟨text, rest, rfl, named, -⟩ := reads
  cases text with
  | nil => contradiction
  | cons c text => simp [Utf8.encode_cons, Utf8.encodeChar_ne_nil]

/-- What content without a signature is recognised as. -/
lemma sniff_of_unsigned (inhabited : content ≠ []) (unsigned : ofSignature? content = none) :
    sniff content = (Markup.ofContent? content).getD .octetStream := by
  simp [sniff, inhabited, unsigned]

/-- Content without a signature is one of the kinds of text if it reads as one. -/
lemma sniff_mem_kinds_iff (unsigned : ofSignature? content = none) :
    sniff content ∈ Markup.kinds ↔ Markup.IsText content := by
  by_cases inhabited : content = []
  · subst inhabited
    refine iff_of_false (by simp [Markup.kinds]) fun reads => ?_
    exact ne_nil_of_isText reads rfl
  · rw [sniff_of_unsigned inhabited unsigned, ← Markup.exists_ofContent?_iff inhabited]
    cases found : Markup.ofContent? content with
    | none => simp [Markup.kinds]
    | some kind => exact iff_of_true (Markup.mem_kinds_of_ofContent? found) ⟨kind, rfl⟩

/-- Content without a signature that is recognised is one of the kinds of text. -/
lemma sniff_mem_kinds_of_ne_octetStream (unsigned : ofSignature? content = none)
    (known : sniff content ≠ .octetStream) : sniff content ∈ Markup.kinds := by
  have inhabited : content ≠ [] := by
    rintro rfl
    exact known sniff_nil
  rw [sniff_of_unsigned inhabited unsigned] at known ⊢
  cases found : Markup.ofContent? content with
  | none => simp [found] at known
  | some kind => exact Markup.mem_kinds_of_ofContent? found

/-- Content without a signature is recognised if and only if it is a text in UTF-8, as the standard
library writes it, without control characters but for white space; of a last character there may
be the start only. -/
theorem sniff_ne_octetStream_iff (unsigned : ofSignature? content = none) :
    sniff content ≠ .octetStream ↔
      ∃ (text : List Char) (rest : Bytes), content = text.flatMap String.utf8EncodeChar ++ rest ∧
        text ≠ [] ∧
        (∀ c ∈ text, isControl c = true → c = '\t' ∨ c = '\n' ∨ c = '\r' ∨ c = '\x0C') ∧
        (rest = [] ∨
          rest ≠ [] ∧ ∃ c, rest <+: String.utf8EncodeChar c ∧ rest ≠ String.utf8EncodeChar c) := by
  have kinds : sniff content ≠ .octetStream ↔ sniff content ∈ Markup.kinds :=
    ⟨sniff_mem_kinds_of_ne_octetStream unsigned, Markup.ne_octetStream_of_mem_kinds⟩
  rw [kinds, sniff_mem_kinds_iff unsigned]
  simp only [Markup.IsText, Markup.isTextual_iff, Utf8.IsCut, Utf8.encode_eq, Utf8.encodeChar_eq]

/-- A word whose last character is cut off. -/
theorem sniff_ne_octetStream_iff_cut :
    ofSignature? [0x63, 0x61, 0x66, 0xC3] = none ∧ sniff [0x63, 0x61, 0x66, 0xC3] = .plainText ∧
      ∃ (text : List Char) (rest : Bytes),
        [0x63, 0x61, 0x66, 0xC3] = text.flatMap String.utf8EncodeChar ++ rest ∧ text ≠ [] ∧
        (∀ c ∈ text, isControl c = true → c = '\t' ∨ c = '\n' ∨ c = '\r' ∨ c = '\x0C') ∧
        (rest = [] ∨
          rest ≠ [] ∧ ∃ c, rest <+: String.utf8EncodeChar c ∧ rest ≠ String.utf8EncodeChar c) := by
  have unsigned : ofSignature? [0x63, 0x61, 0x66, 0xC3] = none := by decide +kernel
  have recognised : sniff [0x63, 0x61, 0x66, 0xC3] = .plainText := by decide +kernel
  refine ⟨unsigned, recognised, (sniff_ne_octetStream_iff unsigned).1 ?_⟩
  rw [recognised]
  decide

end MediaType

end AssetCache
