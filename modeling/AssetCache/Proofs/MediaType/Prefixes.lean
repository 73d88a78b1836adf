import AssetCache.Proofs.MediaType.Text
import AssetCache.Proofs.Stream.Certification
import Mathlib.Data.List.Find

/-!
# Recognition from the first bytes

A signature lies within the first twelve bytes of content. If content is cut off after as many, or
later, its signature stays the first that fits, and a text stays a text (`MediaType.sniff_take`);
so it makes no difference to content with a signature how many bytes beyond these are looked at
when it comes in.
-/

namespace AssetCache

variable {content : Bytes} {n : Nat}

/-- The number of leading bytes within which every signature lies. -/
def Signature.reach : Nat := 12

lemma Window.fits_take {window : Window} (within : window.place + window.bytes.length ≤ n)
    (content : Bytes) : window.fits (content.take n) = window.fits content := by
  rw [Window.fits, Window.fits, List.drop_take, List.take_take,
    Nat.min_eq_left (Nat.le_sub_of_add_le' within)]

namespace Signature

variable {signature : Signature}

lemma windows_of_mem_table :
    ∀ signature ∈ table, signature.size ≤ reach ∧
      ∀ window ∈ signature.windows, window.place + window.bytes.length ≤ reach := by
  decide +kernel

/-- The brand of a container lies within the reach, and nothing else of content decides on the
media type that a signature names. -/
lemma mediaType_take (bound : reach ≤ n) :
    ∀ signature ∈ table, ∀ content : Bytes,
      signature.mediaType (content.take n) = signature.mediaType content := by
  have brand (content : Bytes) : ((content.take n).drop 8).take 4 = (content.drop 8).take 4 := by
    have after : 4 ≤ n - 8 := by
      unfold reach at bound
      omega
    rw [List.drop_take, List.take_take, Nat.min_eq_left after]
  simp [table, start, brand]

lemma fits_take (bound : reach ≤ n) (known : signature ∈ table) (content : Bytes) :
    signature.fits (content.take n) = signature.fits content := by
  obtain ⟨short, within⟩ := windows_of_mem_table signature known
  have size : signature.size ≤ (content.take n).length ↔ signature.size ≤ content.length := by
    rw [List.length_take]
    omega
  have windows : signature.windows.all (·.fits (content.take n)) =
      signature.windows.all (·.fits content) := by
    rw [Bool.eq_iff_iff, List.all_eq_true, List.all_eq_true]
    refine forall₂_congr fun window among => ?_
    rw [Window.fits_take ((within window among).trans bound)]
  simp only [fits, windows, size]

end Signature

namespace MediaType

open Signature

/-- The first signature that fits is the same however much is cut off beyond its reach. -/
lemma ofSignature?_take (bound : reach ≤ n) (content : Bytes) :
    ofSignature? (content.take n) = ofSignature? content := by
  have found : table.find? (·.fits (content.take n)) = table.find? (·.fits content) :=
    List.find?_congr fun signature known => fits_take bound known content
  rw [ofSignature?, ofSignature?, found]
  cases fitting : table.find? (·.fits content) with
  | none => rfl
  | some signature =>
    exact congrArg some (mediaType_take bound signature (List.mem_of_find?_eq_some fitting) content)

/-- A text of which the end is cut off stays a text. -/
lemma isText_take (bound : 4 ≤ n) (reads : Markup.IsText content) :
    Markup.IsText (content.take n) := by
  obtain ⟨text, rest, rfl, named, textual, tail⟩ := reads
  obtain ⟨text', rest', split, start, tail', named'⟩ :=
    Text.Utf8.exists_take_encode_append text tail n
  exact ⟨text', rest', split, named' named bound, fun c among => textual c (start.subset among),
    tail'⟩

lemma not_mem_kinds_of_signature {mediaType : MediaType}
    (signed : ofSignature? content = some mediaType) : mediaType ∉ Markup.kinds := by
  have brand (bytes : Bytes) : brandType bytes ≠ .plainText ∧ brandType bytes ≠ .xml ∧
      brandType bytes ≠ .svg := by
    unfold brandType
    split_ifs <;> decide
  have named : ∀ signature ∈ table, signature.mediaType content ∉ Markup.kinds := by
    simp [table, start, brand, Markup.kinds]
  obtain ⟨signature, fitting, rfl⟩ := Option.map_eq_some_iff.1 signed
  exact named signature (List.mem_of_find?_eq_some fitting)

lemma sniff_of_signed {mediaType : MediaType} (signed : ofSignature? content = some mediaType) :
    sniff content = mediaType := by
  refine sniff_of_signature ?_ signed
  rintro rfl
  have none : ofSignature? [] = none := by decide +kernel
  rw [none] at signed
  cases signed

/-- Content that is recognised has a signature or is one of the kinds of text, and not both. -/
lemma exists_signature_iff (known : sniff content ≠ .octetStream) :
    (∃ mediaType, ofSignature? content = some mediaType) ↔ sniff content ∉ Markup.kinds := by
  constructor
  · rintro ⟨mediaType, signed⟩
    rw [sniff_of_signed signed]
    exact not_mem_kinds_of_signature signed
  · intro other
    cases signed : ofSignature? content with
    | some mediaType => exact ⟨mediaType, rfl⟩
    | none => exact absurd (sniff_mem_kinds_of_ne_octetStream signed known) other

end MediaType

/-! ### Content that comes in -/

/-- The media type that is found for a source when it is ingested under some limits. -/
structure IngestsAs (limits : IngestLimits) (source : Source) (mediaType : MediaType) : Prop where
  /-- A source that is taken in comes to attributes with this media type. -/
  found : ∀ bytes, limits.accepted? source = some bytes →
    ∃ attributes, (Upload.digested limits source).collect = (.ok bytes, some (.ok attributes)) ∧
      attributes.contentType = some mediaType.name
  /-- Whatever takes it in, there are no attributes with another one. -/
  given : ∀ (σ : Type) (answer : σ → (call : Call) → call.Answer × σ) (state : σ) (sink : Sink)
    (key : String) (items : List Item) (result : Except StoreError Nat) (dropped : Upload),
    sink.Drains [] (.digested limits source) items result dropped →
    (answer state (.blob (.put { key, upload := .digested limits source }))).1 =
      ⟨result, dropped.outcome?⟩ →
    ∀ attributes, (Program.run answer state (ingest limits key source)).1 = .ok attributes →
      attributes.contentType = some mediaType.name

lemma ingestsAs_of_sniff {limits : IngestLimits} {source : Source} {mediaType : MediaType}
    (collected : source.collect = .ok content)
    (recognised : MediaType.sniff (content.take limits.sniffBytes) = mediaType) :
    IngestsAs limits source mediaType := by
  have whole (bytes : Bytes) (accepted : limits.accepted? source = some bytes) :
      (limits.attributesOf bytes).contentType = some mediaType.name := by
    obtain ⟨same, -⟩ := IngestLimits.accepted?_eq_some_iff.1 accepted
    rw [collected] at same
    obtain rfl := Except.ok.inj same
    rw [IngestLimits.attributesOf, recognised]
  constructor
  · intro bytes accepted
    exact ⟨_, Upload.collect_digested_of_accepted accepted, whole bytes accepted⟩
  · intro σ answer state sink key items result dropped drains replied attributes ingested
    rw [run_ingest_fst, replied] at ingested
    have certified : Certifies limits key source items result
        (PutReply.verdict key ⟨result, dropped.outcome?⟩) :=
      (drains.stands (Upload.Standing.of_digested limits source)).certifies
    obtain ⟨bytes, accepted, rfl⟩ := certified.whole attributes ingested
    exact whole bytes accepted

namespace MediaType

open Signature

/-- Content that is recognised has a signature or is one of the kinds of text, and so has what is
left of it when it is cut off after twelve bytes or later: a signature names the same media type,
and a text is one of the kinds of text again. What is ingested with a signature gets the media type
of all of its bytes, however many of them are looked at from twelve on. -/
theorem sniff_take (known : sniff content ≠ .octetStream) (bound : 12 ≤ n) :
    ((∃ mediaType, ofSignature? content = some mediaType) ↔ sniff content ∉ Markup.kinds) ∧
      (∀ mediaType, ofSignature? content = some mediaType →
        sniff content = mediaType ∧ sniff (content.take n) = mediaType) ∧
      (sniff content ∈ Markup.kinds → sniff (content.take n) ∈ Markup.kinds) ∧
      ∀ mediaType, ofSignature? content = some mediaType →
        ∀ (limits : IngestLimits) (source : Source), 12 ≤ limits.sniffBytes →
          source.collect = .ok content → IngestsAs limits source mediaType := by
  have signed' {mediaType : MediaType} {n : Nat} (bound : 12 ≤ n)
      (signed : ofSignature? content = some mediaType) : sniff (content.take n) = mediaType :=
    sniff_of_signed ((ofSignature?_take bound content).trans signed)
  refine ⟨exists_signature_iff known, ?_, ?_, ?_⟩
  · exact fun mediaType signed => ⟨sniff_of_signed signed, signed' bound signed⟩
  · intro text
    have unsigned : ofSignature? content = none := by
      cases signed : ofSignature? content with
      | none => rfl
      | some mediaType => exact absurd text ((exists_signature_iff known).1 ⟨mediaType, signed⟩)
    have reads := (sniff_mem_kinds_iff unsigned).1 text
    rw [sniff_mem_kinds_iff ((ofSignature?_take bound content).trans unsigned)]
    exact isText_take (Nat.le_trans (by decide) bound) reads
  · intro mediaType signed limits source bound collected
    exact ingestsAs_of_sniff collected (signed' bound signed)

/-- A picture whose signature ends at the bound, and a text with a character across it. -/
theorem sniff_take_across :
    let picture : Bytes := [82, 73, 70, 70, 4, 0, 0, 0, 87, 69, 66, 80, 86, 80, 56, 32]
    let text : Bytes := List.replicate 11 97 ++ [0xC3, 0xA9]
    (sniff picture ≠ .octetStream ∧ sniff (picture.take 12) = .webp ∧
        IngestsAs ⟨12, 16⟩ (.ofBytes picture) .webp) ∧
      sniff text ≠ .octetStream ∧ sniff text ∈ Markup.kinds ∧
        sniff (text.take 12) ∈ Markup.kinds := by
  intro picture text
  have known : sniff picture ≠ .octetStream := by decide +kernel
  have known' : sniff text ≠ .octetStream := by decide +kernel
  have signed : ofSignature? picture = some .webp := by decide +kernel
  have kind : sniff text ∈ Markup.kinds := by decide +kernel
  obtain ⟨-, kept, -, ingested⟩ := sniff_take (n := 12) known (Nat.le_refl 12)
  obtain ⟨-, -, still, -⟩ := sniff_take (n := 12) known' (Nat.le_refl 12)
  refine ⟨⟨known, (kept _ signed).2, ?_⟩, known', kind, still kind⟩
  exact ingested _ signed ⟨12, 16⟩ (.ofBytes picture) (Nat.le_refl 12) rfl

end MediaType

end AssetCache
