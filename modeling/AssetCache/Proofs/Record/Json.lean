import AssetCache.Record.Json
import AssetCache.Proofs.Json.Records

/-!
# Records survive their texts

The text of an identity, of attributes, of a descriptor or of an entry gives the record back, and
so does the text with the members of every object in any other order (`records_survive`).
-/

namespace AssetCache

open Json

lemma denotes_optionalString (content : Option String) :
    Denotes readOptionalString (optionalString content) content := by
  have denotes := (denotes_optional_string () (content.map String.toList)).map
    (Option.map String.ofList)
  cases content with
  | none => exact denotes
  | some content =>
    rw [Option.map_some, Option.map_some, String.ofList_toList] at denotes
    exact denotes

lemma ContentId.denotes (id : ContentId) : Denotes ContentId.read id.toJson id := by
  have denotes := (denotes_string () id.text.toList).map fun content =>
    ContentId.mk (String.ofList content)
  rw [String.ofList_toList] at denotes
  exact denotes

namespace Attributes

/-- What is read of attributes once the members of the given names are. -/
def part (attributes : Attributes) (done : List String) : Partly where
  hash := if "hash" ∈ done then some attributes.hash else none
  size := if "size" ∈ done then some attributes.size else none
  contentType := if "contentType" ∈ done then some attributes.contentType else none

lemma denotes {attributes : Attributes} {written : List (String × List Char)}
    (order : written.Perm attributes.members) :
    Denotes schema.read (object written) attributes := by
  apply Schema.denotes_of_perm attributes.part _ _ _ _ order
  · simp [part, schema]
  · simp [members]
  · intro done member among fresh
    simp only [members, List.mem_cons, List.not_mem_nil, or_false] at among
    rcases among with rfl | rfl | rfl
    · exact Schema.takes_once rfl (if_neg fresh) (denotes_optionalString _) (by simp [part])
    · exact Schema.takes_once rfl (if_neg fresh) (denotes_word () _) (by simp [part])
    · exact Schema.takes_once rfl (if_neg fresh) (denotes_optionalString _) (by simp [part])
  · intro done all
    simp only [members, List.forall_mem_cons] at all
    simp [part, schema, all]

end Attributes

namespace Descriptor

/-- What is read of a descriptor once the members of the given names are. -/
def part (descriptor : Descriptor) (done : List String) : Partly where
  hash := if "hash" ∈ done then some descriptor.hash else none
  size := if "size" ∈ done then some descriptor.size else none
  contentType := if "contentType" ∈ done then some descriptor.contentType else none
  chunkSize := if "chunkSize" ∈ done then some descriptor.chunkSize else none
  numberOfChunks := if "numberOfChunks" ∈ done then some descriptor.numberOfChunks else none

lemma denotes {descriptor : Descriptor} {written : List (String × List Char)}
    (order : written.Perm descriptor.members) :
    Denotes schema.read (object written) descriptor := by
  apply Schema.denotes_of_perm descriptor.part _ _ _ _ order
  · simp [part, schema]
  · simp [members]
  · intro done member among fresh
    simp only [members, List.mem_cons, List.not_mem_nil, or_false] at among
    rcases among with rfl | rfl | rfl | rfl | rfl
    · exact Schema.takes_once rfl (if_neg fresh) (denotes_optionalString _) (by simp [part])
    · exact Schema.takes_once rfl (if_neg fresh) (denotes_word () _) (by simp [part])
    · exact Schema.takes_once rfl (if_neg fresh) (denotes_optionalString _) (by simp [part])
    · exact Schema.takes_once rfl (if_neg fresh) (denotes_word () _) (by simp [part])
    · exact Schema.takes_once rfl (if_neg fresh) (denotes_word () _) (by simp [part])
  · intro done all
    simp only [members, List.forall_mem_cons] at all
    simp [part, schema, all]

end Descriptor

namespace DescriptorEntry

/-- What is read of an entry once the members of the given names are. -/
def part (entry : DescriptorEntry) (done : List String) : Partly where
  descriptor := if "descriptor" ∈ done then some entry.descriptor else none
  refcount := if "refcount" ∈ done then some entry.refcount else none

lemma denotes {entry : DescriptorEntry} {inner written : List (String × List Char)}
    (inside : inner.Perm entry.descriptor.members)
    (order : written.Perm
      [("descriptor", object inner), ("refcount", natural entry.refcount.toNat)]) :
    Denotes schema.read (object written) entry := by
  apply Schema.denotes_of_perm entry.part _ _ _ _ order
  · simp [part, schema]
  · simp
  · intro done member among fresh
    simp only [List.mem_cons, List.not_mem_nil, or_false] at among
    rcases among with rfl | rfl
    · exact Schema.takes_once rfl (if_neg fresh) (Descriptor.denotes inside) (by simp [part])
    · exact Schema.takes_once rfl (if_neg fresh) (denotes_word () _) (by simp [part])
  · intro done all
    simp only [List.forall_mem_cons] at all
    simp [part, schema, all]

end DescriptorEntry

/-- Every record is read back from its text, for strings of any characters, absent ones and words
of any size; and from the text of the same members in any other order, inside of an entry too. -/
theorem records_survive :
    (∀ id : ContentId, ContentId.ofJson? id.toJson = .ok id) ∧
      (∀ attributes : Attributes, Attributes.ofJson? attributes.toJson = .ok attributes ∧
        ∀ written, written.Perm attributes.members →
          Attributes.ofJson? (object written) = .ok attributes) ∧
      (∀ descriptor : Descriptor, Descriptor.ofJson? descriptor.toJson = .ok descriptor ∧
        ∀ written, written.Perm descriptor.members →
          Descriptor.ofJson? (object written) = .ok descriptor) ∧
      ∀ entry : DescriptorEntry, DescriptorEntry.ofJson? entry.toJson = .ok entry ∧
        ∀ inner written, inner.Perm entry.descriptor.members →
          written.Perm [("descriptor", object inner), ("refcount", natural entry.refcount.toNat)] →
          DescriptorEntry.ofJson? (object written) = .ok entry := by
  refine ⟨fun id => ?_, fun attributes => ⟨?_, fun written order => ?_⟩,
    fun descriptor => ⟨?_, fun written order => ?_⟩,
    fun entry => ⟨?_, fun inner written inside order => ?_⟩⟩ <;> apply readText_of_denotes
  · exact id.denotes
  · exact Attributes.denotes (List.Perm.refl _)
  · exact Attributes.denotes order
  · exact Descriptor.denotes (List.Perm.refl _)
  · exact Descriptor.denotes order
  · exact DescriptorEntry.denotes (List.Perm.refl _) (List.Perm.refl _)
  · exact DescriptorEntry.denotes inside order

/-- An entry with the members of all objects in reverse, a hash that has to be escaped and a count
that is as large as can be. -/
theorem records_survive_reversed :
    let entry : DescriptorEntry :=
      ⟨⟨some "\"\\\u0001é😀", 3, none, 1, 3⟩, 18446744073709551615⟩
    DescriptorEntry.ofJson? (object
      [("refcount", natural entry.refcount.toNat),
        ("descriptor", object entry.descriptor.members.reverse)]) = .ok entry := by
  intro entry
  exact (records_survive.2.2.2 entry).2 _ _ (List.reverse_perm _) (List.Perm.swap _ _ _)

example : Attributes.toJson ⟨none, 3, some "text/plain"⟩ =
    "\x7b\"hash\":null,\"size\":3,\"contentType\":\"text/plain\"\x7d".toList := by
  decide +kernel

end AssetCache
