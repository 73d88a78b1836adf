import AssetCache.Proofs.MediaType.Prefixes
import Mathlib.Data.List.Pairwise
import Mathlib.Data.List.ProdSigma

/-!
# Content with more than one signature

Signatures ask for different bytes at some place, but for one: that of a container looks behind the
bytes that the shortest of the others ask for. So content can have the signatures of two media
types, one of them that of a container, and the order in which they are tried decides between them
(`MediaType.Outranks`, `MediaType.exists_ambiguous`). Nothing else of the order matters
(`MediaType.sniff_eq_iff_of_signed`).
-/

namespace AssetCache

variable {content : Bytes}

/-! ### Signatures that exclude each other -/

namespace Window

/-- The byte that a window asks for at a place of the content. -/
def byte? (window : Window) (place : Nat) : Option UInt8 :=
  if window.place ≤ place then window.bytes[place - window.place]? else none

/-- Whether two windows ask for different bytes at a place. -/
def clashes (first second : Window) : Bool :=
  (List.range Signature.reach).any fun place =>
    (first.byte? place).isSome && (second.byte? place).isSome &&
      first.byte? place ≠ second.byte? place

lemma getElem?_of_fits {window : Window} {place : Nat} (fits : window.fits content = true)
    (asked : (window.byte? place).isSome = true) : content[place]? = window.byte? place := by
  unfold byte? at asked ⊢
  split at asked
  · next reached =>
    have inside : place - window.place < window.bytes.length := by simpa using asked
    have same : (content.drop window.place).take window.bytes.length = window.bytes :=
      of_decide_eq_true fits
    rw [if_pos reached, ← same, List.getElem?_take_of_lt inside, List.getElem?_drop,
      Nat.add_sub_cancel' reached]
  · contradiction

lemma not_fits_of_clashes {first second : Window} (clash : first.clashes second = true)
    (fits : first.fits content = true) : ¬ second.fits content = true := by
  intro fits'
  obtain ⟨place, -, different⟩ := List.any_eq_true.1 clash
  simp only [Bool.and_eq_true, decide_eq_true_eq] at different
  obtain ⟨⟨asked, asked'⟩, different⟩ := different
  exact different ((getElem?_of_fits fits asked).symm.trans (getElem?_of_fits fits' asked'))

end Window

namespace Signature

/-- Whether two signatures ask for different bytes at a place. -/
def clashes (first second : Signature) : Bool :=
  first.windows.any fun window => second.windows.any fun other => window.clashes other

lemma window_of_fits {signature : Signature} (fits : signature.fits content = true)
    {window : Window} (among : window ∈ signature.windows) : window.fits content = true := by
  simp only [Signature.fits, Bool.and_eq_true, List.all_eq_true] at fits
  exact fits.2 window among

lemma not_fits_of_clashes {first second : Signature} (clash : first.clashes second = true)
    (fits : first.fits content = true) : ¬ second.fits content = true := by
  intro fits'
  obtain ⟨window, among, clash⟩ := List.any_eq_true.1 clash
  obtain ⟨other, among', clash⟩ := List.any_eq_true.1 clash
  exact Window.not_fits_of_clashes clash (window_of_fits fits among) (window_of_fits fits' among')

end Signature

/-! ### Media types whose signatures content can have at once -/

namespace MediaType

open Signature

/-- The media types that the brand of a container tells apart. -/
def containers : List MediaType :=
  [.avif, .heic, .quicktime, .mp4]

/-- The pairs of media types whose signatures content can have at once; that of the first is tried
before that of the second. -/
def rankings : List (MediaType × MediaType) :=
  [.jpeg, .tiff, .icon] ×ˢ containers ++ [(.webp, .mp4)] ++ containers ×ˢ [.gzip, .zip]

/-- Whether content with the signatures of two media types is taken for the first of them. -/
def Outranks (first second : MediaType) : Prop :=
  (first, second) ∈ rankings

instance (first second : MediaType) : Decidable (Outranks first second) :=
  inferInstanceAs (Decidable ((first, second) ∈ rankings))

/-- Whether content has a signature of a media type. -/
def Signed (content : Bytes) (mediaType : MediaType) : Prop :=
  ∃ signature ∈ table, signature.fits content = true ∧ signature.mediaType content = mediaType

instance (content : Bytes) (mediaType : MediaType) : Decidable (Signed content mediaType) :=
  inferInstanceAs (Decidable (∃ signature ∈ table, _))

lemma Outranks.irrefl (mediaType : MediaType) : ¬ Outranks mediaType mediaType := by
  cases mediaType <;> decide

lemma Outranks.asymm : ∀ pair ∈ rankings, ¬ Outranks pair.2 pair.1 := by
  decide

end MediaType

namespace Signature

/-- The signature of a container. -/
def container : Signature :=
  ⟨12, [⟨4, Bytes.ofText "ftyp"⟩], fun content => brandType ((content.drop 8).take 4)⟩

/-- The signatures that are tried before that of a container. -/
def early : List Signature :=
  table.take 10

/-- The signatures that are tried after that of a container. -/
def late : List Signature :=
  table.drop 11

lemma table_eq : table = early ++ container :: late := rfl

lemma brandType_mem_containers (brand : Bytes) : brandType brand ∈ MediaType.containers := by
  unfold brandType
  split_ifs <;> decide

/-- Of the signatures without that of a container, content has one at most. -/
lemma pairwise_clashes :
    (early ++ late).Pairwise fun first second => first.clashes second = true := by
  decide +kernel

/-- A signature that is not that of a container names one media type. -/
lemma mediaType_eq {signature : Signature} (known : signature ∈ early ++ late) (content : Bytes) :
    signature.mediaType content = signature.mediaType [] := by
  simp only [early, late, table, List.take, List.drop, List.cons_append, List.nil_append,
    List.mem_cons, List.not_mem_nil, or_false] at known
  rcases known with rfl | rfl | rfl | rfl | rfl | rfl | rfl | rfl | rfl | rfl | rfl | rfl <;> rfl

lemma early_cases : ∀ signature ∈ early, signature.clashes container = true ∨
    signature.mediaType [] ∈ [MediaType.jpeg, .tiff, .icon] ∨
      signature.mediaType [] = .webp ∧ ⟨8, Bytes.ofText "WEBP"⟩ ∈ signature.windows := by
  decide +kernel

lemma late_cases : ∀ signature ∈ late, signature.mediaType [] ∈ [MediaType.gzip, .zip] := by
  decide

/-- A container with another signature is taken for what is tried before it. -/
lemma outranks_of_early {signature : Signature} (known : signature ∈ early)
    (fits : signature.fits content = true) (contains : container.fits content = true) :
    MediaType.Outranks (signature.mediaType content) (container.mediaType content) := by
  rw [mediaType_eq (List.mem_append_left late known)]
  rcases early_cases signature known with clash | plain | ⟨webp, framed⟩
  · exact absurd contains (not_fits_of_clashes clash fits)
  · have pair : (signature.mediaType [], container.mediaType content) ∈
        [MediaType.jpeg, .tiff, .icon] ×ˢ MediaType.containers :=
      List.mem_product.2 ⟨plain, brandType_mem_containers _⟩
    exact List.mem_append_left _ (List.mem_append_left _ pair)
  · -- The other signature asks for the brand, and it is not one that is told apart.
    have short : (Bytes.ofText "WEBP").length = 4 := by decide +kernel
    have brand : (content.drop 8).take 4 = Bytes.ofText "WEBP" :=
      short ▸ of_decide_eq_true (window_of_fits fits framed)
    have named : container.mediaType content = .mp4 := by
      show brandType ((content.drop 8).take 4) = _
      rw [brand]
      decide +kernel
    rw [webp, named]
    decide

lemma outranks_of_late {signature : Signature} (known : signature ∈ late) :
    MediaType.Outranks (container.mediaType content) (signature.mediaType content) := by
  rw [mediaType_eq (List.mem_append_right early known)]
  exact List.mem_append_right _
    (List.mem_product.2 ⟨brandType_mem_containers _, late_cases signature known⟩)

/-- Of two signatures that content has, the one that is tried first outranks the other one. -/
lemma pairwise_outranks (content : Bytes) : table.Pairwise fun first second =>
    first.fits content = true → second.fits content = true →
      MediaType.Outranks (first.mediaType content) (second.mediaType content) := by
  have apart {first second : Signature} (clash : first.clashes second = true)
      (fits : first.fits content = true) (fits' : second.fits content = true) :
      MediaType.Outranks (first.mediaType content) (second.mediaType content) :=
    absurd fits' (not_fits_of_clashes clash fits)
  obtain ⟨before, after, across⟩ := List.pairwise_append.1 pairwise_clashes
  rw [table_eq, List.pairwise_append, List.pairwise_cons]
  refine ⟨before.imp apart, ⟨?_, after.imp apart⟩, ?_⟩
  · intro second known _ _
    exact outranks_of_late known
  · intro first known second known'
    rcases List.mem_cons.1 known' with rfl | known'
    · exact outranks_of_early known
    · exact apart (across first known second known')

end Signature

namespace MediaType

open Signature

/-- Of two media types whose signatures content has, one outranks the other. -/
lemma Signed.trichotomy {first second : MediaType} (signed : Signed content first)
    (signed' : Signed content second) :
    first = second ∨ Outranks first second ∨ Outranks second first := by
  let Ranked (signature other : Signature) : Prop :=
    signature.fits content = true → other.fits content = true →
      signature.mediaType content = other.mediaType content ∨
        Outranks (signature.mediaType content) (other.mediaType content) ∨
          Outranks (other.mediaType content) (signature.mediaType content)
  have symm : Std.Symm Ranked :=
    ⟨fun _ _ ranked fits fits' => (ranked fits' fits).imp Eq.symm Or.symm⟩
  have ranked : table.Pairwise Ranked :=
    (pairwise_outranks content).imp fun outranks fits fits' =>
      Or.inr (Or.inl (outranks fits fits'))
  obtain ⟨signature, known, fits, rfl⟩ := signed
  obtain ⟨other, known', fits', rfl⟩ := signed'
  have same : ∀ signature ∈ table, Ranked signature signature := fun _ _ _ _ => Or.inl rfl
  exact ranked.forall_of_forall same known known' fits fits'

/-- Whether the signatures are tried in an order in which none comes before one that outranks it. -/
def Respects (order : List Signature) (content : Bytes) : Prop :=
  order.Pairwise fun first second => first.fits content = true → second.fits content = true →
    ¬ Outranks (second.mediaType content) (first.mediaType content)

/-- The first signature that content has is not outranked by another one. -/
lemma not_outranks_of_find? {order : List Signature} (respects : Respects order content)
    {signature other : Signature} (found : order.find? (·.fits content) = some signature)
    (known : other ∈ order) (fits : other.fits content = true) :
    ¬ Outranks (other.mediaType content) (signature.mediaType content) := by
  obtain ⟨fits', before, after, rfl, unfit⟩ := List.find?_eq_some_iff_append.1 found
  rcases List.mem_append.1 known with known | known
  · have misfit := unfit other known
    rw [fits] at misfit
    contradiction
  · rcases List.mem_cons.1 known with rfl | known
    · exact Outranks.irrefl _
    · exact (List.pairwise_cons.1 (List.pairwise_append.1 respects).2.1).1 other known fits' fits

/-- What content is taken for has a signature, and no media type with one outranks it. -/
lemma leads_of_find? {order : List Signature} (perm : order.Perm table)
    (respects : Respects order content) {mediaType : MediaType}
    (found : (order.find? (·.fits content)).map (·.mediaType content) = some mediaType) :
    Signed content mediaType ∧ ∀ other, Signed content other → ¬ Outranks other mediaType := by
  obtain ⟨signature, first, rfl⟩ := Option.map_eq_some_iff.1 found
  constructor
  · have fits : signature.fits content = true :=
      (List.find?_eq_some_iff_append.1 first).1
    exact ⟨signature, perm.subset (List.mem_of_find?_eq_some first), fits, rfl⟩
  · rintro _ ⟨other, known, fits, rfl⟩
    exact not_outranks_of_find? respects first (perm.symm.subset known) fits

lemma Signed.exists_find? {order : List Signature} (perm : order.Perm table)
    {mediaType : MediaType} (signed : Signed content mediaType) :
    ∃ found, (order.find? (·.fits content)).map (·.mediaType content) = some found := by
  obtain ⟨signature, known, fits, -⟩ := signed
  have some : (order.find? (·.fits content)).isSome = true :=
    List.find?_isSome.2 ⟨signature, perm.symm.subset known, fits⟩
  obtain ⟨first, found⟩ := Option.isSome_iff_exists.1 some
  exact ⟨first.mediaType content, by rw [found, Option.map_some]⟩

/-- No two media types with a signature are both not outranked. -/
lemma Signed.unique {first second : MediaType} (signed : Signed content first)
    (signed' : Signed content second) (leads : ¬ Outranks second first)
    (leads' : ¬ Outranks first second) : first = second := by
  rcases signed.trichotomy signed' with same | outranks | outranks
  · exact same
  · exact absurd outranks leads'
  · exact absurd outranks leads

lemma respects_table (content : Bytes) : Respects table content :=
  (pairwise_outranks content).imp fun outranks fits fits' =>
    Outranks.asymm _ (outranks fits fits')

/-- The first bytes of content of a media type that is not a container. -/
def opening : MediaType → Bytes
  | .jpeg => [0xFF, 0xD8, 0xFF, 0xE0]
  | .tiff => [0x49, 0x49, 0x2A, 0x00]
  | .icon => [0x00, 0x00, 0x01, 0x00]
  | .webp => Bytes.ofText "RIFF"
  | .gzip => [0x1F, 0x8B, 0x08, 0x00]
  | _ => [0x50, 0x4B, 0x03, 0x04]

/-- A brand of a container of some media type. -/
def brand : MediaType → Bytes
  | .avif => Bytes.ofText "avif"
  | .heic => Bytes.ofText "heic"
  | .quicktime => Bytes.ofText "qt  "
  | _ => Bytes.ofText "WEBP"

/-- Content with the signatures of two media types, one of which is that of a container. -/
def blend (first second : MediaType) : Bytes :=
  if first ∈ containers then opening second ++ Bytes.ofText "ftyp" ++ brand first
  else opening first ++ Bytes.ofText "ftyp" ++ brand second

lemma signed_blend :
    ∀ pair ∈ rankings,
      Signed (blend pair.1 pair.2) pair.1 ∧ Signed (blend pair.1 pair.2) pair.2 := by
  decide +kernel

/-- There is content with the signatures of two media types just when one outranks the other. -/
lemma exists_signed_iff {first second : MediaType} (different : first ≠ second) :
    (∃ content, Signed content first ∧ Signed content second) ↔
      Outranks first second ∨ Outranks second first := by
  constructor
  · rintro ⟨content, signed, signed'⟩
    exact (signed.trichotomy signed').resolve_left different
  · rintro (outranks | outranks)
    · exact ⟨_, signed_blend _ outranks⟩
    · exact ⟨_, (signed_blend _ outranks).symm⟩

/-- Content with the signature of a media type is taken for it just when it has none of a media type
that outranks it. There is such content only if one of the two is a container; and beyond that, it
makes no difference in which order the signatures are tried. -/
theorem sniff_eq_iff_of_signed {mediaType : MediaType} (signed : Signed content mediaType) :
    (sniff content = mediaType ↔ ∀ other, Signed content other → ¬ Outranks other mediaType) ∧
      (∀ other, other ≠ mediaType → ((∃ content, Signed content other ∧ Signed content mediaType) ↔
        Outranks other mediaType ∨ Outranks mediaType other)) ∧
      ∀ order : List Signature, order.Perm table → Respects order content →
        (order.find? (·.fits content)).map (·.mediaType content) = some (sniff content) := by
  obtain ⟨found, first⟩ := signed.exists_find? (List.Perm.refl table)
  obtain ⟨signed', leads⟩ := leads_of_find? (List.Perm.refl table) (respects_table content) first
  have sniffed : sniff content = found := sniff_of_signed first
  refine ⟨?_, fun other => exists_signed_iff, ?_⟩
  · rw [sniffed]
    constructor
    · rintro rfl
      exact leads
    · intro leads'
      exact signed'.unique signed (leads _ signed) (leads' _ signed')
  · intro order perm respects
    obtain ⟨found', first'⟩ := signed.exists_find? perm
    obtain ⟨signed'', leads''⟩ := leads_of_find? perm respects first'
    rw [first', sniffed, signed''.unique signed' (leads'' _ signed') (leads _ signed'')]

/-- A compressed file whose name starts where the mark of a container is looked for. -/
theorem sniff_eq_iff_of_signed_gzip :
    Signed (blend .mp4 .gzip) .gzip ∧ sniff (blend .mp4 .gzip) ≠ .gzip := by
  have signed : Signed (blend .mp4 .gzip) .mp4 ∧ Signed (blend .mp4 .gzip) .gzip :=
    signed_blend (.mp4, .gzip) (by decide)
  refine ⟨signed.2, fun sniffed => ?_⟩
  exact (sniff_eq_iff_of_signed signed.2).1.1 sniffed .mp4 signed.1 (by decide)

/-- What content is taken for may depend on the order in which the signatures are tried. -/
theorem exists_ambiguous : ¬ ∀ content, ∀ signature ∈ table, signature.fits content = true →
    sniff content = signature.mediaType content := by
  intro claimed
  have known : container ∈ table := by simp [table_eq]
  have fits : container.fits (blend .icon .heic) = true := by decide +kernel
  have sniffed : sniff (blend .icon .heic) = .icon := by decide +kernel
  have named : container.mediaType (blend .icon .heic) = .heic := by decide +kernel
  have same := claimed _ container known fits
  rw [sniffed, named] at same
  contradiction

end MediaType

end AssetCache
