import AssetCache.Blob.Directory
import AssetCache.Proofs.Blob.Paths
import Mathlib.Data.List.DropRight

/-!
# The paths of keys

Which keys are taken as paths, and what the paths of a directory store are made of. A key is taken
if its components are names and nothing else (`FilePath.exists_ofKey_iff`); below the root of a
store they follow the components of the root (`FilePath.components_join`). The path to the directory
above, and the path of the temporary file, are read off the pieces before the last name
(`FilePath.Ends`).
-/

namespace AssetCache.FilePath

variable {path root : FilePath} {key name first piece : String}
  {pieces above idle rest : List String} {token : Token}

/-! ### Components -/

/-- What a path is made of, as it is read from left to right. -/
inductive Component where
  /-- The directory at the top, from which an absolute path leads on. -/
  | top
  /-- The dot that a path starts with. Any other dot is dropped. -/
  | current
  /-- A step up. -/
  | up
  | name (text : String)
deriving DecidableEq

/-- The component that a piece stands for after the first piece, if it stands for any. -/
def component? (piece : String) : Option Component :=
  if isIdle piece then none
  else if piece = upward then some .up
  else some (.name piece)

/-- The component that the first piece of a path stands for. -/
def firstComponent (piece : String) : Component :=
  if piece = "" then .top
  else if piece = "." then .current
  else if piece = upward then .up
  else .name piece

/-- The components of a path. Slashes that are repeated or come last count for nothing. -/
def components (path : FilePath) : List Component :=
  match path.pieces with
  | [] | [""] => []
  | first :: rest => firstComponent first :: rest.filterMap component?

/-- The names of a path: its pieces that lead somewhere. -/
def names (path : FilePath) : List String :=
  path.pieces.filter fun piece => !isIdle piece

example : (ofText "a//./b/").components = [.name "a", .name "b"] := by decide +kernel

lemma component?_of_idle (idle : isIdle piece = true) : component? piece = none := by
  rw [component?, if_pos idle]

lemma component?_of_busy (busy : isIdle piece = false) :
    component? piece = some (firstComponent piece) := by
  have named : piece ≠ "" ∧ piece ≠ "." := by simpa [isIdle] using busy
  rw [component?, busy, firstComponent, if_neg named.1, if_neg named.2]
  by_cases up : piece = upward <;> simp [up]

lemma components_cons (other : first :: rest ≠ [""]) :
    components ⟨first :: rest⟩ = firstComponent first :: rest.filterMap component? := by
  unfold components
  split
  · next none => cases none
  · next empty => exact absurd empty other
  · next split =>
    obtain ⟨rfl, rfl⟩ := List.cons.inj split
    rfl

/-- A path that starts with a name or a step up has a component for each such piece. -/
lemma components_of_busy (busy : isIdle first = false) :
    components ⟨first :: rest⟩ = (first :: rest).filterMap component? := by
  have other : first :: rest ≠ [""] := by
    rintro same
    obtain ⟨rfl, -⟩ := List.cons.inj same
    exact absurd busy (by decide)
  rw [components_cons other, List.filterMap_cons_some (component?_of_busy busy)]

/-! ### Keys that are taken -/

lemma exists_cons_of_staysBelow (stays : path.staysBelow = true) :
    ∃ first rest, path.pieces = first :: rest ∧ isIdle first = false := by
  simp only [staysBelow, Bool.and_eq_true, Option.any_eq_true] at stays
  obtain ⟨⟨first, head, busy⟩, -⟩ := stays
  obtain ⟨rest, split⟩ := List.head?_eq_some_iff.1 head
  exact ⟨first, rest, split, by simpa using busy⟩

lemma upward_notMem_of_staysBelow (stays : path.staysBelow = true) : upward ∉ path.pieces := by
  simp only [staysBelow, Bool.and_eq_true] at stays
  simpa using stays.2

/-- The components of a path that stays below are its names. -/
lemma components_of_staysBelow (stays : path.staysBelow = true) :
    path.components = path.names.map .name := by
  obtain ⟨first, rest, split, busy⟩ := exists_cons_of_staysBelow stays
  have down := upward_notMem_of_staysBelow stays
  have whole : path = ⟨first :: rest⟩ := congrArg FilePath.mk split
  have named (pieces : List String) (down : upward ∉ pieces) :
      pieces.filterMap component? =
        (pieces.filter fun piece => !isIdle piece).map Component.name := by
    induction pieces with
    | nil => rfl
    | cons piece pieces ih =>
      obtain ⟨other, others⟩ := List.ne_and_not_mem_of_not_mem_cons down
      cases idle : isIdle piece with
      | true => simp [component?_of_idle idle, idle, ih others]
      | false => simp [component?, idle, other.symm, ih others]
  rw [names, split] at *
  rw [whole, components_of_busy busy, named _ down]

lemma names_ne_nil_of_staysBelow (stays : path.staysBelow = true) : path.names ≠ [] := by
  obtain ⟨first, rest, split, busy⟩ := exists_cons_of_staysBelow stays
  simp [names, split, busy]

/-- A path stays below if its first component is a name and none leads up. -/
lemma staysBelow_iff (path : FilePath) : path.staysBelow = true ↔
    path.components ≠ [] ∧ Component.top ∉ path.components ∧
      path.components.head? ≠ some .current ∧ Component.up ∉ path.components := by
  constructor
  · intro stays
    have named := names_ne_nil_of_staysBelow stays
    rw [components_of_staysBelow stays]
    simpa [List.head?_map] using named
  · rintro ⟨inhabited, low, start, down⟩
    obtain ⟨pieces⟩ := path
    cases pieces with
    | nil => exact absurd rfl inhabited
    | cons first rest =>
      have other : first :: rest ≠ [""] := by
        intro same
        rw [same] at inhabited
        exact inhabited rfl
      rw [components_cons other] at low start down
      have named : first ≠ "" := by
        rintro rfl
        exact low (by simp [firstComponent])
      have moving : first ≠ "." := by
        rintro rfl
        exact start (by simp [firstComponent])
      have ahead : upward ∉ first :: rest := by
        intro among
        rcases List.mem_cons.1 among with rfl | among
        · exact down (by simp [firstComponent, upward])
        · refine down (List.mem_cons_of_mem _ (List.mem_filterMap.2 ⟨upward, among, ?_⟩))
          decide
      simpa [staysBelow, isIdle, named, moving] using ahead

/-- A key is absolute if it starts with a slash. -/
lemma top_mem_components_iff (key : String) :
    Component.top ∈ (ofText key).components ↔ key.toList.head? = some '/' := by
  have below (rest : List String) : Component.top ∉ rest.filterMap component? := by
    intro among
    obtain ⟨piece, -, stands⟩ := List.mem_filterMap.1 among
    unfold component? at stands
    split_ifs at stands <;> cases stands
  cases text : key.toList with
  | nil => simp [ofText, text, cut, components]
  | cons c rest =>
    obtain ⟨piece, more, split⟩ := List.exists_cons_of_ne_nil (cut_ne_nil '/' rest)
    by_cases slash : c = '/'
    · have pieces : (ofText key).pieces = "" :: (cut '/' rest).map String.ofList := by
        simp [ofText, text, cut, slash]
      rw [components, pieces, split]
      simp [firstComponent, slash]
    · have pieces : ofText key = ⟨String.ofList (c :: piece) :: more.map String.ofList⟩ := by
        simp [ofText, text, cut, slash, split]
      have named : String.ofList (c :: piece) ≠ "" := by
        intro same
        simpa using congrArg String.toList same
      have other : firstComponent (String.ofList (c :: piece)) ≠ Component.top := by
        rw [firstComponent, if_neg named]
        split_ifs <;> simp
      have low : Component.top ∉ (ofText key).components := by
        rw [pieces, components_cons fun same => named (List.cons.inj same).1, List.mem_cons, not_or]
        exact ⟨other.symm, below _⟩
      simp [low, slash]

/-- The keys that are taken as paths: those that are not absolute, have a component, do not start
with a dot and never lead up. -/
theorem exists_ofKey_iff (key : String) : (∃ path, ofKey key = .ok path) ↔
    key ≠ "" ∧ key.toList.head? ≠ some '/' ∧ (ofText key).components ≠ [] ∧
      (ofText key).components.head? ≠ some .current ∧ Component.up ∉ (ofText key).components := by
  have taken : (∃ path, ofKey key = .ok path) ↔ (ofText key).staysBelow = true := by
    by_cases stays : (ofText key).staysBelow = true <;> simp [ofKey, ofKey?, stays]
  rw [taken, staysBelow_iff, top_mem_components_iff]
  constructor
  · rintro ⟨inhabited, low, start, down⟩
    refine ⟨?_, low, inhabited, start, down⟩
    rintro rfl
    exact inhabited (by decide +kernel)
  · rintro ⟨-, low, inhabited, start, down⟩
    exact ⟨inhabited, low, start, down⟩

lemma ofKey?_eq_some_iff : ofKey? key = some path ↔
    path = ofText key ∧ (ofText key).staysBelow = true := by
  by_cases stays : (ofText key).staysBelow = true <;> simp [ofKey?, stays, eq_comm]

lemma ofKey_eq_ok_iff : ofKey key = .ok path ↔ ofKey? key = some path := by
  unfold ofKey
  cases ofKey? key <;> simp

lemma ofKey_of_refused (refused : ofKey? key = none) :
    ofKey key = .error (.invalid ("invalid blob key: " ++ Text.quoted key)) := by
  rw [ofKey, refused]

/-! ### Paths below a root -/

/-- The pieces of a path, up to a slash at its end. -/
def footing (path : FilePath) : List String :=
  if path.pieces.getLast? = some "" then path.pieces.dropLast else path.pieces

lemma pieces_eq_footing (path : FilePath) :
    path.pieces = path.footing ∨ path.pieces = path.footing ++ [""] := by
  unfold footing
  split
  · next slash => exact .inr (List.dropLast_append_getLast? "" slash).symm
  · exact .inl rfl

lemma join_eq (root path : FilePath) : root.join path = ⟨root.footing ++ path.pieces⟩ := by
  unfold join footing
  split <;> rfl

lemma components_of_footing_nil (none : root.footing = []) : root.components = [] := by
  unfold footing at none
  split at none
  · next slash =>
    have whole : root.pieces = [""] := by
      rw [← List.dropLast_append_getLast? "" slash, none]
      rfl
    simp [components, whole]
  · simp [components, none]

/-- A slash at the end of a path is no component. -/
lemma components_of_footing_cons (split : root.footing = first :: rest) :
    root.components = firstComponent first :: rest.filterMap component? := by
  obtain ⟨pieces⟩ := root
  unfold footing at split
  split at split
  · next slash =>
    have whole : pieces = first :: (rest ++ [""]) := by
      have parts := List.dropLast_append_getLast? "" slash
      rw [split] at parts
      exact parts.symm
    have idle : component? "" = none := by decide
    rw [whole, components_cons (by simp), List.filterMap_append, List.filterMap_cons_none idle,
      List.filterMap_nil, List.append_nil]
  · next busy =>
    have whole : pieces = first :: rest := split
    rw [whole, components_cons]
    rintro same
    rw [whole, same] at busy
    exact busy rfl

/-- A path that stays below a root has the components of the root before its own. -/
theorem components_join (root : FilePath) (stays : path.staysBelow = true) :
    (root.join path).components = root.components ++ path.components := by
  obtain ⟨first, rest, split, busy⟩ := exists_cons_of_staysBelow stays
  have own : path.components = path.pieces.filterMap component? := by
    obtain ⟨pieces⟩ := path
    obtain rfl : pieces = first :: rest := split
    exact components_of_busy busy
  rw [join_eq]
  cases front : root.footing with
  | nil => rw [components_of_footing_nil front, List.nil_append, List.nil_append]
  | cons start between =>
    have longer : start :: (between ++ path.pieces) ≠ [""] := by simp [split]
    rw [components_of_footing_cons front, List.cons_append, components_cons longer,
      List.filterMap_append, own, List.cons_append]

/-- What is idle at the end is dropped from the pieces in front only if nothing else follows. -/
lemma rdropWhile_isIdle_append (front back : List String) : (front ++ back).rdropWhile isIdle =
    (if back.rdropWhile isIdle = [] then front.rdropWhile isIdle else front) ++
      back.rdropWhile isIdle := by
  simp only [List.rdropWhile, List.reverse_append, List.dropWhile_append, List.reverse_eq_nil_iff,
    List.isEmpty_iff]
  split
  · next none => simp [none]
  · simp

/-! ### The last name -/

/-- A path that stays below, around its last name. -/
structure Ends (path : FilePath) (above : List String) (name : String) (idle : List String) :
    Prop where
  pieces : path.pieces = above ++ name :: idle
  down : upward ∉ path.pieces
  busy : isIdle name = false
  idle : ∀ piece ∈ idle, isIdle piece = true

lemma exists_ends (stays : path.staysBelow = true) :
    ∃ above name idle, path.Ends above name idle := by
  have parts := List.takeWhile_append_dropWhile (p := isIdle) (l := path.pieces.reverse)
  obtain ⟨first, rest, split, busy⟩ := exists_cons_of_staysBelow stays
  cases back : path.backward with
  | nil =>
    have idle := List.dropWhile_eq_nil_iff.1 back first (by simp [split])
    rw [busy] at idle
    cases idle
  | cons name above =>
    have head := List.head?_dropWhile_not isIdle path.pieces.reverse
    rw [backward] at back
    rw [back] at head parts
    refine ⟨above.reverse, name, (path.pieces.reverse.takeWhile isIdle).reverse, ?_,
      upward_notMem_of_staysBelow stays, by simpa using head, ?_⟩
    · have forward := congrArg List.reverse parts
      rw [List.reverse_reverse, List.reverse_append, List.reverse_cons, List.append_assoc]
        at forward
      exact forward.symm
    · intro piece among
      exact List.mem_takeWhile_imp (List.mem_reverse.1 among)

lemma exists_ends_of_ofKey (taken : ofKey key = .ok path) :
    ∃ above name idle, path.Ends above name idle := by
  obtain ⟨rfl, stays⟩ := ofKey?_eq_some_iff.1 (ofKey_eq_ok_iff.1 taken)
  exact exists_ends stays

namespace Ends

lemma name_ne_upward (ends : path.Ends above name idle) : name ≠ upward := by
  rintro rfl
  exact ends.down (by simp [ends.pieces])

/-- Read backward, a path starts with its last name. -/
lemma backward (ends : path.Ends above name idle) (front : List String) :
    FilePath.backward ⟨front ++ path.pieces⟩ = name :: (front ++ above).reverse := by
  have tail : ∀ piece ∈ idle.reverse, isIdle piece = true := fun piece among =>
    ends.idle piece (List.mem_reverse.1 among)
  simp only [FilePath.backward, ends.pieces, List.reverse_append, List.reverse_cons,
    List.append_assoc]
  rw [List.dropWhile_append_of_pos tail]
  simp [ends.busy]

lemma parent (ends : path.Ends above name idle) (root : FilePath) :
    (root.join path).parent = ⟨(root.footing ++ above).rdropWhile isIdle⟩ := by
  rw [FilePath.parent, join_eq, ends.backward]
  rfl

/-- The temporary file lies beside the last name, whatever follows that. -/
lemma temporary (ends : path.Ends above name idle) (token : Token) :
    path.temporary token = ⟨above ++ [temporaryName name (idle = []) token]⟩ := by
  have back := ends.backward []
  have last : path.pieces.getLast? = some name ↔ idle = [] := by
    rw [ends.pieces]
    constructor
    · intro last
      by_contra inhabited
      have among : name ∈ idle := by
        rw [List.getLast?_append_of_ne_nil _ (by simp), List.getLast?_cons_of_ne_nil inhabited]
          at last
        exact List.mem_of_getLast? last
      have idle := ends.idle name among
      rw [ends.busy] at idle
      cases idle
    · rintro rfl
      simp
  unfold FilePath.temporary
  rw [List.nil_append, List.nil_append] at back
  simp [back, last]

/-- The last name of a path is also the last of its names. -/
lemma names (ends : path.Ends above name idle) :
    path.names = above.filter (fun piece => !isIdle piece) ++ [name] := by
  have rest : idle.filter (fun piece => !isIdle piece) = [] := by simpa using ends.idle
  rw [FilePath.names, ends.pieces, List.filter_append,
    List.filter_cons_of_pos (by simp [ends.busy]), rest]

end Ends

lemma temporaryName_of_ne_upward {isLast : Bool}
    (other : temporaryName name isLast token ≠ upward) :
    temporaryName name isLast token =
      String.ofList (stem name.toList) ++ "." ++ token.plainText ++ ".tmp" := by
  unfold temporaryName at other ⊢
  dsimp only at other ⊢
  split at other
  · exact absurd rfl other
  · next stemmed => rw [if_neg stemmed]

/-- There is always a name for the temporary file, if only that of the directory above. -/
lemma isIdle_temporaryName (name : String) (isLast : Bool) (token : Token) :
    isIdle (temporaryName name isLast token) = false := by
  by_cases up : temporaryName name isLast token = upward
  · rw [up]
    decide
  · have longer : 4 ≤ (temporaryName name isLast token).utf8ByteSize := by
      have ending : ".tmp".utf8ByteSize = 4 := by decide
      rw [temporaryName_of_ne_upward up, String.utf8ByteSize_append, ending]
      exact Nat.le_add_left 4 _
    simp only [isIdle, Bool.or_eq_false_iff, decide_eq_false_iff_not]
    constructor
    · intro empty
      rw [empty] at longer
      exact absurd longer (by decide)
    · intro dot
      rw [dot] at longer
      exact absurd longer (by decide)

lemma stem_append {front back : List Char} (inhabited : front ≠ []) (dotless : '.' ∉ back) :
    stem (front ++ '.' :: back) = front := by
  have cutOff : (front ++ '.' :: back).reverse.dropWhile (· ≠ '.') = '.' :: front.reverse := by
    rw [List.reverse_append, List.reverse_cons, List.append_assoc, List.dropWhile_append_of_pos]
    · rfl
    · intro c among
      have : c ≠ '.' := by
        rintro rfl
        exact dotless (List.mem_reverse.1 among)
      simpa using this
  unfold stem
  rw [cutOff]
  split
  · next none => cases none
  · next single =>
    have empty := (List.cons.inj single).2
    exact absurd (List.reverse_eq_nil_iff.1 empty) inhabited
  · next split => rw [← (List.cons.inj split).2, List.reverse_reverse]

/-- The temporary file never has the name that it is for. -/
lemma temporaryName_ne (down : name ≠ upward) (isLast : Bool) (token : Token) :
    temporaryName name isLast token ≠ name := by
  intro same
  by_cases up : temporaryName name isLast token = upward
  · exact down (same.symm.trans up)
  · have whole := congrArg String.toList (temporaryName_of_ne_upward up)
    have ending : ".tmp".toList = '.' :: ['t', 'm', 'p'] := by decide
    have dot : ".".toList = ['.'] := by decide
    rw [same, String.toList_append, String.toList_append, String.toList_append,
      String.toList_ofList, ending, dot, List.append_assoc (stem _), List.singleton_append] at whole
    have longer : stem ((stem name.toList ++ '.' :: token.plainText.toList) ++
          '.' :: ['t', 'm', 'p']) = stem name.toList ++ '.' :: token.plainText.toList :=
      stem_append (by simp) (by decide)
    rw [← whole] at longer
    have sizes := congrArg List.length longer
    simp at sizes

end AssetCache.FilePath
