import AssetCache.Settings
import Mathlib.Data.List.Chain
import Mathlib.Data.List.Infix
import Mathlib.Data.Set.Function

/-!
# Settings from the environment

A variable names the key that is left of its name when the common beginning is taken away, the rest
is put into lowercase and every two underscores in a row are read as a dot. The last variable that
names a key gives it its text. A key whose parts hold single underscores only, and none at their
ends, is named by its own letters in uppercase with two underscores for every dot, and by no other
key's (`environment_gives_settings`).
-/

namespace AssetCache.Settings

variable {start key other : String} {text letters part : List Char} {c : Char}

/-! ### The last variable that names a key -/

/-- A variable's name stands for a key: what follows the common beginning is the key, when it is put
into lowercase and two underscores in a row are read as a dot. -/
def Names (start key name : String) : Prop :=
  ∃ rest, name = start ++ rest ∧ dotted (Text.lowercase rest.toList) = key.toList

lemma after?_eq_some_iff {front rest : List Char} :
    after? front text = some rest ↔ text = front ++ rest := by
  induction front generalizing text with
  | nil => simp [after?, eq_comm]
  | cons c front ih =>
    cases text with
    | nil => simp [after?]
    | cons d text =>
      rw [after?, Option.ite_none_right_eq_some, ih, List.cons_append, List.cons.injEq, eq_comm]

lemma names_iff (start key name : String) :
    Names start key name ↔
      ∃ rest, after? start.toList name.toList = some rest ∧ keyOf rest = key.toList := by
  simp only [after?_eq_some_iff, keyOf]
  constructor
  · rintro ⟨rest, rfl, said⟩
    exact ⟨rest.toList, String.toList_append, said⟩
  · rintro ⟨rest, whole, said⟩
    refine ⟨String.ofList rest, ?_, by rwa [String.toList_ofList]⟩
    apply String.toList_injective
    rw [whole, String.toList_append, String.toList_ofList]

instance (start key name : String) : Decidable (Names start key name) :=
  decidable_of_iff ((after? start.toList name.toList).any fun rest => keyOf rest = key.toList)
    (by simp [names_iff, Option.any_eq_true])

/-- A variable sets the key that its name stands for, and no other. -/
lemma get?_addVariable (settings : Settings) (entry : String × String) :
    (addVariable start settings entry).get? key =
      if Names start key entry.1 then some entry.2 else settings.get? key := by
  simp only [names_iff, addVariable]
  cases after? start.toList entry.1.toList with
  | none => rfl
  | some rest =>
    have same : key = String.ofList (keyOf rest) ↔ keyOf rest = key.toList := by
      rw [← String.toList_inj, String.toList_ofList, eq_comm]
    simp [same]

lemma get?_ofEnvironment (start key : String) (environment : List (String × String)) :
    (ofEnvironment start environment).get? key =
      (environment.findRev? fun entry => Names start key entry.1).map Prod.snd := by
  rw [List.findRev?_eq_find?_reverse]
  induction environment using List.reverseRecOn with
  | nil => rfl
  | append_singleton environment entry ih =>
    rw [List.reverse_concat, List.find?_cons, ofEnvironment, List.foldl_concat, get?_addVariable]
    by_cases names : Names start key entry.1
    · simp [names]
    · rw [if_neg names, ← ofEnvironment, ih]
      simp [names]

/-- Variables whose names begin otherwise are passed over. -/
lemma ofEnvironment_filter (start : String) (environment : List (String × String)) :
    ofEnvironment start (environment.filter fun entry => start.toList.isPrefixOf entry.1.toList) =
      ofEnvironment start environment := by
  rw [ofEnvironment, List.foldl_filter, ofEnvironment]
  congr
  funext settings entry
  split
  · rfl
  · next foreign =>
    have none : after? start.toList entry.1.toList = none := by
      rw [Option.eq_none_iff_forall_ne_some]
      intro rest found
      rw [after?_eq_some_iff] at found
      exact foreign (List.isPrefixOf_iff_prefix.2 (found ▸ List.prefix_append _ rest))
    rw [addVariable, none]

/-! ### Underscores and dots -/

/-- A text writes a key: some of the dots may be written as two underscores. -/
inductive Writes : List Char → List Char → Prop where
  | nil : Writes [] []
  | same (c : Char) {text key : List Char} : Writes text key → Writes (c :: text) (c :: key)
  | dot {text key : List Char} : Writes text key → Writes ('_' :: '_' :: text) ('.' :: key)

lemma writes_dotted (text : List Char) : Writes text (dotted text) := by
  fun_induction dotted text with
  | case1 rest ih => exact .dot ih
  | case2 c rest _ ih => exact .same c ih
  | case3 => exact .nil

/-- What may follow a character, so that no underscore stands before another one or before a dot. -/
def Sparse (c d : Char) : Prop :=
  c = '_' → d ≠ '_' ∧ d ≠ '.'

lemma Writes.head_ne (writes : Writes text letters)
    (bare : ∀ d ∈ letters.head?, d ≠ '_' ∧ d ≠ '.') : text.head? ≠ some '_' := by
  cases writes with
  | nil => exact nofun
  | same c _ => simpa using (bare c rfl).1
  | dot _ => exact absurd rfl (bare '.' rfl).2

/-- Where underscores are sparse, reading two of them as a dot from left to right finds those that
were written for a dot. -/
lemma Writes.dotted_eq (writes : Writes text letters) (sparse : letters.IsChain Sparse) :
    dotted text = letters := by
  induction writes with
  | nil => rfl
  | @same c text letters writes ih =>
    obtain ⟨next, sparse⟩ := List.isChain_cons.1 sparse
    rw [dotted.eq_2, ih sparse]
    rintro rest rfl rfl
    exact writes.head_ne (fun d first => next d first rfl) rfl
  | dot _ ih => rw [dotted, ih (List.isChain_cons.1 sparse).2]

lemma dotted_eq_iff (sparse : letters.IsChain Sparse) :
    dotted text = letters ↔ Writes text letters := by
  constructor
  · rintro rfl
    exact writes_dotted text
  · exact fun writes => writes.dotted_eq sparse

/-! ### Keys of the documented shape -/

/-- The characters of the parts of a key. -/
def partChars : List Char :=
  "abcdefghijklmnopqrstuvwxyz0123456789_".toList

/-- A part of a key, in which no underscore stands at an end or beside another one. -/
structure IsPart (part : List Char) : Prop where
  inhabited : part ≠ []
  plain : ∀ c ∈ part, c ∈ partChars
  first : part.head? ≠ some '_'
  last : part.getLast? ≠ some '_'
  apart : ¬['_', '_'] <:+: part

lemma isPart_iff (part : List Char) :
    IsPart part ↔ part ≠ [] ∧ part.all partChars.contains = true ∧ part.head? ≠ some '_' ∧
      part.getLast? ≠ some '_' ∧ ¬['_', '_'] <:+: part := by
  simp only [List.all_eq_true, List.contains_iff_mem]
  constructor
  · rintro ⟨inhabited, plain, first, last, apart⟩
    exact ⟨inhabited, plain, first, last, apart⟩
  · rintro ⟨inhabited, plain, first, last, apart⟩
    exact ⟨inhabited, plain, first, last, apart⟩

instance : DecidablePred IsPart := fun part => decidable_of_iff _ (isPart_iff part).symm

/-- A key of parts with dots between them. -/
def IsPlain (key : String) : Prop :=
  ∃ parts, (∀ part ∈ parts, IsPart part) ∧ key.toList = ['.'].intercalate parts

lemma IsPart.isChain (is : IsPart part) : part.IsChain Sparse := by
  rw [List.isChain_iff_forall_rel_of_append_cons_cons]
  rintro c d front back rfl rfl
  constructor
  · rintro rfl
    exact is.apart ⟨front, back, by simp⟩
  · rintro rfl
    have dot : '.' ∉ partChars := by decide
    exact dot (is.plain '.' (by simp))

lemma isChain_intercalate {parts : List (List Char)} (are : ∀ part ∈ parts, IsPart part) :
    (['.'].intercalate parts).IsChain Sparse := by
  induction parts with
  | nil => exact List.isChain_nil
  | cons part parts ih =>
    obtain ⟨is, are⟩ := List.forall_mem_cons.1 are
    cases parts with
    | nil =>
      rw [List.intercalate_singleton]
      exact is.isChain
    | cons next parts =>
      rw [List.intercalate_cons_cons, List.append_assoc, List.isChain_append]
      refine ⟨is.isChain, List.isChain_cons.2 ⟨fun d _ dot => ?_, ih are⟩, ?_⟩
      · contradiction
      · rintro c last d _ rfl
        exact absurd last is.last

lemma IsPlain.isChain (plain : IsPlain key) : key.toList.IsChain Sparse := by
  obtain ⟨parts, are, joined⟩ := plain
  rw [joined]
  exact isChain_intercalate are

lemma eq_dot_or_mem_of_mem_intercalate {parts : List (List Char)}
    (among : c ∈ ['.'].intercalate parts) : c = '.' ∨ ∃ part ∈ parts, c ∈ part := by
  induction parts with
  | nil => exact absurd among List.not_mem_nil
  | cons part parts ih =>
    cases parts with
    | nil =>
      rw [List.intercalate_singleton] at among
      exact .inr ⟨part, List.mem_cons_self, among⟩
    | cons next parts =>
      rw [List.intercalate_cons_cons, List.mem_append, List.mem_append, List.mem_singleton] at among
      rcases among with (among | dot) | among
      · exact .inr ⟨part, List.mem_cons_self, among⟩
      · exact .inl dot
      · refine (ih among).imp_right ?_
        rintro ⟨part, listed, among⟩
        exact ⟨part, List.mem_cons_of_mem _ listed, among⟩

lemma IsPlain.mem_chars (plain : IsPlain key) : ∀ c ∈ key.toList, c ∈ '.' :: partChars := by
  obtain ⟨parts, are, joined⟩ := plain
  intro c among
  rw [joined] at among
  rcases eq_dot_or_mem_of_mem_intercalate among with rfl | ⟨part, listed, among⟩
  · exact List.mem_cons_self
  · exact List.mem_cons_of_mem _ ((are part listed).plain c among)

/-! ### The variable of a key -/

/-- A character of a key as it stands in the name of a variable. -/
def variableLetters (c : Char) : List Char :=
  if c = '.' then ['_', '_'] else [c.toUpper]

/-- The name of the variable for a key: the common beginning, and then the key in uppercase with two
underscores for every dot. -/
def variableFor (start key : String) : String :=
  start ++ String.ofList (key.toList.flatMap variableLetters)

lemma lowerAfter_of_ascii {before : List Char} (ascii : ∀ c ∈ text, c.toNat < 0x80) :
    Text.lowerAfter before text = text.map Char.toLower := by
  induction text generalizing before with
  | nil => rfl
  | cons c text ih =>
    obtain ⟨narrow, ascii⟩ := List.forall_mem_cons.1 ascii
    have other : c ≠ 'Σ' := by
      rintro rfl
      contradiction
    rw [Text.lowerAfter, Text.lowerWithin, if_neg other, Text.lowerChar, if_pos narrow, ih ascii]
    rfl

/-- In lowercase, the letters of a variable give the characters of a key back, but for the dots. -/
lemma toLower_variableLetters (known : c ∈ '.' :: partChars) :
    ∀ d ∈ variableLetters c, d.toNat < 0x80 ∧ d.toLower = if c = '.' then '_' else c := by
  have table : ('.' :: partChars).all (fun c => (variableLetters c).all fun d =>
      d.toNat < 0x80 ∧ d.toLower = if c = '.' then '_' else c) = true := by
    decide +kernel
  intro d among
  exact of_decide_eq_true (List.all_eq_true.1 (List.all_eq_true.1 table c known) d among)

/-- The variable of a key writes the key, with every dot as two underscores. -/
lemma writes_flatMap (known : ∀ c ∈ letters, c ∈ '.' :: partChars) :
    Writes (Text.lowercase (letters.flatMap variableLetters)) letters := by
  have narrow : ∀ d ∈ letters.flatMap variableLetters, d.toNat < 0x80 := by
    intro d among
    obtain ⟨c, listed, among⟩ := List.mem_flatMap.1 among
    exact (toLower_variableLetters (known c listed) d among).1
  rw [Text.lowercase, lowerAfter_of_ascii narrow]
  clear narrow
  induction letters with
  | nil => exact .nil
  | cons c letters ih =>
    obtain ⟨first, others⟩ := List.forall_mem_cons.1 known
    have lower := toLower_variableLetters first
    rw [List.flatMap_cons, List.map_append]
    by_cases dot : c = '.'
    · subst dot
      exact .dot (ih others)
    · rw [variableLetters, if_neg dot] at lower ⊢
      rw [List.map_singleton, (lower _ List.mem_cons_self).2, if_neg dot]
      exact .same c (ih others)

lemma names_append_iff {rest : String} :
    Names start key (start ++ rest) ↔ dotted (Text.lowercase rest.toList) = key.toList := by
  constructor
  · rintro ⟨rest', same, said⟩
    rwa [(String.append_right_inj start).1 same]
  · exact fun said => ⟨rest, rfl, said⟩

/-- No name stands for two keys. -/
lemma Names.unique {name : String} (names : Names start key name)
    (names' : Names start other name) : key = other := by
  obtain ⟨rest, rfl, said⟩ := names
  rw [← String.toList_inj, ← said, ← names_append_iff.1 names']

lemma IsPlain.names_variableFor (plain : IsPlain key) (start : String) :
    Names start key (variableFor start key) := by
  rw [variableFor, names_append_iff, String.toList_ofList, dotted_eq_iff plain.isChain]
  exact writes_flatMap plain.mem_chars

/-- The settings that an environment gives: every key has the text of the last variable whose name
stands for it, and is absent if there is none. For a key of the documented shape these are the names
that write it in any case of the letters and with some dots as two underscores; one of them is its
own letters in uppercase with two underscores for every dot, and it has this name for itself.
Variables whose names begin otherwise make no difference. -/
theorem environment_gives_settings (start : String) (environment : List (String × String)) :
    (∀ key, (ofEnvironment start environment).get? key =
      (environment.findRev? fun entry => Names start key entry.1).map Prod.snd) ∧
    (∀ key, IsPlain key → ∀ rest : String,
      Names start key (start ++ rest) ↔ Writes (Text.lowercase rest.toList) key.toList) ∧
    (∀ key, IsPlain key → Names start key (variableFor start key)) ∧
    Set.InjOn (variableFor start) {key | IsPlain key} ∧
    ofEnvironment start (environment.filter fun entry =>
      start.toList.isPrefixOf entry.1.toList) = ofEnvironment start environment := by
  refine ⟨fun key => get?_ofEnvironment start key environment, fun key plain rest => ?_,
    fun key plain => plain.names_variableFor start, fun key plain other plain' same => ?_,
    ofEnvironment_filter start environment⟩
  · rw [names_append_iff, dotted_eq_iff plain.isChain]
  · exact (plain.names_variableFor start).unique (same ▸ plain'.names_variableFor start)

/-- A key with an underscore of its own, which two variables stand for, and a variable whose name
begins otherwise. -/
theorem environment_gives_settings_connections :
    Names "THUMB__" "sqlite.max_connections" "THUMB__SQLITE__MAX_CONNECTIONS" ∧
      (ofEnvironment "THUMB__" [("THUMB__SQLITE__MAX_CONNECTIONS", "4"),
        ("THUMB__Sqlite.Max_Connections", "8"), ("OTHER__SQLITE__MAX_CONNECTIONS", "2")]).get?
          "sqlite.max_connections" = some "8" := by
  have plain : IsPlain "sqlite.max_connections" :=
    ⟨["sqlite".toList, "max_connections".toList], by decide +kernel, by decide +kernel⟩
  have made : variableFor "THUMB__" "sqlite.max_connections" =
      "THUMB__SQLITE__MAX_CONNECTIONS" := by
    decide +kernel
  constructor
  · rw [← made]
    exact (environment_gives_settings "THUMB__" []).2.2.1 _ plain
  · rw [(environment_gives_settings "THUMB__" _).1]
    decide +kernel

end AssetCache.Settings
