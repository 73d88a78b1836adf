import AssetCache.FileTree
import Mathlib.Data.List.Infix

/-!
# Directories that are moved

A directory is moved with all that lies below it, entry by entry. Seen by names, what lay below the
old names lies below the new ones (`FileTree.node?_moveBelow_target`), nothing is left below the old
ones (`FileTree.node?_moveBelow_source`), and all else lies where it did
(`FileTree.node?_moveBelow_other`), in whatever order the entries stand in the table. This takes
that every entry stands under the number of its names, as all that is put into a tree does
(`FileTree.IsCounted`).
-/

namespace AssetCache.FileTree

variable {tree : FileTree} {names source target other : List String} {node : FileNode}

/-- Every entry of a tree stands under the number of its names. -/
def IsCounted (tree : FileTree) : Prop :=
  ∀ number names node, ((number, names), node) ∈ tree.nodes.entries → number = names.length

namespace IsCounted

lemma empty (depth : Nat) : (FileTree.empty depth).IsCounted :=
  fun _ _ _ among => absurd among List.not_mem_nil

/-- What lies at the end of some names is an entry, and an entry lies there. -/
lemma mem_entries_iff (counted : tree.IsCounted) (named : names ≠ []) :
    (∃ number, ((number, names), node) ∈ tree.nodes.entries) ↔ tree.node? names = some node := by
  obtain ⟨first, rest, rfl⟩ := List.exists_cons_of_ne_nil named
  rw [node?, Table.get?_eq_some_iff]
  · constructor
    · rintro ⟨number, among⟩
      rwa [counted number _ node among] at among
    · exact fun among => ⟨_, among⟩
  · exact named

lemma set (counted : tree.IsCounted) (names : List String) (node : FileNode) :
    (tree.set names node).IsCounted := by
  intro number other node' among
  have found := Table.get?_eq_some_iff.2 among
  rw [FileTree.set, Table.get?_insert] at found
  split at found
  · next same =>
    obtain ⟨rfl, rfl⟩ := Prod.mk.inj same
    rfl
  · exact counted number other node' (Table.get?_eq_some_iff.1 found)

lemma unset (counted : tree.IsCounted) (names : List String) : (tree.unset names).IsCounted := by
  intro number other node among
  have found := Table.get?_eq_some_iff.2 among
  rw [FileTree.unset, Table.get?_erase] at found
  split at found
  · cases found
  · exact counted number other node (Table.get?_eq_some_iff.1 found)

end IsCounted

/-- Something lies below some names, if any names go on after them. -/
lemma hasChildren_iff (counted : tree.IsCounted) : tree.hasChildren names = true ↔
    ∃ rest, rest ≠ [] ∧ tree.node? (names ++ rest) ≠ none := by
  simp only [hasChildren, Table.keys, List.any_eq_true, List.mem_map, Bool.and_eq_true,
    decide_eq_true_eq, List.isPrefixOf_iff_prefix]
  constructor
  · rintro ⟨_, ⟨⟨⟨number, _⟩, node⟩, among, rfl⟩, longer, rest, rfl⟩
    have number := counted _ _ _ among
    have inhabited : rest ≠ [] := by
      rintro rfl
      simp_all
    have found := (counted.mem_entries_iff (by simp [inhabited])).1 ⟨_, among⟩
    exact ⟨rest, inhabited, by simp [found]⟩
  · rintro ⟨rest, inhabited, there⟩
    obtain ⟨node, found⟩ := Option.ne_none_iff_exists'.1 there
    obtain ⟨number, among⟩ := (counted.mem_entries_iff (by simp [inhabited])).2 found
    refine ⟨_, ⟨_, among, rfl⟩, ?_, List.prefix_append _ _⟩
    have longer := List.length_pos_iff.2 inhabited
    simp only [counted _ _ _ among, List.length_append]
    omega

/-! ### One entry after the other -/

/-- Moves an entry, if it lies at the end of the old names or below. -/
def moveEntry (source target : List String) (tree : FileTree)
    (entry : (Nat × List String) × FileNode) : FileTree :=
  if source.isPrefixOf entry.1.2 then
    (tree.unset entry.1.2).set (target ++ entry.1.2.drop source.length) entry.2
  else tree

lemma moveBelow_eq (tree : FileTree) (source target : List String) :
    tree.moveBelow source target = tree.nodes.entries.foldl (moveEntry source target) tree :=
  rfl

variable {step : FileTree → (Nat × List String) × FileNode → FileTree}
  {entries : List ((Nat × List String) × FileNode)} {result : Option FileNode}

lemma node?_foldl_of_idle
    (idle : ∀ entry ∈ entries, ∀ tree, (step tree entry).node? other = tree.node? other)
    (tree : FileTree) : (entries.foldl step tree).node? other = tree.node? other := by
  induction entries generalizing tree with
  | nil => rfl
  | cons entry rest ih =>
    obtain ⟨first, others⟩ := List.forall_mem_cons.1 idle
    rw [List.foldl_cons, ih others, first]

/-- What one step puts in a place is there in the end, if all others leave the place alone or put
the same there. -/
lemma node?_foldl_of_acting
    (steps : ∀ entry ∈ entries, (∀ tree, (step tree entry).node? other = result) ∨
      ∀ tree, (step tree entry).node? other = tree.node? other)
    (acting : ∃ entry ∈ entries, ∀ tree, (step tree entry).node? other = result)
    (tree : FileTree) : (entries.foldl step tree).node? other = result := by
  induction entries using List.reverseRecOn with
  | nil =>
    obtain ⟨entry, among, -⟩ := acting
    cases among
  | append_singleton entries last ih =>
    rw [List.foldl_append, List.foldl_cons, List.foldl_nil]
    rcases steps last (by simp) with acts | idle
    · exact acts _
    · rw [idle]
      obtain ⟨entry, among, acts⟩ := acting
      rcases List.mem_append.1 among with among | among
      · exact ih (fun entry among => steps entry (List.mem_append_left _ among))
          ⟨entry, among, acts⟩
      · -- The last step puts it there and leaves the place alone, so it is always there.
        obtain rfl := List.mem_singleton.1 among
        rw [← idle, acts]

/-! ### What a moved directory looks like -/

/-- Names of which none starts with the other. -/
structure Apart (source target : List String) : Prop where
  outside : ¬ source <+: target
  outside' : ¬ target <+: source

namespace Apart

lemma append_ne (apart : Apart source target) (rest rest' : List String) :
    source ++ rest ≠ target ++ rest' := by
  intro same
  have start : source <+: target ++ rest' := same ▸ List.prefix_append source rest
  exact (List.prefix_or_prefix_of_prefix start (List.prefix_append target rest')).elim
    apart.outside apart.outside'

lemma source_ne_nil (apart : Apart source target) : source ≠ [] := by
  rintro rfl
  exact apart.outside List.nil_prefix

lemma target_ne_nil (apart : Apart source target) : target ≠ [] := by
  rintro rfl
  exact apart.outside' List.nil_prefix

end Apart

lemma node?_moveEntry (apart : Apart source target) (tree : FileTree) (number : Nat)
    (rest : List String) (node : FileNode) (other : List String) :
    (moveEntry source target tree ((number, source ++ rest), node)).node? other =
      if other = target ++ rest then some node
      else if other = source ++ rest then none
      else tree.node? other := by
  have below : source.isPrefixOf (source ++ rest) = true := by simp
  have named : source ++ rest ≠ [] := by simp [apart.source_ne_nil]
  have named' : target ++ rest ≠ [] := by simp [apart.target_ne_nil]
  rw [moveEntry, if_pos below, List.drop_left, node?_set _ named', node?_unset _ named]

/-- An entry elsewhere leaves the places of an entry alone. -/
lemma node?_moveEntry_of_ne (apart : Apart source target) {rest : List String}
    {entry : (Nat × List String) × FileNode} (different : entry.1.2 ≠ source ++ rest)
    (place : other = target ++ rest ∨ other = source ++ rest) (tree : FileTree) :
    (moveEntry source target tree entry).node? other = tree.node? other := by
  obtain ⟨⟨number, names⟩, node⟩ := entry
  by_cases below : source <+: names
  · obtain ⟨rest', rfl⟩ := below
    have different' : rest ≠ rest' := by
      rintro rfl
      exact different rfl
    rw [node?_moveEntry apart]
    rcases place with rfl | rfl
    · rw [if_neg (by simpa using different'), if_neg (apart.append_ne rest' rest).symm]
    · rw [if_neg (apart.append_ne rest rest'), if_neg (by simpa using different')]
  · rw [moveEntry, if_neg (by simpa using below)]

/-- The places of an entry look as the entry was moved, if it is there. -/
lemma node?_moveBelow (counted : tree.IsCounted) (apart : Apart source target)
    {rest : List String} (place : other = target ++ rest ∨ other = source ++ rest)
    (result : FileNode → Option FileNode)
    (acts : ∀ number node tree,
      (moveEntry source target tree ((number, source ++ rest), node)).node? other = result node) :
    (tree.moveBelow source target).node? other =
      match tree.node? (source ++ rest) with
      | none => tree.node? other
      | some node => result node := by
  have named : source ++ rest ≠ [] := by simp [apart.source_ne_nil]
  rw [moveBelow_eq]
  cases found : tree.node? (source ++ rest) with
  | none =>
    refine node?_foldl_of_idle ?_ tree
    rintro ⟨⟨number, names⟩, node⟩ among
    refine node?_moveEntry_of_ne apart ?_ place
    rintro rfl
    rw [(counted.mem_entries_iff named).1 ⟨number, among⟩] at found
    cases found
  | some node =>
    refine node?_foldl_of_acting ?_ ?_ tree
    · rintro ⟨⟨number, names⟩, node'⟩ among
      by_cases same : names = source ++ rest
      · subst same
        have found' := (counted.mem_entries_iff named).1 ⟨number, among⟩
        rw [found] at found'
        obtain rfl := Option.some.inj found'
        exact .inl (acts number node)
      · exact .inr (node?_moveEntry_of_ne apart same place)
    · obtain ⟨number, among⟩ := (counted.mem_entries_iff named).2 found
      exact ⟨_, among, acts number node⟩

/-- What lay below the old names lies below the new ones. -/
lemma node?_moveBelow_target (counted : tree.IsCounted) (apart : Apart source target)
    (rest : List String) :
    (tree.moveBelow source target).node? (target ++ rest) =
      (tree.node? (source ++ rest)).or (tree.node? (target ++ rest)) := by
  rw [node?_moveBelow counted apart (.inl rfl) some]
  · cases tree.node? (source ++ rest) <;> rfl
  · intro number node tree
    rw [node?_moveEntry apart, if_pos rfl]

/-- Nothing is left below the old names. -/
lemma node?_moveBelow_source (counted : tree.IsCounted) (apart : Apart source target)
    (rest : List String) : (tree.moveBelow source target).node? (source ++ rest) = none := by
  rw [node?_moveBelow counted apart (.inr rfl) fun _ => none]
  · cases tree.node? (source ++ rest) <;> rfl
  · intro number node tree
    rw [node?_moveEntry apart, if_neg (apart.append_ne rest rest), if_pos rfl]

/-- All else lies where it did. -/
lemma node?_moveBelow_other (apart : Apart source target) (outside : ¬ source <+: other)
    (outside' : ¬ target <+: other) :
    (tree.moveBelow source target).node? other = tree.node? other := by
  rw [moveBelow_eq]
  refine node?_foldl_of_idle ?_ tree
  rintro ⟨⟨number, names⟩, node⟩ - tree
  by_cases below : source <+: names
  · obtain ⟨rest, rfl⟩ := below
    rw [node?_moveEntry apart, if_neg, if_neg]
    · rintro rfl
      exact outside (List.prefix_append _ _)
    · rintro rfl
      exact outside' (List.prefix_append _ _)
  · rw [moveEntry, if_neg (by simpa using below)]

lemma IsCounted.moveBelow (counted : tree.IsCounted) (source target : List String) :
    (tree.moveBelow source target).IsCounted := by
  rw [moveBelow_eq]
  generalize tree.nodes.entries = entries
  induction entries generalizing tree with
  | nil => exact counted
  | cons entry rest ih =>
    rw [List.foldl_cons, moveEntry]
    split
    · exact ih ((counted.unset _).set _ _)
    · exact ih counted

lemma depth_moveBelow (tree : FileTree) (source target : List String) :
    (tree.moveBelow source target).depth = tree.depth := by
  rw [moveBelow_eq]
  generalize tree.nodes.entries = entries
  induction entries generalizing tree with
  | nil => rfl
  | cons entry rest ih =>
    rw [List.foldl_cons, ih, moveEntry]
    split <;> rfl

end AssetCache.FileTree
