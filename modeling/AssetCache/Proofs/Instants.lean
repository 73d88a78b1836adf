import AssetCache.Instant
import Mathlib.Tactic.Common

/-!
# Instants in nanoseconds

A clock shows some number of nanoseconds since the epoch. What is added to such a reading, and how
readings compare, is what the numbers say: something that lives for a span from a reading on expires
exactly so many nanoseconds later (`Instant.expiry_of_not_isBeyond`), if the span and that instant
are in range.
-/

namespace AssetCache.Instant

/-- The instant so many nanoseconds after the epoch. -/
def ofNanos (nanos : Int) : Instant :=
  ⟨nanos / 1000000000, (nanos % 1000000000).toNat⟩

/-- The nanoseconds from the epoch to an instant. -/
def toNanos (instant : Instant) : Int :=
  instant.secs * 1000000000 + instant.nanos

variable {a b now : Int} {span : Duration}

lemma ofNanos_le_iff : ofNanos a ≤ ofNanos b ↔ a ≤ b := by
  rw [le_iff]
  simp only [ofNanos]
  omega

lemma ofNanos_toNanos_last : ofNanos last.toNanos = last := by
  decide

lemma shift_ofNanos (now : Int) (span : Duration) :
    (ofNanos now).shift span = ofNanos (now + span.toNanos) := by
  have part := span.nanos_lt
  simp only [shift, ofNanos, Duration.toNanos, mk.injEq]
  omega

/-- A span that is too long by itself, or that leads beyond the last instant. -/
def IsBeyond (now : Int) (span : Duration) : Prop :=
  longestSpan < span.toNanos ∨ last.toNanos < now + span.toNanos

instance (now : Int) (span : Duration) : Decidable (IsBeyond now span) :=
  inferInstanceAs (Decidable (_ ∨ _))

/-- The definition as a whole: one of its values cannot be unfolded without counting out the range
of the clock. -/
lemma expiry_def : expiry = fun now span =>
    match now.add? span with
    | some instant => .ok instant
    | none => .error (.invalid ("ttl out of range: " ++ span.shown)) := rfl

lemma add?_ofNanos (now : Int) (span : Duration) :
    (ofNanos now).add? span =
      if IsBeyond now span then none else some (ofNanos (now + span.toNanos)) := by
  have inside : span.toNanos ≤ longestSpan ∧ (ofNanos now).shift span ≤ last ↔
      ¬ IsBeyond now span := by
    rw [shift_ofNanos, ← ofNanos_toNanos_last, ofNanos_le_iff, IsBeyond]
    omega
  rw [add?, if_congr inside rfl rfl, ite_not, shift_ofNanos]

lemma expiry_of_isBeyond (beyond : IsBeyond now span) :
    (ofNanos now).expiry span = .error (.invalid ("ttl out of range: " ++ span.shown)) := by
  have refused : (ofNanos now).add? span = none := by
    rw [add?_ofNanos, if_pos beyond]
  rw [expiry_def]
  simp only [refused]

lemma expiry_of_not_isBeyond (inside : ¬ IsBeyond now span) :
    (ofNanos now).expiry span = .ok (ofNanos (now + span.toNanos)) := by
  have taken : (ofNanos now).add? span = some (ofNanos (now + span.toNanos)) := by
    rw [add?_ofNanos, if_neg inside]
  rw [expiry_def]
  simp only [taken]

end AssetCache.Instant
