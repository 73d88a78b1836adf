import AssetCache.Duration.Text
import Mathlib.Data.List.Basic
import Mathlib.Data.Nat.Basic
import Mathlib.Tactic.Convert

/-!
# Durations survive their texts

A duration is written as spans of nine units, and read as the sum of these spans. No span that is
written is larger than the duration, nor is the sum of the first ones, so nothing overflows on the
way: every duration is read back from its text (`ofText_toText`). The text has no blanks at its
ends, and trimming it changes nothing.
-/

namespace AssetCache.Duration

variable {sum duration : Duration} {reader reader' : Reader} {place : Place} {unit : Unit}
  {span : Span} {spans : List Span} {letters before front back : List Char} {c : Char}
  {n secs nanos : Nat}

/-! ### Sums that stay below the largest duration -/

lemma word_of_lt (fits : n < UInt64.size) : word n = .ok n :=
  if_pos fits

/-- As long as nothing is carried, seconds and nanoseconds are added apart. -/
lemma plus_of_fits (whole : sum.secs.toNat + secs < UInt64.size)
    (part : sum.nanos + nanos < 1000000000) :
    ∃ total, sum.plus secs nanos = .ok total ∧
      total.secs.toNat = sum.secs.toNat + secs ∧ total.nanos = sum.nanos + nanos := by
  have size : UInt64.size = 18446744073709551616 := rfl
  refine ⟨⟨(sum.secs.toNat + secs).toUInt64, sum.nanos + nanos, part⟩, ?_,
    UInt64.toNat_ofNat_of_lt' whole, rfl⟩
  simp only [plus, word_of_lt (show sum.nanos + nanos < UInt64.size by omega),
    if_neg (show ¬1000000000 < sum.nanos + nanos by omega), Nat.add_zero,
    word_of_lt (show secs < UInt64.size by omega), word_of_lt whole,
    if_neg (show ¬sum.nanos + nanos = 1000000000 by omega), Nat.mod_eq_of_lt part, bind,
    Except.bind]

/-! ### Numbers and units -/

lemma Reader.read_append (read : reader.read front = .ok reader') (back : List Char) :
    reader.read (front ++ back) = reader'.read back := by
  induction front generalizing reader with
  | nil =>
    obtain rfl := Except.ok.inj read
    rfl
  | cons c front ih =>
    rw [Reader.read] at read
    rw [List.cons_append, Reader.read]
    cases step : reader.step c with
    | error error =>
      rw [step] at read
      contradiction
    | ok next =>
      rw [step] at read
      exact ih read

/-- A place where a span may start. -/
def Place.IsReady (place : Place) : Prop :=
  place = .start ∨ place = .between

lemma digit?_digitChar (small : n < 10) : digit? n.digitChar = some n := by
  simp [digit?, Nat.isDigit_digitChar, Nat.toNat_digitChar_of_lt_ten small, small]

lemma read_digits (ready : place.IsReady) (fits : n < UInt64.size) :
    Reader.read ⟨sum, place⟩ (Nat.toDigits 10 n) = .ok ⟨sum, .whole n⟩ := by
  induction n using Nat.strongRecOn with
  | ind n ih =>
    rw [Nat.toDigits_eq_if (by decide)]
    split
    · next small =>
      rcases ready with rfl | rfl <;>
        simp [Reader.read, Reader.step, Reader.beforeSpan, digit?_digitChar small, bind,
          Except.bind]
    · next large =>
      have last : n % 10 < 10 := Nat.mod_lt n (by decide)
      have whole : n / 10 * 10 + n % 10 = n := Nat.div_add_mod' n 10
      rw [Reader.read_append (ih (n / 10) (by omega) (by omega))]
      simp [Reader.read, Reader.step, digit?_digitChar last, whole, word_of_lt fits, bind,
        Except.bind, pure, Except.pure]

/-- A character that goes on with a unit. -/
structure IsLetter (c : Char) : Prop where
  inUnit : isUnitLetter c = true
  noDigit : digit? c = none
  solid : Text.isBlank c = false

instance : DecidablePred IsLetter := fun c =>
  decidable_of_iff (isUnitLetter c = true ∧ digit? c = none ∧ Text.isBlank c = false)
    ⟨fun ⟨inUnit, noDigit, solid⟩ => ⟨inUnit, noDigit, solid⟩,
      fun ⟨inUnit, noDigit, solid⟩ => ⟨inUnit, noDigit, solid⟩⟩

lemma isLetter_of_spelling (spelled : Unit.ofText? letters = some unit) :
    letters ≠ [] ∧ ∀ c ∈ letters, IsLetter c := by
  have table : ∀ unit ∈ Unit.all, ∀ spelling ∈ unit.spellings,
      spelling.toList ≠ [] ∧ spelling.toList.all (fun c => IsLetter c) = true := by
    decide +kernel
  have found := List.find?_some spelled
  obtain ⟨spelling, known, same⟩ := List.any_eq_true.1 found
  obtain ⟨inhabited, solid⟩ := table unit (List.mem_of_find?_eq_some spelled) spelling known
  obtain rfl : spelling.toList = letters := of_decide_eq_true same
  exact ⟨inhabited, fun c among => of_decide_eq_true (List.all_eq_true.1 solid c among)⟩

lemma read_letters {fraction : Option (Nat × Nat)} (solid : ∀ c ∈ letters, IsLetter c) :
    Reader.read ⟨sum, .unit n fraction before⟩ letters =
      .ok ⟨sum, .unit n fraction (letters.reverse ++ before)⟩ := by
  induction letters generalizing before with
  | nil => rfl
  | cons c letters ih =>
    have letter := solid c List.mem_cons_self
    have step : Reader.step ⟨sum, .unit n fraction before⟩ c =
        .ok ⟨sum, .unit n fraction (c :: before)⟩ := by
      simp [Reader.step, letter.noDigit, letter.solid, letter.inUnit, pure, Except.pure]
    rw [Reader.read, step, List.reverse_cons, List.append_assoc]
    exact ih fun d among => solid d (List.mem_cons_of_mem c among)

lemma read_unit (spelled : Unit.ofText? letters = some unit) :
    Reader.read ⟨sum, .whole n⟩ letters = .ok ⟨sum, .unit n none letters.reverse⟩ := by
  obtain ⟨inhabited, solid⟩ := isLetter_of_spelling spelled
  cases letters with
  | nil => contradiction
  | cons c letters =>
    have letter := solid c List.mem_cons_self
    have step : Reader.step ⟨sum, .whole n⟩ c = .ok ⟨sum, .unit n none [c]⟩ := by
      simp [Reader.step, letter.noDigit, letter.solid, letter.inUnit, pure, Except.pure]
    rw [Reader.read, step, List.reverse_cons]
    exact read_letters fun d among => solid d (List.mem_cons_of_mem c among)

/-! ### Spans -/

/-- The unit of a span as it is written after its number. -/
def Span.spelling (span : Span) : List Char :=
  span.unit ++ if span.plural && 1 < span.number then ['s'] else []

lemma Span.text_eq (span : Span) : span.text = Nat.toDigits 10 span.number ++ span.spelling := by
  rw [text, spelling, List.append_assoc]

/-- A span stands for so many seconds and nanoseconds. -/
def Span.Holds (span : Span) (secs nanos : Nat) : Prop :=
  ∃ unit, Unit.ofText? span.spelling = some unit ∧
    secs = span.number * unit.secs ∧ nanos = span.number * unit.nanos

/-- A unit is known in the singular, and in the plural if it has one. -/
lemma Span.holds (unit : Unit) {single : List Char} {plural : Bool}
    (known : Unit.ofText? single = some unit)
    (several : plural = true → Unit.ofText? (single ++ ['s']) = some unit) (n : Nat) :
    Holds ⟨n, single, plural⟩ (n * unit.secs) (n * unit.nanos) := by
  refine ⟨unit, ?_, rfl, rfl⟩
  rw [spelling]
  split
  · next many =>
    exact several (Bool.and_eq_true_iff.1 many).1
  · rwa [List.append_nil]

namespace Span.Holds

/-- Every unit has a second or a nanosecond at least. -/
lemma number_le (holds : span.Holds secs nanos) : span.number ≤ max secs nanos := by
  obtain ⟨unit, -, rfl, rfl⟩ := holds
  cases unit <;> simp only [Unit.secs, Unit.nanos] <;> omega

lemma read (holds : span.Holds secs nanos) (ready : place.IsReady)
    (whole : secs < UInt64.size) (part : nanos < UInt64.size) :
    Reader.read ⟨sum, place⟩ span.text =
      .ok ⟨sum, .unit span.number none span.spelling.reverse⟩ := by
  have fits : span.number < UInt64.size :=
    Nat.lt_of_le_of_lt holds.number_le (Nat.max_lt.2 ⟨whole, part⟩)
  obtain ⟨unit, spelled, -, -⟩ := holds
  rw [span.text_eq, Reader.read_append (read_digits ready fits)]
  exact read_unit spelled

/-- What a span stands for is added to a sum, if it fits. -/
lemma adds (holds : span.Holds secs nanos) (whole : sum.secs.toNat + secs < UInt64.size)
    (part : sum.nanos + nanos < 1000000000) :
    ∃ total, sum.plusSpan span.number none span.spelling = .ok total ∧
      total.secs.toNat = sum.secs.toNat + secs ∧ total.nanos = sum.nanos + nanos := by
  have size : UInt64.size = 18446744073709551616 := rfl
  obtain ⟨total, added, result⟩ := plus_of_fits whole part
  obtain ⟨unit, spelled, rfl, rfl⟩ := holds
  have whole' : span.number * unit.secs < UInt64.size := by omega
  have part' : span.number * unit.nanos < UInt64.size := by omega
  refine ⟨total, ?_, result⟩
  rw [plusSpan, spelled]
  simp only [word_of_lt whole', word_of_lt part', added, bind, Except.bind]

end Span.Holds

/-! ### Sums of spans -/

/-- Spans that stand for so many seconds and nanoseconds together. -/
inductive Amount : List Span → Nat → Nat → Prop where
  | nil : Amount [] 0 0
  | cons {span : Span} {spans : List Span} {secs nanos secs' nanos' : Nat} :
    span.Holds secs nanos → Amount spans secs' nanos' →
      Amount (span :: spans) (secs + secs') (nanos + nanos')

/-- Spans of nothing may be left out. -/
lemma Amount.filter (amount : Amount spans secs nanos) :
    Amount (spans.filter fun span => span.number ≠ 0) secs nanos := by
  induction amount with
  | nil => exact .nil
  | @cons span spans _ _ _ _ holds _ ih =>
    by_cases zero : span.number = 0
    · obtain ⟨unit, -, rfl, rfl⟩ := holds
      rw [List.filter_cons_of_neg (by simp [zero]), zero, Nat.zero_mul, Nat.zero_mul, Nat.zero_add,
        Nat.zero_add]
      exact ih
    · rw [List.filter_cons_of_pos (by simp [zero])]
      exact .cons holds ih

lemma amount_spans (duration : Duration) :
    Amount duration.spans duration.secs.toNat duration.nanos := by
  have amount : Amount duration.spans _ _ :=
    .cons (Span.holds .year (by decide) (by decide) _) <|
    .cons (Span.holds .month (by decide) (by decide) _) <|
    .cons (Span.holds .day (by decide) (by decide) _) <|
    .cons (Span.holds .hour (by decide) (by decide) _) <|
    .cons (Span.holds .minute (by decide) (by decide) _) <|
    .cons (Span.holds .second (by decide) (by decide) _) <|
    .cons (Span.holds .millisecond (by decide) (by decide) _) <|
    .cons (Span.holds .microsecond (by decide) (by decide) _) <|
    .cons (Span.holds .nanosecond (by decide) (by decide) _) .nil
  convert amount using 1
  · simp only [Unit.secs]
    omega
  · simp only [Unit.nanos]
    omega

lemma step_space {total : Duration} (added : sum.plusSpan n none letters = .ok total) :
    Reader.step ⟨sum, .unit n none letters.reverse⟩ ' ' = .ok ⟨total, .between⟩ := by
  have blank : Text.isBlank ' ' = true := by decide
  have noDigit : digit? ' ' = none := by decide
  simp [Reader.step, noDigit, blank, added, bind, Except.bind, pure, Except.pure]

/-- Spans with spaces between them are read as their sum, if it fits. The sums on the way are no
larger, so they fit as well. -/
lemma Amount.read (amount : Amount (span :: spans) secs nanos) (ready : place.IsReady)
    (whole : sum.secs.toNat + secs < UInt64.size) (part : sum.nanos + nanos < 1000000000) :
    ∃ last total, Reader.read ⟨sum, place⟩ (spaced ((span :: spans).map Span.text)) = .ok last ∧
      last.finish = .ok total ∧
      total.secs.toNat = sum.secs.toNat + secs ∧ total.nanos = sum.nanos + nanos := by
  have size : UInt64.size = 18446744073709551616 := rfl
  induction spans generalizing span sum place secs nanos with
  | nil =>
    cases amount with
    | @cons _ _ secs nanos _ _ holds none =>
      cases none
      obtain ⟨total, added, result⟩ := holds.adds whole part
      refine ⟨_, total, holds.read ready (by omega) (by omega), ?_, result⟩
      simp only [Reader.finish, List.reverse_reverse, added]
  | cons next spans ih =>
    cases amount with
    | @cons _ _ secs nanos secs' nanos' holds others =>
      have whole' : sum.secs.toNat + secs < UInt64.size := by omega
      have part' : sum.nanos + nanos < 1000000000 := by omega
      obtain ⟨between, added, secs_eq, nanos_eq⟩ := holds.adds whole' part'
      obtain ⟨last, total, read, finish, secs_eq', nanos_eq'⟩ :=
        ih others (.inr rfl) (show between.secs.toNat + secs' < UInt64.size by omega) (by omega)
      refine ⟨last, total, ?_, finish, by omega, by omega⟩
      rw [List.map_cons, List.map_cons, spaced,
        Reader.read_append (holds.read ready (by omega) (by omega)), Reader.read, step_space added]
      · exact read
      · exact nofun

/-- What a duration is written as. The spans that are zero make no difference to the sum, and where
all of them are zero, there is one of no seconds. -/
lemma exists_amount (duration : Duration) :
    ∃ span spans, duration.toText = spaced ((span :: spans).map Span.text) ∧
      Amount (span :: spans) duration.secs.toNat duration.nanos := by
  have amount := duration.amount_spans.filter
  rw [toText]
  split
  · next empty =>
    rw [empty] at amount
    generalize duration.secs.toNat = secs, duration.nanos = nanos at amount
    cases amount
    refine ⟨⟨0, ['s'], false⟩, [], by decide, ?_⟩
    exact .cons (Span.holds .second (by decide) (by decide) 0) .nil
  · next spans inhabited =>
    cases written : duration.spans.filter fun span => span.number ≠ 0 with
    | nil => exact absurd written inhabited
    | cons span spans =>
      rw [written] at amount
      exact ⟨span, spans, rfl, amount⟩

/-- A duration is read back from its text, up to the largest. -/
theorem ofText_toText (duration : Duration) : ofText duration.toText = .ok duration := by
  obtain ⟨span, spans, written, amount⟩ := duration.exists_amount
  have whole : zero.secs.toNat + duration.secs.toNat < UInt64.size := by
    rw [show zero.secs.toNat = 0 from rfl, Nat.zero_add]
    exact duration.secs.toNat_lt
  have part : zero.nanos + duration.nanos < 1000000000 := by
    rw [show zero.nanos = 0 from rfl, Nat.zero_add]
    exact duration.nanos_lt
  obtain ⟨last, total, read, finish, secs_eq, nanos_eq⟩ := amount.read (.inl rfl) whole part
  rw [← written] at read
  have same : total = duration := by
    apply toNanos_injective
    rw [toNanos, toNanos, secs_eq, nanos_eq]
    simp [zero]
  -- The text of a lone zero ends inside a number.
  have unlike : duration.toText ≠ ['0'] := by
    intro lone
    have inside : Reader.read ⟨zero, .start⟩ ['0'] = .ok ⟨zero, .whole 0⟩ :=
      read_digits (n := 0) (.inl rfl) (by decide)
    rw [lone, inside] at read
    obtain rfl := Except.ok.inj read
    contradiction
  rw [ofText, if_neg unlike, Reader.initial, read, ← same]
  exact finish

example : toText ⟨31650000, 5000000, by decide⟩ = "1year 1day 1h 40m 5ms".toList := by
  decide +kernel

/-! ### Blanks -/

lemma isBlank_of_isDigit (digit : c.isDigit = true) : Text.isBlank c = false := by
  have range : 48 ≤ c.toNat ∧ c.toNat ≤ 57 := Char.isDigit_iff_toNat.1 digit
  simp only [Text.isBlank, Text.blankRanges, List.any_cons, List.any_nil, Bool.or_eq_false_iff,
    Bool.and_eq_false_iff, decide_eq_false_iff_not, and_true]
  omega

lemma Span.Holds.solid (holds : span.Holds secs nanos) :
    span.text ≠ [] ∧ ∀ c ∈ span.text, Text.isBlank c = false := by
  obtain ⟨unit, spelled, -, -⟩ := holds
  rw [span.text_eq]
  constructor
  · exact List.append_ne_nil_of_left_ne_nil Nat.toDigits_ne_nil _
  · intro c among
    rcases List.mem_append.1 among with number | letter
    · exact isBlank_of_isDigit (Nat.isDigit_of_mem_toDigits (by decide) (by decide) number)
    · exact ((isLetter_of_spelling spelled).2 c letter).solid

/-- A text that neither starts nor ends with a blank. -/
structure HasSolidEnds (text : List Char) : Prop where
  inhabited : text ≠ []
  first : ∀ c ∈ text.head?, Text.isBlank c = false
  last : ∀ c ∈ text.getLast?, Text.isBlank c = false

lemma Amount.hasSolidEnds (amount : Amount (span :: spans) secs nanos) :
    HasSolidEnds (spaced ((span :: spans).map Span.text)) := by
  induction spans generalizing span secs nanos with
  | nil =>
    cases amount with
    | cons holds _ =>
      obtain ⟨inhabited, solid⟩ := holds.solid
      exact ⟨inhabited, fun c first => solid c (List.mem_of_mem_head? first),
        fun c last => solid c (List.mem_of_mem_getLast? last)⟩
  | cons next spans ih =>
    cases amount with
    | cons holds others =>
      obtain ⟨inhabited, solid⟩ := holds.solid
      obtain ⟨inhabited', -, last⟩ := ih others
      rw [List.map_cons] at inhabited' last
      rw [List.map_cons, List.map_cons, spaced]
      · refine ⟨List.append_ne_nil_of_left_ne_nil inhabited _, ?_, ?_⟩
        · rw [List.head?_append_of_ne_nil _ inhabited]
          exact fun c first => solid c (List.mem_of_mem_head? first)
        · rw [List.getLast?_append_of_ne_nil _ (List.cons_ne_nil _ _),
            List.getLast?_cons_of_ne_nil inhabited']
          exact last
      · exact nofun

lemma HasSolidEnds.trim_eq {text : List Char} (solid : HasSolidEnds text) :
    Text.trim text = text := by
  have start : ∀ text : List Char, (∀ c ∈ text.head?, Text.isBlank c = false) →
      Text.trimStart text = text := by
    intro text first
    cases text with
    | nil => rfl
    | cons c text => exact List.dropWhile_cons_of_neg (by simp [first c rfl])
  rw [Text.trim, start text solid.first, start text.reverse, List.reverse_reverse]
  rw [List.head?_reverse]
  exact solid.last

/-- A duration is read back from its text, trimmed or not. -/
theorem ofText_trim_toText (duration : Duration) :
    ofText (Text.trim duration.toText) = .ok duration := by
  obtain ⟨span, spans, written, amount⟩ := duration.exists_amount
  rw [(written ▸ amount.hasSolidEnds : HasSolidEnds duration.toText).trim_eq, ofText_toText]

end AssetCache.Duration
