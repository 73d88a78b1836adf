import AssetCache.Proofs.Conduct
import AssetCache.Proofs.Forward.Traffic
import Mathlib.Data.List.Nodup

/-!
# The order of operations on a handle

However operations are submitted to a handle, however long they take and whether they panic, those
that were submitted while the handle was pending are made one at a time, each once, in the order of
their submission; and no other begins before the last of them has ended (`Traffic.runs_in_order`).
-/

namespace AssetCache

/-- What stands in two lists together stands in the first or in the second. -/
lemma append_eq_append_cons_cases {α : Type} {first second before after : List α} {here : α}
    (split : first ++ second = before ++ here :: after) :
    (∃ between, first = before ++ here :: between) ∨
      ∃ between, before = first ++ between ∧ second = between ++ here :: after := by
  rcases List.append_eq_append_iff.1 split with ⟨between, front, rest⟩ | ⟨between, front, rest⟩
  · exact Or.inr ⟨between, front, rest⟩
  · cases between with
    | nil => exact Or.inr ⟨[], by rw [front, List.append_nil, List.append_nil], rest.symm⟩
    | cons other between =>
      cases rest
      exact Or.inl ⟨between, front⟩

variable {σ : Type} [Service σ]

/-- The operation that begins. -/
def Mark.start? : Mark σ → Option (Errand σ)
  | begun errand => some errand
  | ended _ => none

namespace Traffic

open Incident

/-- The operations that have begun, as often as they did. -/
def starts (log : List (Incident σ)) : List (Errand σ) :=
  (marks log).filterMap Mark.start?

variable {made : σ} {traffic : Traffic σ} {before after log : List (Incident σ)} {errand : Errand σ}

/-! ### What is in a log -/

/-- What is read from one kind of incident only is there if the incident is. -/
lemma mem_gather_iff {α : Type} {read : Incident σ → Option α} {result : α} {incident : Incident σ}
    (only : ∀ other, read other = some result ↔ other = incident) :
    result ∈ gather read log ↔ incident ∈ log := by
  simp [gather, only]

lemma produced_mem {ending : Bench.Ending} : ending ∈ products log ↔ .produced ending ∈ log :=
  mem_gather_iff fun other => by cases other with | _ => simp [product?]

lemma begun_mem : .begun errand ∈ marks log ↔ .begun errand ∈ log :=
  mem_gather_iff fun other => by cases other with | _ => simp [mark?]

lemma refused_mem {error : StoreError} :
    (errand, error) ∈ refusals log ↔ .refused errand error ∈ log :=
  mem_gather_iff fun other => by cases other with | _ => simp [refusal?]

lemma ended_mem : .ended errand ∈ marks log ↔ ∃ now told, .ended errand now told ∈ log := by
  simp only [gather, List.mem_filterMap]
  constructor
  · rintro ⟨incident, among, found⟩
    cases incident with
    | ended other now told =>
      cases found
      exact ⟨now, told, among⟩
    | _ => cases found
  · rintro ⟨now, told, among⟩
    exact ⟨_, among, rfl⟩

lemma starts_append : starts (before ++ after) = starts before ++ starts after := by
  simp [starts]

lemma mem_starts : errand ∈ starts log ↔ .begun errand ∈ log := by
  rw [starts, List.mem_filterMap, ← begun_mem]
  constructor
  · rintro ⟨mark, among, found⟩
    cases mark with
    | begun other =>
      cases found
      exact among
    | ended other => cases found
  · intro among
    exact ⟨_, among, rfl⟩

/-- Operations that were made one after the other are found in this order if one mark of each is
looked at. -/
lemma filterMap_course {read : Mark σ → Option (Errand σ)}
    (one : ∀ errand : Errand σ, errand.course.filterMap read = [errand])
    (errands : List (Errand σ)) : (errands.flatMap Errand.course).filterMap read = errands := by
  induction errands with
  | nil => rfl
  | cons errand errands ih =>
    rw [List.flatMap_cons, List.filterMap_append, one, ih]
    rfl

/-! ### The one flip -/

/-- If the handle has shown another state once, this is where it did so. -/
lemma flip_unique {front back : List (Incident σ)} {state state' : HandleState}
    (same : front ++ .flipped state :: back = before ++ .flipped state' :: after)
    (pending : flips front = []) (settled : flips back = []) :
    before = front ∧ state' = state ∧ after = back := by
  rcases append_cons_cases same with ⟨rfl, here, rfl⟩ | ⟨between, rfl, rfl⟩ | ⟨between, rfl, rfl⟩
  · cases here
    exact ⟨rfl, rfl, rfl⟩
  · simp [flip?] at settled
  · simp [flip?] at pending

/-- What has happened when the handle shows another state. Either the instance is there, all
operations were made that were submitted until then, and later only others are; or all of them have
failed. -/
lemma Stands.flip_cases {state : HandleState} (stands : Stands made traffic)
    (split : traffic.log = before ++ .flipped state :: after) :
    (state = .resolved ∧ marks before = (submissions before).flatMap Errand.course ∧
        ∀ errand, .begun errand ∈ after → errand ∈ submissions after) ∨
      state = .failed ∧ ∃ error, refusals before = refusedBy error (submissions before) := by
  have flipped : flips traffic.log ≠ [] := by simp [split, flip?]
  cases stands with
  | producing pending _ _ => exact absurd pending.flips flipped
  | draining pending _ _ _ => exact absurd pending.flips flipped
  | failing _ pending _ _ _ => exact absurd pending.flips flipped
  | resolved pending marked settled _ begun _ _ =>
    obtain ⟨rfl, rfl, rfl⟩ := flip_unique split pending.flips settled.flips
    exact Or.inl ⟨rfl, marked, begun⟩
  | failed _ pending refused settled _ _ =>
    obtain ⟨rfl, rfl, rfl⟩ := flip_unique split pending.flips settled.flips
    exact Or.inr ⟨rfl, _, refused⟩

/-- A handle that is pending no more has shown what it shows. -/
lemma Stands.exists_flip (stands : Stands made traffic)
    (settled : traffic.handle.state ≠ .pending) :
    ∃ before after, traffic.log = before ++ .flipped traffic.handle.state :: after := by
  cases stands with
  | resolved _ _ _ _ _ _ _ => exact ⟨_, _, rfl⟩
  | failed _ _ _ _ _ _ => exact ⟨_, _, rfl⟩
  | _ => exact absurd rfl settled

lemma Stands.of_resolved (stands : Stands made traffic)
    (split : traffic.log = before ++ .flipped .resolved :: after) :
    marks before = (submissions before).flatMap Errand.course ∧
      ∀ errand, .begun errand ∈ after → errand ∈ submissions after := by
  rcases stands.flip_cases split with ⟨-, facts⟩ | ⟨other, -⟩
  · exact facts
  · cases other

/-- Every operation that was made has ended. -/
lemma ended_of_course (marked : marks log = (submissions log).flatMap Errand.course)
    (among : errand ∈ submissions log) : ∃ now told, .ended errand now told ∈ log := by
  refine ended_mem.1 (marked ▸ List.mem_flatMap.2 ⟨errand, among, ?_⟩)
  exact List.mem_cons_of_mem _ List.mem_cons_self

/-- No operation is lost when the handle shows another state. -/
lemma Stands.lossless (stands : Stands made traffic) {state : HandleState}
    (split : traffic.log = before ++ .flipped state :: after)
    (among : errand ∈ submissions before) :
    (∃ now told, .ended errand now told ∈ before) ∨ ∃ error, .refused errand error ∈ before := by
  rcases stands.flip_cases split with ⟨-, marked, -⟩ | ⟨-, error, refused⟩
  · exact Or.inl (ended_of_course marked among)
  · have both : (errand, .producer error) ∈ refusals before :=
      refused ▸ List.mem_map.2 ⟨errand, among, rfl⟩
    exact Or.inr ⟨_, refused_mem.1 both⟩

/-- As long as the handle is pending, the operations are made one after the other, in the order in
which they were submitted. -/
lemma Stands.ordered (stands : Stands made traffic) (pending : flips traffic.log = []) :
    marks traffic.log <+: (submissions traffic.log).flatMap Errand.course := by
  cases stands with
  | producing _ quiet _ => exact quiet ▸ List.nil_prefix
  | @draining done queue current _ _ _ submitted marked _ =>
    rw [marked, submitted, List.flatMap_append, List.flatMap_append, List.append_assoc,
      List.prefix_append_right_inj]
    cases current with
    | none => exact List.nil_prefix
    | some errand => exact ⟨.ended errand :: queue.flatMap Errand.course, rfl⟩
  | failing _ _ _ quiet _ => exact quiet ▸ List.nil_prefix
  | resolved _ _ _ _ _ _ _ => simp [flip?] at pending
  | failed _ _ _ _ _ _ => simp [flip?] at pending

lemma starts_of_course (marked : marks log = (submissions log).flatMap Errand.course) :
    starts log = submissions log := by
  rw [starts, marked, filterMap_course fun _ => rfl]

/-! ### Numbers -/

/-- No operation that was submitted later has the number of an earlier one. -/
lemma nodup_numbers {moves : List (Move σ)} {incident : Incident σ}
    (split : (run made moves).log = before ++ incident :: after)
    (other : incident.submission? = none) :
    ((submissions before).map Errand.number ++ (submissions after).map Errand.number).Nodup := by
  have numbers := numbers_run made moves
  rw [split] at numbers
  simp only [gather_append, gather_cons, other, Option.toList_none, List.nil_append,
    List.map_append] at numbers
  exact numbers ▸ List.nodup_range

/-- An operation that was submitted before the handle showed the instance begins once. -/
lemma count_starts {moves : List (Move σ)}
    (split : (run made moves).log = before ++ .flipped .resolved :: after)
    (among : errand ∈ submissions before) :
    ((starts (run made moves).log).map Errand.number).count errand.number = 1 := by
  obtain ⟨marked, later⟩ := (stands_run made moves).of_resolved split
  obtain ⟨earlier, -, apart⟩ := List.nodup_append.1 (nodup_numbers split rfl)
  have inside : errand.number ∈ (submissions before).map Errand.number :=
    List.mem_map_of_mem among
  have outside : errand.number ∉ (starts after).map Errand.number := by
    intro again
    obtain ⟨other, begun, same⟩ := List.mem_map.1 again
    have submitted := later other (mem_starts.1 begun)
    exact apart _ inside _ (List.mem_map_of_mem submitted) same.symm
  have parts : starts (run made moves).log = submissions before ++ starts after := by
    rw [split, starts_append, starts_of_course marked]
    rfl
  rw [parts, List.map_append, List.count_append, List.count_eq_one_of_mem earlier inside,
    List.count_eq_zero.2 outside]

/-- An operation that was submitted later begins when all earlier ones have ended. -/
lemma ended_of_begun {moves : List (Move σ)} {first last : List (Incident σ)} {earlier : Errand σ}
    (split : (run made moves).log = before ++ .flipped .resolved :: after)
    (late : errand ∈ submissions after) (early : earlier ∈ submissions before)
    (begun : (run made moves).log = first ++ .begun errand :: last) :
    ∃ now told, .ended earlier now told ∈ first := by
  obtain ⟨marked, -⟩ := (stands_run made moves).of_resolved split
  rcases append_cons_cases (split ▸ begun) with
    ⟨-, other, -⟩ | ⟨between, rfl, -⟩ | ⟨between, rfl, -⟩
  · cases other
  · obtain ⟨now, told, ended⟩ := ended_of_course marked early
    exact ⟨now, told, List.mem_append_left _ ended⟩
  · have early' : errand ∈ submissions (first ++ .begun errand :: between) := by
      rw [← starts_of_course marked, mem_starts]
      exact List.mem_append_right _ List.mem_cons_self
    obtain ⟨-, -, apart⟩ := List.nodup_append.1 (nodup_numbers split rfl)
    exact absurd rfl (apart _ (List.mem_map_of_mem early') _ (List.mem_map_of_mem late))

/-! ### Which state a handle shows -/

lemma state_submit {τ ω : Type} (handle : Forward τ ω) (operation : ω) :
    (handle.submit operation).2.state = handle.state := by
  obtain ⟨stage, queue, isBusy⟩ := handle
  cases stage with
  | producing => rfl
  | draining product => rfl
  | settled product =>
    cases product with
    | _ => rfl

lemma state_receive (traffic : Traffic σ) (errand : Errand σ) :
    (traffic.receive errand).handle.state = traffic.handle.state := by
  rw [← state_submit traffic.handle errand, receive]
  rcases traffic.handle.submit errand with ⟨_ | _ | _, handle⟩
  · rfl
  · rfl
  · rfl

lemma state_produce (traffic : Traffic σ) (ending : Bench.Ending) :
    (traffic.produce ending).handle.state = traffic.handle.state := by
  obtain ⟨⟨stage, queue, isBusy⟩, target, current, admitted, active, log⟩ := traffic
  cases stage with
  | _ => rfl

/-- The loop changes the state only if it finds the queue empty and nothing is under way. -/
lemma state_drain (stands : Stands made traffic) :
    traffic.drain.handle.state = traffic.handle.state ∨
      traffic.handle.state = .pending ∧ traffic.handle.queue = [] ∧ traffic.current = none ∧
        traffic.drain.log = traffic.log ++ [.flipped traffic.drain.handle.state] := by
  by_cases idle : traffic.handle.next = (.idle, traffic.handle)
  · exact Or.inl (by rw [drain_of_idle idle])
  cases stands with
  | @draining _ queue current =>
    cases current with
    | some errand => exact absurd rfl idle
    | none =>
      cases queue with
      | nil => exact Or.inr ⟨rfl, rfl, rfl, rfl⟩
      | cons errand queue => exact Or.inl rfl
  | @failing _ _ _ queue =>
    cases queue with
    | nil => exact Or.inr ⟨rfl, rfl, rfl, rfl⟩
    | cons errand queue => exact Or.inl rfl
  | _ => exact absurd rfl idle

/-- The state changes only when the loop finds the queue empty and nothing is under way. -/
lemma state_move (stands : Stands made traffic) (move : Move σ) :
    (traffic.move move).handle.state = traffic.handle.state ∨
      traffic.handle.state = .pending ∧ traffic.handle.queue = [] ∧ traffic.current = none ∧
        (traffic.move move).log =
          traffic.log ++ [.flipped (traffic.move move).handle.state] := by
  cases move with
  | submit call panics => exact Or.inl (traffic.state_receive _)
  | produce ending => exact Or.inl (traffic.state_produce ending)
  | drain => exact state_drain stands
  | finish now =>
    left
    simp only [Traffic.move, finish]
    cases traffic.current with
    | _ => rfl
  | start number =>
    left
    simp only [Traffic.move, start]
    cases traffic.admitted.find? (·.number = number) with
    | _ => rfl
  | stop number now =>
    left
    simp only [Traffic.move, stop]
    cases traffic.active.find? (·.number = number) with
    | _ => rfl

/-- A handle that is pending no more stays as it is. -/
lemma state_play (moves : List (Move σ)) :
    ∀ {traffic : Traffic σ}, Stands made traffic → traffic.handle.state ≠ .pending →
      (traffic.play moves).handle.state = traffic.handle.state := by
  induction moves with
  | nil => exact fun _ _ => rfl
  | cons move moves ih =>
    intro traffic stands settled
    rcases state_move stands move with same | ⟨pending, -⟩
    · exact (ih (stands_move stands move) (same ▸ settled)).trans same
    · exact absurd pending settled

/-! ### The producer comes first -/

/-- An operation that begins finds the instance there. -/
lemma Adds.produced_of_begun {move : Move σ} {added : List (Incident σ)} {target : σ}
    (adds : traffic.Adds move added target) (stands : Stands made traffic)
    (begun : .begun errand ∈ added) : .produced .success ∈ traffic.log := by
  cases adds with
  | taken stage =>
    cases stands with
    | draining pending _ _ _ => exact produced_mem.1 (pending.products ▸ List.mem_cons_self)
    | _ => cases stage
  | started admitted =>
    cases stands with
    | resolved pending _ _ _ _ _ _ =>
      exact List.mem_append_left _ (produced_mem.1 (pending.products ▸ List.mem_cons_self))
    | _ => cases admitted
  | _ => simp at begun

/-- No operation begins before the instance is there. -/
lemma produced_of_begun (made : σ) (moves : List (Move σ)) {first last : List (Incident σ)}
    (begun : (run made moves).log = first ++ .begun errand :: last) :
    .produced .success ∈ first := by
  induction moves using List.reverseRecOn generalizing last with
  | nil => exact absurd begun (by simp [run, play, initial])
  | append_singleton moves move ih =>
    obtain ⟨added, log, adds⟩ := (run made moves).exists_adds move
    rw [run_concat, log] at begun
    rcases append_eq_append_cons_cases begun with ⟨between, earlier⟩ | ⟨between, rfl, rest⟩
    · exact ih earlier
    · have inside : .begun errand ∈ added := rest ▸ List.mem_append_right _ List.mem_cons_self
      exact List.mem_append_left _ (adds.produced_of_begun (stands_run made moves) inside)

/-! ### Any moves -/

/-- How the operations on a handle are made whose producer is to make an instance. -/
structure RunsInOrder (made : σ) (moves : List (Move σ)) : Prop where
  /-- No operation begins before the producer has succeeded. -/
  waits {errand : Errand σ} {before after : List (Incident σ)} :
    (run made moves).log = before ++ .begun errand :: after → .produced .success ∈ before
  /-- As long as the handle is pending, the operations are made one at a time, in the order in which
  they were submitted. -/
  ordered : flips (run made moves).log = [] →
    marks (run made moves).log <+: (submissions (run made moves).log).flatMap Errand.course
  /-- When it shows that the instance is there, exactly the operations were made that were
  submitted until then, -/
  drained {before after : List (Incident σ)} :
    (run made moves).log = before ++ .flipped .resolved :: after →
      marks before = (submissions before).flatMap Errand.course
  /-- and none of them begins once more; -/
  once {before after : List (Incident σ)} :
    (run made moves).log = before ++ .flipped .resolved :: after → ∀ errand ∈ submissions before,
      ((starts (run made moves).log).map Errand.number).count errand.number = 1
  /-- all of them have ended when another one begins. -/
  handover {before after : List (Incident σ)} :
    (run made moves).log = before ++ .flipped .resolved :: after → ∀ late ∈ submissions after,
      ∀ first last, (run made moves).log = first ++ .begun late :: last →
        ∀ early ∈ submissions before, ∃ now told, .ended early now told ∈ first
  /-- The state that the handle shows changes only when its queue is empty and nothing from it is
  under way, -/
  flips (move : Move σ) :
    (run made (moves ++ [move])).handle.state ≠ (run made moves).handle.state →
      (run made moves).handle.queue = [] ∧ (run made moves).current = none ∧
        (run made (moves ++ [move])).log = (run made moves).log ++
          [.flipped (run made (moves ++ [move])).handle.state]
  /-- which the log tells, -/
  told : (run made moves).handle.state ≠ .pending → ∃ before after,
    (run made moves).log = before ++ .flipped (run made moves).handle.state :: after
  /-- so that no operation is lost, -/
  lossless {state : HandleState} {before after : List (Incident σ)} :
    (run made moves).log = before ++ .flipped state :: after → ∀ errand ∈ submissions before,
      (∃ now told, .ended errand now told ∈ before) ∨ ∃ error, .refused errand error ∈ before
  /-- and it never changes again. -/
  final (later : List (Move σ)) : (run made moves).handle.state ≠ .pending →
    (run made (moves ++ later)).handle.state = (run made moves).handle.state

/-- A handle runs the operations that wait for its instance in order, each once, and one at a time,
before all others. -/
theorem runs_in_order (made : σ) (moves : List (Move σ)) : RunsInOrder made moves where
  waits := produced_of_begun made moves
  ordered := (stands_run made moves).ordered
  drained split := ((stands_run made moves).of_resolved split).1
  once split _ := count_starts split
  handover split _ late _ _ begun _ early := ended_of_begun split late early begun
  flips move changed := by
    rw [run_concat] at changed ⊢
    rcases state_move (stands_run made moves) move with same | ⟨-, facts⟩
    · exact absurd same changed
    · exact facts
  told settled := (stands_run made moves).exists_flip settled
  lossless split _ := (stands_run made moves).lossless split
  final later settled := by
    rw [run_append]
    exact state_play later (stands_run made moves) settled

/-- An operation that comes in while another one from the queue is under way waits for it, even if
it panics. -/
example (now : Instant) :
    (starts (run (∅ : PlainCache String)
      [.submit CacheCall.cleanUp true, .produce .success, .drain,
        .submit (CacheCall.get "key") false, .drain, .finish now, .drain, .finish now,
        .drain]).log).map Errand.number = [0, 1] := rfl

end Traffic

end AssetCache
