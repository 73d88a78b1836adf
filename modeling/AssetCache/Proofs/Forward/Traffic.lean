import AssetCache.Bench.Lab
import Mathlib.Data.List.Induction

/-!
# Traffic on a handle

Operations are submitted to a handle at any time, and its producer ends once. A loop takes the
operations that were queued out of the queue, one after the other, while those that need not wait
go to the instance by themselves. An operation may be under way for any time, and may panic. The
log of the traffic holds what has happened, in order.

At any time the traffic stands in one of five ways (`Traffic.Stands`), and every move preserves
this (`Traffic.stands_run`).
-/

namespace AssetCache

/-- Something that calls can be made on. Each of them is one step, at an instant. -/
class Service (σ : Type) where
  Call : Type
  /-- What a call comes to when it succeeds. -/
  Value : Call → Type
  answer : σ → Instant → (call : Call) → Except StoreError (Value call) × σ

instance {δ : Type} [DescriptorStore δ] : Service δ where
  Call := DescriptorCall
  Value := DescriptorCall.Value
  answer store _ call :=
    let (reply, store, _) := DescriptorStore.answer store call
    (reply, store)

instance {α : Type} : Service (PlainCache α) where
  Call := CacheCall α
  Value := CacheCall.Value α
  answer := PlainCache.answer

/-- A content cache with the stores below it. -/
instance {β δ : Type} [BlobStore β] [DescriptorStore δ] : Service (ContentCache × Depot β δ) where
  Call := CacheCall Source
  Value := CacheCall.Value OpenedContent
  answer := fun (cache, depot) now call =>
    let (reply, depot) := { depot with now }.run (cache.answer call)
    (reply, cache, depot)

/-- What a handle takes from a producer that has ended. -/
def Bench.Ending.product : Bench.Ending → Except StoreError Unit
  | .success => .ok ()
  | .failure error => .error error
  | .panic => .error Forward.panicked

lemma Bench.Lab.handle_produce (lab : Bench.Lab) (ending : Bench.Ending) :
    (lab.produce ending).handle = lab.handle.produce ending.product := by
  cases ending with
  | _ => rfl

/-- An operation is taken out of the queue to be run only if the instance is there. -/
lemma Forward.stage_of_run {τ ω : Type} {handle handle' : Forward τ ω} {operation : ω} {target : τ}
    (taken : handle.next = (.run operation target, handle')) :
    handle.stage = .draining (.ok target) := by
  unfold next at taken
  split at taken
  · cases taken
    assumption
  all_goals cases taken

variable {σ : Type} [Service σ]

/-- An operation that was submitted to a handle. -/
structure Errand (σ : Type) [Service σ] where
  /-- How many operations were submitted before. -/
  number : Nat
  call : Service.Call σ
  /-- Whether the operation panics. -/
  panics : Bool
  /-- Whether the handle was pending, so that the operation was queued. -/
  isQueued : Bool

/-- What the caller of an operation is told. -/
abbrev Errand.Reply (errand : Errand σ) : Type :=
  Except StoreError (Service.Value errand.call)

/-- What the caller of an operation is told that is made on an instance, and the instance after it.
An operation that panics has no effect, and its caller is told what is given. -/
def Errand.meet (errand : Errand σ) (target : σ) (now : Instant) (fault : Option errand.Reply) :
    Option errand.Reply × σ :=
  if errand.panics then (fault, target)
  else
    let (reply, target) := Service.answer target now errand.call
    (some reply, target)

/-- Something that happens in the traffic on a handle. -/
inductive Incident (σ : Type) [Service σ] where
  | submitted (errand : Errand σ)
  | produced (ending : Bench.Ending)
  | begun (errand : Errand σ)
  /-- An operation has finished or panicked. Its caller is told something, unless it panics as
  well. -/
  | ended (errand : Errand σ) (now : Instant) (told : Option errand.Reply)
  /-- An operation fails that was not begun. -/
  | refused (errand : Errand σ) (error : StoreError)
  /-- The handle shows another state. -/
  | flipped (state : HandleState)

/-- When an operation was under way. -/
inductive Mark (σ : Type) [Service σ] where
  | begun (errand : Errand σ)
  | ended (errand : Errand σ)

namespace Incident

/-! ### What is in a log -/

def submission? : Incident σ → Option (Errand σ)
  | submitted errand => some errand
  | _ => none

def product? : Incident σ → Option Bench.Ending
  | produced ending => some ending
  | _ => none

def mark? : Incident σ → Option (Mark σ)
  | begun errand => some (.begun errand)
  | ended errand _ _ => some (.ended errand)
  | _ => none

def run? : Incident σ → Option (Errand σ × Instant)
  | ended errand now _ => some (errand, now)
  | _ => none

def refusal? : Incident σ → Option (Errand σ × StoreError)
  | refused errand error => some (errand, error)
  | _ => none

def flip? : Incident σ → Option HandleState
  | flipped state => some state
  | _ => none

variable {α : Type} (read : Incident σ → Option α)

/-- All that is read in a log. -/
def gather (log : List (Incident σ)) : List α :=
  log.filterMap read

@[simp] lemma gather_nil : gather read [] = [] := rfl

@[simp] lemma gather_append (before after : List (Incident σ)) :
    gather read (before ++ after) = gather read before ++ gather read after :=
  List.filterMap_append

@[simp] lemma gather_cons (incident : Incident σ) (log : List (Incident σ)) :
    gather read (incident :: log) = (read incident).toList ++ gather read log := by
  cases found : read incident with
  | none => exact List.filterMap_cons_none found
  | some result => exact List.filterMap_cons_some found

/-- The operations that were submitted. -/
abbrev submissions (log : List (Incident σ)) : List (Errand σ) := gather submission? log

/-- How the producer ended, if it did. -/
abbrev products (log : List (Incident σ)) : List Bench.Ending := gather product? log

/-- When operations began and when they finished or panicked. -/
abbrev marks (log : List (Incident σ)) : List (Mark σ) := gather mark? log

/-- The operations that have finished or panicked, and when. -/
abbrev runs (log : List (Incident σ)) : List (Errand σ × Instant) := gather run? log

/-- The operations that failed without having been begun, and how. -/
abbrev refusals (log : List (Incident σ)) : List (Errand σ × StoreError) := gather refusal? log

/-- What the handle has shown. -/
abbrev flips (log : List (Incident σ)) : List HandleState := gather flip? log

end Incident

/-- The operation begins, and then it ends. -/
def Errand.course (errand : Errand σ) : List (Mark σ) :=
  [.begun errand, .ended errand]

/-- A handle, the instance behind it, and the operations that were submitted. -/
structure Traffic (σ : Type) [Service σ] where
  handle : Forward Unit (Errand σ)
  /-- The instance that the producer has made or is going to make. -/
  target : σ
  /-- The operation from the queue that is under way. -/
  current : Option (Errand σ)
  /-- The operations that go to the instance by themselves and have not begun. -/
  admitted : List (Errand σ)
  /-- Those among them that have begun and not ended. -/
  active : List (Errand σ)
  log : List (Incident σ)

/-- What happens next to a handle. -/
inductive Traffic.Move (σ : Type) [Service σ] where
  | submit (call : Service.Call σ) (panics : Bool)
  | produce (ending : Bench.Ending)
  /-- The loop looks for the next operation in the queue. -/
  | drain
  /-- The operation from the queue that is under way finishes or panics. -/
  | finish (now : Instant)
  /-- An operation begins that was not queued. -/
  | start (number : Nat)
  /-- An operation that was not queued finishes or panics. -/
  | stop (number : Nat) (now : Instant)

namespace Traffic

open Incident

/-- No operation was submitted, and the producer is at work on the instance. -/
def initial (target : σ) : Traffic σ :=
  ⟨.pending, target, none, [], [], []⟩

section Moves

variable (traffic : Traffic σ)

/-- An operation comes in. -/
def receive (errand : Errand σ) : Traffic σ :=
  let log := traffic.log ++ [.submitted errand]
  match traffic.handle.submit errand with
  | (.deferred, handle) => { traffic with handle, log }
  | (.direct (), handle) =>
    { traffic with handle, log, admitted := traffic.admitted ++ [errand] }
  | (.refused error, handle) => { traffic with handle, log := log ++ [.refused errand error] }

/-- The operation that is submitted next. -/
def errand (call : Service.Call σ) (panics : Bool) : Errand σ :=
  ⟨(submissions traffic.log).length, call, panics, traffic.handle.state = .pending⟩

def submit (call : Service.Call σ) (panics : Bool) : Traffic σ :=
  traffic.receive (traffic.errand call panics)

def produce (ending : Bench.Ending) : Traffic σ :=
  match traffic.handle.stage with
  | .producing =>
    { traffic with
      handle := traffic.handle.produce ending.product
      log := traffic.log ++ [.produced ending] }
  | _ => traffic

def drain : Traffic σ :=
  match traffic.handle.next with
  | (.run errand (), handle) =>
    { traffic with handle, current := some errand, log := traffic.log ++ [.begun errand] }
  | (.refuse errand error, handle) =>
    { traffic with handle, log := traffic.log ++ [.refused errand error] }
  | (.idle, handle) =>
    let flip := if handle.state = traffic.handle.state then [] else [.flipped handle.state]
    { traffic with handle, log := traffic.log ++ flip }

/-- An operation ends. -/
def conclude (errand : Errand σ) (now : Instant) (fault : Option errand.Reply) : Traffic σ :=
  let (told, target) := errand.meet traffic.target now fault
  { traffic with target, log := traffic.log ++ [.ended errand now told] }

def finish (now : Instant) : Traffic σ :=
  match traffic.current with
  | none => traffic
  | some errand =>
    { traffic with handle := traffic.handle.finish, current := none }.conclude errand now
      (some (.error Forward.interrupted))

def start (number : Nat) : Traffic σ :=
  match traffic.admitted.find? (·.number = number) with
  | none => traffic
  | some errand =>
    { traffic with
      admitted := traffic.admitted.filter (·.number ≠ number)
      active := traffic.active ++ [errand]
      log := traffic.log ++ [.begun errand] }

/-- If the operation panics, so does its caller. -/
def stop (number : Nat) (now : Instant) : Traffic σ :=
  match traffic.active.find? (·.number = number) with
  | none => traffic
  | some errand =>
    { traffic with active := traffic.active.filter (·.number ≠ number) }.conclude errand now none

def move : Move σ → Traffic σ
  | .submit call panics => traffic.submit call panics
  | .produce ending => traffic.produce ending
  | .drain => traffic.drain
  | .finish now => traffic.finish now
  | .start number => traffic.start number
  | .stop number now => traffic.stop number now

/-- Many moves, one after the other. -/
def play (moves : List (Move σ)) : Traffic σ :=
  moves.foldl move traffic

end Moves

/-- The traffic on a handle from the start. -/
def run (made : σ) (moves : List (Move σ)) : Traffic σ :=
  (initial made).play moves

/-! ### How the traffic stands -/

/-- The log of a handle that has been pending all the time. -/
structure Pending (log : List (Incident σ)) (endings : List Bench.Ending) : Prop where
  queued : ∀ errand ∈ submissions log, errand.isQueued = true
  products : products log = endings
  flips : flips log = []

/-- What was added to the log of a handle since it is pending no more. -/
structure Settled (log : List (Incident σ)) : Prop where
  direct : ∀ errand ∈ submissions log, errand.isQueued = false
  products : products log = []
  flips : flips log = []

/-- Operations that fail as the producer did. -/
def refusedBy (error : StoreError) (errands : List (Errand σ)) : List (Errand σ × StoreError) :=
  errands.map fun errand => (errand, .producer error)

/-- How the traffic on a handle can stand whose producer is to make an instance. -/
inductive Stands (made : σ) : Traffic σ → Prop
  /-- The producer is at work, and all operations are in the queue. -/
  | producing {log : List (Incident σ)} (pending : Pending log []) (quiet : marks log = [])
      (accepted : refusals log = []) :
      Stands made ⟨⟨.producing, submissions log, false⟩, made, none, [], [], log⟩
  /-- The instance is there, and some operations from the queue were made on it. -/
  | draining {done queue : List (Errand σ)} {current : Option (Errand σ)} {target : σ}
      {log : List (Incident σ)} (pending : Pending log [.success])
      (submitted : submissions log = done ++ current.toList ++ queue)
      (marked : marks log = done.flatMap Errand.course ++ current.toList.map .begun)
      (accepted : refusals log = []) :
      Stands made ⟨⟨.draining (.ok ()), queue, current.isSome⟩, target, current, [], [], log⟩
  /-- The producer has failed, and some operations from the queue have failed with it. -/
  | failing {ending : Bench.Ending} {error : StoreError} {done queue : List (Errand σ)}
      {log : List (Incident σ)} (fault : ending.product = .error error)
      (pending : Pending log [ending]) (submitted : submissions log = done ++ queue)
      (quiet : marks log = []) (refused : refusals log = refusedBy error done) :
      Stands made ⟨⟨.draining (.error error), queue, false⟩, made, none, [], [], log⟩
  /-- All operations from the queue were made on the instance, and the others go to it by
  themselves. -/
  | resolved {before after : List (Incident σ)} {target : σ} {admitted active : List (Errand σ)}
      (pending : Pending before [.success])
      (marked : marks before = (submissions before).flatMap Errand.course)
      (settled : Settled after) (accepted : refusals (before ++ after) = [])
      (begun : ∀ errand, .begun errand ∈ after → errand ∈ submissions after)
      (admissions : admitted ⊆ submissions after) (actives : active ⊆ submissions after) :
      Stands made ⟨⟨.settled (.ok ()), [], false⟩, target, none, admitted, active,
        before ++ .flipped .resolved :: after⟩
  /-- All operations have failed as the producer did. -/
  | failed {ending : Bench.Ending} {error : StoreError} {before after : List (Incident σ)}
      (fault : ending.product = .error error) (pending : Pending before [ending])
      (refused : refusals before = refusedBy error (submissions before)) (settled : Settled after)
      (refused' : refusals after = refusedBy error (submissions after))
      (quiet : marks (before ++ after) = []) :
      Stands made ⟨⟨.settled (.error error), [], false⟩, made, none, [], [],
        before ++ .flipped .failed :: after⟩

variable {made : σ} {traffic : Traffic σ}

lemma stands_initial (made : σ) : Stands made (initial made) := by
  have pending : Pending ([] : List (Incident σ)) [] := ⟨by simp, rfl, rfl⟩
  exact .producing pending rfl rfl

/-- A handle that is pending stays so with an incident that is neither an operation that is
submitted nor the end of the producer. -/
lemma Pending.concat {log : List (Incident σ)} {endings : List Bench.Ending} {incident : Incident σ}
    (pending : Pending log endings) (submission : incident.submission? = none)
    (product : incident.product? = none) (flip : incident.flip? = none) :
    Pending (log ++ [incident]) endings where
  queued := by simpa [submission] using pending.queued
  products := by simpa [product] using pending.products
  flips := by simpa [flip] using pending.flips

lemma Pending.submit {log : List (Incident σ)} {endings : List Bench.Ending} {errand : Errand σ}
    (pending : Pending log endings) (queued : errand.isQueued = true) :
    Pending (log ++ [.submitted errand]) endings where
  queued := by
    simp only [gather_append, List.mem_append]
    rintro other (earlier | same)
    · exact pending.queued other earlier
    · cases List.mem_singleton.1 same
      exact queued
  products := by simpa [product?] using pending.products
  flips := by simpa [flip?] using pending.flips

lemma Settled.concat {log : List (Incident σ)} {incident : Incident σ} (settled : Settled log)
    (direct : ∀ errand ∈ incident.submission?, errand.isQueued = false)
    (product : incident.product? = none) (flip : incident.flip? = none) :
    Settled (log ++ [incident]) where
  direct := by
    simp only [gather_append, List.mem_append]
    rintro other (earlier | same)
    · exact settled.direct other earlier
    · exact direct other (by simpa using same)
  products := by simpa [product] using settled.products
  flips := by simpa [flip] using settled.flips

lemma stands_receive (stands : Stands made traffic) {errand : Errand σ}
    (isQueued : errand.isQueued = decide (traffic.handle.state = .pending)) :
    Stands made (traffic.receive errand) := by
  cases stands with
  | producing pending quiet accepted =>
    have queued : Stands made _ := .producing (pending.submit isQueued)
      (by simpa [mark?] using quiet) (by simpa [refusal?] using accepted)
    simp only [gather_append] at queued
    exact queued
  | @draining done queue current target log pending submitted marked accepted =>
    have submitted' : submissions (log ++ [.submitted errand]) =
        done ++ current.toList ++ (queue ++ [errand]) := by simp [submission?, submitted]
    refine .draining (pending.submit isQueued) submitted' ?_ ?_
    · simpa [mark?] using marked
    · simpa [refusal?] using accepted
  | @failing ending error done queue log fault pending submitted quiet refused =>
    have submitted' : submissions (log ++ [.submitted errand]) = done ++ (queue ++ [errand]) := by
      simp [submission?, submitted]
    refine .failing fault (pending.submit isQueued) submitted' ?_ ?_
    · simpa [mark?] using quiet
    · simpa [refusal?] using refused
  | @resolved before after target admitted active pending marked settled accepted begun admissions
      actives =>
    have direct : ∀ other ∈ (Incident.submitted errand).submission?, other.isQueued = false := by
      simp [submission?, isQueued, Forward.state]
    have log : before ++ .flipped .resolved :: after ++ [.submitted errand] =
        before ++ .flipped .resolved :: (after ++ [.submitted errand]) := by simp
    simp only [receive, Forward.submit, log]
    refine .resolved pending marked (settled.concat direct rfl rfl) ?_ ?_ ?_ ?_
    · simpa [refusal?] using accepted
    · simpa [submission?] using fun other among => Or.inl (begun other among)
    · simpa [submission?] using List.subset_append_of_subset_left _ admissions
    · simpa [submission?] using List.subset_append_of_subset_left _ actives
  | @failed ending error before after fault pending refused settled refused' quiet =>
    have direct : ∀ other ∈ (Incident.submitted errand).submission?, other.isQueued = false := by
      simp [submission?, isQueued, Forward.state]
    have log : before ++ .flipped .failed :: after ++ [.submitted errand] ++
          [.refused errand (.producer error)] =
        before ++ .flipped .failed ::
          (after ++ [.submitted errand] ++ [.refused errand (.producer error)]) := by simp
    simp only [receive, Forward.submit, log]
    refine .failed fault pending refused
      ((settled.concat direct rfl rfl).concat (by simp [submission?]) rfl rfl) ?_ ?_
    · simp [refusal?, submission?, refused', refusedBy]
    · simpa [mark?] using quiet

/-- Only the first end of the producer counts. -/
lemma produce_of_produced (ending : Bench.Ending) (produced : traffic.handle.stage ≠ .producing) :
    traffic.produce ending = traffic := by
  rw [produce]
  split
  · contradiction
  · rfl

lemma stands_produce (stands : Stands made traffic) (ending : Bench.Ending) :
    Stands made (traffic.produce ending) := by
  by_cases produced : traffic.handle.stage ≠ .producing
  · rwa [produce_of_produced ending produced]
  cases stands with
  | @producing log pending quiet accepted =>
    have pending' : Pending (log ++ [.produced ending]) [ending] :=
      ⟨by simpa [submission?] using pending.queued, by simp [product?, pending.products],
        by simp [flip?, pending.flips]⟩
    have quiet' : marks (log ++ [.produced ending]) = [] := by simpa [mark?] using quiet
    have accepted' : refusals (log ++ [.produced ending]) = [] := by
      simpa [refusal?] using accepted
    cases product : ending.product with
    | ok product =>
      cases ending with
      | success =>
        have submitted : submissions (log ++ [.produced .success]) =
            [] ++ (none : Option (Errand σ)).toList ++ submissions log := by simp [submission?]
        exact .draining pending' submitted quiet' accepted'
      | failure error => cases product
      | panic => cases product
    | error error =>
      have submitted : submissions (log ++ [.produced ending]) = [] ++ submissions log := by
        simp [submission?]
      simp only [produce, Forward.produce, product]
      exact .failing product pending' submitted quiet' accepted'
  | _ => exact absurd (fun same => nomatch same) produced

lemma drain_of_idle (idle : traffic.handle.next = (.idle, traffic.handle)) :
    traffic.drain = traffic := by
  simp [drain, idle]

lemma stands_drain (stands : Stands made traffic) : Stands made traffic.drain := by
  by_cases idle : traffic.handle.next = (.idle, traffic.handle)
  · rwa [drain_of_idle idle]
  have settled : Settled ([] : List (Incident σ)) := ⟨by simp, rfl, rfl⟩
  cases stands with
  | @draining done queue current target log pending submitted marked accepted =>
    cases current with
    | some errand => exact absurd rfl idle
    | none =>
      cases queue with
      | nil =>
        have whole : done = submissions log := by simpa using submitted.symm
        refine .resolved pending ?_ settled ?_ (by simp) (by simp) (by simp)
        · simpa [whole] using marked
        · simpa using accepted
      | cons errand queue =>
        have pending' : Pending (log ++ [.begun errand]) [.success] := pending.concat rfl rfl rfl
        have marked' : marks (log ++ [.begun errand]) =
            done.flatMap Errand.course ++ (some errand).toList.map .begun := by
          simpa [mark?] using marked
        refine .draining pending' ?_ marked' ?_
        · simpa [submission?] using submitted
        · simpa [refusal?] using accepted
  | @failing ending error done queue log fault pending submitted quiet refused =>
    cases queue with
    | nil =>
      have whole : done = submissions log := by simpa using submitted.symm
      refine .failed fault pending ?_ settled rfl ?_
      · rw [refused, whole]
      · simpa using quiet
    | cons errand queue =>
      have submitted' : submissions (log ++ [.refused errand (.producer error)]) =
          done ++ [errand] ++ queue := by simpa [submission?] using submitted
      refine .failing fault (pending.concat rfl rfl rfl) submitted' ?_ ?_
      · simpa [mark?] using quiet
      · simp [refusal?, refused, refusedBy]
  | _ => exact absurd rfl idle

lemma stands_finish (stands : Stands made traffic) (now : Instant) :
    Stands made (traffic.finish now) := by
  cases found : traffic.current with
  | none => rwa [finish, found]
  | some errand =>
    simp only [finish, found, conclude]
    generalize errand.meet _ now _ = met
    cases stands with
    | @draining done queue current _ log pending submitted marked accepted =>
      cases found
      have pending' : Pending (log ++ [.ended errand now met.1]) [.success] :=
        pending.concat rfl rfl rfl
      have submitted' : submissions (log ++ [.ended errand now met.1]) =
          done ++ [errand] ++ (none : Option (Errand σ)).toList ++ queue := by
        simpa [submission?] using submitted
      refine .draining pending' submitted' ?_ ?_
      · simp [mark?, marked, Errand.course]
      · simpa [refusal?] using accepted
    | _ => cases found

lemma stands_start (stands : Stands made traffic) (number : Nat) :
    Stands made (traffic.start number) := by
  cases found : traffic.admitted.find? (·.number = number) with
  | none => rwa [start, found]
  | some errand =>
    simp only [start, found]
    cases stands with
    | @resolved before after target admitted active pending marked settled accepted begun admissions
        actives =>
      have among : errand ∈ submissions after := admissions (List.mem_of_find?_eq_some found)
      have log : before ++ .flipped .resolved :: after ++ [.begun errand] =
          before ++ .flipped .resolved :: (after ++ [.begun errand]) := by simp
      have submitted : submissions (after ++ [.begun errand]) = submissions after := by
        simp [submission?]
      have settled' : Settled (after ++ [.begun errand]) :=
        settled.concat (by simp [submission?]) rfl rfl
      simp only [log]
      refine .resolved pending marked settled' ?_ ?_ ?_ ?_
      · simpa [refusal?] using accepted
      · intro other begins
        rw [submitted]
        rcases List.mem_append.1 begins with earlier | last
        · exact begun other earlier
        · cases List.mem_singleton.1 last
          exact among
      · rw [submitted]
        exact List.Subset.trans List.filter_sublist.subset admissions
      · rw [submitted]
        exact List.append_subset.2 ⟨actives, List.cons_subset.2 ⟨among, List.nil_subset _⟩⟩
    | _ => cases found

lemma stands_stop (stands : Stands made traffic) (number : Nat) (now : Instant) :
    Stands made (traffic.stop number now) := by
  cases found : traffic.active.find? (·.number = number) with
  | none => rwa [stop, found]
  | some errand =>
    simp only [stop, found, conclude]
    generalize errand.meet _ now _ = met
    cases stands with
    | @resolved before after _ admitted active pending marked settled accepted begun admissions
        actives =>
      have log : before ++ .flipped .resolved :: after ++ [.ended errand now met.1] =
          before ++ .flipped .resolved :: (after ++ [.ended errand now met.1]) := by simp
      have submitted : submissions (after ++ [.ended errand now met.1]) = submissions after := by
        simp [submission?]
      have settled' : Settled (after ++ [.ended errand now met.1]) :=
        settled.concat (by simp [submission?]) rfl rfl
      simp only [log]
      refine .resolved pending marked settled' ?_ ?_ ?_ ?_
      · simpa [refusal?] using accepted
      · simpa [submitted] using begun
      · rwa [submitted]
      · rw [submitted]
        exact List.Subset.trans List.filter_sublist.subset actives
    | _ => cases found

lemma stands_move (stands : Stands made traffic) (move : Move σ) :
    Stands made (traffic.move move) := by
  cases move with
  | submit call panics => exact stands_receive stands rfl
  | produce ending => exact stands_produce stands ending
  | drain => exact stands_drain stands
  | finish now => exact stands_finish stands now
  | start number => exact stands_start stands number
  | stop number now => exact stands_stop stands number now

/-! ### What a move adds -/

/-- The call that is submitted in a move, and whether it panics. -/
def Move.call? : Move σ → Option (Service.Call σ × Bool)
  | .submit call panics => some (call, panics)
  | _ => none

/-- What a move adds to the log, and which instance there is after it. -/
inductive Adds (traffic : Traffic σ) : Move σ → List (Incident σ) → σ → Prop
  | nothing {move : Move σ} (call : move.call? = none) : traffic.Adds move [] traffic.target
  | submitted {call : Service.Call σ} {panics : Bool} :
      traffic.Adds (.submit call panics) [.submitted (traffic.errand call panics)] traffic.target
  | failed {call : Service.Call σ} {panics : Bool} {error : StoreError} :
      traffic.Adds (.submit call panics)
        [.submitted (traffic.errand call panics), .refused (traffic.errand call panics) error]
        traffic.target
  | produced {ending : Bench.Ending} :
      traffic.Adds (.produce ending) [.produced ending] traffic.target
  | taken {errand : Errand σ} (stage : traffic.handle.stage = .draining (.ok ())) :
      traffic.Adds .drain [.begun errand] traffic.target
  | refused {errand : Errand σ} {error : StoreError} :
      traffic.Adds .drain [.refused errand error] traffic.target
  | flipped {state : HandleState} : traffic.Adds .drain [.flipped state] traffic.target
  | finished {errand : Errand σ} {now : Instant} (current : traffic.current = some errand) :
      traffic.Adds (.finish now)
        [.ended errand now
          (errand.meet traffic.target now (some (.error Forward.interrupted))).1]
        (errand.meet traffic.target now (some (.error Forward.interrupted))).2
  | started {errand : Errand σ} {number : Nat} (admitted : errand ∈ traffic.admitted) :
      traffic.Adds (.start number) [.begun errand] traffic.target
  | stopped {errand : Errand σ} {number : Nat} {now : Instant} (active : errand ∈ traffic.active) :
      traffic.Adds (.stop number now) [.ended errand now (errand.meet traffic.target now none).1]
        (errand.meet traffic.target now none).2

lemma adds_submit (traffic : Traffic σ) (call : Service.Call σ) (panics : Bool) :
    ∃ added, (traffic.submit call panics).log = traffic.log ++ added ∧
      traffic.Adds (.submit call panics) added (traffic.submit call panics).target := by
  rw [submit, receive]
  rcases traffic.handle.submit (traffic.errand call panics) with ⟨_ | _ | error, handle⟩
  · exact ⟨_, rfl, .submitted⟩
  · exact ⟨_, rfl, .submitted⟩
  · exact ⟨_, List.append_assoc _ _ _, .failed⟩

lemma adds_drain (traffic : Traffic σ) :
    ∃ added, traffic.drain.log = traffic.log ++ added ∧
      traffic.Adds .drain added traffic.drain.target := by
  rw [drain]
  split
  next errand handle found =>
    exact ⟨_, rfl, .taken (Forward.stage_of_run found)⟩
  next errand error handle found => exact ⟨_, rfl, .refused⟩
  next handle found =>
    by_cases same : handle.state = traffic.handle.state
    · exact ⟨[], by simp [same], .nothing rfl⟩
    · exact ⟨[.flipped handle.state], by simp [same], .flipped⟩

/-- What a move adds to the log. -/
lemma exists_adds (traffic : Traffic σ) (move : Move σ) :
    ∃ added, (traffic.move move).log = traffic.log ++ added ∧
      traffic.Adds move added (traffic.move move).target := by
  have nothing (call : move.call? = none) : ∃ added, traffic.log = traffic.log ++ added ∧
      traffic.Adds move added traffic.target :=
    ⟨[], (List.append_nil _).symm, .nothing call⟩
  cases move with
  | submit call panics => exact traffic.adds_submit call panics
  | produce ending =>
    simp only [Traffic.move, produce]
    split
    · exact ⟨_, rfl, .produced⟩
    · exact nothing rfl
  | drain => exact traffic.adds_drain
  | finish now =>
    cases current : traffic.current with
    | none => simpa only [Traffic.move, finish, current] using nothing rfl
    | some errand =>
      simp only [Traffic.move, finish, current, conclude]
      exact ⟨_, rfl, .finished current⟩
  | start number =>
    cases found : traffic.admitted.find? (·.number = number) with
    | none => simpa only [Traffic.move, start, found] using nothing rfl
    | some errand =>
      simp only [Traffic.move, start, found]
      exact ⟨_, rfl, .started (List.mem_of_find?_eq_some found)⟩
  | stop number now =>
    cases found : traffic.active.find? (·.number = number) with
    | none => simpa only [Traffic.move, stop, found] using nothing rfl
    | some errand =>
      simp only [Traffic.move, stop, found, conclude]
      exact ⟨_, rfl, .stopped (List.mem_of_find?_eq_some found)⟩

/-- Nothing else than a call that is submitted makes an operation. -/
lemma submissions_move (traffic : Traffic σ) (move : Move σ) :
    submissions (traffic.move move).log = submissions traffic.log ++
      move.call?.toList.map fun call => traffic.errand call.1 call.2 := by
  obtain ⟨added, log, adds⟩ := traffic.exists_adds move
  rw [log]
  generalize (traffic.move move).target = target at adds
  cases adds with
  | nothing call => simp [call]
  | _ => simp [submission?, Move.call?]

/-! ### Many moves -/

lemma play_append (traffic : Traffic σ) (first second : List (Move σ)) :
    traffic.play (first ++ second) = (traffic.play first).play second :=
  List.foldl_append

lemma run_append (made : σ) (first second : List (Move σ)) :
    run made (first ++ second) = (run made first).play second :=
  play_append _ first second

lemma run_concat (made : σ) (moves : List (Move σ)) (move : Move σ) :
    run made (moves ++ [move]) = (run made moves).move move :=
  run_append made moves [move]

lemma stands_play (moves : List (Move σ)) :
    ∀ {traffic : Traffic σ}, Stands made traffic → Stands made (traffic.play moves) := by
  induction moves with
  | nil => exact id
  | cons move moves ih => exact fun stands => ih (stands_move stands move)

/-- However the moves come, the traffic stands in one of these ways. -/
theorem stands_run (made : σ) (moves : List (Move σ)) : Stands made (run made moves) :=
  stands_play moves (stands_initial made)

/-- The operations are the calls that were submitted, in order. -/
lemma calls_run (made : σ) (moves : List (Move σ)) :
    (submissions (run made moves).log).map (fun errand => (errand.call, errand.panics)) =
      moves.filterMap Move.call? := by
  induction moves using List.reverseRecOn with
  | nil => rfl
  | append_singleton moves move ih =>
    rw [run_concat, List.filterMap_append, ← ih, submissions_move]
    cases called : move.call? with
    | none => simp [called]
    | some call => simp [called, errand]

/-- The operations are numbered in the order in which they were submitted. -/
lemma numbers_run (made : σ) (moves : List (Move σ)) :
    (submissions (run made moves).log).map Errand.number =
      List.range (submissions (run made moves).log).length := by
  induction moves using List.reverseRecOn with
  | nil => rfl
  | append_singleton moves move ih =>
    rw [run_concat, submissions_move]
    cases move.call? with
    | none => simpa using ih
    | some call => simp [errand, ih, List.range_succ]

end Traffic

end AssetCache
