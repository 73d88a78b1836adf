import AssetCache.Proofs.Forward.Order

/-!
# Handles in place of their instances

A handle is as good as the instance that its producer makes: where a call that goes to the instance
is one step, every operation is answered as if it had been made directly on the instance, after
those that were submitted before it. If there is no instance, every operation is refused with what
the producer failed with (`Traffic.stands_in`).
-/

namespace AssetCache

variable {σ : Type} [Service σ]

/-- The operation that ends. -/
def Mark.end? : Mark σ → Option (Errand σ)
  | begun _ => none
  | ended errand => some errand

/-- What the caller of an operation is told that panics. Without a queue between them, the caller
panics as well. -/
def Errand.fault (errand : Errand σ) : Option errand.Reply :=
  if errand.isQueued then some (.error Forward.interrupted) else none

/-- An instance after operations that were made directly on it, one after the other. -/
def directly (made : σ) (runs : List (Errand σ × Instant)) : σ :=
  runs.foldl (fun target run => (run.1.meet target run.2 none).2) made

/-- The effect of an operation does not depend on what its caller is told if it panics. -/
lemma Errand.meet_snd (errand : Errand σ) (target : σ) (now : Instant)
    (fault : Option errand.Reply) :
    (errand.meet target now fault).2 = (errand.meet target now none).2 := by
  unfold meet
  cases errand.panics with
  | _ => rfl

namespace Traffic

open Incident

variable {made : σ} {traffic : Traffic σ} {before after log : List (Incident σ)} {errand : Errand σ}

/-- What is done with a handle by a caller, its producer or the loop. -/
inductive Act (σ : Type) [Service σ] where
  /-- A call is made. If it goes to the instance by itself, it does so at an instant. -/
  | call (call : Service.Call σ) (panics : Bool) (now : Instant)
  | produce (ending : Bench.Ending)
  | drain
  | finish (now : Instant)

namespace Act

/-- The moves of an act, when some operations were submitted. -/
def moves (number : Nat) : Act σ → List (Move σ)
  | .call request panics now => [.submit request panics, .start number, .stop number now]
  | .produce ending => [.produce ending]
  | .drain => [.drain]
  | .finish now => [.finish now]

/-- The call that is made in an act, and whether it panics. -/
def call? : Act σ → Option (Service.Call σ × Bool)
  | .call request panics _ => some (request, panics)
  | _ => none

end Act

/-- The traffic after an act. -/
def act (traffic : Traffic σ) (act : Act σ) : Traffic σ :=
  traffic.play (act.moves (submissions traffic.log).length)

/-- The traffic on a handle from the start, in acts. -/
def enact (made : σ) (acts : List (Act σ)) : Traffic σ :=
  acts.foldl act (initial made)

lemma enact_append (made : σ) (first second : List (Act σ)) :
    enact made (first ++ second) = second.foldl act (enact made first) :=
  List.foldl_append

lemma enact_concat (made : σ) (acts : List (Act σ)) (next : Act σ) :
    enact made (acts ++ [next]) = (enact made acts).act next :=
  enact_append made acts [next]

/-- Acts are moves. -/
lemma exists_run (made : σ) (acts : List (Act σ)) :
    ∃ moves, enact made acts = run made moves ∧
      moves.filterMap Move.call? = acts.filterMap Act.call? := by
  induction acts using List.reverseRecOn with
  | nil => exact ⟨[], rfl, rfl⟩
  | append_singleton acts next ih =>
    obtain ⟨moves, same, calls⟩ := ih
    refine ⟨moves ++ next.moves (submissions (run made moves).log).length, ?_, ?_⟩
    · rw [enact_concat, same, run_append, act]
    · rw [List.filterMap_append, List.filterMap_append, calls]
      cases next with
      | _ => rfl

/-! ### What the callers are told -/

/-- What comes from the queue was queued, and what goes to the instance by itself was not. -/
lemma Stands.isQueued (stands : Stands made traffic) :
    (∀ errand ∈ traffic.current, errand.isQueued = true) ∧
      ∀ errand ∈ traffic.active, errand.isQueued = false := by
  cases stands with
  | draining pending submitted _ _ =>
    refine ⟨fun errand current => pending.queued errand ?_, by simp⟩
    rw [submitted]
    exact List.mem_append_left _ (List.mem_append_right _ (Option.mem_toList.2 current))
  | resolved _ _ settled _ _ _ actives =>
    exact ⟨by simp, fun errand active => settled.direct errand (actives active)⟩
  | _ => simp

/-- When an operation ends, its caller is told what it comes to, and the instance changes
accordingly. -/
lemma Adds.ended_cases {move : Move σ} {added : List (Incident σ)} {target : σ}
    (adds : traffic.Adds move added target) (stands : Stands made traffic) :
    ((∀ errand now told, .ended errand now told ∉ added) ∧ runs added = [] ∧
        target = traffic.target) ∨
      ∃ errand now, added = [.ended errand now (errand.meet traffic.target now errand.fault).1] ∧
        target = (errand.meet traffic.target now none).2 := by
  cases adds with
  | @finished errand now current =>
    have queued := stands.isQueued.1 errand current
    refine Or.inr ⟨errand, now, ?_, errand.meet_snd _ _ _⟩
    rw [Errand.fault, if_pos queued]
  | @stopped errand number now active =>
    have direct := stands.isQueued.2 errand active
    refine Or.inr ⟨errand, now, ?_, rfl⟩
    rw [Errand.fault, direct]
    rfl
  | _ => exact Or.inl ⟨by simp, rfl, rfl⟩

lemma directly_concat (made : σ) (runs : List (Errand σ × Instant)) (last : Errand σ × Instant) :
    directly made (runs ++ [last]) = (last.1.meet (directly made runs) last.2 none).2 :=
  List.foldl_concat ..

/-- The instance is as if the operations had been made directly on it. -/
lemma target_run (made : σ) (moves : List (Move σ)) :
    (run made moves).target = directly made (runs (run made moves).log) := by
  induction moves using List.reverseRecOn with
  | nil => rfl
  | append_singleton moves move ih =>
    obtain ⟨added, log, adds⟩ := (run made moves).exists_adds move
    have parts : runs ((run made moves).log ++ added) = runs (run made moves).log ++ runs added :=
      gather_append ..
    rw [run_concat, log, parts]
    rcases adds.ended_cases (stands_run made moves) with
      ⟨-, none, same⟩ | ⟨errand, now, rfl, target⟩
    · rw [same, none, List.append_nil, ih]
    · rw [target, ih]
      exact (directly_concat made _ (errand, now)).symm

/-- Every operation that ends is answered as if it had been made directly on the instance, after
those that have ended before. -/
lemma told_of_ended (made : σ) (moves : List (Move σ)) {now : Instant} {told : Option errand.Reply}
    (split : (run made moves).log = before ++ .ended errand now told :: after) :
    told = (errand.meet (directly made (runs before)) now errand.fault).1 := by
  induction moves using List.reverseRecOn generalizing after with
  | nil => exact absurd split (by simp [run, play, initial])
  | append_singleton moves move ih =>
    obtain ⟨added, log, adds⟩ := (run made moves).exists_adds move
    rw [run_concat, log] at split
    rcases append_eq_append_cons_cases split with ⟨between, earlier⟩ | ⟨between, rfl, rest⟩
    · exact ih earlier
    · rcases adds.ended_cases (stands_run made moves) with ⟨none, -⟩ | ⟨other, instant, only, -⟩
      · have inside : .ended errand now told ∈ added :=
          rest ▸ List.mem_append_right _ List.mem_cons_self
        exact absurd inside (none errand now told)
      · rw [only] at rest
        cases between with
        | nil =>
          cases rest
          rw [List.append_nil, target_run]
        | cons other between => simp at rest

/-! ### Which operations have ended -/

lemma map_fst_runs (log : List (Incident σ)) :
    (runs log).map Prod.fst = (marks log).filterMap Mark.end? := by
  induction log with
  | nil => rfl
  | cons incident log ih =>
    cases incident with
    | _ => simpa [mark?, run?, Mark.end?, List.filterMap_cons] using ih

/-- No operation has ended in between that was not queued. -/
structure Prompt (traffic : Traffic σ) : Prop where
  admitted : traffic.admitted = []
  active : traffic.active = []
  ended : traffic.handle.state = .resolved →
    (runs traffic.log).map Prod.fst = submissions traffic.log

lemma map_fst_runs_of_course (marked : marks log = (submissions log).flatMap Errand.course) :
    (runs log).map Prod.fst = submissions log := by
  rw [map_fst_runs, marked, filterMap_course fun _ => rfl]

/-- A call to an instance that is there ends at once. -/
lemma act_call_of_resolved (admitted : traffic.admitted = []) (active : traffic.active = [])
    (resolved : traffic.handle.state = .resolved) (request : Service.Call σ) (panics : Bool)
    (now : Instant) :
    ∃ target told, traffic.act (.call request panics now) =
      { traffic with
        target
        log := traffic.log ++ [.submitted (traffic.errand request panics),
          .begun (traffic.errand request panics),
          .ended (traffic.errand request panics) now told] } := by
  obtain ⟨⟨stage, queue, isBusy⟩, target, current, _, _, log⟩ := traffic
  cases admitted
  cases active
  cases stage with
  | settled product =>
    cases product with
    | ok product =>
      simp [act, Act.moves, play, Traffic.move, submit, receive, Forward.submit, start, stop,
        conclude, errand]
    | error error => cases resolved
  | _ => cases resolved

/-- Any other call is queued or fails. -/
lemma act_call_of_unresolved (admitted : traffic.admitted = []) (active : traffic.active = [])
    (unresolved : traffic.handle.state ≠ .resolved) (request : Service.Call σ) (panics : Bool)
    (now : Instant) :
    traffic.act (.call request panics now) = traffic.submit request panics ∧
      (traffic.submit request panics).admitted = [] ∧
      (traffic.submit request panics).active = [] := by
  obtain ⟨⟨stage, queue, isBusy⟩, target, current, _, _, log⟩ := traffic
  cases admitted
  cases active
  cases stage with
  | settled product =>
    cases product with
    | ok product => exact absurd rfl unresolved
    | error error => exact ⟨rfl, rfl, rfl⟩
  | _ => exact ⟨rfl, rfl, rfl⟩

lemma Prompt.call (prompt : Prompt traffic) (request : Service.Call σ) (panics : Bool)
    (now : Instant) : Prompt (traffic.act (.call request panics now)) := by
  obtain ⟨admitted, active, ended⟩ := prompt
  by_cases resolved : traffic.handle.state = .resolved
  · obtain ⟨target, told, same⟩ := act_call_of_resolved admitted active resolved request panics now
    rw [same]
    exact ⟨admitted, active, fun _ => by simp [run?, submission?, ended resolved]⟩
  · obtain ⟨same, admitted', active'⟩ :=
      act_call_of_unresolved admitted active resolved request panics now
    rw [same]
    refine ⟨admitted', active', fun resolved' => absurd ?_ resolved⟩
    exact (traffic.state_receive _).symm.trans resolved'

/-- If a move does nothing once the instance is there, then all operations have ended when it shows
that the instance is there. -/
lemma Prompt.move (prompt : Prompt traffic) (stands : Stands made traffic) (move : Move σ)
    (admitted : (traffic.move move).admitted = traffic.admitted)
    (active : (traffic.move move).active = traffic.active)
    (idle : traffic.handle.state = .resolved → traffic.move move = traffic) :
    Prompt (traffic.move move) := by
  refine ⟨admitted.trans prompt.admitted, active.trans prompt.active, fun resolved => ?_⟩
  rcases state_move stands move with same | ⟨-, -, -, log⟩
  · have resolved' := same.symm.trans resolved
    rw [idle resolved']
    exact prompt.ended resolved'
  · rw [resolved] at log
    obtain ⟨marked, -⟩ := (stands_move stands move).of_resolved log
    rw [log]
    simpa [run?, submission?] using map_fst_runs_of_course marked

/-- Once the instance is there, neither its producer nor the loop does anything. -/
lemma idle_of_resolved (stands : Stands made traffic)
    (resolved : traffic.handle.state = .resolved) :
    (∀ ending, traffic.produce ending = traffic) ∧ traffic.drain = traffic ∧
      ∀ now, traffic.finish now = traffic := by
  cases stands with
  | resolved => exact ⟨fun _ => rfl, drain_of_idle rfl, fun _ => rfl⟩
  | _ => cases resolved

/-- The producer lets no operation go to the instance, -/
lemma produce_frame (traffic : Traffic σ) (ending : Bench.Ending) :
    (traffic.produce ending).admitted = traffic.admitted ∧
      (traffic.produce ending).active = traffic.active := by
  unfold produce
  split
  · exact ⟨rfl, rfl⟩
  · exact ⟨rfl, rfl⟩

/-- and neither does the loop. -/
lemma drain_frame (traffic : Traffic σ) :
    traffic.drain.admitted = traffic.admitted ∧ traffic.drain.active = traffic.active := by
  unfold drain
  rcases traffic.handle.next with ⟨_ | _ | _, handle⟩
  · exact ⟨rfl, rfl⟩
  · exact ⟨rfl, rfl⟩
  · exact ⟨rfl, rfl⟩

lemma finish_frame (traffic : Traffic σ) (now : Instant) :
    (traffic.finish now).admitted = traffic.admitted ∧
      (traffic.finish now).active = traffic.active := by
  unfold finish
  split
  · exact ⟨rfl, rfl⟩
  · exact ⟨rfl, rfl⟩

lemma Prompt.act (prompt : Prompt traffic) (stands : Stands made traffic) (next : Act σ) :
    Prompt (traffic.act next) := by
  have idle (resolved : traffic.handle.state = .resolved) := idle_of_resolved stands resolved
  cases next with
  | call request panics now => exact prompt.call request panics now
  | produce ending =>
    obtain ⟨admitted, active⟩ := traffic.produce_frame ending
    exact prompt.move stands (.produce ending) admitted active fun resolved => (idle resolved).1 _
  | drain =>
    obtain ⟨admitted, active⟩ := traffic.drain_frame
    exact prompt.move stands .drain admitted active fun resolved => (idle resolved).2.1
  | finish now =>
    obtain ⟨admitted, active⟩ := traffic.finish_frame now
    exact prompt.move stands (.finish now) admitted active fun resolved => (idle resolved).2.2 _

lemma stands_enact (made : σ) (acts : List (Act σ)) : Stands made (enact made acts) := by
  obtain ⟨moves, same, -⟩ := exists_run made acts
  exact same ▸ stands_run made moves

lemma prompt_enact (made : σ) (acts : List (Act σ)) : Prompt (enact made acts) := by
  induction acts using List.reverseRecOn with
  | nil => exact ⟨rfl, rfl, fun resolved => by cases resolved⟩
  | append_singleton acts next ih =>
    rw [enact_concat]
    exact ih.act (stands_enact made acts) next

/-! ### The loop comes to an end -/

/-- A number of rounds of the loop, in each of which the operation under way ends and the next one
is taken. -/
def rounds (readings : List Instant) : List (Act σ) :=
  readings.flatMap fun now => [.finish now, .drain]

/-- In one round the queue gets shorter, or the handle is pending no more. -/
lemma queue_round (stands : Stands made traffic) (produced : traffic.handle.stage ≠ .producing)
    (now : Instant) :
    (traffic.finish now).drain.handle.state ≠ .pending ∨
      (traffic.finish now).drain.handle.stage ≠ .producing ∧
        (traffic.finish now).drain.handle.queue.length + 1 = traffic.handle.queue.length := by
  cases stands with
  | producing => exact absurd rfl produced
  | @draining _ queue current target log =>
    have finished : ∃ target' log', finish ⟨⟨.draining (.ok ()), queue, current.isSome⟩, target,
        current, [], [], log⟩ now =
          ⟨⟨.draining (.ok ()), queue, false⟩, target', none, [], [], log'⟩ := by
      cases current with
      | none => exact ⟨target, log, rfl⟩
      | some errand => exact ⟨_, _, rfl⟩
    obtain ⟨target', log', finished⟩ := finished
    rw [finished]
    cases queue with
    | nil => exact Or.inl nofun
    | cons errand queue => exact Or.inr ⟨nofun, rfl⟩
  | @failing _ _ _ queue =>
    cases queue with
    | nil => exact Or.inl nofun
    | cons errand queue => exact Or.inr ⟨nofun, rfl⟩
  | resolved => exact Or.inl nofun
  | failed => exact Or.inl nofun

/-- Whatever is done later, a handle that is pending no more stays as it is. -/
lemma state_acts (acts : List (Act σ)) : ∀ {traffic : Traffic σ}, Stands made traffic →
    traffic.handle.state ≠ .pending →
      (acts.foldl act traffic).handle.state = traffic.handle.state := by
  induction acts with
  | nil => exact fun _ _ => rfl
  | cons next acts ih =>
    intro traffic stands settled
    have same : (traffic.act next).handle.state = traffic.handle.state :=
      state_play _ stands settled
    exact (ih (stands_play _ stands) (same ▸ settled)).trans same

/-- If no more operations are queued, the loop comes to an end. -/
lemma state_rounds (readings : List Instant) : ∀ {traffic : Traffic σ}, Stands made traffic →
    traffic.handle.stage ≠ .producing → traffic.handle.queue.length < readings.length →
      ((rounds readings).foldl act traffic).handle.state ≠ .pending := by
  induction readings with
  | nil => exact fun _ _ short => absurd short (Nat.not_lt_zero _)
  | cons now readings ih =>
    intro traffic stands produced short
    have stands' : Stands made (traffic.finish now).drain := stands_drain (stands_finish stands now)
    show ((rounds readings).foldl act (traffic.finish now).drain).handle.state ≠ .pending
    rcases queue_round stands produced now with settled | ⟨produced', shorter⟩
    · rwa [state_acts _ stands' settled]
    · exact ih stands' produced' (by rw [List.length_cons] at short; omega)

/-! ### How the producer ended -/

/-- What a handle shows in the end, by the end of its producer. -/
def shown : Bench.Ending → HandleState
  | .success => .resolved
  | .failure _ | .panic => .failed

/-- The producer ends once. -/
lemma eq_of_produced {only ending : Bench.Ending} (products : products log = [only])
    (produced : .produced ending ∈ log) : ending = only := by
  rwa [← produced_mem, products, List.mem_singleton] at produced

lemma Pending.not_produced {ending : Bench.Ending} (pending : Pending log []) :
    .produced ending ∉ log := by
  rw [← produced_mem, pending.products]
  exact List.not_mem_nil

/-- It ends before the handle shows this. -/
lemma products_of_flipped {endings : List Bench.Ending} {state : HandleState}
    (pending : Pending before endings) (settled : Settled after) :
    products (before ++ .flipped state :: after) = endings := by
  simp [product?, pending.products, settled.products]

/-- Once the instance is there, no operation fails because of the producer. -/
lemma Stands.of_success (stands : Stands made traffic)
    (produced : .produced .success ∈ traffic.log) :
    refusals traffic.log = [] ∧ traffic.handle.state ≠ .failed := by
  cases stands with
  | producing pending _ _ => exact absurd produced pending.not_produced
  | draining _ _ _ accepted => exact ⟨accepted, by simp [Forward.state]⟩
  | failing fault pending _ _ _ =>
    cases eq_of_produced pending.products produced
    cases fault
  | resolved _ _ _ accepted _ _ _ =>
    exact ⟨by simpa [refusal?] using accepted, by simp [Forward.state]⟩
  | failed fault pending _ settled _ _ =>
    cases eq_of_produced (products_of_flipped pending settled) produced
    cases fault

/-- If the producer failed, no operation is made, and those that have ended failed as it did. -/
lemma Stands.of_failure (stands : Stands made traffic) {ending : Bench.Ending} {error : StoreError}
    (produced : .produced ending ∈ traffic.log) (fault : ending.product = .error error) :
    marks traffic.log = [] ∧ traffic.target = made ∧ traffic.handle.state ≠ .resolved ∧
      refusals traffic.log <+: refusedBy error (submissions traffic.log) ∧
      (traffic.handle.state = .failed →
        refusals traffic.log = refusedBy error (submissions traffic.log)) := by
  cases stands with
  | producing pending _ _ => exact absurd produced pending.not_produced
  | draining pending _ _ _ =>
    cases eq_of_produced pending.products produced
    cases fault
  | failing fault' pending submitted quiet refused =>
    cases eq_of_produced pending.products produced
    cases fault'.symm.trans fault
    refine ⟨quiet, rfl, by simp [Forward.state], ?_, by simp [Forward.state]⟩
    rw [refused, submitted, refusedBy, refusedBy, List.map_append]
    exact List.prefix_append _ _
  | resolved pending _ settled _ _ _ _ =>
    cases eq_of_produced (products_of_flipped pending settled) produced
    cases fault
  | @failed _ _ before after fault' pending refused settled refused' quiet =>
    cases eq_of_produced (products_of_flipped pending settled) produced
    cases fault'.symm.trans fault
    have all : refusals (before ++ .flipped .failed :: after) =
        refusedBy error (submissions (before ++ .flipped .failed :: after)) := by
      simp [refusal?, submission?, refused, refused', refusedBy]
    refine ⟨?_, rfl, by simp [Forward.state], all ▸ List.prefix_rfl, fun _ => all⟩
    simpa [mark?] using quiet

/-- Before the handle shows that the instance is there, the operations have ended in order. -/
lemma Stands.map_fst_runs_prefix (stands : Stands made traffic) (prompt : Prompt traffic) :
    (runs traffic.log).map Prod.fst <+: submissions traffic.log := by
  cases stands with
  | producing _ quiet _ => simp [map_fst_runs, quiet]
  | @draining done _ current _ _ _ submitted marked _ =>
    have under : (current.toList.map Mark.begun).filterMap Mark.end? = [] := by
      cases current with
      | _ => rfl
    rw [map_fst_runs, marked, submitted, List.filterMap_append, filterMap_course fun _ => rfl,
      under, List.append_nil, List.append_assoc]
    exact List.prefix_append _ _
  | failing _ _ _ quiet _ => simp [map_fst_runs, quiet]
  | resolved => exact (prompt.ended rfl).symm ▸ List.prefix_rfl
  | @failed _ _ before after _ _ _ _ _ quiet =>
    have quiet' : marks (before ++ .flipped .failed :: after) = [] := by simpa [mark?] using quiet
    rw [map_fst_runs, quiet']
    exact List.nil_prefix

/-- Nothing is taken out of the log. -/
lemma log_prefix_play (moves : List (Move σ)) :
    ∀ traffic : Traffic σ, traffic.log <+: (traffic.play moves).log := by
  induction moves with
  | nil => exact fun _ => List.prefix_rfl
  | cons move moves ih =>
    intro traffic
    obtain ⟨added, log, -⟩ := traffic.exists_adds move
    exact (log ▸ List.prefix_append _ _ : traffic.log <+: (traffic.move move).log).trans (ih _)

lemma log_prefix_acts (acts : List (Act σ)) :
    ∀ traffic : Traffic σ, traffic.log <+: (acts.foldl act traffic).log := by
  induction acts with
  | nil => exact fun _ => List.prefix_rfl
  | cons next acts ih => exact fun traffic => (log_prefix_play _ traffic).trans (ih _)

/-- A producer that has ended is at work no more. -/
lemma Stands.stage_of_produced (stands : Stands made traffic) {ending : Bench.Ending}
    (produced : .produced ending ∈ traffic.log) : traffic.handle.stage ≠ .producing := by
  cases stands with
  | producing pending _ _ => exact absurd produced pending.not_produced
  | _ => simp

/-- Once the producer has ended, the loop comes to the end that it brings about. -/
lemma Stands.shown_of_produced (stands : Stands made traffic) {ending : Bench.Ending}
    (produced : .produced ending ∈ traffic.log) (settled : traffic.handle.state ≠ .pending) :
    traffic.handle.state = shown ending := by
  have failed {error : StoreError} (fault : ending.product = .error error) :
      traffic.handle.state = .failed := by
    have unresolved := (stands.of_failure produced fault).2.2.1
    cases found : traffic.handle.state with
    | failed => rfl
    | _ => contradiction
  cases ending with
  | success =>
    have unfailed := (stands.of_success produced).2
    cases found : traffic.handle.state with
    | resolved => rfl
    | _ => contradiction
  | failure error => exact failed rfl
  | panic => exact failed rfl

/-! ### Any acts -/

/-- How calls on a handle are answered whose producer is to make an instance. -/
structure StandsIn (made : σ) (acts : List (Act σ)) : Prop where
  /-- The operations are the calls, in order. -/
  calls : (submissions (enact made acts).log).map (fun errand => (errand.call, errand.panics)) =
    acts.filterMap Act.call?
  /-- If the producer succeeds, none of them fails because of it, -/
  accepted : .produced .success ∈ (enact made acts).log → refusals (enact made acts).log = []
  /-- and they are made in the order in which they were submitted. -/
  ordered : (runs (enact made acts).log).map Prod.fst <+: submissions (enact made acts).log
  /-- Every operation that does not panic is answered as if it had been made directly on the
  instance, after those before it; -/
  answered {errand : Errand σ} {now : Instant} {told : Option errand.Reply}
    {before after : List (Incident σ)} :
    (enact made acts).log = before ++ .ended errand now told :: after → errand.panics = false →
      told = some (Service.answer (directly made (runs before)) now errand.call).1
  /-- one that panics interrupts its own caller, or makes it panic if it was not queued. -/
  interrupted {errand : Errand σ} {now : Instant} {told : Option errand.Reply} :
    .ended errand now told ∈ (enact made acts).log → errand.panics = true →
      told = if errand.isQueued then some (.error Forward.interrupted) else none
  /-- The instance is as if all of them had been made directly on it. -/
  target : (enact made acts).target = directly made (runs (enact made acts).log)
  /-- When the handle shows that the instance is there, all of them were made. -/
  resolved : (enact made acts).handle.state = .resolved →
    (runs (enact made acts).log).map Prod.fst = submissions (enact made acts).log
  /-- If the producer fails, none of them begins, the instance is left alone, -/
  failed {ending : Bench.Ending} {error : StoreError} :
    .produced ending ∈ (enact made acts).log → ending.product = .error error →
      marks (enact made acts).log = [] ∧ (enact made acts).target = made ∧
        refusals (enact made acts).log <+: refusedBy error (submissions (enact made acts).log)
  /-- and when the handle shows this, all of them have failed as the producer did. -/
  refused {ending : Bench.Ending} {error : StoreError} :
    .produced ending ∈ (enact made acts).log → ending.product = .error error →
      (enact made acts).handle.state = .failed →
        refusals (enact made acts).log = refusedBy error (submissions (enact made acts).log)
  /-- Once the producer has ended, the handle shows one or the other after as many rounds of the
  loop as there are operations in the queue and one more. -/
  settles {ending : Bench.Ending} {readings : List Instant} :
    .produced ending ∈ (enact made acts).log →
      (enact made acts).handle.queue.length < readings.length →
        (enact made (acts ++ rounds readings)).handle.state = shown ending

/-- A handle stands in for the instance that its producer makes, or fails as the producer does. -/
theorem stands_in (made : σ) (acts : List (Act σ)) : StandsIn made acts := by
  have stands := stands_enact made acts
  obtain ⟨moves, same, calls⟩ := exists_run made acts
  exact {
    calls := by rw [same, calls_run, calls]
    accepted := fun produced => (stands.of_success produced).1
    ordered := stands.map_fst_runs_prefix (prompt_enact made acts)
    answered := by
      intro errand now told before after split calm
      have told := told_of_ended made moves (same ▸ split)
      rwa [Errand.meet, calm] at told
    interrupted := by
      intro errand now told ended panics
      obtain ⟨before, after, split⟩ := List.append_of_mem ended
      have told := told_of_ended made moves (same ▸ split)
      rwa [Errand.meet, panics] at told
    target := by rw [same, target_run]
    resolved := (prompt_enact made acts).ended
    failed := by
      intro ending error produced fault
      obtain ⟨quiet, target, -, refused, -⟩ := stands.of_failure produced fault
      exact ⟨quiet, target, refused⟩
    refused := fun produced fault => (stands.of_failure produced fault).2.2.2.2
    settles := by
      intro ending readings produced short
      have settled := state_rounds readings stands (stands.stage_of_produced produced) short
      have later := (log_prefix_acts (rounds readings) (enact made acts)).mem produced
      rw [← enact_append] at settled later
      exact (stands_enact made (acts ++ rounds readings)).shown_of_produced later settled }

/-- A call that panics does not hold up the others, and what was put into a cache when the handle
was pending is found later. -/
example (now : Instant) :
    (enact (∅ : PlainCache String)
      ([.call (CacheCall.put "key" "value" none) false now, .call CacheCall.cleanUp true now,
        .produce .success] ++ rounds [now, now, now] ++
          [.call (CacheCall.get "key") false now])).log.getLast? =
      some (.ended ⟨2, CacheCall.get "key", false, false⟩ now (some (.ok (some "value")))) := by
  cbv

end Traffic

end AssetCache
