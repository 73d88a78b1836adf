import AssetCache.Bench.Script
import AssetCache.Proofs.Forward.Traffic

/-!
# The loop of a laboratory

The tasks of a laboratory act on its handle as the callers, the producer and the loop do in the
traffic on a handle: whatever a script makes them do, the handle and the loop are where some moves
bring them (`Bench.Lab.mirrors_play`).
-/

namespace AssetCache

namespace Forward

variable {τ ω ω' : Type} (change : ω → ω') (handle : Forward τ ω)

/-- A handle with its operations changed. -/
def map : Forward τ ω' :=
  ⟨handle.stage, handle.queue.map change, handle.isBusy⟩

lemma submit_map (operation : ω) : (handle.map change).submit (change operation) =
    ((handle.submit operation).1, (handle.submit operation).2.map change) := by
  obtain ⟨stage, queue, isBusy⟩ := handle
  cases stage with
  | settled product =>
    cases product with
    | _ => rfl
  | _ => simp [map, submit]

lemma stage_submit (operation : ω) : (handle.submit operation).2.stage = handle.stage := by
  obtain ⟨stage, queue, isBusy⟩ := handle
  cases stage with
  | settled product =>
    cases product with
    | _ => rfl
  | _ => rfl

lemma produce_map (product : Except StoreError τ) :
    (handle.map change).produce product = (handle.produce product).map change := by
  obtain ⟨stage, queue, isBusy⟩ := handle
  cases stage with
  | _ => rfl

end Forward

namespace Bench

/-- What the jobs of a laboratory work on, of which only the order is looked at. -/
inductive Workpiece where
  | workpiece

instance : Service Workpiece where
  Call := Deferred
  Value _ := Unit
  answer piece _ _ := (.ok (), piece)

/-- The job that the loop is about, if the task is the loop. -/
def Task.loop? : Task → Option (Option Deferred)
  | .step _ _ => none
  | .drain current => some (current.map Prod.fst)

namespace Lab

/-- The jobs that the loops are about; a laboratory has one loop or none. -/
def loops (lab : Lab) : List (Option Deferred) :=
  lab.ready.filterMap (·.task.loop?) ++ lab.waiting.filterMap (·.2.loop?)

/-- Two laboratories with the same handle and the same tasks. -/
structure SameTasks (lab lab' : Lab) : Prop where
  handle : lab'.handle = lab.handle
  ready : lab'.ready = lab.ready
  waiting : lab'.waiting = lab.waiting

/-- Two laboratories with the same handle and the same loops. -/
structure Alike (lab lab' : Lab) : Prop where
  handle : lab'.handle = lab.handle
  loops : lab'.loops.Perm lab.loops

variable {lab lab' lab'' : Lab}

lemma SameTasks.refl (lab : Lab) : SameTasks lab lab := ⟨rfl, rfl, rfl⟩

lemma SameTasks.trans (first : SameTasks lab lab') (second : SameTasks lab' lab'') :
    SameTasks lab lab'' :=
  ⟨second.handle.trans first.handle, second.ready.trans first.ready,
    second.waiting.trans first.waiting⟩

/-! ### Acts -/

lemma sameTasks_refill (lab : Lab) (source : Source) : SameTasks lab (lab.refill source).2 := by
  unfold refill
  split
  · exact .refl lab
  · split
    · exact .refl lab
    · exact ⟨rfl, rfl, rfl⟩

lemma sameTasks_call {ρ : Type} (lab : Lab) (call : Call) (next : call.Answer → Routine ρ) :
    SameTasks lab (lab.call call next).2 := by
  unfold Lab.call
  split
  · exact ⟨rfl, rfl, rfl⟩
  · exact ⟨rfl, rfl, rfl⟩
  · exact .refl lab

lemma sameTasks_put {ρ : Type} (lab : Lab) (transfer : Transfer) (next : PutReply → Routine ρ) :
    SameTasks lab (lab.put transfer next).2 := by
  unfold put
  have refilled := lab.sameTasks_refill transfer.upload.source
  generalize lab.refill transfer.upload.source = refill at refilled
  obtain ⟨source, lab'⟩ := refill
  dsimp only at refilled ⊢
  split
  · exact refilled
  · generalize { transfer with upload := { transfer.upload with source } } = transfer'
    have called := lab'.sameTasks_call (.blob (.put transfer')) next
    generalize lab'.call (.blob (.put transfer')) next = result at called
    obtain ⟨step, lab''⟩ := result
    cases step with
    | _ => exact refilled.trans called

lemma sameTasks_sip {ρ : Type} (lab : Lab) (sip : Sip) (next : PutReply → Routine ρ) :
    SameTasks lab (lab.sip sip next).2 := by
  unfold Lab.sip
  split
  · exact .refl lab
  · have refilled := lab.sameTasks_refill sip.upload.source
    generalize lab.refill sip.upload.source = refill at refilled
    obtain ⟨source, lab'⟩ := refill
    dsimp only at refilled ⊢
    split
    · exact refilled
    · split
      · exact refilled.trans ⟨rfl, rfl, rfl⟩
      · exact refilled
      · split
        · exact refilled
        · exact refilled
      · exact refilled

lemma sameTasks_leave (lab : Lab) (name : String) : SameTasks lab (lab.leave name) := by
  unfold leave
  split
  · exact .refl lab
  · exact ⟨rfl, rfl, rfl⟩

/-- An act of a task changes neither the handle nor any task. -/
lemma sameTasks_act {ρ : Type} (lab : Lab) (isGranted : Bool) (routine : Routine ρ) :
    SameTasks lab (lab.act isGranted routine).2 := by
  cases routine with
  | done result => exact .refl lab
  | ask act next =>
    cases act with
    | base call =>
      cases call with
      | blob call =>
        cases call with
        | put transfer => exact lab.sameTasks_put transfer next
        | _ => apply sameTasks_call
      | _ => apply sameTasks_call
    | sip sip => exact lab.sameTasks_sip sip next
    | pass gate =>
      cases isGranted with
      | true => exact .refl lab
      | false =>
        cases permits : (lab.gates.get? gate).getD 0 with
        | zero =>
          simp only [Lab.act, permits, Bool.false_eq_true, if_false]
          exact .refl lab
        | succ permits' =>
          simp only [Lab.act, permits, Bool.false_eq_true, if_false]
          exact ⟨rfl, rfl, rfl⟩
    | leave inlet => exact lab.sameTasks_leave inlet
    | _ => exact ⟨rfl, rfl, rfl⟩

/-! ### Tasks that come and go -/

lemma Alike.refl (lab : Lab) : Alike lab lab := ⟨rfl, .refl _⟩

lemma Alike.trans (first : Alike lab lab') (second : Alike lab' lab'') : Alike lab lab'' :=
  ⟨second.handle.trans first.handle, second.loops.trans first.loops⟩

lemma SameTasks.alike (same : SameTasks lab lab') : Alike lab lab' :=
  ⟨same.handle, by rw [loops, loops, same.ready, same.waiting]⟩

lemma loops_front (lab : Lab) (task : Task) :
    (lab.front task).loops = task.loop?.toList ++ lab.loops := by
  cases task with
  | _ => rfl

lemma loops_back (lab : Lab) (task : Task) :
    (lab.back task).loops.Perm (task.loop?.toList ++ lab.loops) := by
  cases task with
  | step index routine => simp [loops, back, Task.loop?]
  | drain current => simp [loops, back, Task.loop?, List.perm_middle]

lemma loops_wait (lab : Lab) (reason : Reason) (task : Task) :
    (lab.wait reason task).loops.Perm (task.loop?.toList ++ lab.loops) := by
  cases task with
  | step index routine => simp [loops, wait, Task.loop?]
  | drain current =>
    simp only [loops, wait, Task.loop?, List.filterMap_append, ← List.append_assoc]
    exact List.perm_append_singleton _ _

/-- Whichever tasks of steps are taken out, the loops stay. -/
lemma filterMap_filter_of_step {α β : Type} {loop? : α → Option β} {keeps : α → Bool}
    (steps : ∀ entry, keeps entry = false → loop? entry = none) (entries : List α) :
    (entries.filter keeps).filterMap loop? = entries.filterMap loop? := by
  induction entries with
  | nil => rfl
  | cons entry entries ih =>
    cases kept : keeps entry with
    | true => rw [List.filter_cons_of_pos kept, List.filterMap_cons, List.filterMap_cons, ih]
    | false =>
      rw [List.filter_cons_of_neg (by simp [kept]), List.filterMap_cons_none (steps entry kept), ih]

lemma loop?_of_isStep {task : Task} {index : Nat} (isStep : task.isStep index = true) :
    task.loop? = none := by
  cases task with
  | step other routine => rfl
  | drain current => cases isStep

lemma alike_deliver (lab : Lab) (caller : Nat) (rest : Routine TaskResult) :
    Alike lab (lab.deliver caller rest) := by
  unfold deliver
  dsimp only
  split
  · refine ⟨rfl, (loops_back _ _).trans ?_⟩
    simp only [loops, Task.loop?, Option.toList_none, List.nil_append]
    rw [filterMap_filter_of_step]
    intro entry dropped
    simp only [Bool.not_eq_false', Bool.and_eq_true] at dropped
    exact loop?_of_isStep dropped.2
  · exact .refl lab

lemma alike_wake (lab : Lab) (reason : Reason) : Alike lab (lab.wake reason) := by
  refine ⟨rfl, ?_⟩
  have woken : ((·.task.loop?) ∘ fun entry : Reason × Task => (⟨entry.2, false⟩ : Ready)) =
      (·.2.loop?) := rfl
  simp only [loops, wake, List.filterMap_append, List.append_assoc, List.partition_eq_filter_filter]
  refine .append_left _ ?_
  rw [List.filterMap_map, woken, ← List.filterMap_append]
  exact (List.filter_append_perm _ _).filterMap _

/-! ### From outside -/

/-- An entry may stand anywhere among the loops. -/
lemma perm_filterMap_cons {α β : Type} {loop? : α → Option β} {front : List β}
    {back entries : List α} (entry : α)
    (same : (front ++ back.filterMap loop?).Perm (entries.filterMap loop?)) :
    (front ++ (entry :: back).filterMap loop?).Perm ((entry :: entries).filterMap loop?) := by
  cases found : loop? entry with
  | none => rwa [List.filterMap_cons_none found, List.filterMap_cons_none found]
  | some current =>
    rw [List.filterMap_cons_some found, List.filterMap_cons_some found]
    exact List.perm_middle.trans (same.cons current)

/-- Permits that are set aside for tasks leave the tasks as they are. -/
lemma grant_frame (gate : String) (entries : List (Reason × Task)) :
    ∀ (lab : Lab) (permits : Nat),
      (lab.grant gate permits entries).2.handle = lab.handle ∧
      (lab.grant gate permits entries).2.ready = lab.ready ∧
      ((lab.grant gate permits entries).1.filterMap (·.task.loop?) ++
          (lab.grant gate permits entries).2.waiting.filterMap (·.2.loop?)).Perm
        (entries.filterMap (·.2.loop?)) := by
  induction entries with
  | nil => exact fun lab permits => ⟨rfl, rfl, .refl _⟩
  | cons entry entries ih =>
    intro lab permits
    cases permits with
    | zero =>
      obtain ⟨handle, ready, same⟩ := ih lab 0
      exact ⟨handle, ready, perm_filterMap_cons entry same⟩
    | succ permits =>
      cases wanted : decide (entry.1 = .gate gate) with
      | true =>
        obtain ⟨handle, ready, same⟩ := ih lab permits
        simp only [grant, wanted]
        refine ⟨handle, ready, ?_⟩
        cases found : entry.2.loop? with
        | none => simpa [found, List.filterMap_cons] using same
        | some current => simpa [found, List.filterMap_cons] using same
      | false =>
        obtain ⟨handle, ready, same⟩ := ih lab (permits + 1)
        simp only [grant, wanted]
        exact ⟨handle, ready, perm_filterMap_cons entry same⟩

lemma alike_openGate (lab : Lab) (gate : String) (permits : Nat) :
    Alike lab (lab.openGate gate permits) := by
  obtain ⟨handle, ready, same⟩ :=
    grant_frame gate lab.waiting lab ((lab.gates.get? gate).getD 0 + permits)
  refine ⟨handle, ?_⟩
  simp only [openGate, loops, ready, List.filterMap_append, List.append_assoc]
  exact same.append_left _

lemma alike_feed (lab : Lab) (name : String) (item : Item) : Alike lab (lab.feed name item).2 := by
  unfold feed
  split
  · exact .refl lab
  · split
    · exact ⟨rfl, (alike_wake _ _).loops⟩
    · exact .refl lab

lemma alike_close (lab : Lab) (name : String) : Alike lab (lab.close name).2 := by
  unfold close
  split
  · exact .refl lab
  · exact ⟨rfl, (alike_wake _ _).loops⟩

lemma alike_release (lab : Lab) (ending : Ending) : Alike lab (lab.release ending).2 := by
  unfold release
  split
  · exact ⟨rfl, (alike_wake _ _).loops⟩
  · exact .refl lab

lemma alike_back (lab : Lab) (index : Nat) (routine : Routine TaskResult) :
    Alike lab (lab.back (.step index routine)) :=
  ⟨rfl, loops_back _ _⟩

lemma alike_start (lab : Lab) (index : Nat) (command : Command) :
    Alike lab (lab.start index command) :=
  ⟨rfl, (alike_back _ _ _).loops⟩

/-- Without the task of a step, the loops are the same. -/
lemma alike_drop (lab : Lab) (index : Nat) (finished : List (Nat × TaskResult)) :
    Alike lab { lab with
      ready := lab.ready.filter fun entry => !entry.task.isStep index
      waiting := lab.waiting.filter fun entry => !entry.2.isStep index
      finished } := by
  refine ⟨rfl, ?_⟩
  simp only [loops]
  rw [filterMap_filter_of_step fun entry gone => loop?_of_isStep (by simpa using gone),
    filterMap_filter_of_step fun entry gone => loop?_of_isStep (by simpa using gone)]

lemma alike_abort (lab : Lab) (index : Nat) : Alike lab (lab.abort index) := by
  unfold abort
  split
  · have dropped := lab.alike_drop index (lab.finished ++ [(index, .aborted)])
    dsimp only
    split
    · refine Alike.trans ?_ (alike_openGate _ _ _)
      split
      · exact dropped
      · exact dropped.trans ⟨rfl, .refl _⟩
    · split
      · exact dropped
      · exact dropped.trans ⟨rfl, .refl _⟩
  · exact .refl lab

/-- A step from outside leaves the handle and the loops as they are. -/
lemma alike_take (lab : Lab) (index : Nat) (deed : Deed) : Alike lab (lab.take index deed).2 := by
  cases deed with
  | start command => exact lab.alike_start index command
  | feed name item => exact lab.alike_feed name item
  | close name => exact lab.alike_close name
  | openGate name permits => exact lab.alike_openGate name permits
  | abort other => exact lab.alike_abort other
  | release ending => exact lab.alike_release ending
  | _ => exact ⟨rfl, .refl _⟩

/-- What has happened is forgotten, but not who is at work. -/
lemma alike_reportAll (lab : Lab) (note : Option Note) : Alike lab (lab.reportAll note).2 :=
  ⟨rfl, .refl _⟩

end Lab

end Bench

open Bench

namespace Traffic

/-- The job that the loop is about in the traffic, as long as there is a loop. -/
def loops (traffic : Traffic Workpiece) : List (Option Deferred) :=
  match traffic.handle.stage with
  | .settled _ => []
  | _ => [traffic.current.map Errand.call]

lemma receive_frame (traffic : Traffic Workpiece) (errand : Errand Workpiece) :
    (traffic.receive errand).handle = (traffic.handle.submit errand).2 ∧
      (traffic.receive errand).current = traffic.current := by
  rw [receive]
  rcases traffic.handle.submit errand with ⟨_ | _ | _, handle⟩
  · exact ⟨rfl, rfl⟩
  · exact ⟨rfl, rfl⟩
  · exact ⟨rfl, rfl⟩

end Traffic

namespace Bench.Lab

open Traffic

variable {lab lab' : Lab} {traffic : Traffic Workpiece}

/-- A laboratory whose handle and loop are where they are in some traffic. -/
structure Mirrors (lab : Lab) (traffic : Traffic Workpiece) : Prop where
  stands : Stands .workpiece traffic
  handle : lab.handle = traffic.handle.map Errand.call
  loops : lab.loops.Perm traffic.loops

lemma Mirrors.of_alike (mirrors : Mirrors lab traffic) (alike : Alike lab lab') :
    Mirrors lab' traffic :=
  ⟨mirrors.stands, alike.handle.trans mirrors.handle, alike.loops.trans mirrors.loops⟩

lemma submit_frame (lab : Lab) (index : Nat) (job : Job) (next : job.Answer → Routine TaskResult) :
    ∃ deferred, (lab.submit index job next).handle = (lab.handle.submit deferred).2 ∧
      (lab.submit index job next).loops.Perm lab.loops := by
  refine ⟨⟨index, (lab.rig.job job).bind fun answer => .done (next answer),
    fun error => next (.error error)⟩, ?_⟩
  unfold Lab.submit
  dsimp only
  rcases lab.handle.submit _ with ⟨_ | _ | _, handle⟩
  · exact ⟨rfl, loops_wait _ _ _⟩
  · exact ⟨rfl, by rw [loops_front]; exact .refl _⟩
  · exact ⟨rfl, by rw [loops_front]; exact .refl _⟩

/-- A job that a step submits to the handle is submitted in the traffic. -/
lemma Mirrors.submit (mirrors : Mirrors lab traffic) (index : Nat) (job : Job)
    (next : job.Answer → Routine TaskResult) :
    ∃ deferred, Mirrors (lab.submit index job next) (traffic.submit deferred false) := by
  obtain ⟨deferred, handle, loops⟩ := lab.submit_frame index job next
  obtain ⟨handle', current⟩ := receive_frame traffic (traffic.errand deferred false)
  refine ⟨deferred, stands_move mirrors.stands (.submit deferred false), ?_, ?_⟩
  · have mapped := Forward.submit_map Errand.call traffic.handle (traffic.errand deferred false)
    rw [handle, mirrors.handle, Traffic.submit, handle']
    exact congrArg Prod.snd mapped
  · rw [Traffic.submit, Traffic.loops, handle', current, Forward.stage_submit]
    exact loops.trans mirrors.loops

lemma Mirrors.stepTask (mirrors : Mirrors lab traffic) (isGranted : Bool) (index : Nat)
    (routine : Routine TaskResult) :
    ∃ moves, Mirrors (lab.stepTask isGranted index routine) (traffic.play moves) := by
  unfold Lab.stepTask
  have same := lab.sameTasks_act isGranted routine
  generalize lab.act isGranted routine = result at same
  obtain ⟨step, lab'⟩ := result
  have mirrors' := mirrors.of_alike same.alike
  cases step with
  | ended outcome => exact ⟨[], mirrors'.of_alike ⟨rfl, .refl _⟩⟩
  | moved routine => exact ⟨[], mirrors'.of_alike ⟨rfl, .refl _⟩⟩
  | paused routine => exact ⟨[], mirrors'.of_alike (alike_back _ _ _)⟩
  | blocked reason => exact ⟨[], mirrors'.of_alike ⟨rfl, loops_wait _ _ _⟩⟩
  | panicked => exact ⟨[], mirrors'.of_alike ⟨rfl, .refl _⟩⟩
  | submitted job next =>
    obtain ⟨deferred, submitted⟩ := mirrors'.submit index job next
    exact ⟨[.submit deferred false], submitted⟩

/-- A laboratory like that from which the task of the loop is taken out. -/
structure Lacks (lab : Lab) (traffic : Traffic Workpiece) : Prop where
  stands : Stands .workpiece traffic
  handle : lab.handle = traffic.handle.map Errand.call
  loops : lab.loops = []

lemma Lacks.of_alike (lacks : Lacks lab traffic) (alike : Alike lab lab') : Lacks lab' traffic :=
  ⟨lacks.stands, alike.handle.trans lacks.handle,
    List.Perm.eq_nil (lacks.loops ▸ alike.loops)⟩

section Return

variable {current : Option (Deferred × Routine (Routine TaskResult))}

lemma Lacks.front (lacks : Lacks lab traffic) (about : traffic.loops = [current.map Prod.fst]) :
    Mirrors (lab.front (.drain current)) traffic :=
  ⟨lacks.stands, lacks.handle, by rw [loops_front, lacks.loops, about]; exact .refl _⟩

lemma Lacks.back (lacks : Lacks lab traffic) (about : traffic.loops = [current.map Prod.fst]) :
    Mirrors (lab.back (.drain current)) traffic :=
  ⟨lacks.stands, lacks.handle, by
    rw [about]
    exact (loops_back _ _).trans (by rw [lacks.loops]; exact .refl _)⟩

lemma Lacks.wait (lacks : Lacks lab traffic) (reason : Reason)
    (about : traffic.loops = [current.map Prod.fst]) :
    Mirrors (lab.wait reason (.drain current)) traffic :=
  ⟨lacks.stands, lacks.handle, by
    rw [about]
    exact (loops_wait _ _ _).trans (by rw [lacks.loops]; exact .refl _)⟩

end Return

/-- The producer has ended. -/
lemma Lacks.produce (lacks : Lacks lab traffic) (ending : Ending)
    (producing : traffic.handle.stage = .producing) :
    Lacks (lab.produce ending) (traffic.produce ending) := by
  refine ⟨stands_move lacks.stands (.produce ending), ?_, ?_⟩
  · rw [handle_produce, lacks.handle, Forward.produce_map, Traffic.produce, producing]
  · cases ending with
    | _ => exact lacks.loops

/-- The answer to a queued job is told. -/
lemma alike_tell (lab : Lab) (caller : Nat) (rest : Routine TaskResult) :
    Alike lab ((lab.leaveAll caller).deliver caller rest) := by
  have left : Alike lab (lab.leaveAll caller) := ⟨rfl, .refl _⟩
  exact left.trans (alike_deliver _ _ _)

/-- The loop looks for the next job. -/
lemma Lacks.nextJob (lacks : Lacks lab traffic) (idle : traffic.loops = [none]) :
    ∃ moves, Mirrors lab.nextJob (traffic.play moves) := by
  have handle := lacks.handle
  have drained := stands_move lacks.stands .drain
  unfold Lab.nextJob
  cases stands : lacks.stands with
  | producing pending quiet accepted =>
    rw [handle]
    cases lab.ending with
    | none => exact ⟨[], lacks.wait .producer idle⟩
    | some ending => exact ⟨[.produce ending], (lacks.produce ending rfl).front rfl⟩
  | @draining done queue current target log =>
    rw [handle]
    cases current with
    | some errand => cases idle
    | none =>
      cases queue with
      | nil => exact ⟨[.drain], drained, rfl, lacks.loops ▸ .refl _⟩
      | cons errand queue => exact ⟨[.drain], Lacks.front ⟨drained, rfl, lacks.loops⟩ rfl⟩
  | @failing ending error done queue log =>
    rw [handle]
    cases queue with
    | nil => exact ⟨[.drain], drained, rfl, lacks.loops ▸ .refl _⟩
    | cons errand queue =>
      have lacks' : Lacks { lab with handle := _ } _ := ⟨drained, rfl, lacks.loops⟩
      exact ⟨[.drain], (lacks'.of_alike (alike_tell _ _ _)).front rfl⟩
  | _ => cases idle

/-- The job that is under way has come to its end. -/
lemma Lacks.finish (lacks : Lacks lab traffic) {deferred : Deferred}
    (busy : traffic.loops = [some deferred]) (rest : Routine TaskResult) (now : Instant) :
    Mirrors ((({ lab with handle := lab.handle.finish }.leaveAll deferred.caller).deliver
      deferred.caller rest).front (.drain none)) (traffic.finish now) := by
  have finished := stands_move lacks.stands (.finish now)
  have handle : lab.handle.finish = (traffic.handle.map Errand.call).finish := by
    rw [lacks.handle]
  cases stands : lacks.stands with
  | @draining done queue current target log =>
    cases current with
    | none => cases busy
    | some errand =>
      have lacks' : Lacks { lab with handle := lab.handle.finish } _ :=
        ⟨finished, handle, lacks.loops⟩
      exact (lacks'.of_alike (alike_tell _ _ _)).front rfl
  | _ => cases busy

/-- The loop makes one act of a job. -/
lemma Lacks.jobTask (lacks : Lacks lab traffic) {deferred : Deferred}
    (busy : traffic.loops = [some deferred]) (isGranted : Bool)
    (routine : Routine (Routine TaskResult)) :
    ∃ moves, Mirrors (lab.jobTask isGranted deferred routine) (traffic.play moves) := by
  unfold Lab.jobTask
  have same := lab.sameTasks_act isGranted routine
  generalize lab.act isGranted routine = result at same
  obtain ⟨step, lab'⟩ := result
  have lacks' := lacks.of_alike same.alike
  cases step with
  | ended rest => exact ⟨[.finish lab'.depot.now], lacks'.finish busy rest _⟩
  | moved routine => exact ⟨[], lacks'.front busy⟩
  | paused routine => exact ⟨[], lacks'.back busy⟩
  | blocked reason => exact ⟨[], lacks'.wait reason busy⟩
  | panicked =>
    have reported : Lacks (lab'.report .callPanicked) traffic := lacks'.of_alike ⟨rfl, .refl _⟩
    exact ⟨[.finish lab'.depot.now], reported.finish busy _ _⟩
  | submitted job next => exact ⟨[], lacks'.wait .answer busy⟩

/-- A loop of a laboratory is the loop in the traffic, and the only one. -/
lemma alone {current : Option Deferred} {others : List (Option Deferred)}
    (only : (current :: others).Perm traffic.loops) :
    traffic.loops = [current] ∧ others = [] := by
  rw [Traffic.loops] at only ⊢
  split at only
  · exact absurd only.symm (List.not_perm_nil_cons _ _)
  · cases List.perm_singleton.1 only
    exact ⟨rfl, rfl⟩

/-- Every act of a laboratory is some moves in the traffic. -/
lemma Mirrors.tick (mirrors : Mirrors lab traffic) :
    ∃ moves, Mirrors lab.tick (traffic.play moves) := by
  unfold Lab.tick
  cases ready : lab.ready with
  | nil => exact ⟨[], mirrors⟩
  | cons entry rest =>
    obtain ⟨task, isGranted⟩ := entry
    have parts : lab.loops = task.loop?.toList ++ { lab with ready := rest }.loops := by
      cases task with
      | _ => simp [Lab.loops, ready, Task.loop?]
    cases task with
    | step index routine =>
      have alike : Alike lab { lab with ready := rest } := ⟨rfl, parts ▸ .refl _⟩
      exact (mirrors.of_alike alike).stepTask isGranted index routine
    | drain current =>
      obtain ⟨about, others⟩ := alone (parts ▸ mirrors.loops)
      have lacks : Lacks { lab with ready := rest } traffic :=
        ⟨mirrors.stands, mirrors.handle, others⟩
      cases current with
      | none => exact lacks.nextJob about
      | some job => exact lacks.jobTask about isGranted job.2

lemma Mirrors.settle (fuel : Nat) : ∀ {lab : Lab} {traffic : Traffic Workpiece},
    Mirrors lab traffic → ∃ moves, Mirrors (lab.settle fuel) (traffic.play moves) := by
  induction fuel with
  | zero => exact fun mirrors => ⟨[], mirrors⟩
  | succ fuel ih =>
    intro lab traffic mirrors
    unfold Lab.settle
    split
    · exact ⟨[], mirrors⟩
    · obtain ⟨first, ticked⟩ := mirrors.tick
      obtain ⟨second, settled⟩ := ih ticked
      exact ⟨first ++ second, (play_append traffic first second).symm ▸ settled⟩

/-- The steps of a script are some moves in the traffic. -/
lemma Mirrors.playFrom (fuel : Nat) (steps : List ScriptStep) :
    ∀ {lab : Lab} {traffic : Traffic Workpiece} (index : Nat), Mirrors lab traffic →
      ∃ moves, Mirrors (lab.playFrom fuel index steps).2 (traffic.play moves) := by
  induction steps with
  | nil => exact fun index mirrors => ⟨[], mirrors⟩
  | cons step steps ih =>
    intro lab traffic index mirrors
    have taken := mirrors.of_alike (lab.alike_take index step.deed)
    cases quick : step.isQuick with
    | true =>
      simp only [Lab.playFrom, quick, if_true]
      exact ih (index + 1) taken
    | false =>
      simp only [Lab.playFrom, quick, Bool.false_eq_true, if_false]
      obtain ⟨first, settled⟩ := taken.settle fuel
      obtain ⟨second, played⟩ := ih (index + 1) (settled.of_alike (alike_reportAll _ _))
      exact ⟨first ++ second, (play_append traffic first second).symm ▸ played⟩

/-- Whatever a script makes the tasks do, the handle of a laboratory and its loop are where some
moves bring them. -/
theorem mirrors_play (lab : Lab) (steps : List ScriptStep) (behind : lab.rig.behind ≠ .nothing)
    (pending : lab.handle = .pending) (ready : lab.ready = []) (waiting : lab.waiting = []) :
    ∃ moves, Mirrors (lab.play steps).2 (run .workpiece moves) := by
  have lacks : Lacks lab (initial .workpiece) :=
    ⟨stands_initial _, pending, by rw [Lab.loops, ready, waiting]; rfl⟩
  rw [Lab.play, if_neg behind]
  exact (lacks.back rfl).playFrom _ steps 0

end Bench.Lab

end AssetCache
