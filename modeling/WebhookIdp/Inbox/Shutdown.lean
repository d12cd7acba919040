import WebhookIdp.Inbox.Handling

/-!
# What a shutdown leaves unfinished

The shutdown closes the channel, the connection and the application, and exits. It waits for no handler. Once the
channel is closed nothing more is delivered to the process, so what is unfinished at the exit is what was unfinished
when the channel was closed.
-/

namespace WebhookIdp.Inbox

open Concurrent (Program)

section Shutdown

variable [Platform] {ι μ ω : Type}

/-- The handler of the message has returned; its ack or nack was the last thing it did. -/
def Fleet.Finished (fleet : Fleet ι μ ω) (i : ι) : Prop := fleet.tasks (.handler i) = .running (.done (.ok ()))

/-- Every message that was handed to `handleMessage` in the process has finished. -/
def Fleet.Drained (traffic : Traffic ι μ ω) (fleet : Fleet ι μ ω) (worker : ω) : Prop :=
  ∀ i, (traffic.delivery i).worker = worker → fleet.tasks (.handler i) = .idle ∨ fleet.Finished i

/-- A process about to exit is drained. -/
def ExitsDrained (traffic : Traffic ι μ ω) (fleet : Fleet ι μ ω) : Prop :=
  ∀ task worker, fleet.nextCall task = some (.exit worker) → fleet.Drained traffic worker

/-- The channel that `action` closes for a shutdown, if any, is that of a drained process. -/
def ClosesDrained (traffic : Traffic ι μ ω) (fleet : Fleet ι μ ω) (action : Action ι ω) : Prop :=
  ∀ task outcome worker, action = .move task outcome → fleet.nextCall task = some (.closeChannel worker) →
    fleet.Drained traffic worker

/-! ### The calls of a shutdown, in their order -/

/-- What a shutdown does once it has closed the channel. -/
def Call.Concludes (worker : ω) (op : Call ω) : Prop :=
  op = .closeConnection worker ∨ op = .closeApplication worker ∨ op = .exit worker

/-- What is left of a shutdown that has closed the channel. -/
def concluding (worker : ω) : Process ω Unit := do
  Process.request (.closeConnection worker)
  Process.request (.closeApplication worker)
  Process.request (.exit worker)

theorem shutdown_eq (worker : ω) : (shutdown worker : Process ω Unit) =
    .call (.closeChannel worker) fun answer => (.done answer : Process ω Unit) >>= fun _ => concluding worker := by
  apply Program.call_congr
  intro answer
  cases answer <;> rfl

theorem concluding_onlyCalls (worker : ω) : (concluding worker : Process ω Unit).OnlyCalls (Call.Concludes worker) := by
  have hrequest (op : Call ω) (hop : op.Concludes worker) : (Process.request op).OnlyCalls (Call.Concludes worker) :=
    ⟨hop, fun _ => trivial⟩
  exact (hrequest (.closeConnection worker) (by simp [Call.Concludes])).bind fun _ =>
    (hrequest (.closeApplication worker) (by simp [Call.Concludes])).bind fun _ =>
      hrequest (.exit worker) (by simp [Call.Concludes])

/-! ### After the channel is closed -/

variable [DecidableEq ι] [DecidableEq μ] [DecidableEq ω] {traffic : Traffic ι μ ω} {fleet : Fleet ι μ ω} {worker : ω}

theorem channelOpen_step (h : fleet.world.channelOpen worker = false) (action : Action ι ω) :
    (fleet.step traffic action).world.channelOpen worker = false := by
  have hclose (other : ω) : (fleet.world.close other).channelOpen worker = false := by
    show Function.update fleet.world.channelOpen other false worker = false
    by_cases hworker : worker = other
    · rw [hworker, Function.update_self]
    · rw [Function.update_of_ne hworker]
      exact h
  have hsettling (other : ω) (deliveryTag : Nat) (holding : Holding ω) (outcome : Outcome) :
      (settling fleet.world other deliveryTag holding outcome).2.channelOpen worker = false := by
    cases outcome <;> exact h
  have hstep := stepped traffic fleet action
  generalize fleet.step traffic action = result at hstep
  cases hstep with
  | @moved task op next outcome hrunning =>
      cases op with
      | repository call => exact h
      | ack other message => exact hsettling _ _ _ outcome
      | nack other message requeue => exact hsettling _ _ _ outcome
      | closeChannel other => exact hclose other
      | closeConnection other => exact hclose other
      | closeApplication other => exact h
      | exit other => exact hclose other
  | crashed other => exact hclose other
  | _ => exact h

omit [DecidableEq ι] [DecidableEq μ] in
theorem killTasks_cases (tasks : Task ι ω → Status ω) (task : Task ι ω) :
    killTasks traffic worker tasks task = tasks task ∨
      ∀ other : Task ι ω, other.worker traffic = task.worker traffic → killTasks traffic worker tasks other = .killed := by
  by_cases hworker : task.worker traffic = worker
  · exact Or.inr fun other hother => if_pos (hother.trans hworker)
  · exact Or.inl (if_neg hworker)

/-- A handler that has not started or has returned is started on an open channel, or stays as it is, or dies with its
process. -/
theorem handler_step_cases {i : ι} (action : Action ι ω)
    (hstill : fleet.tasks (.handler i) = .idle ∨ fleet.Finished i) :
    (fleet.step traffic action).tasks (.handler i) = fleet.tasks (.handler i) ∨
      fleet.world.channelOpen (traffic.delivery i).worker = true ∨
      ∀ task : Task ι ω, task.worker traffic = (traffic.delivery i).worker →
        (fleet.step traffic action).tasks task = .killed := by
  have hstep := stepped traffic fleet action
  generalize fleet.step traffic action = result at hstep
  cases hstep with
  | skipped _ => exact Or.inl rfl
  | @delivered started hidle hready hopen =>
      by_cases hi : i = started
      · exact Or.inr (Or.inl (hi ▸ hopen))
      · exact Or.inl (Function.update_of_ne (fun heq => hi (Task.handler.inj heq)) _ _)
  | signalled _ => exact Or.inl (by simp)
  | @moved mover op next outcome hrunning =>
      have hmover : Task.handler i ≠ mover := by
        rintro rfl
        obtain hidle | hfinished := hstill
        · rw [hidle] at hrunning
          cases hrunning
        · rw [Fleet.Finished, hrunning] at hfinished
          cases hfinished
      have hsame (program : Process ω Unit) :
          Function.update fleet.tasks mover (.running program) (.handler i) = fleet.tasks (.handler i) :=
        Function.update_of_ne hmover _ _
      cases op with
      | exit exiting =>
          refine (killTasks_cases _ (.handler i)).imp (fun hkept => ?_) Or.inr
          exact hkept.trans (hsame _)
      | _ => exact Or.inl (hsame _)
  | disconnected _ => exact Or.inl rfl
  | crashed _ => exact (killTasks_cases fleet.tasks (.handler i)).imp id Or.inr

/-- With its channel closed a process stays drained as long as it runs. -/
theorem Fleet.Drained.step (h : fleet.Drained traffic worker) (hclosed : fleet.world.channelOpen worker = false)
    (action : Action ι ω) {task : Task ι ω} (htask : task.worker traffic = worker)
    (halive : (fleet.step traffic action).tasks task ≠ .killed) :
    (fleet.step traffic action).Drained traffic worker := by
  intro i hi
  have hstill := h i hi
  obtain hsame | hopen | hkilled := handler_step_cases action hstill
  · rw [Fleet.Finished, hsame]
    exact hstill
  · rw [hi, hclosed] at hopen
    cases hopen
  · exact absurd (hkilled task (htask.trans hi.symm)) halive

/-! ### A shutdown on its way -/

/-- A shutdown is about to close the channel, or has closed that of a drained process. -/
inductive Closing (traffic : Traffic ι μ ω) (fleet : Fleet ι μ ω) (worker : ω) : Process ω Unit → Prop
  | started : Closing traffic fleet worker (shutdown worker)
  | closed {program : Process ω Unit} (hcalls : program.OnlyCalls (Call.Concludes worker))
      (hclosed : fleet.world.channelOpen worker = false) (hdrained : fleet.Drained traffic worker) :
      Closing traffic fleet worker program

theorem Closing.step {program : Process ω Unit} (h : Closing traffic fleet worker program) (action : Action ι ω)
    (halive : (fleet.step traffic action).tasks (.shutdown worker) ≠ .killed) :
    Closing traffic (fleet.step traffic action) worker program := by
  cases h with
  | started => exact .started
  | closed hcalls hclosed hdrained =>
      exact .closed hcalls (channelOpen_step hclosed action) (hdrained.step hclosed action rfl halive)

theorem tasks_step_of_closing {op : Call ω} {next : Except Exception op.Answer → Process ω Unit}
    (hrunning : fleet.tasks (.shutdown worker) = .running (.call op next)) (hop : ∀ exiting, op ≠ .exit exiting)
    (outcome : Outcome) :
    (fleet.step traffic (.move (.shutdown worker) outcome)).tasks =
      Function.update fleet.tasks (.shutdown worker) (.running (next (perform op outcome fleet.world).1)) := by
  rw [Fleet.step, Fleet.move, hrunning]
  cases op with
  | exit exiting => exact absurd rfl (hop exiting)
  | _ => rfl

theorem shutdown_step_of_closing (traffic : Traffic ι μ ω) {op : Call ω}
    {next : Except Exception op.Answer → Process ω Unit}
    (hrunning : fleet.tasks (.shutdown worker) = .running (.call op next)) (hop : ∀ exiting, op ≠ .exit exiting)
    (outcome : Outcome) :
    (fleet.step traffic (.move (.shutdown worker) outcome)).tasks (.shutdown worker) =
      .running (next (perform op outcome fleet.world).1) := by
  rw [tasks_step_of_closing hrunning hop outcome, Function.update_self]

theorem drained_step_of_closing {op : Call ω} {next : Except Exception op.Answer → Process ω Unit}
    (hrunning : fleet.tasks (.shutdown worker) = .running (.call op next)) (hop : ∀ exiting, op ≠ .exit exiting)
    (outcome : Outcome) :
    (fleet.step traffic (.move (.shutdown worker) outcome)).Drained traffic worker ↔ fleet.Drained traffic worker := by
  simp [Fleet.Drained, Fleet.Finished, tasks_step_of_closing hrunning hop outcome]

theorem channelOpen_closeChannel {next : Except Exception Unit → Process ω Unit}
    (hrunning : fleet.tasks (.shutdown worker) = .running (.call (.closeChannel worker) next)) (outcome : Outcome) :
    (fleet.step traffic (.move (.shutdown worker) outcome)).world.channelOpen worker = false := by
  rw [world_move hrunning outcome]
  simp [perform, World.close]

/-- An answer takes a shutdown on, provided that the channel it closes is that of a drained process. -/
theorem Closing.answered {op : Call ω} {next : Except Exception op.Answer → Process ω Unit} {outcome : Outcome}
    (h : Closing traffic fleet worker (.call op next))
    (hrunning : fleet.tasks (.shutdown worker) = .running (.call op next))
    (hcloses : op = .closeChannel worker → fleet.Drained traffic worker)
    (halive : (fleet.step traffic (.move (.shutdown worker) outcome)).tasks (.shutdown worker) ≠ .killed) :
    Closing traffic (fleet.step traffic (.move (.shutdown worker) outcome)) worker
      (next (perform op outcome fleet.world).1) := by
  generalize hprogram : Program.call op next = program at h
  cases h with
  | started =>
      rw [shutdown_eq] at hprogram
      cases hprogram
      exact .closed (concluding_onlyCalls worker) (channelOpen_closeChannel hrunning outcome)
        ((drained_step_of_closing hrunning nofun outcome).mpr (hcloses rfl))
  | closed hcalls hclosed hdrained =>
      subst hprogram
      exact .closed (hcalls.2 _) (channelOpen_step hclosed _) (hdrained.step hclosed _ rfl halive)

omit [DecidableEq ι] [DecidableEq μ] [DecidableEq ω] in
theorem Stage.of_exit {careful : Prop} {inbox : InboxCollection} {task : Task ι ω}
    {next : Except Exception Unit → Process ω Unit}
    (h : Stage traffic careful inbox task (.call (Call.exit worker) next)) : ∃ stopping, task = .shutdown stopping := by
  generalize hprogram : (Program.call (Call.exit worker) next : Process ω Unit) = program at h
  cases h with
  | persisting _ => cases hprogram
  | acking _ _ => cases hprogram
  | nacking _ => cases hprogram
  | done _ => cases hprogram
  | closing _ => exact ⟨_, rfl⟩

omit [DecidableEq ι] [DecidableEq μ] [DecidableEq ω] in
theorem Closing.drained_of_exit {stopping : ω} {next : Except Exception Unit → Process ω Unit}
    (h : Closing traffic fleet stopping (.call (Call.exit worker) next)) : fleet.Drained traffic worker := by
  generalize hprogram : (Program.call (Call.exit worker) next : Process ω Unit) = program at h
  cases h with
  | started =>
      rw [shutdown_eq] at hprogram
      cases hprogram
  | closed hcalls _ hdrained =>
      subst hprogram
      obtain hconnection | happlication | hexit := hcalls.1
      · cases hconnection
      · cases happlication
      · cases hexit
        exact hdrained

/-! ### Whole runs -/

/-- What holds at every point: handlers do not exit, and shutdowns close the channels of drained processes. -/
structure Orderly (traffic : Traffic ι μ ω) (fleet : Fleet ι μ ω) : Prop where
  staged : Staged traffic False fleet
  closing : ∀ worker program, fleet.tasks (.shutdown worker) = .running program → Closing traffic fleet worker program

omit [DecidableEq ι] [DecidableEq μ] [DecidableEq ω] in
theorem orderly_start (traffic : Traffic ι μ ω) (inbox : InboxCollection) : Orderly traffic (Fleet.start inbox) :=
  ⟨staged_start inbox, nofun⟩

theorem Orderly.step (h : Orderly traffic fleet) {action : Action ι ω} (hcloses : ClosesDrained traffic fleet action) :
    Orderly traffic (fleet.step traffic action) := by
  refine ⟨h.staged.step False.elim, fun worker program hrunning => ?_⟩
  have halive : (fleet.step traffic action).tasks (.shutdown worker) ≠ .killed := by
    rw [hrunning]
    exact nofun
  obtain hold | ⟨_, -, htask, -⟩ | ⟨signalled, htask, rfl⟩ | ⟨op, next, outcome, rfl, hcall, rfl⟩ := tasks_step hrunning
  · exact (h.closing worker program hold).step action halive
  · cases htask
  · cases htask
    exact .started
  · refine (h.closing worker _ hcall).answered hcall (fun hop => ?_) halive
    refine hcloses (.shutdown worker) outcome worker rfl ?_
    rw [← hop]
    exact Fleet.nextCall_eq_some_iff.mpr ⟨next, hcall⟩

theorem Orderly.run (h : Orderly traffic fleet) {actions : List (Action ι ω)}
    (hcloses : Fleet.EveryStep traffic (ClosesDrained traffic) fleet actions) :
    Orderly traffic (fleet.run traffic actions) := by
  induction actions generalizing fleet with
  | nil => exact h
  | cons action rest ih => exact ih (h.step hcloses.1) hcloses.2

omit [DecidableEq ι] [DecidableEq μ] [DecidableEq ω] in
theorem Orderly.exitsDrained (h : Orderly traffic fleet) : ExitsDrained traffic fleet := by
  intro task worker hexit
  obtain ⟨next, hrunning⟩ := Fleet.nextCall_eq_some_iff.mp hexit
  obtain ⟨stopping, rfl⟩ := (h.staged task _ hrunning).of_exit
  exact (h.closing stopping _ hrunning).drained_of_exit

/-- In every run whose shutdowns close the channels of drained processes only, every process exits drained. -/
theorem exits_drained (traffic : Traffic ι μ ω) (inbox : InboxCollection) (actions : List (Action ι ω))
    (hcloses : Fleet.EveryStep traffic (ClosesDrained traffic) (Fleet.start inbox) actions) :
    ExitsDrained traffic ((Fleet.start inbox).run traffic actions) :=
  ((orderly_start traffic inbox).run hcloses).exitsDrained

/-- Nobody waits for a message that is unfinished when the channel is closed: the shutdown can go on and exit. -/
theorem exits_undrained (hrunning : fleet.tasks (.shutdown worker) = .running (shutdown worker))
    (hunfinished : ¬ fleet.Drained traffic worker) :
    ¬ ExitsDrained traffic (fleet.run traffic (List.replicate 3 (.move (.shutdown worker) .completed))) := by
  rw [shutdown_eq] at hrunning
  have hclosed := shutdown_step_of_closing traffic hrunning nofun .completed
  have hdisconnected := shutdown_step_of_closing traffic hclosed nofun .completed
  have hexiting := shutdown_step_of_closing traffic hdisconnected nofun .completed
  intro h
  have hdrained := h (.shutdown worker) worker (Fleet.nextCall_eq_some_iff.mpr ⟨_, hexiting⟩)
  refine hunfinished ?_
  rw [← drained_step_of_closing hrunning nofun .completed, ← drained_step_of_closing hclosed nofun .completed,
    ← drained_step_of_closing hdisconnected nofun .completed]
  exact hdrained

/-- A message finishes by its ack or its nack. -/
theorem finished_step {i : ι} {action : Action ι ω} (h : Staged traffic False fleet) (hnew : ¬ fleet.Finished i)
    (hafter : (fleet.step traffic action).Finished i) :
    ∃ outcome, action = .move (.handler i) outcome ∧
      ∃ deliveryTag,
        fleet.nextCall (.handler i) = some (.ack (traffic.delivery i).worker (traffic.consumed i deliveryTag)) ∨
        fleet.nextCall (.handler i) = some (.nack (traffic.delivery i).worker (traffic.consumed i deliveryTag) false) := by
  obtain hold | ⟨started, -, -, -, hprogram⟩ | ⟨_, htask, -⟩ | ⟨op, next, outcome, rfl, hcall, hprogram⟩ := tasks_step hafter
  · exact absurd hold hnew
  · rw [handling_eq] at hprogram
    split at hprogram <;> cases hprogram
  · cases htask
  · refine ⟨outcome, rfl, ?_⟩
    have hstage := h (.handler i) _ hcall
    generalize hhandler : Program.call op next = handler at hstage
    cases hstage with
    | persisting hrecord =>
        cases hhandler
        dsimp only at hprogram
        split at hprogram <;> cases hprogram
    | acking hrecord hstored =>
        cases hhandler
        exact ⟨_, Or.inl (Fleet.nextCall_eq_some_iff.mpr ⟨_, hcall⟩)⟩
    | nacking hsettled =>
        cases hhandler
        exact ⟨_, Or.inr (Fleet.nextCall_eq_some_iff.mpr ⟨_, hcall⟩)⟩
    | done result => cases hhandler

end Shutdown

section Sample

attribute [local instance] samplePlatform

/-- The message is persisted and acked, and then the signal arrives. -/
theorem exits_drained_sample :
    ExitsDrained sampleTraffic ((Fleet.start .empty).run sampleTraffic
      [.deliver (), .move (.handler ()) .completed, .move (.handler ()) .completed, .signal (),
        .move (.shutdown ()) .completed, .move (.shutdown ()) .completed, .move (.shutdown ()) .completed]) := by
  refine exits_drained sampleTraffic .empty _ ⟨nofun, ?_, ?_, nofun, ?_, ?_, ?_, trivial⟩
  · intro task outcome worker haction hnext
    cases haction
    cases hnext
  · intro task outcome worker haction hnext
    cases haction
    cases hnext
  · intro task outcome worker haction hnext i hi
    exact Or.inr rfl
  · intro task outcome worker haction hnext
    cases haction
    cases hnext
  · intro task outcome worker haction hnext
    cases haction
    cases hnext

/-- The signal arrives while the upsert is pending, and nobody waits for it. -/
theorem exit_with_upsert_pending :
    ¬ ∀ actions, ExitsDrained sampleTraffic ((Fleet.start .empty).run sampleTraffic actions) := by
  intro h
  have hdrained := h [.deliver (), .signal (), .move (.shutdown ()) .completed, .move (.shutdown ()) .completed,
    .move (.shutdown ()) .completed] (.shutdown ()) () rfl () rfl
  obtain hidle | hfinished := hdrained
  · cases hidle
  · cases hfinished

end Sample

end WebhookIdp.Inbox
