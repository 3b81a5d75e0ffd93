import Dataset.Shutdown

/-!
# No signal and no task is lost

The receiver that all others are copies of never marks a version as seen, and so every copy of it finds a
signal that was sent, however late the copy is made.

* `Sound`: what holds in every state that a start leads to (`sound_start`, `sound_step`, `sound_run`);
* `turn_of_sound`: a task that looks ends if the signal was sent, and otherwise is what it was;
* `registered`, `ended`: the tasks of a course of steps, and those of them that have ended; every task that
  is registered is waited for or has ended (`ended_append_tasks`);
* `raised`: a state with a later version of the signal, which no step can tell from it (`run_raised`);
* **`shutdown_loses_nothing`**: what holds after any course of steps.
-/

namespace Dataset

/-! ## 1. Unseen signals -/

/-- The receiver of the task, if it has one, has seen no version of the signal. -/
def Task.Unaware : Task → Prop
  | waiter => True
  | checkpointer r => r.seen = 0

namespace Shutdown

variable {s : Shutdown}

/-- The signal is true if it was ever sent, and nobody has seen it so far. -/
structure Sound (s : Shutdown) : Prop where
  sent : s.isTriggered = true ↔ 0 < s.signal.version
  receiver : s.receiver.seen = 0
  tasks : ∀ t ∈ s.tasks, t.Unaware

theorem sound_start (store : Store) : (start store).Sound where
  sent := ⟨nofun, nofun⟩
  receiver := rfl
  tasks := nofun

theorem Sound.register (k : s.Sound) {t : Task} (unaware : t.Unaware) : (s.register t).Sound where
  sent := k.sent
  receiver := k.receiver
  tasks := by
    intro u hu
    rcases List.mem_append.1 hu with hu | hu
    · exact k.tasks u hu
    · obtain rfl := List.mem_singleton.1 hu
      exact unaware

theorem Sound.trigger (k : s.Sound) : s.trigger.Sound where
  sent := ⟨fun _ => Nat.succ_pos s.signal.version, fun _ => rfl⟩
  receiver := k.receiver
  tasks := k.tasks

/-- **A step keeps the signal unseen.** -/
theorem sound_step (k : s.Sound) (step : Step) : (s.step step).Sound := by
  cases step with
  | register => exact k.register trivial
  | registerCheckpoint => exact k.register k.receiver
  | subscribe => exact ⟨k.sent, k.receiver, k.tasks⟩
  | trigger => exact k.trigger
  | shutdown => exact ⟨k.trigger.sent, k.receiver, nofun⟩

theorem run_cons (s : Shutdown) (step : Step) (rest : List Step) :
    s.run (step :: rest) = (s.step step).run rest := rfl

theorem run_append (s : Shutdown) (a b : List Step) : s.run (a ++ b) = (s.run a).run b :=
  List.foldl_append

/-- **So does a course of steps.** -/
theorem sound_run (k : s.Sound) (steps : List Step) : (s.run steps).Sound := by
  induction steps generalizing s with
  | nil => exact k
  | cons step rest ih => exact ih (sound_step k step)

/-- **A task that looks ends if the signal was sent.** Otherwise it waits on, and has seen nothing that it
    could miss later. -/
theorem turn_of_sound (k : s.Sound) {t : Task} (unaware : t.Unaware) :
    t.turn s.signal = if s.isTriggered then none else some t := by
  cases t with
  | waiter => rfl
  | checkpointer r =>
    have unseen : r.seen = 0 := unaware
    rw [Task.turn, unseen]
    cases sent : s.isTriggered with
    | true =>
      have later := k.sent.1 sent
      rw [if_neg (by omega), show s.signal.value = true from sent]
      rfl
    | false =>
      have never : ¬ 0 < s.signal.version := fun later => by simp [k.sent.2 later] at sent
      rw [if_pos (by omega)]
      rfl

/-- Under a signal that was sent all tasks end. -/
theorem filter_ends (k : s.Sound) (sent : s.isTriggered = true) :
    s.tasks.filter (·.ends s.signal) = s.tasks := by
  refine List.filter_eq_self.2 fun t ht => ?_
  rw [Task.ends, turn_of_sound k (k.tasks t ht), sent]
  rfl

/-! ## 2. Signals -/

/-- The step sends the signal. -/
def Step.sends : Step → Bool
  | trigger | shutdown => true
  | register | registerCheckpoint | subscribe => false

theorem isTriggered_step (s : Shutdown) (step : Step) :
    (s.step step).isTriggered = (s.isTriggered || step.sends) := by
  cases step <;> simp [Shutdown.step, Step.sends, isTriggered, Shutdown.register, subscribe, trigger,
    shutdown, join]

theorem isTriggered_run (s : Shutdown) (steps : List Step) :
    (s.run steps).isTriggered = (s.isTriggered || steps.any Step.sends) := by
  induction steps generalizing s with
  | nil => rw [List.any_nil, Bool.or_false]; rfl
  | cons step rest ih => rw [run_cons, ih, isTriggered_step, List.any_cons, Bool.or_assoc]

theorem isClosed_step (s : Shutdown) (step : Step) :
    (s.step step).isClosed = (s.isClosed || step == .shutdown) := by
  cases step <;> simp [Shutdown.step, isClosed, Shutdown.register, subscribe, trigger, shutdown, join,
    Store.close]

theorem isClosed_run (s : Shutdown) (steps : List Step) :
    (s.run steps).isClosed = (s.isClosed || steps.any (· == .shutdown)) := by
  induction steps generalizing s with
  | nil => rw [List.any_nil, Bool.or_false]; rfl
  | cons step rest ih => rw [run_cons, ih, isClosed_step, List.any_cons, Bool.or_assoc]

/-! ## 3. Tasks -/

/-- The task that a step registers. -/
def registers? (s : Shutdown) : Step → Option Task
  | .register => some .waiter
  | .registerCheckpoint => some s.checkpointTask
  | .subscribe | .trigger | .shutdown => none

/-- The tasks that a course of steps registers, in order. -/
def registered (s : Shutdown) : List Step → List Task
  | [] => []
  | step :: rest => (s.registers? step).toList ++ (s.step step).registered rest

theorem registered_append (s : Shutdown) (a b : List Step) :
    s.registered (a ++ b) = s.registered a ++ (s.run a).registered b := by
  induction a generalizing s with
  | nil => rfl
  | cons step rest ih => rw [List.cons_append, registered, registered, ih, List.append_assoc, run_cons]

/-- The tasks that end in the step: with `shutdown` all that follow the signal. -/
def endsWith (s : Shutdown) : Step → List Task
  | .shutdown => s.tasks.filter (·.ends s.trigger.signal)
  | .register | .registerCheckpoint | .subscribe | .trigger => []

/-- The tasks that have ended when the shutdowns of a course of steps have waited for them, in order. -/
def ended (s : Shutdown) : List Step → List Task
  | [] => []
  | step :: rest => s.endsWith step ++ (s.step step).ended rest

/-- A shutdown ends all tasks. -/
theorem endsWith_shutdown (k : s.Sound) : s.endsWith .shutdown = s.tasks := filter_ends k.trigger rfl

/-- What was waited for and what a step registers has ended with the step, or is waited for then. -/
theorem endsWith_append_tasks (k : s.Sound) (step : Step) :
    s.endsWith step ++ (s.step step).tasks = s.tasks ++ (s.registers? step).toList := by
  cases step with
  | shutdown => rw [endsWith_shutdown k]; rfl
  | register => rfl
  | registerCheckpoint => rfl
  | subscribe => exact (List.append_nil s.tasks).symm
  | trigger => exact (List.append_nil s.tasks).symm

/-- **Every task that is registered has ended, or is waited for.** -/
theorem ended_append_tasks (k : s.Sound) (steps : List Step) :
    s.ended steps ++ (s.run steps).tasks = s.tasks ++ s.registered steps := by
  induction steps generalizing s with
  | nil => exact (List.append_nil s.tasks).symm
  | cons step rest ih =>
    calc s.ended (step :: rest) ++ (s.run (step :: rest)).tasks
        = s.endsWith step ++ ((s.step step).ended rest ++ ((s.step step).run rest).tasks) :=
          List.append_assoc ..
      _ = (s.endsWith step ++ (s.step step).tasks) ++ (s.step step).registered rest := by
          rw [ih (sound_step k step), List.append_assoc]
      _ = s.tasks ++ s.registered (step :: rest) := by
          rw [endsWith_append_tasks k, List.append_assoc]; rfl

/-- As many tasks are said to have finished as counted ones have ended. -/
theorem finished_run (s : Shutdown) (steps : List Step) :
    (s.run steps).finished = s.finished + (s.ended steps).countP Task.isCounted := by
  have step (s : Shutdown) (step : Step) :
      (s.step step).finished = s.finished + (s.endsWith step).countP Task.isCounted := by
    cases step with
    | shutdown =>
      rw [endsWith, List.countP_filter, List.countP_eq_length_filter]
      rfl
    | register => rfl
    | registerCheckpoint => rfl
    | subscribe => rfl
    | trigger => rfl
  induction steps generalizing s with
  | nil => rfl
  | cons first rest ih => rw [run_cons, ih, step, ended, List.countP_append, Nat.add_assoc]

/-! ## 4. Repetition -/

/-- The same state, with a later version of the signal. -/
def raised (s : Shutdown) : Shutdown :=
  { s with signal := { s.signal with version := s.signal.version + 1 } }

theorem Sound.raised (k : s.Sound) (sent : s.isTriggered = true) : s.raised.Sound where
  sent := ⟨fun _ => Nat.succ_pos s.signal.version, fun _ => sent⟩
  receiver := k.receiver
  tasks := k.tasks

/-- A shutdown in which every task ends. -/
theorem step_shutdown (k : s.Sound) :
    s.step .shutdown =
      { s.trigger with
        tasks := []
        finished := s.finished + s.tasks.countP Task.isCounted
        store := s.store.close } := by
  have counted : s.tasks.filter (fun t => t.isCounted && t.ends s.trigger.signal) =
      s.tasks.filter Task.isCounted := by
    have all : s.tasks.filter (·.ends s.trigger.signal) = s.tasks := filter_ends k.trigger rfl
    rw [← List.filter_filter, all]
  have steps : s.step .shutdown =
      { s.trigger with
        tasks := []
        finished := s.finished +
          (s.tasks.filter fun t => t.isCounted && t.ends s.trigger.signal).length
        store := s.store.close } := rfl
  rw [steps, counted, List.countP_eq_length_filter]

/-- **No step can tell a later version of a signal that was sent.** -/
theorem step_raised (k : s.Sound) (sent : s.isTriggered = true) (step : Step) :
    s.raised.step step = (s.step step).raised := by
  cases step with
  | shutdown => rw [step_shutdown k, step_shutdown (k.raised sent)]; rfl
  | register => rfl
  | registerCheckpoint => rfl
  | subscribe => rfl
  | trigger => rfl

theorem run_raised (k : s.Sound) (sent : s.isTriggered = true) (steps : List Step) :
    s.raised.run steps = (s.run steps).raised := by
  induction steps generalizing s with
  | nil => rfl
  | cons step rest ih =>
    have still : (s.step step).isTriggered = true := by rw [isTriggered_step, sent, Bool.true_or]
    rw [run_cons, run_cons, step_raised k sent, ih (sound_step k step) still]

/-- Where nothing is waited for and the store is closed, a shutdown changes nothing but the version of the
    signal. -/
theorem shutdown_again (k : s.Sound) (sent : s.isTriggered = true) (closed : s.isClosed = true)
    (nothing : s.tasks = []) : s.step .shutdown = s.raised := by
  have value : s.signal.value = true := sent
  have shut : s.store.isOpen = false := by simpa [isClosed] using closed
  obtain ⟨⟨_, version⟩, receiver, subscribers, _, finished, ⟨database, _⟩⟩ := s
  obtain rfl : _ = true := value
  obtain rfl : _ = false := shut
  obtain rfl : _ = [] := nothing
  rfl

/-- Steps that register nothing leave nothing to wait for. -/
theorem tasks_run_of_quiet {steps : List Step}
    (quiet : ∀ step ∈ steps, step ≠ .register ∧ step ≠ .registerCheckpoint) (nothing : s.tasks = []) :
    (s.run steps).tasks = [] := by
  induction steps generalizing s with
  | nil => exact nothing
  | cons step rest ih =>
    obtain ⟨here, there⟩ := List.forall_mem_cons.1 quiet
    refine ih there ?_
    cases step with
    | register => exact absurd rfl here.1
    | registerCheckpoint => exact absurd rfl here.2
    | subscribe => exact nothing
    | trigger => exact nothing
    | shutdown => rfl

/-! ## 5. Any course of steps -/

variable {store : Store} {steps : List Step}

/-- The signal is sent by triggers and shutdowns. -/
theorem isTriggered_run_start :
    ((start store).run steps).isTriggered = true ↔ .trigger ∈ steps ∨ .shutdown ∈ steps := by
  have untold : (start store).isTriggered = false := rfl
  rw [isTriggered_run, untold, Bool.false_or, List.any_eq_true]
  constructor
  · rintro ⟨step, among, sends⟩
    cases step with
    | trigger => exact .inl among
    | shutdown => exact .inr among
    | register => cases sends
    | registerCheckpoint => cases sends
    | subscribe => cases sends
  · rintro (among | among)
    · exact ⟨_, among, rfl⟩
    · exact ⟨_, among, rfl⟩

/-- The pool of an open store is closed by shutdowns. -/
theorem isClosed_run_start (isOpen : store.isOpen = true) :
    ((start store).run steps).isClosed = true ↔ .shutdown ∈ steps := by
  have unshut : (start store).isClosed = false := by rw [isClosed, start, isOpen]; rfl
  rw [isClosed_run, unshut, Bool.false_or, List.any_eq_true]
  exact ⟨fun ⟨step, among, same⟩ => beq_iff_eq.1 same ▸ among, fun among => ⟨_, among, rfl⟩⟩

/-- **A shutdown ends all tasks that were registered before it.** -/
theorem ended_of_shutdown (store : Store) (steps : List Step) :
    (start store).ended (steps ++ [.shutdown]) = (start store).registered steps := by
  have accounted := ended_append_tasks (sound_start store) (steps ++ [.shutdown])
  have none : ((start store).run (steps ++ [.shutdown])).tasks = [] := by
    rw [run_append]
    rfl
  rw [none, List.append_nil, registered_append] at accounted
  exact accounted.trans (List.append_nil _)

/-- **A shutdown after another one and steps that register nothing is not told by any later step.** -/
theorem run_shutdown_again (k : s.Sound) {quiet : List Step}
    (noTask : ∀ step ∈ quiet, step ≠ .register ∧ step ≠ .registerCheckpoint) (further : List Step) :
    (((s.step .shutdown).run quiet).step .shutdown).run further =
      (((s.step .shutdown).run quiet).run further).raised := by
  have calm : ((s.step .shutdown).run quiet).Sound := sound_run (sound_step k .shutdown) quiet
  have sent : ((s.step .shutdown).run quiet).isTriggered = true := by rw [isTriggered_run]; rfl
  have closed : ((s.step .shutdown).run quiet).isClosed = true := by rw [isClosed_run]; rfl
  rw [shutdown_again calm sent closed (tasks_run_of_quiet noTask rfl), run_raised calm sent]

/-- **No signal and no task is lost.** Let a program run on an open store and take any `steps`.

    All receivers read the signal exactly if a step triggered it or shut down, and then for ever, also those
    that are handed out later. A task takes its `turn` to an end if the signal was sent, and otherwise waits
    on as it was. The pool is closed exactly if there was a shutdown. When a shutdown is done all tasks that
    were ever `registered` have `ended`, whenever they took their receivers, and none is waited for. A
    second shutdown after steps that register nothing makes a state that is `raised`: it differs in the
    version of the signal, which no later step can tell. -/
theorem shutdown_loses_nothing (store : Store) (isOpen : store.isOpen = true) (steps : List Step) :
    let s := (start store).run steps
    let down := s.step .shutdown
    (s.isTriggered = true ↔ .trigger ∈ steps ∨ .shutdown ∈ steps) ∧
      (s.isTriggered = true → ∀ further : List Step, (s.run further).isTriggered = true ∧
        ∀ r ∈ (s.run further).subscribers, (s.run further).read r = true) ∧
      (∀ t ∈ s.tasks, t.turn s.signal = if s.isTriggered then none else some t) ∧
      (s.isClosed = true ↔ .shutdown ∈ steps) ∧
      (down.tasks = [] ∧
        (start store).ended (steps ++ [.shutdown]) = (start store).registered steps ∧
        down.finished = ((start store).registered steps).countP Task.isCounted) ∧
      ∀ quiet : List Step, (∀ step ∈ quiet, step ≠ .register ∧ step ≠ .registerCheckpoint) →
        ∀ further : List Step,
          ((down.run quiet).step .shutdown).run further = ((down.run quiet).run further).raised := by
  intro s down
  have k : s.Sound := sound_run (sound_start store) steps
  have stays (further : List Step) (sent : s.isTriggered = true) :
      (s.run further).isTriggered = true := by
    rw [isTriggered_run, sent, Bool.true_or]
  have all := ended_of_shutdown store steps
  refine ⟨isTriggered_run_start, fun sent further => ⟨stays further sent, fun _ _ => stays further sent⟩,
    fun t ht => turn_of_sound k (k.tasks t ht), isClosed_run_start isOpen, ⟨rfl, all, ?_⟩,
    fun quiet noTask further => run_shutdown_again k noTask further⟩
  have down_eq : down = (start store).run (steps ++ [.shutdown]) := by
    rw [run_append]
    rfl
  rw [down_eq, finished_run, all]
  exact Nat.zero_add _

/-- A task waits for the signal and one comes after it, with a receiver that was handed out late; both have
    ended with the shutdown. A second one only sends the signal again. -/
theorem shutdown_loses_nothing_late :
    let steps : List Step := [.register, .trigger, .subscribe, .registerCheckpoint]
    let down := ((start .fresh).run steps).step .shutdown
    Store.fresh.isOpen = true ∧
      (start .fresh).ended (steps ++ [.shutdown]) = [.waiter, .checkpointer ⟨0⟩] ∧
      down.tasks = [] ∧ down.finished = 1 ∧ down.signal.version = 2 ∧
      (down.run [.subscribe]).step .shutdown = (down.run [.subscribe]).raised := by
  intro steps down
  obtain ⟨-, -, -, -, ⟨none, ended, finished⟩, again⟩ := shutdown_loses_nothing .fresh rfl steps
  exact ⟨rfl, ended, none, finished, rfl, again [.subscribe] (by decide) []⟩

end Shutdown

end Dataset
