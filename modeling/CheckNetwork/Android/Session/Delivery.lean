import CheckNetwork.Android.Session.Ownership

/-!
# What the listener of a session receives

A snapshot that the listener does not have is on its way: a task still publishes
it, the main thread still has its delivery, or the listener is being called.
-/

namespace CheckNetwork.Android.Session

open Transition

/-- The last snapshot that a listener received. -/
def lastReceived (listener : Listener) : List Event → Option RequestState
  | [] => none
  | .received receiver snapshot :: past =>
      if receiver = listener then some snapshot else lastReceived listener past
  | _ :: past => lastReceived listener past

/-- The attached listener has the current snapshot, once nothing is to be published
or delivered. -/
def Converged (state : State) : Prop :=
  state.tasks = [] → state.posted = [] → state.receiving = none → ∀ owner listener,
    state.attachment = some (owner, listener) →
      lastReceived listener state.history = some state.current

/-- The task brings a snapshot to a listener. -/
def Task.Bears (owner : Owner) (listener : Listener) (snapshot : RequestState) : Task → Prop
  | .publish shown | .inform shown => shown = snapshot
  | .dispatch target receiver shown => target = owner ∧ receiver = listener ∧ shown = snapshot
  | _ => False

/-- The current snapshot is on its way. -/
def Coming (owner : Owner) (listener : Listener) (state : State) : Prop :=
  (∃ task ∈ state.tasks, task.Bears owner listener state.current) ∨
    ⟨owner, listener, state.current⟩ ∈ state.posted

/-- The listener has the current snapshot and no other is handed to it, or it is
handed to it. -/
def Knows (listener : Listener) (state : State) : Prop :=
  state.receiving = some (listener, state.current) ∨
    (lastReceived listener state.history = some state.current ∧
      ∀ snapshot, state.receiving = some (listener, snapshot) → snapshot = state.current)

structure Informed (state : State) : Prop where
  closed : state.sessionDestroyed = true → state.attachment = none
  silent : state.listening = false ∨ .unlisten ∈ state.tasks → state.sessionDestroyed = true
  told : ∀ owner listener, state.attachment = some (owner, listener) →
    Coming owner listener state ∨ Knows listener state

theorem informed_initial : Informed initial where
  closed destroyed := by cases destroyed
  silent closed := by rcases closed with h | h <;> cases h
  told _ _ attached := by cases attached

section Steps

variable {state after : State} {index : Nat}

/-- A step that makes a snapshot publishes it. -/
theorem Informed.update (informed : Informed state) {snapshot : RequestState}
    (current : after.current = snapshot) (tasks : after.tasks = state.tasks ++ [.publish snapshot])
    (attachment : after.attachment = state.attachment)
    (closed : after.sessionDestroyed = state.sessionDestroyed)
    (listening : after.listening = state.listening) : Informed after := by
  refine ⟨?_, ?_, ?_⟩
  · rw [closed, attachment]
    exact informed.closed
  · rw [listening, tasks, closed]
    rintro (deaf | member)
    · exact informed.silent (.inl deaf)
    · rcases List.mem_append.mp member with before | last
      · exact informed.silent (.inr before)
      · cases List.mem_singleton.mp last
  · intro owner listener _
    refine .inl (.inl ⟨.publish snapshot, ?_, current.symm⟩)
    rw [tasks]
    exact List.mem_append_right _ (List.mem_singleton_self _)

/-- The rule for a step that makes no snapshot: what was on its way still is. -/
theorem Informed.keep (informed : Informed state) (current : after.current = state.current)
    (attachment : after.attachment = state.attachment)
    (closed : after.sessionDestroyed = state.sessionDestroyed)
    (silent : after.listening = false ∨ .unlisten ∈ after.tasks →
      state.listening = false ∨ .unlisten ∈ state.tasks)
    (coming : ∀ owner listener, state.attachment = some (owner, listener) →
      Coming owner listener state → Coming owner listener after ∨ Knows listener after)
    (receiving : after.receiving = state.receiving) (history : after.history = state.history) :
    Informed after := by
  refine ⟨?_, ?_, ?_⟩
  · rw [closed, attachment]
    exact informed.closed
  · rw [closed]
    exact fun deaf => informed.silent (silent deaf)
  · intro owner listener attached
    rw [attachment] at attached
    rcases informed.told owner listener attached with way | knows
    · exact coming owner listener attached way
    · right
      rw [Knows, receiving, history, current]
      exact knows

theorem Informed.start (informed : Informed state) (signature : String) (creates : Bool) :
    Informed (start signature creates state) := by
  unfold Session.start
  split
  · exact informed
  · dsimp only
    split
    · exact ⟨informed.closed, informed.silent, informed.told⟩
    · exact informed.update rfl rfl rfl rfl rfl

theorem Informed.invalidateInput (informed : Informed state) (signature : String) :
    Informed (invalidateInput signature state) := by
  unfold Session.invalidateInput
  split
  · exact informed
  · exact informed.update rfl rfl rfl rfl rfl

theorem Informed.cancel (informed : Informed state) : Informed (cancel state) := by
  unfold Session.cancel
  split
  · exact informed
  · exact informed.update rfl rfl rfl rfl rfl

theorem Informed.destroyCoordinator (informed : Informed state) :
    Informed (destroyCoordinator state) := by
  unfold Session.destroyCoordinator
  split
  · exact informed
  · exact informed.update rfl rfl rfl rfl rfl

theorem Informed.complete (informed : Informed state) (call : Call) (outcome : Outcome) :
    Informed (complete index call outcome state) := by
  unfold Session.complete
  split
  · exact informed.update rfl rfl rfl rfl rfl
  · exact informed

theorem Informed.attach (informed : Informed state) (owner : Owner) (listener : Listener) :
    Informed (attach owner listener state) := by
  unfold Session.attach
  split
  · exact informed
  · rename_i open_
    refine ⟨fun closed => absurd closed open_, ?_, ?_⟩
    · rintro (deaf | member)
      · exact informed.silent (.inl deaf)
      · rcases List.mem_append.mp member with before | last
        · exact informed.silent (.inr before)
        · cases List.mem_singleton.mp last
    · rintro _ _ ⟨rfl⟩
      exact .inl (.inl ⟨_, List.mem_append_right _ (List.mem_singleton_self _), rfl, rfl, rfl⟩)

theorem Informed.detach (informed : Informed state) (owner : Option Owner) :
    Informed (detach owner state) := by
  unfold Session.detach
  split
  · exact ⟨fun _ => rfl, informed.silent, fun _ _ attached => (by cases attached)⟩
  · exact informed

theorem Informed.destroySession (informed : Informed state) : Informed (destroySession state) := by
  unfold Session.destroySession
  split
  · exact informed
  · exact ⟨fun _ => rfl, fun _ => rfl, fun _ _ attached => (by cases attached)⟩

theorem mem_eraseIdx_or {α : Type} {items : List α} {item other : α}
    (found : items[index]? = some item) (member : other ∈ items) :
    other = item ∨ other ∈ items.eraseIdx index := by
  obtain ⟨place, at_⟩ := List.mem_iff_getElem?.mp member
  by_cases same : place = index
  · subst same
    exact .inl (Option.some.inj (at_.symm.trans found))
  · exact .inr (List.mem_eraseIdx_iff_getElem?.mpr ⟨place, same, at_⟩)

/-- A task that bears the current snapshot hands it on. -/
theorem Informed.runTask (informed : Informed state) {task : Task}
    (found : state.tasks[index]? = some task) :
    Informed (runTask { state with tasks := state.tasks.eraseIdx index } task) := by
  have member := List.mem_of_getElem? found
  have fewer : ∀ {other}, other ∈ state.tasks.eraseIdx index → other ∈ state.tasks :=
    List.mem_of_mem_eraseIdx
  -- The rule for a task that hands nothing on, and needs not.
  have ends : (∀ owner listener, state.attachment = some (owner, listener) →
      ¬ task.Bears owner listener state.current) →
      Informed { state with tasks := state.tasks.eraseIdx index } := by
    intro idle
    refine informed.keep rfl rfl rfl (.imp_right fewer) ?_ rfl rfl
    rintro owner listener attached (⟨other, way, bears⟩ | posted)
    · rcases mem_eraseIdx_or found way with rfl | rest
      · exact absurd bears (idle owner listener attached)
      · exact .inl (.inl ⟨other, rest, bears⟩)
    · exact .inl (.inr posted)
  -- The rule for a task that hands its snapshot to another.
  have hands : ∀ other : Task, other ≠ .unlisten → (∀ owner listener,
      state.attachment = some (owner, listener) → task.Bears owner listener state.current →
        other.Bears owner listener state.current) →
      Informed ({ state with tasks := state.tasks.eraseIdx index }.todo other) := by
    intro other stays bears
    refine informed.keep rfl rfl rfl ?_ ?_ rfl rfl
    · rintro (deaf | way)
      · exact .inl deaf
      · rcases List.mem_append.mp way with before | last
        · exact .inr (fewer before)
        · exact absurd (List.mem_singleton.mp last).symm stays
    · rintro owner listener attached (⟨old, way, brings⟩ | posted)
      · rcases mem_eraseIdx_or found way with rfl | rest
        · exact .inl (.inl ⟨other, List.mem_append_right _ (List.mem_singleton_self _),
            bears owner listener attached brings⟩)
        · exact .inl (.inl ⟨old, List.mem_append_left _ rest, brings⟩)
      · exact .inl (.inr posted)
  cases task with
  | publish snapshot =>
      dsimp only [Session.runTask]
      split
      · exact hands _ nofun fun _ _ _ bears => bears
      · rename_i deaf
        refine ends fun owner listener attached => ?_
        cases (informed.closed (informed.silent (.inl (Bool.not_eq_true _ ▸ deaf)))).symm.trans attached
  | inform snapshot =>
      dsimp only [Session.runTask]
      split
      · rename_i closed
        refine ends fun owner listener attached => ?_
        cases (informed.closed closed).symm.trans attached
      · split
        · rename_i detached
          refine ends fun owner listener attached => ?_
          cases detached.symm.trans attached
        · rename_i target receiver attached
          refine hands _ nofun fun owner listener same bears => ?_
          cases attached.symm.trans same
          exact ⟨rfl, rfl, bears⟩
  | dispatch target receiver snapshot =>
      refine informed.keep rfl rfl rfl (.imp_right fewer) ?_ rfl rfl
      rintro owner listener _ (⟨old, way, bears⟩ | posted)
      · rcases mem_eraseIdx_or found way with rfl | rest
        · obtain ⟨rfl, rfl, rfl⟩ := bears
          exact .inl (.inr (List.mem_append_right _ (List.mem_singleton_self _)))
        · exact .inl (.inl ⟨old, rest, bears⟩)
      · exact .inl (.inr (List.mem_append_left _ posted))
  | unlisten =>
      have destroyed := informed.silent (.inr member)
      exact ⟨informed.closed, fun _ => destroyed, fun owner listener attached => by
        cases (informed.closed destroyed).symm.trans attached⟩
  | destroy =>
      have informed' := (ends fun _ _ _ => id).destroyCoordinator
      refine informed'.keep rfl rfl rfl ?_ ?_ rfl rfl
      · rintro (deaf | way)
        · exact .inl deaf
        · rcases List.mem_append.mp way with before | last
          · exact .inr before
          · cases List.mem_singleton.mp last
      · rintro owner listener _ (⟨old, way, bears⟩ | posted)
        · exact .inl (.inl ⟨old, List.mem_append_left _ way, bears⟩)
        · exact .inl (.inr posted)
  | shutdown =>
      have informed' := ends fun _ _ _ => id
      exact ⟨informed'.closed, informed'.silent, informed'.told⟩

/-- The main thread drops what is not current, or hands it to the listener. -/
theorem Informed.deliver (informed : Informed state) {post : Post}
    (found : state.posted[index]? = some post) :
    Informed (deliver post { state with posted := state.posted.eraseIdx index }) := by
  have drops : (∀ owner listener, state.attachment = some (owner, listener) →
      post ≠ ⟨owner, listener, state.current⟩) →
      Informed { state with posted := state.posted.eraseIdx index } := by
    intro other
    refine informed.keep rfl rfl rfl id ?_ rfl rfl
    rintro owner listener attached (way | posted)
    · exact .inl (.inl way)
    · rcases mem_eraseIdx_or found posted with same | rest
      · exact absurd same.symm (other owner listener attached)
      · exact .inl (.inr rest)
  unfold Session.deliver
  split
  · rename_i stale
    refine drops ?_
    rintro owner listener attached rfl
    rcases stale with closed | different
    · cases (informed.closed closed).symm.trans attached
    · exact different attached
  · rename_i open_
    split
    · rename_i old
      refine drops ?_
      rintro owner listener _ rfl
      exact old rfl
    · rename_i current
      simp only [not_or, not_not] at open_ current
      refine ⟨informed.closed, informed.silent, ?_⟩
      intro owner listener attached
      cases attached.symm.trans open_.2
      exact .inr (.inl (by rw [← current]))

theorem Informed.receive (informed : Informed state) {receiver : Listener}
    {snapshot : RequestState} (receiving : state.receiving = some (receiver, snapshot)) :
    Informed { state with
      receiving := none
      history := .received receiver snapshot :: state.history } := by
  refine ⟨informed.closed, informed.silent, ?_⟩
  intro owner listener attached
  rcases informed.told owner listener attached with way | handed | ⟨last, only⟩
  · exact .inl way
  · cases receiving.symm.trans handed
    exact .inr (.inr ⟨if_pos rfl, nofun⟩)
  · refine .inr (.inr ⟨?_, nofun⟩)
    by_cases same : receiver = listener
    · subst same
      rw [lastReceived, if_pos rfl, only snapshot receiving]
    · rw [lastReceived, if_neg same]
      exact last

theorem Informed.setCall (informed : Informed state) (call : Call) :
    Informed (state.setCall index call) :=
  ⟨informed.closed, informed.silent, informed.told⟩

theorem Informed.next {action : Action} (informed : Informed state)
    (step : next state action = some after) : Informed after := by
  cases action with
  | start signature creates =>
      cases step
      exact informed.start signature creates
  | invalidateInput signature =>
      cases step
      exact informed.invalidateInput signature
  | cancel =>
      cases step
      exact informed.cancel
  | destroy =>
      cases step
      exact informed.destroySession
  | attach owner listener =>
      cases step
      exact informed.attach owner listener
  | detach owner =>
      cases step
      exact informed.detach owner
  | run task =>
      obtain ⟨_, found, rfl⟩ := Option.map_eq_some_iff.mp step
      exact informed.runTask found
  | launch call accepts =>
      change launch call accepts state = some after at step
      unfold launch at step
      split at step
      · cases step
      · split at step
        · cases step
        · split at step <;> cases step
          · exact informed.setCall _
          · exact (informed.setCall _).complete _ _
  | assign call =>
      change assign call state = some after at step
      unfold assign at step
      split at step
      · cases step
      · split at step
        · cases step
          exact informed.setCall _
        · cases step
  | stop call =>
      change stop call state = some after at step
      unfold stop at step
      split at step
      · cases step
      · obtain ⟨_, _, rfl⟩ := Option.map_eq_some_iff.mp step
        exact informed.setCall _
  | work call answers =>
      change work call answers state = some after at step
      unfold work at step
      split at step
      · cases step
      · split at step
        · cases step
        · cases step
        · cases step
          exact (informed.setCall _).complete _ _
        · cases step
          exact (informed.setCall _).complete _ _
        · cases step
          exact informed.setCall _
  | deliver post =>
      change takePost post state = some after at step
      unfold takePost at step
      split at step
      · rename_i found
        cases step
        exact informed.deliver found
      · cases step
  | receive =>
      obtain ⟨⟨receiver, snapshot⟩, receiving, rfl⟩ := Option.map_eq_some_iff.mp step
      exact informed.receive receiving

end Steps

/-! ## Runs -/

section Runs

variable {state : State}

theorem informed_of_reachable (reachable : Reachable next initial state) : Informed state :=
  reachable.invariant Informed informed_initial fun _ _ _ informed step => informed.next step

theorem Informed.converged (informed : Informed state) : Converged state := by
  intro tasks posted receiving owner listener attached
  rcases informed.told owner listener attached with (⟨_, way, _⟩ | way) | handed | ⟨last, _⟩
  · rw [tasks] at way
    cases way
  · rw [posted] at way
    cases way
  · cases receiving.symm.trans handed
  · exact last

/-- In every state of every run: what happened kept to the rules, the state is the
last one that they made, and a completion changes it for the live request alone; the
attached listener has it once nothing is pending; and the network calls of every
request that was replaced, cancelled or invalidated are cancelled. -/
theorem session_owned (reachable : Reachable next initial state) :
    Lawful state.history ∧ published state.history = state.current ∧
      (∀ index call outcome, (complete index call outcome state).current ≠ state.current →
        live state.history = some index) ∧
      Converged state ∧
      ∀ index ∈ abandoned state.history, ∃ call, state.calls[index]? = some call ∧
        call.Stopped := by
  have tracked := tracked_of_reachable reachable
  refine ⟨tracked.lawful, tracked.published, ?_, (informed_of_reachable reachable).converged, ?_⟩
  · intro index call outcome changes
    unfold complete at changes
    split at changes
    · rename_i owns
      exact tracked.live.trans owns.2.1
    · exact absurd rfl changes
  · intro index member
    obtain ⟨call, found, asked⟩ := tracked.asked index member
    exact ⟨call, found, (tracked.ok call (List.mem_of_getElem? found)).stopped asked⟩

/-- A request that is cancelled while its first network call runs, before the
listener sees that it was started. -/
def cancelling : List Action :=
  let quick : Answers := ⟨none, .ok ("", 0)⟩
  [.attach 1 5, .run 0, .deliver 0, .receive, .start "report" true, .run 0, .run 0, .run 0,
    .launch 0 true, .work 0 quick, .work 0 quick, .work 0 quick, .cancel, .stop 0, .stop 0,
    .deliver 0, .run 0, .run 0, .run 0, .deliver 0, .receive]

theorem session_owned_sample : ∃ state, execute next initial cancelling = some state ∧
    state.current.phase = .cancelled ∧ lastReceived 5 state.history = some state.current ∧
      ∃ call, state.calls[0]? = some call ∧ .capabilities ∈ call.stopped := by
  obtain ⟨state, run⟩ := Option.isSome_iff_exists.mp
    (by decide +kernel : (execute next initial cancelling).isSome = true)
  have settled : (execute next initial cancelling).map (fun state =>
      decide (state.tasks = [] ∧ state.posted = [] ∧ state.receiving = none ∧
        state.attachment = some (1, 5) ∧ state.current.phase = .cancelled ∧
        0 ∈ abandoned state.history ∧ state.calls.map (fun call =>
          (call.stage, call.cancelling)) = [(.executing .capabilities, .looked)])) = some true := by
    decide +kernel
  rw [run, Option.map_some, Option.some.injEq, decide_eq_true_eq] at settled
  obtain ⟨tasks, posted, receiving, attached, cancelled, left, stages⟩ := settled
  obtain ⟨_, _, _, converged, stopped⟩ := session_owned (.of_execute run)
  obtain ⟨call, found, stops⟩ := stopped 0 left
  have stage : (call.stage, call.cancelling) = (.executing .capabilities, .looked) := by
    have mapped := congrArg (·[0]?) stages
    simp only [List.getElem?_map, found, Option.map_some, List.getElem?_cons_zero] at mapped
    exact Option.some.inj mapped
  obtain ⟨executing, looked⟩ := Prod.ext_iff.mp stage
  exact ⟨state, run, cancelled, converged tasks posted receiving 1 5 attached, call, found,
    stops.running (.inl looked) .capabilities executing⟩

end Runs

end CheckNetwork.Android.Session
