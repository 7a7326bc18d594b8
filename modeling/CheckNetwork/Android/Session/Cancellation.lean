import CheckNetwork.Android.Session.Runtime

/-!
# The cancellation of a call

The cancellation sets its flag before it looks for the active network call; the
worker sets the active call before it looks at the flag.  One of the two sees the
other, in every order.
-/

namespace CheckNetwork.Android.Session

namespace Call

/-- The cancellation has looked for an active network call. -/
def Looked (call : Call) : Prop := call.cancelling = .looked ∨ call.cancelling = .done

/-- What the worker and the cancellation know of each other. -/
structure Ok (call : Call) : Prop where
  flag : call.cancelling = .flagged ∨ call.Looked → call.cancelled = true
  active : ∀ network, call.stage = .activating network ∨ call.stage = .executing network →
    call.activeCall = some network
  ended : ∀ network ∈ call.activated, network ∈ call.returned ∨ network ∈ call.stopped ∨
    call.stage = .activating network ∨ call.stage = .executing network
  running : call.Looked → ∀ network, call.stage = .executing network → network ∈ call.stopped

/-- Every network call of a request whose cancellation was asked for is cancelled:
before it runs, once the flag is set; while it runs, once the cancellation has looked.
After that the worker is at the check, or what it activated was cancelled or has
returned. -/
structure Stopped (call : Call) : Prop where
  asked : call.cancelling ≠ .unasked
  before : call.cancelled = true → ∀ network answers, call.stage = .activating network →
    network ∈ (call.work answers).stopped ∧
      (call.work answers).stage = .completing (.error .cancelled)
  running : call.Looked → ∀ network, call.stage = .executing network → network ∈ call.stopped
  after : call.Looked → ∀ network ∈ call.activated, network ∈ call.stopped ∨
    network ∈ call.returned ∨ call.stage = .activating network

section Steps

variable {call after : Call}

theorem Ok.stopped (ok : call.Ok) (asked : call.cancelling ≠ .unasked) : call.Stopped where
  asked := asked
  before flagged network answers activating := by
    rw [work, activating]
    dsimp only [activate]
    rw [if_pos flagged]
    exact ⟨List.mem_cons_self, rfl⟩
  running := ok.running
  after looked network member := by
    rcases ok.ended network member with returned | stopped | activating | executing
    · exact .inr (.inl returned)
    · exact .inl stopped
    · exact .inr (.inr activating)
    · exact .inl (ok.running looked network executing)

theorem ok_create (ownerId : Nat) (signature : String) : (create ownerId signature).Ok where
  flag asked := by rcases asked with h | h | h <;> cases h
  active network stage := by rcases stage with h | h <;> cases h
  ended network member := by cases member
  running looked := by rcases looked with h | h <;> cases h

/-- The rule for a worker that is at no network call. -/
theorem Ok.leave (ok : call.Ok) (cancelled : after.cancelled = call.cancelled)
    (cancelling : after.cancelling = call.cancelling) (activated : after.activated = call.activated)
    (away : ∀ network, after.stage ≠ .activating network ∧ after.stage ≠ .executing network)
    (ended : ∀ network, network ∈ call.returned ∨ network ∈ call.stopped ∨
      call.stage = .activating network ∨ call.stage = .executing network →
        network ∈ after.returned ∨ network ∈ after.stopped) : after.Ok where
  flag asked := by
    rw [Looked, cancelling] at asked
    exact cancelled.trans (ok.flag asked)
  active network stage := absurd stage (not_or.mpr (away network))
  ended network member := by
    rw [activated] at member
    exact (ended network (ok.ended network member)).imp_right .inl
  running _ network stage := absurd stage (away network).2

theorem Ok.fail (ok : call.Ok) (kind : Kind)
    (away : ∀ network, call.stage ≠ .activating network ∧ call.stage ≠ .executing network) :
    (call.fail kind).Ok := by
  refine ok.leave rfl rfl rfl (fun network => ⟨nofun, nofun⟩) ?_
  rintro network (returned | stopped | activating | executing)
  · exact .inl returned
  · exact .inr stopped
  · exact absurd activating (away network).1
  · exact absurd executing (away network).2

/-- The rule for a worker that goes from one local step to the next. -/
theorem Ok.proceed (ok : call.Ok) (stage : Stage)
    (away : ∀ network, call.stage ≠ .activating network ∧ call.stage ≠ .executing network)
    (local_ : ∀ network, stage ≠ .activating network ∧ stage ≠ .executing network) :
    { call with stage := stage }.Ok := by
  refine ok.leave rfl rfl rfl local_ ?_
  rintro network (returned | stopped | activating | executing)
  · exact .inl returned
  · exact .inr stopped
  · exact absurd activating (away network).1
  · exact absurd executing (away network).2

theorem Ok.check (ok : call.Ok) (answers : Answers) (next : Stage)
    (away : ∀ network, call.stage ≠ .activating network ∧ call.stage ≠ .executing network)
    (local_ : ∀ network, next ≠ .activating network ∧ next ≠ .executing network) :
    (call.check answers next).Ok := by
  unfold Call.check
  split
  · exact ok.fail _ away
  · split
    · exact ok.fail _ away
    · exact ok.proceed next away local_

/-- A network call that is activated with the flag set is cancelled, and the others run. -/
theorem Ok.activate (ok : call.Ok) {network : Network} (stage : call.stage = .activating network) :
    (call.activate network).Ok := by
  have same : ∀ {other}, call.stage = .activating other → other = network := by
    intro other activating
    cases activating.symm.trans stage
    rfl
  unfold Call.activate
  split
  · refine ok.leave rfl rfl rfl (fun network => ⟨nofun, nofun⟩) ?_
    rintro other (returned | stopped | activating | executing)
    · exact .inl returned
    · exact .inr (List.mem_cons_of_mem _ stopped)
    · cases same activating
      exact .inr List.mem_cons_self
    · cases executing.symm.trans stage
  · rename_i unflagged
    refine ⟨ok.flag, ?_, ?_, fun looked => absurd (ok.flag (.inr looked)) unflagged⟩
    · rintro other (activating | executing)
      · cases activating
      · cases executing
        exact ok.active network (.inl stage)
    · intro other member
      rcases ok.ended other member with returned | stopped | activating | executing
      · exact .inl returned
      · exact .inr (.inl stopped)
      · cases same activating
        exact .inr (.inr (.inr rfl))
      · cases executing.symm.trans stage

theorem Ok.work (ok : call.Ok) (answers : Answers) : (call.work answers).Ok := by
  unfold Call.work
  split
  case h_1 stage =>
    exact ok.proceed _ (fun _ => by rw [stage]; exact ⟨nofun, nofun⟩) (fun _ => ⟨nofun, nofun⟩)
  case h_2 network stage =>
    have away : ∀ network, call.stage ≠ .activating network ∧ call.stage ≠ .executing network := by
      intro other
      rw [stage]
      exact ⟨nofun, nofun⟩
    split
    · exact ok.fail _ away
    · refine ⟨ok.flag, ?_, ?_, fun _ other stage => (by cases stage)⟩
      · rintro other (activating | executing)
        · cases activating
          rfl
        · cases executing
      · intro other member
        rcases List.mem_cons.mp member with rfl | before
        · exact .inr (.inr (.inl rfl))
        · rcases ok.ended other before with returned | stopped | activating | executing
          · exact .inl returned
          · exact .inr (.inl stopped)
          · exact absurd activating (away other).1
          · exact absurd executing (away other).2
  case h_3 network stage => exact ok.activate stage
  case h_4 network stage =>
    have ended : ∀ other, other ∈ call.returned ∨ other ∈ call.stopped ∨
        call.stage = .activating other ∨ call.stage = .executing other →
          other ∈ network :: call.returned ∨ other ∈ call.stopped := by
      rintro other (returned | stopped | activating | executing)
      · exact .inl (List.mem_cons_of_mem _ returned)
      · exact .inr stopped
      · cases activating.symm.trans stage
      · cases executing.symm.trans stage
        exact .inl List.mem_cons_self
    dsimp only
    split
    · exact ok.leave rfl rfl rfl (fun _ => ⟨nofun, nofun⟩) ended
    · exact ok.leave rfl rfl rfl (fun _ => ⟨nofun, nofun⟩) ended
    · exact ok.leave rfl rfl rfl (fun _ => ⟨nofun, nofun⟩) ended
  case h_5 stage =>
    exact ok.check answers _ (fun _ => by rw [stage]; exact ⟨nofun, nofun⟩)
      (fun _ => ⟨nofun, nofun⟩)
  case h_6 stage =>
    exact ok.check answers _ (fun _ => by rw [stage]; exact ⟨nofun, nofun⟩)
      (fun _ => ⟨nofun, nofun⟩)
  case h_7 stage =>
    refine ok.leave rfl rfl rfl (fun _ => ⟨nofun, nofun⟩) ?_
    rw [stage]
    rintro other (returned | stopped | activating | executing)
    · exact .inl returned
    · exact .inr stopped
    · cases activating
    · cases executing
  case h_8 => exact ok

theorem Ok.drop (ok : call.Ok) : call.drop.Ok := by
  unfold Call.drop
  split
  · rename_i stage
    exact ok.proceed _ (fun _ => by rw [stage]; exact ⟨nofun, nofun⟩) (fun _ => ⟨nofun, nofun⟩)
  · exact ok

theorem drop_cancelling (call : Call) : call.drop.cancelling = call.cancelling := by
  unfold Call.drop
  split <;> rfl

/-- The cancellation sets the flag, looks, and leaves. -/
theorem Ok.stop (ok : call.Ok) (step : call.stop = some after) :
    after.Ok ∧ after.cancelling ≠ .unasked := by
  unfold Call.stop at step
  split at step
  case h_1 =>
    cases step
    refine ⟨⟨fun _ => rfl, ok.active, ok.ended, ?_⟩, nofun⟩
    rintro (looked | done) <;> contradiction
  case h_2 asked =>
    cases step
    refine ⟨⟨fun _ => ok.flag (.inl asked), ok.active, ?_, ?_⟩, nofun⟩
    · intro network member
      exact (ok.ended network member).imp_right
        (.imp_left (List.mem_append_right call.activeCall.toList))
    · intro _ network executing
      refine List.mem_append_left _ ?_
      rw [ok.active network (.inr executing)]
      exact List.mem_singleton_self network
  case h_3 looked =>
    cases step
    refine ⟨?_, nofun⟩
    have dropped : (if call.future = .assigned then call.drop else call).Ok ∧
        (if call.future = .assigned then call.drop else call).cancelling = .looked := by
      split
      · exact ⟨ok.drop, call.drop_cancelling.trans looked⟩
      · exact ⟨ok, looked⟩
    generalize (if call.future = .assigned then call.drop else call) = call at dropped ⊢
    obtain ⟨ok, looked⟩ := dropped
    exact ⟨fun _ => ok.flag (.inr (.inl looked)), ok.active, ok.ended,
      fun _ => ok.running (.inl looked)⟩
  case h_4 => cases step

theorem Ok.ask (ok : call.Ok) : { call with cancelling := .asked }.Ok where
  flag asked := by rcases asked with h | h | h <;> cases h
  active := ok.active
  ended := ok.ended
  running looked := by rcases looked with h | h <;> cases h

end Steps

end Call

end CheckNetwork.Android.Session
