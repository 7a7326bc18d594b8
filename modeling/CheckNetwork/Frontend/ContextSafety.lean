import CheckNetwork.Frontend.ContextController

/-!
# What the context controller publishes

A request keeps its owner and its generation.  Only a request that is live when its last
chunk has been read publishes a context, and whatever ends its claim ends it for good.
-/

namespace CheckNetwork.Frontend.Context

open Collection Transition

universe u v

variable {R : Type u} {D : Type v}

/-! ## One worker -/

/-- What does not change in a request: once it is aborted it stays so. -/
structure Request.Later (request later : Request R) : Prop where
  id : later.id = request.id
  owner : later.owner = request.owner
  generation : later.generation = request.generation
  aborted : request.aborted = true → later.aborted = true

/-- The worker of the request is the only one. -/
def Holds (controller : Controller R D) (request : Request R) : Prop :=
  ∃ stored : Request R, controller.requests = [stored] ∧ controller.flight = some request.id ∧
    stored.id = request.id

/-- What remains of a request when its worker waits again, or has ended. -/
structure Continues (request : Request R) (before after : Controller R D) : Prop where
  owner : after.owner = before.owner
  alive : after.alive = before.alive
  generation : after.generation = before.generation
  objects : after.objects = before.objects
  requests : (after.requests = [] ∧ after.flight = none) ∨ ∃ later : Request R,
    after.requests = [later] ∧ after.flight = some later.id ∧ request.Later later

/-- No context is published and the cache is left alone. -/
structure Quiet (before after : Controller R D) : Prop where
  cache : after.cache = before.cache
  shown : ∃ shown, after.changes = shown ++ before.changes ∧ ∀ phase ∈ shown, phase.isReady = false

/-- The request was live when it published its context. -/
structure Delivers (request : Request R) (readings : Readings) (value : Snapshot D)
    (before after : Controller R D) : Prop where
  live : before.live request (readings 4) = true
  address : value.address = request.owner.owner.address
  cache : after.cache = if (readings 3).clock < value.expiresAt
    then Controller.trim (before.cache.insert value.address value) else before.cache
  shown : ∃ shown, after.changes = shown ++ .ready value false :: before.changes ∧
    ∀ phase ∈ shown, phase.isReady = false

namespace Request

namespace Later

variable {first second third : Request R}

theorem refl (request : Request R) : request.Later request :=
  ⟨rfl, rfl, rfl, fun aborted => aborted⟩

theorem trans (left : first.Later second) (right : second.Later third) : first.Later third :=
  ⟨right.id.trans left.id, right.owner.trans left.owner, right.generation.trans left.generation,
    right.aborted ∘ left.aborted⟩

end Later

variable (request : Request R) (reading : Reading) (value : Bool)

theorem later_stopBody : request.Later (request.stopBody reading) := by
  unfold stopBody
  split
  · exact .refl request
  · exact ⟨rfl, rfl, rfl, fun aborted => aborted⟩

theorem later_settle : request.Later (request.settle value) :=
  ⟨rfl, rfl, rfl, fun aborted => aborted⟩

theorem later_abort : request.Later request.abort :=
  ⟨rfl, rfl, rfl, fun _ => rfl⟩

end Request

namespace Quiet

variable {before after : Controller R D}

theorem of_eq (cache : after.cache = before.cache) (changes : after.changes = before.changes) :
    Quiet before after :=
  ⟨cache, [], changes, fun _ member => by cases member⟩

theorem publish {phase : Phase D} (rest : Quiet (before.publish phase) after)
    (plain : phase.isReady = false) : Quiet before after := by
  obtain ⟨shown, changes, quiet⟩ := rest.shown
  refine ⟨rest.cache, shown ++ [phase], ?_, ?_⟩
  · rw [changes, List.append_assoc]
    rfl
  · intro other member
    rcases List.mem_append.mp member with earlier | last
    · exact quiet other earlier
    · rw [List.mem_singleton.mp last]
      exact plain

end Quiet

namespace Continues

variable {before after : Controller R D} {request later : Request R}

theorem congr (rest : Continues later before after) (same : request.Later later) :
    Continues request before after where
  owner := rest.owner
  alive := rest.alive
  generation := rest.generation
  objects := rest.objects
  requests := by
    rcases rest.requests with ended | ⟨last, requests, flight, kept⟩
    · exact .inl ended
    · exact .inr ⟨last, requests, flight, same.trans kept⟩

theorem publish {phase : Phase D} (rest : Continues request (before.publish phase) after) :
    Continues request before after :=
  ⟨rest.owner, rest.alive, rest.generation, rest.objects, rest.requests⟩

end Continues

/-- A context that was parsed is of the address that was asked for. -/
theorem address_of_parse {platform : Platform D} {bytes : List UInt8} {address : String}
    {value : Snapshot D} (parsed : parseIPContext platform bytes address = .ok value) :
    value.address = address := by
  rw [parseIPContext] at parsed
  split at parsed
  · cases parsed
  · cases decoded : platform.decode bytes with
    | error thrown =>
        rw [decoded] at parsed
        cases parsed
    | ok document =>
        rw [decoded] at parsed
        change normalizeIPContext platform document address = _ at parsed
        rw [normalizeIPContext] at parsed
        split_ifs at parsed with _ other
        · cases parsed
          exact not_not.mp other

namespace Holds

variable {controller : Controller R D} {request later : Request R} (readings : Readings)

theorem of_later (holds : Holds controller request) (same : request.Later later) :
    Holds controller later := by
  obtain ⟨stored, requests, flight, stored_id⟩ := holds
  exact ⟨stored, requests, by rw [flight, same.id], stored_id.trans same.id.symm⟩

theorem publish (holds : Holds controller request) (phase : Phase D) :
    Holds (controller.publish phase) request :=
  holds

theorem store (holds : Holds controller request) :
    Continues request controller (controller.store request) ∧
      Quiet controller (controller.store request) := by
  obtain ⟨stored, requests, flight, same⟩ := holds
  refine ⟨⟨rfl, rfl, rfl, rfl, .inr ⟨request, ?_, flight, .refl request⟩⟩, .of_eq rfl rfl⟩
  rw [Controller.store, requests, List.map_cons, List.map_nil, if_pos same]

theorem release (holds : Holds controller request) :
    Continues request controller (controller.release request.id) ∧
      Quiet controller (controller.release request.id) := by
  obtain ⟨stored, requests, flight, same⟩ := holds
  refine ⟨⟨rfl, rfl, rfl, rfl, .inl ⟨?_, if_pos flight⟩⟩, .of_eq rfl rfl⟩
  simp [Controller.release, requests, same]

/-- The timer at most reports that it fired. -/
theorem timeout_eq (controller : Controller R D) (request : Request R) (reading : Reading) :
    ((controller.timeout request reading).1 = controller ∨
      (controller.timeout request reading).1 = controller.publish .timeout) ∧
    request.Later (controller.timeout request reading).2 := by
  unfold Controller.timeout
  split
  · exact ⟨.inl rfl, .refl request⟩
  · constructor
    · split
      · exact .inr rfl
      · exact .inl rfl
    · exact (request.later_abort.trans (Request.later_stopBody _ reading)).trans
        (Request.later_settle _ false)

theorem timeout (holds : Holds controller request) :
    Continues request controller ((controller.timeout request reading).1.store
        (controller.timeout request reading).2) ∧
      Quiet controller ((controller.timeout request reading).1.store
        (controller.timeout request reading).2) := by
  obtain ⟨shown, kept⟩ := timeout_eq controller request reading
  rcases shown with same | same
  · rw [same]
    have stored := (holds.of_later kept).store
    exact ⟨stored.1.congr kept, stored.2⟩
  · rw [same]
    have stored := ((holds.publish .timeout).of_later kept).store
    exact ⟨(stored.1.congr kept).publish, stored.2.publish rfl⟩

theorem finish (holds : Holds controller request) :
    Continues request controller (controller.finish request readings) ∧
      Quiet controller (controller.finish request readings) := by
  have ends : ∀ {shown : Controller R D} {later : Request R}, Holds shown later →
      Continues later shown (if (later.settle false).cleanup
        then shown.store { later.settle false with stage := .cleaning }
        else shown.release (later.settle false).id) ∧
      Quiet shown (if (later.settle false).cleanup
        then shown.store { later.settle false with stage := .cleaning }
        else shown.release (later.settle false).id) := by
    intro shown later holds
    have settled : later.Later { later.settle false with stage := .cleaning } :=
      ⟨rfl, rfl, rfl, fun aborted => aborted⟩
    split
    · have stored := (holds.of_later settled).store
      exact ⟨stored.1.congr settled, stored.2⟩
    · exact holds.release
  simp only [Controller.finish]
  split
  · obtain ⟨shown, kept⟩ := timeout_eq controller request (readings 12)
    rcases shown with same | same
    · rw [same]
      have ended := ends (holds.of_later kept)
      exact ⟨ended.1.congr kept, ended.2⟩
    · rw [same]
      have ended := ends ((holds.publish .timeout).of_later kept)
      exact ⟨(ended.1.congr kept).publish, ended.2.publish rfl⟩
  · exact ends holds

theorem finish_later (holds : Holds controller request) (same : request.Later later) :
    Continues request controller (controller.finish later readings) ∧
      Quiet controller (controller.finish later readings) := by
  have ended := (holds.of_later same).finish readings
  exact ⟨ended.1.congr same, ended.2⟩

theorem finish_publish (holds : Holds controller request) (same : request.Later later)
    {phase : Phase D} (plain : phase.isReady = false) (test : Bool) :
    Continues request controller
        ((if test then controller.publish phase else controller).finish later readings) ∧
      Quiet controller
        ((if test then controller.publish phase else controller).finish later readings) := by
  cases test with
  | false => exact holds.finish_later readings same
  | true =>
      have ended := (holds.publish phase).finish_later readings same
      exact ⟨ended.1.publish, ended.2.publish plain⟩

theorem fail (holds : Holds controller request) (same : request.Later later) (thrown : Thrown) :
    Continues request controller (controller.fail thrown later readings) ∧
      Quiet controller (controller.fail thrown later readings) := by
  unfold Controller.fail
  refine holds.finish_publish readings (same.trans (later.later_stopBody _)) ?_ _
  cases thrown <;> rfl

theorem begin (requests : controller.requests = [request])
    (flight : controller.flight = some request.id) :
    Continues request controller (controller.begin request readings) ∧
      Quiet controller (controller.begin request readings) := by
  have holds : Holds controller request := ⟨request, requests, flight, rfl⟩
  unfold Controller.begin
  split
  · exact holds.finish readings
  · split
    · exact holds.finish readings
    · exact ⟨⟨rfl, rfl, rfl, rfl, .inr ⟨request, requests, flight, .refl request⟩⟩, .of_eq rfl rfl⟩

theorem answered (holds : Holds controller request) (outcome : Controller.FetchOutcome) :
    Continues request controller (controller.answered request outcome readings) ∧
      Quiet controller (controller.answered request outcome readings) := by
  cases outcome with
  | rejected thrown => exact holds.fail readings (.refl request) thrown
  | response response =>
      have withBody : request.Later { request with hasBody := response.hasBody } :=
        ⟨rfl, rfl, rfl, fun aborted => aborted⟩
      have discarded := withBody.trans (Request.later_stopBody _ (readings 0))
      simp only [Controller.answered]
      split
      · exact holds.finish_later readings discarded
      · split
        · refine holds.finish_publish readings discarded ?_ _
          unfold Controller.phaseOfStatus
          split_ifs <;> rfl
        · split
          · exact holds.fail readings discarded .invalid
          · cases response.reader with
            | missing => exact holds.fail readings withBody .invalid
            | throws thrown =>
                dsimp only
                split
                · exact holds.finish_later readings discarded
                · exact holds.fail readings withBody thrown
            | opened =>
                have opened : request.Later
                    { request with hasBody := response.hasBody, hasReader := true } :=
                  ⟨rfl, rfl, rfl, fun aborted => aborted⟩
                have reading : request.Later { request with
                    hasBody := response.hasBody, hasReader := true, stage := .reading } :=
                  ⟨rfl, rfl, rfl, fun aborted => aborted⟩
                dsimp only
                split
                · exact holds.finish_later readings discarded
                · split
                  · exact holds.finish_later readings
                      (opened.trans (Request.later_stopBody _ (readings 0)))
                  · have stored := (holds.of_later reading).store
                    exact ⟨stored.1.congr reading, stored.2⟩

theorem finish_ready (holds : Holds controller request) (value : Snapshot D) :
    Continues request controller ((controller.publish (.ready value false)).finish
        (request.settle true) readings) ∧
      ((controller.publish (.ready value false)).finish (request.settle true) readings).cache =
        controller.cache ∧
      ∃ shown, ((controller.publish (.ready value false)).finish
          (request.settle true) readings).changes =
          shown ++ .ready value false :: controller.changes ∧
        ∀ phase ∈ shown, phase.isReady = false := by
  have ended := (holds.publish (.ready value false)).finish_later readings
    (request.later_settle true)
  exact ⟨ended.1.publish, ended.2.cache, ended.2.shown⟩

theorem complete (holds : Holds controller request) (platform : Platform D) :
    Continues request controller (controller.complete platform request readings) ∧
      (Quiet controller (controller.complete platform request readings) ∨ ∃ value,
        Delivers request readings value controller
          (controller.complete platform request readings)) := by
  unfold Controller.complete
  split
  · exact ⟨(holds.finish readings).1, .inl (holds.finish readings).2⟩
  · cases parsed : parseIPContext platform request.bytes request.owner.owner.address with
    | error thrown =>
        have failed := holds.fail readings (.refl request) thrown
        exact ⟨failed.1, .inl failed.2⟩
    | ok value =>
        dsimp only
        split
        · exact ⟨(holds.finish readings).1, .inl (holds.finish readings).2⟩
        · rename_i live
          rw [Bool.not_eq_true, Bool.not_eq_false'] at live
          have address := address_of_parse parsed
          split
          · rename_i unexpired
            let trimmed := Controller.trim (controller.cache.insert value.address value)
            have kept : Holds { controller with cache := trimmed } request := holds
            obtain ⟨rest, cache, shown⟩ := kept.finish_ready readings value
            refine ⟨⟨rest.owner, rest.alive, rest.generation, rest.objects, rest.requests⟩,
              .inr ⟨value, live, address, ?_, shown⟩⟩
            rw [if_pos unexpired]
            exact cache
          · rename_i expired
            obtain ⟨rest, cache, shown⟩ := holds.finish_ready readings value
            refine ⟨rest, .inr ⟨value, live, address, ?_, shown⟩⟩
            rw [if_neg expired]
            exact cache

theorem received (holds : Holds controller request) (platform : Platform D)
    (outcome : Controller.ReadOutcome) :
    Continues request controller (controller.received platform request outcome readings) ∧
      (Quiet controller (controller.received platform request outcome readings) ∨ ∃ value,
        Delivers request readings value controller
          (controller.received platform request outcome readings) ∧ outcome = .done) := by
  have stopped := request.later_stopBody (readings 0)
  cases outcome with
  | rejected thrown =>
      have failed := holds.fail readings (.refl request) thrown
      exact ⟨failed.1, .inl failed.2⟩
  | done =>
      simp only [Controller.received]
      split
      · have ended := holds.finish_later readings stopped
        exact ⟨ended.1, .inl ended.2⟩
      · obtain ⟨rest, quiet | ⟨value, delivers⟩⟩ := holds.complete readings platform
        · exact ⟨rest, .inl quiet⟩
        · exact ⟨rest, .inr ⟨value, delivers, trivial⟩⟩
  | chunk bytes =>
      have longer : request.Later { request with bytes := request.bytes ++ bytes } :=
        ⟨rfl, rfl, rfl, fun aborted => aborted⟩
      simp only [Controller.received]
      split
      · have ended := holds.finish_later readings stopped
        exact ⟨ended.1, .inl ended.2⟩
      · split
        · have failed := holds.fail readings (.refl request) .invalid
          exact ⟨failed.1, .inl failed.2⟩
        · split
          · have ended := holds.finish_later readings
              (longer.trans (Request.later_stopBody _ (readings 0)))
            exact ⟨ended.1, .inl ended.2⟩
          · have stored := (holds.of_later longer).store
            exact ⟨stored.1.congr longer, .inl stored.2⟩
  | foreign =>
      simp only [Controller.received]
      split
      · have ended := holds.finish_later readings stopped
        exact ⟨ended.1, .inl ended.2⟩
      · have failed := holds.fail readings (.refl request) .invalid
        exact ⟨failed.1, .inl failed.2⟩

end Holds

/-! ## The cache -/

/-- Contexts are kept under their address, and at most 64 of them. -/
structure Bounded (cache : Store String (Snapshot D)) : Prop where
  addressed : ∀ address value, cache.lookup address = some value → value.address = address
  size : Store.size cache ≤ 64

namespace Bounded

variable {cache : Store String (Snapshot D)} {address : String} {value : Snapshot D}

theorem empty : Bounded (∅ : Store String (Snapshot D)) where
  addressed _ _ found := by
    rw [AList.lookup_empty] at found
    cases found
  size := Nat.zero_le _

theorem erase (bounded : Bounded cache) (address : String) : Bounded (cache.erase address) where
  addressed other value found := bounded.addressed other value (Store.lookup_erase_eq_some.mp found).2
  size := Nat.le_trans (Store.size_erase_le cache address) bounded.size

theorem insert_of_lookup (bounded : Bounded cache) (found : cache.lookup address = some value) :
    Bounded (cache.insert address value) where
  addressed other written kept := by
    rcases Store.lookup_insert_eq_some.mp kept with ⟨rfl, rfl⟩ | ⟨_, kept⟩
    · exact bounded.addressed other written found
    · exact bounded.addressed other written kept
  size := by
    have present : address ∈ cache := by
      rw [← AList.lookup_isSome, found]
      rfl
    rw [Store.size_insert_of_mem present]
    exact bounded.size

theorem trim_insert (bounded : Bounded cache) (value : Snapshot D) :
    Bounded (Controller.trim (cache.insert value.address value)) where
  addressed other written kept := by
    have found : (cache.insert value.address value).lookup other = some written :=
      AList.mem_lookup_iff.mpr (List.mem_of_mem_take (AList.mem_lookup_iff.mp kept))
    rcases Store.lookup_insert_eq_some.mp found with ⟨rfl, rfl⟩ | ⟨_, found⟩
    · rfl
    · exact bounded.addressed other written found
  size := List.length_take_le _ _

end Bounded

theorem cached_spec {cache : Store String (Snapshot D)} (bounded : Bounded cache)
    (address : String) (reading : Reading) :
    Bounded (Controller.cached address reading cache).1 ∧
      ∀ value, (Controller.cached address reading cache).2 = some value →
        cache.lookup address = some value ∧ reading.clock < value.expiresAt := by
  unfold Controller.cached
  cases found : cache.lookup address with
  | none => exact ⟨bounded, fun _ other => by cases other⟩
  | some value =>
      dsimp only
      split
      · exact ⟨bounded.erase address, fun _ other => by cases other⟩
      · rename_i fresh
        refine ⟨bounded.insert_of_lookup found, fun other same => ?_⟩
        cases same
        exact ⟨rfl, Int.not_le.mp fresh⟩

/-! ## Steps -/

/-- A request has an owner of its own, and it is of no later generation. -/
structure Known (controller : Controller R D) (request : Request R) : Prop where
  id : request.id < controller.objects
  object : request.owner.object < controller.objects
  generation : request.generation ≤ controller.generation
  owner : ∀ copy, controller.owner = some copy → copy.object = request.owner.object →
    copy = request.owner

structure Inv (controller : Controller R D) : Prop where
  requests : (controller.requests = [] ∧ controller.flight = none) ∨ ∃ request : Request R,
    controller.requests = [request] ∧ controller.flight = some request.id ∧
      Known controller request
  owner : ∀ copy, controller.owner = some copy → copy.object < controller.objects
  cache : Bounded controller.cache

/-- Numbers are not used twice, and a request that is still there is the one it was. -/
structure Moves (before after : Controller R D) : Prop where
  objects : before.objects ≤ after.objects
  generation : before.generation ≤ after.generation
  requests : ∀ later ∈ after.requests, (∃ request ∈ before.requests, request.Later later) ∨
    before.objects ≤ later.id

theorem Known.later {before after : Controller R D} {request later : Request R}
    (known : Known before request) (same : request.Later later)
    (owner : after.owner = before.owner) (objects : after.objects = before.objects)
    (generation : before.generation ≤ after.generation) : Known after later where
  id := by
    rw [same.id, objects]
    exact known.id
  object := by
    rw [same.owner, objects]
    exact known.object
  generation := by
    rw [same.generation]
    exact Nat.le_trans known.generation generation
  owner copy owned object := by
    rw [same.owner] at object ⊢
    rw [owner] at owned
    exact known.owner copy owned object

namespace Inv

variable {before after controller : Controller R D} {request : Request R}

theorem start : Inv (start : Controller R D) :=
  ⟨.inl ⟨rfl, rfl⟩, fun _ owned => (by cases owned), .empty⟩

theorem holds (inv : Inv controller) {id : Nat} (found : controller.request? id = some request) :
    controller.requests = [request] ∧ request.id = id ∧ Known controller request ∧
      Holds controller request := by
  rcases inv.requests with ⟨none_left, _⟩ | ⟨only, requests, flight, known⟩
  · rw [Controller.request?, none_left] at found
    cases found
  · rw [Controller.request?, requests, List.find?_singleton] at found
    obtain ⟨same, here⟩ := Option.ite_none_right_eq_some.mp found
    cases here
    exact ⟨requests, of_decide_eq_true same, known, request, requests, flight, rfl⟩

theorem continues (inv : Inv before) (requests : before.requests = [request])
    (rest : Continues request before after) (cache : Bounded after.cache) :
    Inv after ∧ Moves before after := by
  have known : Known before request := by
    rcases inv.requests with ⟨none_left, _⟩ | ⟨only, alone, _, known⟩
    · rw [none_left] at requests
      cases requests
    · rw [alone] at requests
      cases requests
      exact known
  have owner : ∀ copy, after.owner = some copy → copy.object < after.objects := by
    rw [rest.owner, rest.objects]
    exact inv.owner
  rcases rest.requests with ⟨none_left, ended⟩ | ⟨later, here, flight, kept⟩
  · refine ⟨⟨.inl ⟨none_left, ended⟩, owner, cache⟩,
      rest.objects.ge, rest.generation.ge, fun other member => ?_⟩
    rw [none_left] at member
    cases member
  · refine ⟨⟨.inr ⟨later, here, flight, known.later kept rest.owner rest.objects
      rest.generation.ge⟩, owner, cache⟩, rest.objects.ge, rest.generation.ge, fun other member => ?_⟩
    rw [here, List.mem_singleton] at member
    subst member
    exact .inl ⟨request, by rw [requests]; exact List.mem_singleton_self _, kept⟩

end Inv

/-- Why a context may be published: it is an entry of the cache for the address of the owner
and has not expired, or the answer to the request of the owner, in time. -/
inductive Licensed (before : Controller R D) (action : Action R) (after : Controller R D)
    (value : Snapshot D) : Bool → Prop
  | cached {copy : Copy R} : after.owner = some copy → value.address = copy.owner.address →
      before.cache.lookup value.address = some value →
      (action.readings 1).clock < value.expiresAt → Licensed before action after value true
  | fetched {request : Request R} : request ∈ before.requests →
      action.call = .read request.id .done → after.owner = some request.owner →
      before.owner = some request.owner → value.address = request.owner.owner.address →
      request.generation = before.generation → request.aborted = false →
      (action.readings 4).monotonic < request.deadline →
      (action.readings 4).isCurrentOwner = true → Licensed before action after value false

/-- Every context that a step publishes has a licence. -/
def Shows (before : Controller R D) (action : Action R) (after : Controller R D) : Prop :=
  ∃ shown, after.changes = shown ++ before.changes ∧
    ∀ value appCache, Phase.ready value appCache ∈ shown →
      Licensed before action after value appCache

theorem Quiet.shows {before after : Controller R D} (quiet : Quiet before after)
    (action : Action R) : Shows before action after := by
  obtain ⟨shown, changes, silent⟩ := quiet.shown
  refine ⟨shown, changes, fun value appCache member => ?_⟩
  cases silent _ member

/-- A step that shows one phase. -/
theorem shows_publish {before after : Controller R D} {phase : Phase D} {action : Action R}
    (changes : after.changes = phase :: before.changes)
    (licensed : ∀ value appCache, phase = .ready value appCache →
      Licensed before action after value appCache) : Shows before action after := by
  refine ⟨[phase], changes, fun value appCache member => ?_⟩
  exact licensed value appCache (List.mem_singleton.mp member).symm

theorem Controller.live_iff {controller : Controller R D} {request : Request R}
    {reading : Reading} : controller.live request reading = true ↔
      (controller.alive = true ∧ controller.generation = request.generation ∧
        (∃ copy, controller.owner = some copy ∧ copy.object = request.owner.object) ∧
        reading.isCurrentOwner = true) ∧
      request.aborted = false ∧ reading.monotonic < request.deadline := by
  simp [Controller.live, Controller.owns, and_assoc]

theorem Delivers.shows {before after : Controller R D} {request : Request R} {action : Action R}
    {value : Snapshot D} (delivers : Delivers request action.readings value before after)
    (known : Known before request) (here : request ∈ before.requests)
    (call : action.call = .read request.id .done) (owner : after.owner = before.owner) :
    Shows before action after := by
  obtain ⟨shown, changes, silent⟩ := delivers.shown
  obtain ⟨⟨_, generation, ⟨copy, owned, object⟩, current⟩, running, early⟩ :=
    Controller.live_iff.mp delivers.live
  cases known.owner copy owned object
  refine ⟨shown ++ [.ready value false], by simp [changes], fun other appCache member => ?_⟩
  rcases List.mem_append.mp member with earlier | last
  · cases silent _ earlier
  · cases List.mem_singleton.mp last
    exact .fetched here call (owner.trans owned) owned delivers.address generation.symm running
      early current

/-- The worker of a request, or its timer. -/
theorem worker_spec {controller : Controller R D} (inv : Inv controller) {request : Request R}
    {action : Action R} {after : Controller R D} (requests : controller.requests = [request])
    (known : Known controller request) (rest : Continues request controller after)
    (result : Quiet controller after ∨ ∃ value,
      Delivers request action.readings value controller after ∧
        action.call = .read request.id .done) :
    Inv after ∧ Moves controller after ∧ Shows controller action after := by
  rcases result with quiet | ⟨value, delivers, call⟩
  · have cache : Bounded after.cache := by
      rw [quiet.cache]
      exact inv.cache
    obtain ⟨kept, moves⟩ := inv.continues requests rest cache
    exact ⟨kept, moves, quiet.shows action⟩
  · have cache : Bounded after.cache := by
      rw [delivers.cache]
      split
      · exact inv.cache.trim_insert value
      · exact inv.cache
    obtain ⟨kept, moves⟩ := inv.continues requests rest cache
    have here : request ∈ controller.requests := by
      rw [requests]
      exact List.mem_singleton_self request
    exact ⟨kept, moves, delivers.shows known here call rest.owner⟩

/-! ### Calls of the page -/

section Calls

variable {controller : Controller R D} {reading : Reading}

/-- What a revocation leaves: the worker is still there, and its request is aborted. -/
theorem revoke_spec (inv : Inv controller) :
    Inv (controller.revoke reading) ∧ Moves controller (controller.revoke reading) ∧
      (controller.revoke reading).generation = controller.generation + 1 ∧
      (controller.revoke reading).changes = controller.changes ∧
      (controller.revoke reading).cache = controller.cache ∧
      (controller.revoke reading).owner = controller.owner ∧
      (controller.revoke reading).objects = controller.objects := by
  rcases inv.requests with ⟨none_left, ended⟩ | ⟨request, requests, flight, known⟩
  · have same : controller.revoke reading =
        { controller with generation := controller.generation + 1 } := by
      rw [Controller.revoke, ended]
      rfl
    rw [same]
    refine ⟨⟨.inl ⟨none_left, ended⟩, inv.owner, inv.cache⟩, ⟨Nat.le_refl _, Nat.le_succ _, ?_⟩,
      rfl, rfl, rfl, rfl, rfl⟩
    exact fun later member => .inl ⟨later, member, .refl later⟩
  · have found : controller.flight.bind controller.request? = some request := by
      rw [flight, Option.bind_some, Controller.request?, requests, List.find?_singleton]
      simp
    have later : request.Later ((request.abort.stopBody reading).settle false) :=
      (request.later_abort.trans (Request.later_stopBody _ reading)).trans
        (Request.later_settle _ false)
    have same : controller.revoke reading = { controller with
        generation := controller.generation + 1
        requests := [(request.abort.stopBody reading).settle false] } := by
      rw [Controller.revoke, found]
      simp only [Controller.store, requests, List.map_cons, List.map_nil, later.id, if_true]
    rw [same]
    refine ⟨⟨.inr ⟨_, rfl, by rw [later.id]; exact flight, known.later later rfl rfl
      (Nat.le_succ _)⟩, inv.owner, inv.cache⟩, ⟨Nat.le_refl _, Nat.le_succ _, ?_⟩,
      rfl, rfl, rfl, rfl, rfl⟩
    intro other member
    rw [List.mem_singleton] at member
    subst member
    exact .inl ⟨request, by rw [requests]; exact List.mem_singleton_self _, later⟩

theorem publish_spec {after : Controller R D} {action : Action R} {phase : Phase D}
    (inv : Inv after) (moves : Moves controller after) (changes : after.changes = controller.changes)
    (licensed : ∀ value appCache, phase = .ready value appCache →
      Licensed controller action (after.publish phase) value appCache) :
    Inv (after.publish phase) ∧ Moves controller (after.publish phase) ∧
      Shows controller action (after.publish phase) := by
  refine ⟨⟨?_, inv.owner, inv.cache⟩, ⟨moves.objects, moves.generation, moves.requests⟩,
    shows_publish (congrArg (phase :: ·) changes) licensed⟩
  rcases inv.requests with ended | ⟨request, requests, flight, known⟩
  · exact .inl ended
  · exact .inr ⟨request, requests, flight, known.id, known.object, known.generation, known.owner⟩

theorem unchanged_spec (inv : Inv controller) (action : Action R) :
    Inv controller ∧ Moves controller controller ∧ Shows controller action controller :=
  ⟨inv, ⟨Nat.le_refl _, Nat.le_refl _, fun later member => .inl ⟨later, member, .refl later⟩⟩,
    Quiet.shows (.of_eq rfl rfl) action⟩

theorem cancel_spec (inv : Inv controller) (action : Action R) :
    Inv (controller.cancel action.readings) ∧
      Moves controller (controller.cancel action.readings) ∧
      Shows controller action (controller.cancel action.readings) := by
  unfold Controller.cancel
  split
  · exact unchanged_spec inv action
  · obtain ⟨kept, moves, _, changes, _⟩ := @revoke_spec R D controller (action.readings 0) inv
    exact publish_spec kept moves changes fun _ _ other => by cases other

theorem destroy_spec (inv : Inv controller) (action : Action R) :
    Inv (controller.destroy action.readings) ∧
      Moves controller (controller.destroy action.readings) ∧
      Shows controller action (controller.destroy action.readings) := by
  unfold Controller.destroy
  split
  · exact unchanged_spec inv action
  · obtain ⟨kept, moves, _, changes, _⟩ := @revoke_spec R D controller (action.readings 0) inv
    refine ⟨⟨?_, fun _ owned => (by cases owned), .empty⟩,
      ⟨moves.objects, moves.generation, moves.requests⟩, [], changes,
      fun _ _ member => (by cases member)⟩
    rcases kept.requests with ended | ⟨request, requests, flight, known⟩
    · exact .inl ended
    · exact .inr ⟨request, requests, flight, known.id, known.object, known.generation,
        fun _ owned => by cases owned⟩

/-- An owner that was just copied is no owner of a request. -/
theorem own_spec (inv : Inv controller) (owner : Option (Owner R))
    {cache : Store String (Snapshot D)} (bounded : Bounded cache) :
    Inv { controller with
      owner := owner.map fun owner => ⟨controller.objects, owner⟩
      objects := controller.objects + 1
      cache } := by
  refine ⟨?_, ?_, bounded⟩
  · rcases inv.requests with ended | ⟨request, requests, flight, known⟩
    · exact .inl ended
    · refine .inr ⟨request, requests, flight, Nat.lt_succ_of_lt known.id,
        Nat.lt_succ_of_lt known.object, known.generation, ?_⟩
      intro copy owned object
      obtain ⟨_, _, rfl⟩ := Option.map_eq_some_iff.mp owned
      exact absurd object (Nat.ne_of_gt known.object)
  · intro copy owned
    obtain ⟨_, _, rfl⟩ := Option.map_eq_some_iff.mp owned
    exact Nat.lt_succ_self _

theorem setOwner_spec [DecidableEq R] (inv : Inv controller) (owner : Option (Owner R))
    (action : Action R) :
    Inv (controller.setOwner owner action.readings) ∧
      Moves controller (controller.setOwner owner action.readings) ∧
      Shows controller action (controller.setOwner owner action.readings) := by
  simp only [Controller.setOwner]
  split
  · exact unchanged_spec inv action
  · split
    · exact unchanged_spec inv action
    · generalize cleared_eq : (if sameScope (controller.owner.map Copy.owner) owner = true
        then controller else { controller with cache := ∅ }) = cleared
      have before : Inv cleared ∧ cleared.changes = controller.changes ∧
          cleared.objects = controller.objects ∧ cleared.generation = controller.generation ∧
          cleared.requests = controller.requests ∧
          ∀ address value, cleared.cache.lookup address = some value →
            controller.cache.lookup address = some value := by
        rw [← cleared_eq]
        split
        · exact ⟨inv, rfl, rfl, rfl, rfl, fun _ _ found => found⟩
        · refine ⟨⟨?_, inv.owner, .empty⟩, rfl, rfl, rfl, rfl, fun address _ found => ?_⟩
          · rcases inv.requests with ended | ⟨request, requests, flight, known⟩
            · exact .inl ended
            · exact .inr ⟨request, requests, flight, known.id, known.object, known.generation,
                known.owner⟩
          · cases (AList.lookup_empty address).symm.trans found
      obtain ⟨cleared_inv, cleared_changes, cleared_objects, cleared_generation, cleared_requests,
        entries⟩ := before
      obtain ⟨kept, moves, _, changes, cache, _, objects⟩ :=
        @revoke_spec R D cleared (action.readings 0) cleared_inv
      have moved : ∀ {after : Controller R D},
          after.requests = (cleared.revoke (action.readings 0)).requests →
          after.objects = controller.objects + 1 →
          after.generation = (cleared.revoke (action.readings 0)).generation →
          Moves controller after := by
        intro after requests grown generation
        refine ⟨by omega, ?_, fun later member => ?_⟩
        · rw [generation, ← cleared_generation]
          exact moves.generation
        · rw [requests] at member
          rw [← cleared_requests, ← cleared_objects]
          exact moves.requests later member
      cases owner with
      | none =>
          have owned := own_spec kept none kept.cache
          rw [objects, cleared_objects] at owned
          exact publish_spec owned (moved rfl rfl rfl) (changes.trans cleared_changes)
            fun _ _ other => by cases other
      | some owner =>
          obtain ⟨bounded, found⟩ := cached_spec kept.cache owner.address (action.readings 1)
          have owned := own_spec kept (some owner) bounded
          rw [objects, cleared_objects] at owned
          dsimp only
          cases saved : (Controller.cached owner.address (action.readings 1)
            (cleared.revoke (action.readings 0)).cache).2 with
          | none =>
              exact publish_spec owned (moved rfl rfl rfl) (changes.trans cleared_changes)
                fun _ _ other => by cases other
          | some value =>
              refine publish_spec owned (moved rfl rfl rfl) (changes.trans cleared_changes)
                fun other appCache same => ?_
              cases same
              obtain ⟨entry, fresh⟩ := found value saved
              have address := kept.cache.addressed _ _ entry
              rw [cache] at entry
              refine .cached rfl address ?_ fresh
              rw [address]
              exact entries _ _ entry

theorem Inv.grow (inv : Inv controller) :
    Inv { controller with objects := controller.objects + 1 } := by
  refine ⟨?_, fun copy owned => Nat.lt_succ_of_lt (inv.owner copy owned), inv.cache⟩
  rcases inv.requests with ended | ⟨request, requests, flight, known⟩
  · exact .inl ended
  · exact .inr ⟨request, requests, flight, Nat.lt_succ_of_lt known.id,
      Nat.lt_succ_of_lt known.object, known.generation, known.owner⟩

/-- A request that was just made is the only one. -/
theorem begin_spec {before : Controller R D} (inv : Inv controller)
    (idle : controller.flight = none) {copy : Copy R} (owned : controller.owner = some copy)
    (request : Request R) (id : request.id = controller.objects)
    (generation : request.generation = controller.generation) (owner : request.owner = copy)
    (readings : Readings) (action : Action R) (objects : before.objects = controller.objects)
    (same_generation : before.generation = controller.generation)
    (changes : before.changes = controller.changes) :
    let started := { controller with
      objects := controller.objects + 1
      flight := some request.id
      requests := request :: controller.requests }
    Inv ((started.publish .loading).begin request readings) ∧
      Moves before ((started.publish .loading).begin request readings) ∧
      Shows before action ((started.publish .loading).begin request readings) := by
  intro started
  have none_left : controller.requests = [] := by
    rcases inv.requests with ⟨none_left, _⟩ | ⟨_, _, flight, _⟩
    · exact none_left
    · rw [idle] at flight
      cases flight
  have alone : (started.publish .loading).requests = [request] := by
    change request :: controller.requests = [request]
    rw [none_left]
  have old := inv.owner copy owned
  have known : Known (started.publish .loading) request := by
    refine ⟨?_, ?_, generation.le, fun other holder _ => ?_⟩
    · rw [id]
      exact Nat.lt_succ_self _
    · rw [owner]
      exact Nat.lt_succ_of_lt old
    · rw [owner]
      exact Option.some.inj (holder.symm.trans owned)
  have begun : Inv (started.publish .loading) :=
    ⟨.inr ⟨request, alone, rfl, known⟩, fun other holder => Nat.lt_succ_of_lt
      (inv.owner other holder), inv.cache⟩
  obtain ⟨rest, quiet⟩ := Holds.begin readings alone rfl
  have cache : Bounded ((started.publish .loading).begin request readings).cache := by
    rw [quiet.cache]
    exact inv.cache
  obtain ⟨kept, moves⟩ := begun.continues alone rest cache
  refine ⟨kept, ⟨?_, ?_, fun later member => ?_⟩, ?_⟩
  · rw [objects]
    exact Nat.le_trans (Nat.le_succ _) moves.objects
  · rw [same_generation]
    exact moves.generation
  · rcases moves.requests later member with ⟨first, here, same⟩ | fresh
    · rw [alone, List.mem_singleton] at here
      subst here
      rw [same.id, id, objects]
      exact .inr (Nat.le_refl _)
    · rw [objects]
      exact .inr (Nat.le_trans (Nat.le_succ _) fresh)
  · obtain ⟨shown, shown_changes, silent⟩ := (Quiet.publish quiet rfl).shown
    refine ⟨shown, ?_, fun value appCache member => ?_⟩
    · rw [shown_changes, changes]
    · cases silent _ member

theorem query_spec (inv : Inv controller) (platform : Platform D) (timerThrows : Bool)
    (action : Action R) :
    Inv (controller.query platform timerThrows action.readings) ∧
      Moves controller (controller.query platform timerThrows action.readings) ∧
      Shows controller action (controller.query platform timerThrows action.readings) := by
  obtain ⟨_, still, _⟩ := unchanged_spec inv action
  unfold Controller.query
  split
  · exact unchanged_spec inv action
  · rename_i copy owned
    split
    · exact unchanged_spec inv action
    · split
      · exact publish_spec inv still rfl fun _ _ other => by cases other
      · split
        · exact unchanged_spec inv action
        · rename_i idle
          obtain ⟨bounded, found⟩ := cached_spec inv.cache copy.owner.address (action.readings 1)
          have moved : Inv { controller with
              cache := (Controller.cached copy.owner.address (action.readings 1)
                controller.cache).1 } := by
            refine ⟨?_, inv.owner, bounded⟩
            rcases inv.requests with ended | ⟨request, requests, flight, known⟩
            · exact .inl ended
            · exact .inr ⟨request, requests, flight, known.id, known.object, known.generation,
                known.owner⟩
          have moves : Moves controller { controller with
              cache := (Controller.cached copy.owner.address (action.readings 1)
                controller.cache).1 } :=
            ⟨still.objects, still.generation, still.requests⟩
          dsimp only
          split
          · rename_i value saved
            refine publish_spec moved moves rfl fun other appCache same => ?_
            cases same
            obtain ⟨entry, fresh⟩ := found value saved
            have address := inv.cache.addressed _ _ entry
            rw [← address] at entry
            exact .cached owned address entry fresh
          · split
            · exact publish_spec moved moves rfl fun _ _ other => by cases other
            · split
              · exact publish_spec moved moves rfl fun _ _ other => by cases other
              · split
                · refine publish_spec moved.grow ⟨Nat.le_succ _, moves.generation, moves.requests⟩ rfl
                    fun _ _ other => by cases other
                · exact begin_spec moved (Option.not_isSome_iff_eq_none.mp idle) owned _ rfl rfl rfl
                    action.readings action rfl rfl rfl

end Calls

/-! ### All steps -/

/-- The request that the platform calls back for. -/
def Call.worker : Call R → Option Nat
  | .answer id _ | .read id _ | .cleaned id | .fire id => some id
  | _ => none

section Steps

variable [DecidableEq R] {platform : Platform D} {controller after : Controller R D}
  {action : Action R} {id : Nat}

/-- A call back for a request reaches it, or finds nothing. -/
theorem worker_next (inv : Inv controller) (call : action.call.worker = some id)
    (step : next platform controller action = some after) :
    after = controller ∨ ∃ request : Request R, controller.requests = [request] ∧
      request.id = id ∧ Known controller request ∧ Continues request controller after ∧
      (Quiet controller after ∨ ∃ value,
        Delivers request action.readings value controller after ∧
          action.call = .read request.id .done) := by
  obtain ⟨called, readings⟩ := action
  cases called with
  | setOwner owner => cases call
  | cancel => cases call
  | destroy => cases call
  | query timerThrows => cases call
  | answer other outcome =>
      cases call
      obtain ⟨request, found, step⟩ := Option.bind_eq_some_iff.mp step
      obtain ⟨requests, same, known, holds⟩ := inv.holds found
      obtain ⟨_, step⟩ := Option.ite_none_right_eq_some.mp step
      cases step
      obtain ⟨rest, quiet⟩ := holds.answered readings outcome
      exact .inr ⟨request, requests, same, known, rest, .inl quiet⟩
  | read other outcome =>
      cases call
      obtain ⟨request, found, step⟩ := Option.bind_eq_some_iff.mp step
      obtain ⟨requests, same, known, holds⟩ := inv.holds found
      obtain ⟨_, step⟩ := Option.ite_none_right_eq_some.mp step
      cases step
      obtain ⟨rest, result⟩ := holds.received readings platform outcome
      refine .inr ⟨request, requests, same, known, rest, result.imp_right ?_⟩
      rintro ⟨value, delivers, rfl⟩
      exact ⟨value, delivers, by rw [same]⟩
  | cleaned other =>
      cases call
      obtain ⟨request, found, step⟩ := Option.bind_eq_some_iff.mp step
      obtain ⟨requests, same, known, holds⟩ := inv.holds found
      obtain ⟨_, step⟩ := Option.ite_none_right_eq_some.mp step
      cases step
      obtain ⟨rest, quiet⟩ := holds.release
      rw [same] at rest quiet
      exact .inr ⟨request, requests, same, known, rest, .inl quiet⟩
  | fire other =>
      cases call
      simp only [next] at step
      cases found : controller.request? id with
      | none =>
          rw [found] at step
          exact .inl (Option.some.inj step).symm
      | some request =>
          rw [found] at step
          cases step
          obtain ⟨requests, same, known, holds⟩ := inv.holds found
          obtain ⟨rest, quiet⟩ := holds.timeout
          exact .inr ⟨request, requests, same, known, rest, .inl quiet⟩

theorem next_spec (inv : Inv controller) (step : next platform controller action = some after) :
    Inv after ∧ Moves controller after ∧ Shows controller action after := by
  cases call : action.call.worker with
  | some id =>
      rcases worker_next inv call step with rfl | ⟨request, requests, _, known, rest, result⟩
      · exact unchanged_spec inv action
      · exact worker_spec inv requests known rest result
  | none =>
      obtain ⟨called, readings⟩ := action
      cases called with
      | setOwner owner =>
          cases step
          exact setOwner_spec inv owner ⟨.setOwner owner, readings⟩
      | cancel =>
          cases step
          exact cancel_spec inv ⟨.cancel, readings⟩
      | destroy =>
          cases step
          exact destroy_spec inv ⟨.destroy, readings⟩
      | query timerThrows =>
          cases step
          exact query_spec inv platform timerThrows ⟨.query timerThrows, readings⟩
      | answer other outcome => cases call
      | read other outcome => cases call
      | cleaned other => cases call
      | fire other => cases call

theorem inv_of_reachable (reachable : Reachable (next platform) start controller) :
    Inv controller := by
  induction reachable with
  | refl => exact .start
  | tail action _ step ih => exact (next_spec ih step).1

/-! ### Requests that were superseded -/

/-- The call takes the claim of the request that is under way: the owner changes, the page
cancels or leaves, or the time is over. -/
def Supersedes (controller : Controller R D) (action : Action R) : Prop :=
  match action.call with
  | .setOwner owner => controller.alive = true ∧
      ¬ (sameScope (controller.owner.map Copy.owner) owner = true ∧
        (controller.owner.map Copy.owner).map Owner.address = owner.map Owner.address)
  | .cancel | .destroy => controller.alive = true
  | .fire id => ∃ request ∈ controller.requests, request.id = id ∧ request.settled = none
  | _ => False

/-- A request of an earlier generation, or one that was aborted. -/
def Dead (id : Nat) (controller : Controller R D) : Prop :=
  id < controller.objects ∧ ∀ request ∈ controller.requests, request.id = id →
    request.generation < controller.generation ∨ request.aborted = true

omit [DecidableEq R] in
theorem Dead.moves (dead : Dead id controller) (moves : Moves controller after) : Dead id after := by
  refine ⟨Nat.lt_of_lt_of_le dead.1 moves.objects, fun later member same => ?_⟩
  rcases moves.requests later member with ⟨request, here, kept⟩ | fresh
  · rw [kept.id] at same
    rw [kept.generation]
    exact (dead.2 request here same).imp (Nat.lt_of_lt_of_le · moves.generation) kept.aborted
  · rw [same] at fresh
    exact absurd dead.1 (Nat.not_lt.mpr fresh)

omit [DecidableEq R] in
theorem generation_revoke (controller : Controller R D) (reading : Reading) :
    (controller.revoke reading).generation = controller.generation + 1 := by
  unfold Controller.revoke
  cases controller.flight.bind controller.request? <;> rfl

theorem generation_setOwner {owner : Option (Owner R)} (alive : controller.alive = true)
    (other : ¬ (sameScope (controller.owner.map Copy.owner) owner = true ∧
      (controller.owner.map Copy.owner).map Owner.address = owner.map Owner.address))
    (readings : Readings) :
    (controller.setOwner owner readings).generation = controller.generation + 1 := by
  simp only [Controller.setOwner]
  rw [if_neg (by rw [alive]; decide), if_neg (by simpa using other)]
  generalize cleared_eq : (if sameScope (controller.owner.map Copy.owner) owner = true
    then controller else { controller with cache := ∅ }) = cleared
  have same : cleared.generation = controller.generation := by
    rw [← cleared_eq]
    split <;> rfl
  rw [← same]
  cases owner with
  | none => exact generation_revoke _ _
  | some owner =>
      dsimp only
      split
      · exact generation_revoke _ _
      · exact generation_revoke _ _

theorem dead_of_supersedes (inv : Inv controller)
    (step : next platform controller action = some after) (supersedes : Supersedes controller action)
    {request : Request R} (here : request ∈ controller.requests) : Dead request.id after := by
  obtain ⟨only, requests, flight, known⟩ := inv.requests.resolve_left fun ended => by
    rw [ended.1] at here
    cases here
  rw [requests, List.mem_singleton] at here
  subst here
  obtain ⟨_, moves, _⟩ := next_spec inv step
  have of_generation (later : after.generation = controller.generation + 1) :
      Dead request.id after := by
    refine ⟨Nat.lt_of_lt_of_le known.id moves.objects, fun other member same => ?_⟩
    rcases moves.requests other member with ⟨first, here, kept⟩ | fresh
    · rw [requests, List.mem_singleton] at here
      subst here
      rw [kept.generation, later]
      exact .inl (Nat.lt_succ_of_le known.generation)
    · rw [same] at fresh
      exact absurd known.id (Nat.not_lt.mpr fresh)
  obtain ⟨called, readings⟩ := action
  cases called with
  | setOwner owner =>
      cases step
      exact of_generation (generation_setOwner supersedes.1 supersedes.2 readings)
  | cancel =>
      cases step
      refine of_generation ?_
      rw [Controller.cancel, if_neg (by rw [show controller.alive = true from supersedes]; decide)]
      exact generation_revoke _ _
  | destroy =>
      cases step
      refine of_generation ?_
      rw [Controller.destroy, if_neg (by rw [show controller.alive = true from supersedes]; decide)]
      exact generation_revoke _ _
  | query timerThrows => cases supersedes
  | answer other outcome => cases supersedes
  | read other outcome => cases supersedes
  | cleaned other => cases supersedes
  | fire other =>
      obtain ⟨request', here', rfl, running⟩ := supersedes
      rw [requests, List.mem_singleton] at here'
      subst here'
      have found : controller.request? request'.id = some request' := by
        rw [Controller.request?, requests, List.find?_singleton]
        simp
      have later := (request'.later_abort.trans (Request.later_stopBody _ (readings 0))).trans
        (Request.later_settle _ false)
      have fired : controller.timeout request' (readings 0) =
          (if controller.owns request' (readings 0) && !request'.aborted
            then controller.publish .timeout else controller,
            (request'.abort.stopBody (readings 0)).settle false) := by
        rw [Controller.timeout, if_neg (by simp [flight, running])]
      have stored : after.requests = [(request'.abort.stopBody (readings 0)).settle false] := by
        simp only [next, found, fired, Option.some.injEq] at step
        subst step
        split <;> simp [Controller.store, Controller.publish, requests, later.id]
      refine ⟨Nat.lt_of_lt_of_le known.id moves.objects, fun other member _ => .inr ?_⟩
      rw [stored, List.mem_singleton] at member
      subst member
      exact ((Request.later_stopBody _ _).trans (Request.later_settle _ _)).aborted rfl

theorem dead_of_reachable {later : Controller R D} (dead : Dead id controller)
    (inv : Inv controller) (reachable : Reachable (next platform) controller later) :
    Dead id later ∧ Inv later := by
  induction reachable with
  | refl => exact ⟨dead, inv⟩
  | tail action _ step ih =>
      obtain ⟨kept, moves, _⟩ := next_spec ih.2 step
      exact ⟨ih.1.moves moves, kept⟩

theorem quiet_of_dead (inv : Inv controller) (dead : Dead id controller)
    (call : action.call.worker = some id) (step : next platform controller action = some after) :
    Quiet controller after := by
  rcases worker_next inv call step with rfl | ⟨request, requests, rfl, _, _, result⟩
  · exact .of_eq rfl rfl
  · rcases result with quiet | ⟨value, delivers, _⟩
    · exact quiet
    · obtain ⟨⟨_, generation, _, _⟩, running, _⟩ := Controller.live_iff.mp delivers.live
      have here : request ∈ controller.requests := by
        rw [requests]
        exact List.mem_singleton_self request
      rcases dead.2 request here rfl with old | aborted
      · rw [generation] at old
        exact absurd old (Nat.lt_irrefl _)
      · cases running.symm.trans aborted

omit [DecidableEq R] in
theorem cached_empty (address : String) (reading : Reading) :
    Controller.cached address reading (∅ : Store String (Snapshot D)) = (∅, none) := by
  rw [Controller.cached, AList.lookup_empty]

omit [DecidableEq R] in
theorem cache_revoke (controller : Controller R D) (reading : Reading) :
    (controller.revoke reading).cache = controller.cache := by
  unfold Controller.revoke
  cases controller.flight.bind controller.request? <;> rfl

/-- Another scope starts with an empty cache. -/
theorem cache_setOwner {owner : Option (Owner R)} {readings : Readings}
    (alive : controller.alive = true)
    (other : sameScope (controller.owner.map Copy.owner) owner = false) :
    (controller.setOwner owner readings).cache = ∅ := by
  simp only [Controller.setOwner]
  rw [if_neg (by rw [alive]; decide), if_neg (by rw [other]; simp), if_neg (by rw [other]; decide)]
  cases owner with
  | none => exact cache_revoke _ _
  | some owner =>
      dsimp only
      rw [cache_revoke, cached_empty]
      rfl

end Steps

/-! ## A run -/

def samplePlatform : Platform Unit where
  url _ := some { protocol := "https:", username := "", password := "", search := "", hash := "",
                  hostname := "api.test" }
  decode _ := .ok { address := "1.1.1.1", expiresAt := 300000, document := () }
  isValid _ _ := true

def sampleOwner : Owner Nat where
  report := 0
  apiBaseURL := "https://api.test"
  authRevision := "0:false"
  token := ""
  address := "1.1.1.1"

def sampleCalls : List (Action Nat) :=
  [⟨.setOwner (some sampleOwner), fun _ => {}⟩, ⟨.query false, fun _ => {}⟩,
    ⟨.answer 1 (.response ⟨false, 200, none, true, .opened⟩), fun _ => {}⟩,
    ⟨.read 1 (.chunk [0x7b, 0x7d]), fun _ => {}⟩]

def sampleWaiting : Controller Nat Unit :=
  (execute (next samplePlatform) start sampleCalls).getD start

theorem sampleWaiting_reachable : Reachable (next samplePlatform) start sampleWaiting := by
  have run : (execute (next samplePlatform) (start : Controller Nat Unit) sampleCalls).isSome =
      true := by decide +kernel
  obtain ⟨waiting, reached⟩ := Option.isSome_iff_exists.mp run
  have same : sampleWaiting = waiting := by rw [sampleWaiting, reached, Option.getD_some]
  rw [same]
  exact .of_execute reached

def sampleDone : Action Nat := ⟨.read 1 .done, fun _ => {}⟩

def sampleReady : Controller Nat Unit :=
  (next samplePlatform sampleWaiting sampleDone).getD start

end CheckNetwork.Frontend.Context
