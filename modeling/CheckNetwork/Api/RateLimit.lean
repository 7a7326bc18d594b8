import CheckNetwork.Go.Text
import CheckNetwork.Go.Entries
import CheckNetwork.Transition.Window
import Mathlib.Algebra.Order.Group.Int

/-!
# Requests per client and minute

A server in public mode counts the requests of each client in fixed windows of
one minute, for a bounded number of clients.
-/

namespace CheckNetwork.Api

open CheckNetwork.Go CheckNetwork.Transition

/-- `time.Minute`. -/
def minute : Int := 60000000000

structure ClientWindow where
  started : Time
  count : Nat
  deriving DecidableEq

/-- The clients of a server and their windows. -/
abbrev Clients := List (GoString × ClientWindow)

/-- The limits of a server in public mode, which `NewServer` demands. -/
structure RateLimits where
  rateLimit : Nat
  maxRateClients : Nat
  rateLimit_pos : 0 < rateLimit
  maxRateClients_pos : 0 < maxRateClients

/-- `s.clients[client] = window`, of a client that is there. -/
def setWindow (client : GoString) (window : ClientWindow) (clients : Clients) : Clients :=
  clients.map fun entry => if entry.1 = client then (client, window) else entry

/-- `delete`, of the windows that have passed. -/
def dropPassed (now : Time) (clients : Clients) : Clients :=
  clients.filter fun entry => now.sub entry.2.started < minute

/-- Whether a client is allowed, after which delay it may retry, and the clients
afterwards. -/
def allowClient (limits : RateLimits) (clients : Clients) (client : GoString) (now : Time) :
    (Bool × Int) × Clients :=
  let clients := dropPassed now clients
  match clients.lookup client with
  | none =>
      if limits.maxRateClients ≤ clients.length then ((false, minute), clients)
      else ((true, 0), clients ++ [(client, ⟨now, 1⟩)])
  | some window =>
      if limits.rateLimit ≤ window.count then ((false, minute - now.sub window.started), clients)
      else ((true, 0), setWindow client { window with count := window.count + 1 } clients)

/-! ## Runs -/

structure Arrival where
  client : GoString
  now : Time
  deriving DecidableEq

structure Outcome where
  arrival : Arrival
  allowed : Bool
  retryAfter : Int
  deriving DecidableEq

/-- One request, after the outcomes of those before. -/
def answer (limits : RateLimits) (state : Clients × List Outcome) (arrival : Arrival) :
    Clients × List Outcome :=
  let answer := allowClient limits state.1 arrival.client arrival.now
  (answer.2, state.2 ++ [⟨arrival, answer.1.1, answer.1.2⟩])

/-- The clients and the outcomes that requests leave. -/
def answerAll (limits : RateLimits) (arrivals : List Arrival) : Clients × List Outcome :=
  arrivals.foldl (answer limits) ([], [])

/-- Requests at times that do not decrease. -/
abbrev Ordered (arrivals : List Arrival) : Prop :=
  arrivals.Pairwise fun earlier later => earlier.now.nanoseconds ≤ later.now.nanoseconds

/-- When the requests of a client were allowed. -/
def allowedTimes (outcomes : List Outcome) (client : GoString) : List Int :=
  (outcomes.filter fun outcome => outcome.allowed ∧ outcome.arrival.client = client).map
    fun outcome => outcome.arrival.now.nanoseconds

/-- The windows of a client, the newest first. -/
def clientWindows (outcomes : List Outcome) (client : GoString) : List (Window Int) :=
  Window.windows minute (allowedTimes outcomes client)

/-- A recorded window counts the requests of a window of the client. -/
def ClientWindow.Records (recorded : ClientWindow) (window : Window Int) : Prop :=
  recorded.started.nanoseconds = window.started ∧ recorded.count = window.count

/-! ## Clients that are there -/

section Table

variable {clients : Clients} {client other : GoString} {window : ClientWindow}

@[simp]
theorem keys_setWindow : (setWindow client window clients).map Prod.fst = clients.map Prod.fst := by
  rw [setWindow, List.map_map]
  apply List.map_congr_left
  intro entry _
  change (if entry.1 = client then (client, window) else entry).1 = entry.1
  split
  · rename_i same
    exact same.symm
  · rfl

theorem mem_setWindow {entry : GoString × ClientWindow}
    (member : entry ∈ setWindow client window clients) :
    entry = (client, window) ∨ (entry ∈ clients ∧ entry.1 ≠ client) := by
  obtain ⟨old, inside, rfl⟩ := List.mem_map.mp member
  split
  · exact .inl rfl
  · rename_i different
    exact .inr ⟨inside, different⟩

/-- Other clients keep their windows. -/
theorem mem_setWindow_of_ne {entry : GoString × ClientWindow} (member : entry ∈ clients)
    (different : entry.1 ≠ client) : entry ∈ setWindow client window clients :=
  List.mem_map.mpr ⟨entry, member, if_neg different⟩

theorem mem_setWindow_self {old : ClientWindow} (member : (client, old) ∈ clients) :
    (client, window) ∈ setWindow client window clients :=
  List.mem_map.mpr ⟨(client, old), member, if_pos rfl⟩

theorem mem_dropPassed {now : Time} {entry : GoString × ClientWindow} :
    entry ∈ dropPassed now clients ↔
      entry ∈ clients ∧ now.nanoseconds - entry.2.started.nanoseconds < minute := by
  rw [dropPassed, List.mem_filter, decide_eq_true_iff, Time.sub_lt_iff (by decide) (by decide)]

theorem nodup_dropPassed {now : Time} (distinct : (clients.map Prod.fst).Nodup) :
    ((dropPassed now clients).map Prod.fst).Nodup :=
  (List.filter_sublist.map Prod.fst).nodup distinct

end Table

/-! ## Invariant -/

/-- The clients that are tracked, against the requests that were allowed until
`now`. -/
structure Tracks (limits : RateLimits) (clients : Clients) (outcomes : List Outcome) (now : Int) :
    Prop where
  distinct : (clients.map Prod.fst).Nodup
  few : clients.length ≤ limits.maxRateClients
  past : ∀ client, ∀ time ∈ allowedTimes outcomes client, time ≤ now
  recorded : ∀ entry ∈ clients, ∃ newest older,
    clientWindows outcomes entry.1 = newest :: older ∧ entry.2.Records newest
  kept : ∀ client newest older, clientWindows outcomes client = newest :: older →
    now - newest.started < minute → client ∈ clients.map Prod.fst
  limited : ∀ client, ∀ window ∈ clientWindows outcomes client, window.count ≤ limits.rateLimit

section Invariant

variable {limits : RateLimits} {clients : Clients} {outcomes : List Outcome} {now later : Int}
  {arrival : Arrival} {client : GoString}

theorem allowedTimes_append (outcome : Outcome) (client : GoString) :
    allowedTimes (outcomes ++ [outcome]) client = allowedTimes outcomes client ++
      if outcome.allowed ∧ outcome.arrival.client = client
        then [outcome.arrival.now.nanoseconds] else [] := by
  rw [allowedTimes, List.filter_append, List.map_append, allowedTimes]
  congr 1
  by_cases counted : outcome.allowed ∧ outcome.arrival.client = client
  · rw [if_pos counted]
    simp [counted]
  · rw [if_neg counted]
    simpa using counted

/-- Requests that are refused, and requests of others, leave a window alone. -/
theorem clientWindows_append_of_not {outcome : Outcome}
    (uncounted : ¬ (outcome.allowed ∧ outcome.arrival.client = client)) :
    clientWindows (outcomes ++ [outcome]) client = clientWindows outcomes client := by
  rw [clientWindows, allowedTimes_append, if_neg uncounted, List.append_nil, clientWindows]

theorem clientWindows_append_of_allowed (retryAfter : Int) :
    clientWindows (outcomes ++ [⟨arrival, true, retryAfter⟩]) arrival.client =
      Window.extend minute (clientWindows outcomes arrival.client) arrival.now.nanoseconds := by
  rw [clientWindows, allowedTimes_append, if_pos ⟨rfl, rfl⟩, Window.windows_append, clientWindows]

theorem Tracks.mono (tracks : Tracks limits clients outcomes now) (le : now ≤ later) :
    Tracks limits clients outcomes later :=
  { tracks with
    past := fun client time member => (tracks.past client time member).trans le
    kept := fun client newest older formed running => tracks.kept client newest older formed
      (lt_of_le_of_lt (Int.sub_le_sub_right le _) running) }

/-- Windows that have passed are no longer tracked. -/
theorem Tracks.dropPassed {time : Time} (tracks : Tracks limits clients outcomes time.nanoseconds) :
    Tracks limits (dropPassed time clients) outcomes time.nanoseconds where
  distinct := nodup_dropPassed tracks.distinct
  few := (List.length_filter_le _ _).trans tracks.few
  past := tracks.past
  recorded entry member := tracks.recorded entry (mem_dropPassed.mp member).1
  kept client newest older formed running := by
    obtain ⟨entry, member, rfl⟩ := List.mem_map.mp (tracks.kept client newest older formed running)
    obtain ⟨newest', older', formed', started_eq, _⟩ := tracks.recorded entry member
    cases formed.symm.trans formed'
    rw [← started_eq] at running
    exact List.mem_map.mpr ⟨entry, mem_dropPassed.mpr ⟨member, running⟩, rfl⟩
  limited := tracks.limited

theorem tracks_refused (tracks : Tracks limits clients outcomes now) (retryAfter : Int) :
    Tracks limits clients (outcomes ++ [⟨arrival, false, retryAfter⟩]) now := by
  have same : ∀ client, clientWindows (outcomes ++ [⟨arrival, false, retryAfter⟩]) client =
      clientWindows outcomes client := fun client =>
    clientWindows_append_of_not fun counted => Bool.false_ne_true counted.1
  refine ⟨tracks.distinct, tracks.few, ?_, ?_, ?_, ?_⟩
  · intro client time member
    rw [allowedTimes_append, if_neg fun counted => Bool.false_ne_true counted.1,
      List.append_nil] at member
    exact tracks.past client time member
  · intro entry member
    rw [same]
    exact tracks.recorded entry member
  · intro client newest older formed
    rw [same] at formed
    exact tracks.kept client newest older formed
  · intro client
    rw [same]
    exact tracks.limited client

/-- An allowed request of a client, after which its window is recorded. -/
theorem tracks_allowed {after : Clients} (window : ClientWindow) (retryAfter : Int)
    (tracks : Tracks limits clients outcomes arrival.now.nanoseconds)
    (distinct : (after.map Prod.fst).Nodup) (few : after.length ≤ limits.maxRateClients)
    (there : (arrival.client, window) ∈ after)
    (before : ∀ entry ∈ after, entry = (arrival.client, window) ∨
      (entry ∈ clients ∧ entry.1 ≠ arrival.client))
    (others : ∀ entry ∈ clients, entry.1 ≠ arrival.client → entry ∈ after)
    {newest : Window Int} {older : List (Window Int)}
    (extended : Window.extend minute (clientWindows outcomes arrival.client)
      arrival.now.nanoseconds = newest :: older)
    (records : window.Records newest) (count_le : newest.count ≤ limits.rateLimit)
    (older_le : ∀ window ∈ older, window ∈ clientWindows outcomes arrival.client) :
    Tracks limits after (outcomes ++ [⟨arrival, true, retryAfter⟩]) arrival.now.nanoseconds := by
  have same : ∀ other ≠ arrival.client,
      clientWindows (outcomes ++ [⟨arrival, true, retryAfter⟩]) other =
        clientWindows outcomes other := fun other different =>
    clientWindows_append_of_not fun counted => different counted.2.symm
  have own : clientWindows (outcomes ++ [⟨arrival, true, retryAfter⟩]) arrival.client =
      newest :: older := by rw [clientWindows_append_of_allowed, extended]
  refine ⟨distinct, few, ?_, ?_, ?_, ?_⟩
  · intro other time member
    rw [allowedTimes_append, List.mem_append] at member
    rcases member with member | member
    · exact tracks.past other time member
    · split at member
      · exact le_of_eq (List.mem_singleton.mp member)
      · cases member
  · intro entry member
    rcases before entry member with rfl | ⟨old, different⟩
    · exact ⟨newest, older, own, records⟩
    · rw [same entry.1 different]
      exact tracks.recorded entry old
  · intro other newest' older' formed running
    by_cases mine : other = arrival.client
    · rw [mine]
      exact List.mem_map.mpr ⟨_, there, rfl⟩
    · rw [same other mine] at formed
      obtain ⟨entry, member, rfl⟩ := List.mem_map.mp
        (tracks.kept other newest' older' formed running)
      exact List.mem_map.mpr ⟨entry, others entry member mine, rfl⟩
  · intro other window member
    by_cases mine : other = arrival.client
    · rw [mine, own] at member
      rcases List.mem_cons.mp member with rfl | inside
      · exact count_le
      · exact tracks.limited _ window (older_le window inside)
    · rw [same other mine] at member
      exact tracks.limited other window member

/-- One request keeps the record right. -/
theorem tracks_answer (tracks : Tracks limits clients outcomes now)
    (ordered : now ≤ arrival.now.nanoseconds) :
    Tracks limits (answer limits (clients, outcomes) arrival).1
      (answer limits (clients, outcomes) arrival).2 arrival.now.nanoseconds := by
  have fresh := (tracks.mono ordered).dropPassed
  have running : ∀ entry ∈ dropPassed arrival.now clients,
      arrival.now.nanoseconds - entry.2.started.nanoseconds < minute :=
    fun entry member => (mem_dropPassed.mp member).2
  unfold answer allowClient
  generalize dropPassed arrival.now clients = current at fresh running ⊢
  dsimp only
  cases found : current.lookup arrival.client with
  | none =>
      have absent := Entries.notMem_of_lookup_eq_none found
      dsimp only
      split
      · exact tracks_refused fresh _
      · rename_i room
        have extended : Window.extend minute (clientWindows outcomes arrival.client)
            arrival.now.nanoseconds =
              ⟨arrival.now.nanoseconds, []⟩ :: clientWindows outcomes arrival.client := by
          cases formed : clientWindows outcomes arrival.client with
          | nil => rfl
          | cons newest older =>
              have passed : minute ≤ arrival.now.nanoseconds - newest.started := by
                by_contra early
                exact absent (fresh.kept _ newest older formed (not_le.mp early))
              exact if_pos passed
        apply tracks_allowed ⟨arrival.now, 1⟩ 0 fresh _ _ _ _ _ extended ⟨rfl, rfl⟩
          limits.rateLimit_pos
        · exact fun window member => member
        · rw [List.map_append, List.nodup_append]
          refine ⟨fresh.distinct, by simp, ?_⟩
          rintro other present own single rfl
          rw [List.map_cons, List.map_nil, List.mem_singleton] at single
          rw [single] at present
          exact absent present
        · rw [List.length_append]
          exact not_le.mp room
        · exact List.mem_append_right _ List.mem_cons_self
        · intro entry member
          rcases List.mem_append.mp member with old | new
          · refine .inr ⟨old, ?_⟩
            rintro same
            exact absent (List.mem_map.mpr ⟨entry, old, same⟩)
          · exact .inl (List.mem_singleton.mp new)
        · exact fun entry member _ => List.mem_append_left _ member
  | some window =>
      have member := Entries.mem_of_lookup found
      dsimp only
      split
      · exact tracks_refused fresh _
      · rename_i below
        obtain ⟨newest, older, formed, started_eq, count_eq⟩ := fresh.recorded _ member
        have live := running _ member
        dsimp only at started_eq count_eq live
        rw [started_eq] at live
        have extended : Window.extend minute (clientWindows outcomes arrival.client)
            arrival.now.nanoseconds =
              ⟨newest.started, newest.later ++ [arrival.now.nanoseconds]⟩ :: older := by
          rw [formed]
          exact if_neg (not_le.mpr live)
        have count_succ : window.count + 1 =
            (⟨newest.started, newest.later ++ [arrival.now.nanoseconds]⟩ : Window Int).count := by
          rw [count_eq]
          simp [Window.count, Window.times]
        apply tracks_allowed ⟨window.started, window.count + 1⟩ 0 fresh _ _ _ _ _ extended
          ⟨started_eq, count_succ⟩
        · rw [← count_succ]
          exact not_le.mp below
        · intro window inside
          rw [formed]
          exact List.mem_cons_of_mem _ inside
        · rw [keys_setWindow]
          exact fresh.distinct
        · rw [setWindow, List.length_map]
          exact fresh.few
        · exact mem_setWindow_self member
        · exact fun entry => mem_setWindow
        · exact fun entry => mem_setWindow_of_ne

theorem answerAll_append (arrivals : List Arrival) (arrival : Arrival) :
    answerAll limits (arrivals ++ [arrival]) = answer limits (answerAll limits arrivals) arrival := by
  rw [answerAll, List.foldl_append]
  rfl

theorem tracks_answerAll {arrivals : List Arrival} (ordered : Ordered arrivals)
    (until_now : ∀ arrival ∈ arrivals, arrival.now.nanoseconds ≤ now) :
    Tracks limits (answerAll limits arrivals).1 (answerAll limits arrivals).2 now := by
  induction arrivals using List.reverseRecOn generalizing now with
  | nil =>
      exact ⟨List.nodup_nil, Nat.zero_le _, fun _ _ member => (by cases member),
        fun _ member => (by cases member), fun _ _ _ formed => (by cases formed),
        fun _ _ member => (by cases member)⟩
  | append_singleton arrivals arrival ih =>
      obtain ⟨earlier, _, before⟩ := List.pairwise_append.mp ordered
      have tracks := ih earlier fun other member => before other member arrival (by simp)
      rw [answerAll_append]
      exact (tracks_answer tracks (le_refl _)).mono (until_now arrival (by simp))

theorem Tracks.started_le (tracks : Tracks limits clients outcomes now)
    {entry : GoString × ClientWindow} (member : entry ∈ clients) :
    entry.2.started.nanoseconds ≤ now := by
  obtain ⟨newest, older, formed, started_eq, _⟩ := tracks.recorded entry member
  rw [started_eq]
  apply tracks.past entry.1
  apply Window.mem_times_of_mem_windows newest
  · rw [← clientWindows, formed]
    exact List.mem_cons_self
  · exact List.mem_cons_self

theorem retryAfter_allowClient {time : Time} (tracks : Tracks limits clients outcomes time.nanoseconds)
    (refused : (allowClient limits clients client time).1.1 = false) :
    0 < (allowClient limits clients client time).1.2 ∧
      (allowClient limits clients client time).1.2 ≤ minute := by
  have fresh := tracks.dropPassed
  have running : ∀ entry ∈ CheckNetwork.Api.dropPassed time clients,
      time.nanoseconds - entry.2.started.nanoseconds < minute :=
    fun entry member => (mem_dropPassed.mp member).2
  unfold allowClient at refused ⊢
  generalize CheckNetwork.Api.dropPassed time clients = current at fresh running refused ⊢
  dsimp only at refused ⊢
  cases found : current.lookup client with
  | none =>
      rw [found] at refused
      dsimp only at refused ⊢
      split at refused
      · rename_i full
        rw [if_pos full]
        exact ⟨(by decide : 0 < minute), le_refl minute⟩
      · cases refused
  | some window =>
      rw [found] at refused
      dsimp only at refused ⊢
      split at refused
      · rename_i full
        rw [if_pos full]
        have started_le := fresh.started_le (Entries.mem_of_lookup found)
        have live := running _ (Entries.mem_of_lookup found)
        dsimp only at started_le live ⊢
        have short : minute ≤ Time.maxDuration := by decide
        rw [Time.sub_eq started_le (live.le.trans short)]
        omega
      · cases refused

/-- A refused request may retry within a minute. -/
theorem retryAfter_answerAll {arrivals : List Arrival} (ordered : Ordered arrivals) :
    ∀ outcome ∈ (answerAll limits arrivals).2, outcome.allowed = false →
      0 < outcome.retryAfter ∧ outcome.retryAfter ≤ minute := by
  induction arrivals using List.reverseRecOn with
  | nil => exact fun _ member => (by cases member)
  | append_singleton arrivals arrival ih =>
      obtain ⟨earlier, _, before⟩ := List.pairwise_append.mp ordered
      have tracks : Tracks limits (answerAll limits arrivals).1 (answerAll limits arrivals).2
          arrival.now.nanoseconds :=
        tracks_answerAll earlier fun other member => before other member arrival (by simp)
      rw [answerAll_append]
      intro outcome member refused
      rcases List.mem_append.mp member with old | new
      · exact ih earlier outcome old refused
      · rw [List.mem_singleton.mp new] at refused ⊢
        exact retryAfter_allowClient tracks refused

theorem ordered_allowedTimes {arrivals : List Arrival} (ordered : Ordered arrivals)
    (client : GoString) :
    (allowedTimes (answerAll limits arrivals).2 client).Pairwise (· ≤ ·) := by
  induction arrivals using List.reverseRecOn with
  | nil => exact .nil
  | append_singleton arrivals arrival ih =>
      obtain ⟨earlier, _, before⟩ := List.pairwise_append.mp ordered
      have tracks : Tracks limits (answerAll limits arrivals).1 (answerAll limits arrivals).2
          arrival.now.nanoseconds :=
        tracks_answerAll earlier fun other member => before other member arrival (by simp)
      rw [answerAll_append, answer, allowedTimes_append, List.pairwise_append]
      refine ⟨ih earlier, ?_, ?_⟩
      · split
        · exact List.pairwise_singleton _ _
        · exact .nil
      · intro time member last inside
        split at inside
        · rw [List.mem_singleton.mp inside]
          exact tracks.past client time member
        · cases inside

end Invariant

/-- The limiter keeps few clients, allows few requests of each window and of each
minute, forgets no window that is running, and says when to retry. -/
theorem rateLimit_safe (limits : RateLimits) (arrivals : List Arrival) (ordered : Ordered arrivals) :
    (answerAll limits arrivals).1.length ≤ limits.maxRateClients ∧
    (∀ client, ∀ window ∈ clientWindows (answerAll limits arrivals).2 client,
      window.count ≤ limits.rateLimit) ∧
    (∀ client start, (allowedTimes (answerAll limits arrivals).2 client).countP
      (fun time => start ≤ time ∧ time ≤ start + minute) ≤ 2 * limits.rateLimit) ∧
    (∀ last ∈ arrivals.getLast?, ∀ client newest older,
      clientWindows (answerAll limits arrivals).2 client = newest :: older →
        last.now.nanoseconds - newest.started < minute →
          ∃ window, (answerAll limits arrivals).1.lookup client = some window ∧
            window.Records newest) ∧
    ∀ outcome ∈ (answerAll limits arrivals).2, outcome.allowed = false →
      0 < outcome.retryAfter ∧ outcome.retryAfter ≤ minute := by
  have tracked : ∃ now, Tracks limits (answerAll limits arrivals).1 (answerAll limits arrivals).2 now ∧
      ∀ last ∈ arrivals.getLast?, now = last.now.nanoseconds := by
    cases arrivals using List.reverseRecOn with
    | nil => exact ⟨0, tracks_answerAll ordered (by simp), by simp⟩
    | append_singleton arrivals arrival =>
        refine ⟨arrival.now.nanoseconds, tracks_answerAll ordered ?_, by simp⟩
        intro other member
        rcases List.mem_append.mp member with old | new
        · exact (List.pairwise_append.mp ordered).2.2 other old arrival (by simp)
        · rw [List.mem_singleton.mp new]
  obtain ⟨now, tracks, last_eq⟩ := tracked
  refine ⟨tracks.few, tracks.limited, ?_, ?_, retryAfter_answerAll ordered⟩
  · intro client start
    rw [Window.countP_windows]
    have spaced := Window.spaced_windows (by decide : 0 < minute)
      (@ordered_allowedTimes limits _ ordered client)
    exact Window.countP_le_twice spaced (tracks.limited client) fun time => of_decide_eq_true
  · intro last isLast client newest older formed running
    rw [← last_eq last isLast] at running
    obtain ⟨⟨client, window⟩, member, rfl⟩ := List.mem_map.mp
      (tracks.kept client newest older formed running)
    obtain ⟨newest', older', formed', records⟩ := tracks.recorded _ member
    cases formed.symm.trans formed'
    exact ⟨window, Entries.lookup_of_mem tracks.distinct member, records⟩

/-- One client, one request a minute. -/
def sampleLimits : RateLimits := ⟨1, 1, by decide, by decide⟩

/-- A client that asks twice in a minute and once more after it. -/
def sampleArrivals : List Arrival :=
  [0, 59999999999, 60000000000].map fun time => ⟨GoString.ofString "192.0.2.1", ⟨time, 0⟩⟩

theorem rateLimit_safe_sample :
    ((answerAll sampleLimits sampleArrivals).2.map fun outcome =>
      (outcome.allowed, outcome.retryAfter)) = [(true, 0), (false, 1), (true, 0)] ∧
    (answerAll sampleLimits sampleArrivals).1.length ≤ 1 :=
  ⟨by decide, (rateLimit_safe sampleLimits sampleArrivals (by decide)).1⟩

end CheckNetwork.Api
