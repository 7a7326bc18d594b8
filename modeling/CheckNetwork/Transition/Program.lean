import CheckNetwork.Transition.Core

/-!
# Programs and what answers them

A program performs operations and goes on with the answers of its environment.  A contract
says which operations a program may perform, in a ghost state that the operations move, and
how the environment answers them.  The file supplies the rules by which a program meets a
contract, what this says about its runs, and what it says about any number of programs that
take turns on a shared state.  A handler is a program with local variables that may panic.
-/

namespace CheckNetwork.Transition

universe u

/-- A program that performs operations of `O`, each answered by a value of `R`. -/
inductive Program (O : Type u) (R : O → Type u) (A : Type u)
  | done (value : A)
  | call (op : O) (next : R op → Program O R A)

variable {O : Type u} {R : O → Type u} {A B G : Type u}

/-- An operation and its answer. -/
abbrev Event (O : Type u) (R : O → Type u) := Sigma R

/-- What a program may do and what its environment then answers. -/
structure Contract (O : Type u) (R : O → Type u) (G : Type u) where
  may : G → O → Prop
  answers : G → (op : O) → R op → Prop
  after : G → (op : O) → R op → G

namespace Program

def bind : Program O R A → (A → Program O R B) → Program O R B
  | .done value, after => after value
  | .call op next, after => .call op fun answer => (next answer).bind after

/-- Only allowed operations are performed, and a value that is returned satisfies `post`. -/
def Meets (contract : Contract O R G) (post : A → G → Prop) : Program O R A → G → Prop
  | .done value, ghost => post value ghost
  | .call op next, ghost => contract.may ghost op ∧ ∀ answer, contract.answers ghost op answer →
      (next answer).Meets contract post (contract.after ghost op answer)

/-- What is left of a program after some of its operations. -/
inductive Leads : Program O R A → List (Event O R) → Program O R A → Prop
  | refl (program : Program O R A) : Leads program [] program
  | call {op : O} {next : R op → Program O R A} {answer : R op} {events : List (Event O R)}
      {rest : Program O R A} :
      Leads (next answer) events rest → Leads (.call op next) (⟨op, answer⟩ :: events) rest

variable {contract : Contract O R G} {post weaker : A → G → Prop} {program rest : Program O R A}
  {ghost : G}

theorem meets_bind {after : A → Program O R B} {post : B → G → Prop} :
    (program.bind after).Meets contract post ghost ↔
      program.Meets contract (fun value ghost => (after value).Meets contract post ghost) ghost := by
  induction program generalizing ghost with
  | done value => rfl
  | call op next ih =>
      simp only [bind, Meets]
      exact and_congr_right fun _ => forall_congr' fun answer => imp_congr_right fun _ => ih answer

theorem Meets.mono (met : program.Meets contract post ghost)
    (weaken : ∀ value ghost, post value ghost → weaker value ghost) :
    program.Meets contract weaker ghost := by
  induction program generalizing ghost with
  | done value => exact weaken value ghost met
  | call op next ih =>
      exact ⟨met.1, fun answer given => ih answer (met.2 answer given)⟩

/-- A whole run, for an environment that answers an operation always alike. -/
def play (oracle : (op : O) → R op) : Program O R A → List (Event O R) × A
  | .done value => ([], value)
  | .call op next =>
      let (events, value) := (next (oracle op)).play oracle
      (⟨op, oracle op⟩ :: events, value)

theorem leads_play (oracle : (op : O) → R op) (program : Program O R A) :
    program.Leads (program.play oracle).1 (.done (program.play oracle).2) := by
  induction program with
  | done value => exact .refl _
  | call op next ih => exact .call (ih (oracle op))

theorem forall_play (property : (op : O) → R op → Prop) {oracle : (op : O) → R op}
    (holds : ∀ op, property op (oracle op)) (program : Program O R A) :
    ∀ event ∈ (program.play oracle).1, property event.1 event.2 := by
  induction program with
  | done value => exact nofun
  | call op next ih =>
      intro event member
      rcases List.mem_cons.mp member with rfl | later
      · exact holds op
      · exact ih (oracle op) event later

end Program

namespace Contract

variable (contract : Contract O R G)

/-- The ghost state after some operations. -/
def moved (ghost : G) (events : List (Event O R)) : G :=
  events.foldl (fun ghost event => contract.after ghost event.1 event.2) ghost

/-- The environment gave the answers that it may give. -/
def Conforms : G → List (Event O R) → Prop
  | _, [] => True
  | ghost, event :: events => contract.answers ghost event.1 event.2 ∧
      Conforms (contract.after ghost event.1 event.2) events

/-- The program did what it may do. -/
def Permits : G → List (Event O R) → Prop
  | _, [] => True
  | ghost, event :: events => contract.may ghost event.1 ∧
      Permits (contract.after ghost event.1 event.2) events

variable {contract}

/-- Each operation was allowed by what was done before it. -/
theorem Permits.at {ghost : G} {before after : List (Event O R)} {op : O} {answer : R op}
    (permits : contract.Permits ghost (before ++ ⟨op, answer⟩ :: after)) :
    contract.Permits ghost before ∧ contract.may (contract.moved ghost before) op := by
  induction before generalizing ghost with
  | nil => exact ⟨trivial, permits.1⟩
  | cons event before ih =>
      obtain ⟨may, later⟩ := permits
      obtain ⟨earlier, here⟩ := ih later
      exact ⟨⟨may, earlier⟩, here⟩

end Contract

/-- A program that meets its contract did only what it may do, and what is left of it still
meets the contract. -/
theorem Program.Meets.leads {contract : Contract O R G} {post : A → G → Prop}
    {program rest : Program O R A} {ghost : G} {events : List (Event O R)}
    (met : program.Meets contract post ghost) (led : program.Leads events rest)
    (conforms : contract.Conforms ghost events) :
    contract.Permits ghost events ∧ rest.Meets contract post (contract.moved ghost events) := by
  induction led generalizing ghost with
  | refl program => exact ⟨trivial, met⟩
  | call _ ih =>
      obtain ⟨given, later⟩ := conforms
      obtain ⟨permits, left⟩ := ih (met.2 _ given) later
      exact ⟨⟨met.1, permits⟩, left⟩

namespace Program.Leads

variable {program middle : Program O R A} {events : List (Event O R)}

theorem concat {op : O} {next : R op → Program O R A} (led : program.Leads events (.call op next))
    (answer : R op) : program.Leads (events ++ [⟨op, answer⟩]) (next answer) := by
  generalize rest_eq : Program.call op next = rest at led
  induction led with
  | refl program =>
      cases rest_eq
      exact .call (.refl _)
  | call _ ih => exact .call (ih rest_eq)

end Program.Leads

namespace Contract

variable {contract : Contract O R G} {ghost : G} {events : List (Event O R)}

@[simp]
theorem moved_concat (event : Event O R) : contract.moved ghost (events ++ [event]) =
    contract.after (contract.moved ghost events) event.1 event.2 := by
  simp [moved]

theorem conforms_concat (event : Event O R) : contract.Conforms ghost (events ++ [event]) ↔
    contract.Conforms ghost events ∧
      contract.answers (contract.moved ghost events) event.1 event.2 := by
  induction events generalizing ghost with
  | nil => simp [Conforms, moved]
  | cons first events ih =>
      rw [List.cons_append, Conforms, Conforms, ih, and_assoc]
      rfl

end Contract

/-! ## Programs that take turns -/

section Turns

variable {S X : Type u}

/-- A program that was started for a source, with what it did and what is left of it. -/
structure Thread (X O : Type u) (R : O → Type u) (A : Type u) where
  source : X
  events : List (Event O R)
  rest : Program O R A

/-- Threads on a shared state. -/
structure Pool (S X O : Type u) (R : O → Type u) (A : Type u) where
  shared : S
  threads : List (Thread X O R A)

/-- A thread starts, or a thread performs its next operation, which is answered as the
oracle says. -/
inductive Turn (X O : Type u) (R : O → Type u)
  | start (source : X)
  | take (index : Nat) (oracle : (op : O) → R op)

/-- One turn.  `serve` is what an operation with its answer does to the shared state; it is
undefined for an answer that the state does not give. -/
def Pool.next (begin : X → Program O R A) (serve : S → (op : O) → R op → Option S) :
    Step (Pool S X O R A) (Turn X O R)
  | pool, .start source =>
      some { pool with threads := pool.threads ++ [⟨source, [], begin source⟩] }
  | pool, .take index oracle =>
      match pool.threads[index]? with
      | some ⟨source, events, .call op next⟩ =>
          (serve pool.shared op (oracle op)).map fun shared =>
            ⟨shared, pool.threads.set index
              ⟨source, events ++ [⟨op, oracle op⟩], next (oracle op)⟩⟩
      | _ => none

/-- The shared state agrees with the ghost states of the threads, as long as each operation
that a thread may perform moves both alike and is answered as the contract says. -/
structure Agreement (contract : Contract O R G) (first : G)
    (serve : S → (op : O) → R op → Option S) (agrees : S → List G → Prop) : Prop where
  start : ∀ ⦃shared ghosts⦄, agrees shared ghosts → agrees shared (ghosts ++ [first])
  take : ∀ ⦃shared later ghosts index ghost op answer⦄, agrees shared ghosts →
    ghosts[index]? = some ghost → contract.may ghost op → serve shared op answer = some later →
    contract.answers ghost op answer ∧
      agrees later (ghosts.set index (contract.after ghost op answer))

/-- What holds of a pool in the middle of its work. -/
structure Pool.Sound (begin : X → Program O R A) (contract : Contract O R G) (first : G)
    (agrees : S → List G → Prop) (pool : Pool S X O R A) : Prop where
  led : ∀ thread ∈ pool.threads, (begin thread.source).Leads thread.events thread.rest ∧
    contract.Conforms first thread.events
  agrees : agrees pool.shared (pool.threads.map fun thread => contract.moved first thread.events)

/-- In every reachable pool each thread is in a run of its program that conforms to the
contract, and the shared state agrees with the threads. -/
theorem Pool.sound {begin : X → Program O R A} {contract : Contract O R G} {first : G}
    {post : X → A → G → Prop} {serve : S → (op : O) → R op → Option S} {agrees : S → List G → Prop}
    (agreement : Agreement contract first serve agrees)
    (meets : ∀ source, (begin source).Meets contract (post source) first) {shared : S}
    (initial : agrees shared []) {pool : Pool S X O R A}
    (reachable : Reachable (Pool.next begin serve) ⟨shared, []⟩ pool) :
    pool.Sound begin contract first agrees := by
  refine reachable.invariant _ ⟨by simp, by simpa using initial⟩ ?_
  rintro ⟨state, threads⟩ turn after ⟨led, agreed⟩ step
  cases turn with
  | start source =>
      cases step
      constructor
      · intro thread inside
        rcases List.mem_append.mp inside with old | fresh
        · exact led thread old
        · cases List.mem_singleton.mp fresh
          exact ⟨.refl _, trivial⟩
      · simpa [Contract.moved] using agreement.start agreed
  | take index oracle =>
      simp only [Pool.next] at step
      split at step
      · rename_i source events op next found
        obtain ⟨later, served, rfl⟩ := Option.map_eq_some_iff.mp step
        have member := List.mem_of_getElem? found
        obtain ⟨here, answered⟩ := led _ member
        obtain ⟨_, may, _⟩ := (meets source).leads here answered
        obtain ⟨given, moved⟩ := agreement.take agreed (by rw [List.getElem?_map, found]; rfl) may
          served
        constructor
        · intro thread inside
          rcases List.mem_or_eq_of_mem_set inside with old | rfl
          · exact led thread old
          · exact ⟨here.concat (oracle op), (Contract.conforms_concat _).mpr ⟨answered, given⟩⟩
        · rw [List.map_set, Contract.moved_concat]
          exact moved
      · cases step

end Turns

/-! ## Handlers -/

/-- A program with local variables `L` that ends with a value or in a panic.  The variables
keep what was written to them before a panic. -/
def Handler (L O : Type u) (R : O → Type u) (A : Type u) :=
  L → Program O R (Option A × L)

namespace Handler

variable {L : Type u}

protected def pure (value : A) : Handler L O R A := fun locals => .done (some value, locals)

protected def bind (first : Handler L O R A) (after : A → Handler L O R B) : Handler L O R B :=
  fun locals => (first locals).bind fun
    | (some value, locals) => after value locals
    | (none, locals) => .done (none, locals)

instance : Monad (Handler L O R) where
  pure := Handler.pure
  bind := Handler.bind

def panicking : Handler L O R A := fun locals => .done (none, locals)

/-- Perform an operation. -/
def ask (op : O) : Handler L O R (R op) := fun locals =>
  .call op fun answer => .done (some answer, locals)

/-- Go on with a value, or panic where there is none. -/
def orPanic : Option A → Handler L O R A
  | some value => pure value
  | none => panicking

def locals : Handler L O R L := fun locals => .done (some locals, locals)

def modify (change : L → L) : Handler L O R PUnit := fun locals =>
  .done (some ⟨⟩, change locals)

/-- Run a body only where a condition holds. -/
def provided (condition : Prop) [Decidable condition] (body : Handler L O R PUnit) :
    Handler L O R PUnit :=
  if condition then body else pure ⟨⟩

/-- A deferred `recover`: the panic of a body is its missing value. -/
def recovering (body : Handler L O R A) : Handler L O R (Option A) := fun locals =>
  (body locals).bind fun result => .done (some result.1, result.2)

/-- A deferred call, which runs after the body also where that panics. -/
def deferring (cleanup : Handler L O R PUnit) (body : Handler L O R A) : Handler L O R A := do
  let result ← recovering body
  cleanup
  orPanic result

/-- A handler meets a contract: `post` holds where it ends, also of the variables that a
panic leaves. -/
def Meets (contract : Contract O R G) (post : Option A → L → G → Prop) (body : Handler L O R A)
    (locals : L) (ghost : G) : Prop :=
  (body locals).Meets contract (fun result => post result.1 result.2) ghost

variable {contract : Contract O R G} {locals : L} {ghost : G} {body : Handler L O R A}

section Rules

variable {post weaker : Option A → L → G → Prop}

@[simp]
theorem meets_pure {value : A} :
    (pure value : Handler L O R A).Meets contract post locals ghost ↔
      post (some value) locals ghost := .rfl

theorem Meets.mono (met : body.Meets contract post locals ghost)
    (weaken : ∀ value locals ghost, post value locals ghost → weaker value locals ghost) :
    body.Meets contract weaker locals ghost :=
  Program.Meets.mono met fun result ghost held => weaken result.1 result.2 ghost held

end Rules

/-- What a handler has to achieve for the one after it to achieve `post`. -/
def Then (contract : Contract O R G) (post : Option B → L → G → Prop)
    (after : A → Handler L O R B) : Option A → L → G → Prop
  | some value, locals, ghost => (after value).Meets contract post locals ghost
  | none, locals, ghost => post none locals ghost

@[simp]
theorem then_some {post : Option B → L → G → Prop} {after : A → Handler L O R B} {value : A} :
    Then contract post after (some value) locals ghost ↔
      (after value).Meets contract post locals ghost := .rfl

@[simp]
theorem meets_bind {post : Option B → L → G → Prop} {after : A → Handler L O R B} :
    (body >>= after).Meets contract post locals ghost ↔
      body.Meets contract (Then contract post after) locals ghost := by
  refine Program.meets_bind.trans ?_
  constructor
  · intro met
    refine Program.Meets.mono met ?_
    rintro ⟨_ | value, locals⟩ ghost held <;> exact held
  · intro met
    refine Program.Meets.mono met ?_
    rintro ⟨_ | value, locals⟩ ghost held <;> exact held

/-- The rule of sequence. -/
theorem Meets.andThen {between : Option A → L → G → Prop} {post : Option B → L → G → Prop}
    {after : A → Handler L O R B} (first : body.Meets contract between locals ghost)
    (panicked : ∀ locals ghost, between none locals ghost → post none locals ghost)
    (next : ∀ value locals ghost, between (some value) locals ghost →
      (after value).Meets contract post locals ghost) :
    (body >>= after).Meets contract post locals ghost := by
  refine meets_bind.mpr (first.mono ?_)
  rintro (_ | value) locals ghost held
  · exact panicked locals ghost held
  · exact next value locals ghost held

@[simp]
theorem meets_ask {op : O} {post : Option (R op) → L → G → Prop} :
    (ask op : Handler L O R (R op)).Meets contract post locals ghost ↔
      contract.may ghost op ∧ ∀ answer, contract.answers ghost op answer →
        post (some answer) locals (contract.after ghost op answer) := .rfl

@[simp]
theorem meets_locals {post : Option L → L → G → Prop} :
    (Handler.locals : Handler L O R L).Meets contract post locals ghost ↔
      post (some locals) locals ghost := .rfl

@[simp]
theorem meets_modify {post : Option PUnit → L → G → Prop} {change : L → L} :
    (modify change : Handler L O R PUnit).Meets contract post locals ghost ↔
      post (some ⟨⟩) (change locals) ghost := .rfl

@[simp]
theorem meets_orPanic {post : Option A → L → G → Prop} {value : Option A} :
    (orPanic value : Handler L O R A).Meets contract post locals ghost ↔
      post value locals ghost := by
  cases value <;> rfl

@[simp]
theorem meets_provided {condition : Prop} [Decidable condition] {body : Handler L O R PUnit}
    {post : Option PUnit → L → G → Prop} :
    (provided condition body).Meets contract post locals ghost ↔
      if condition then body.Meets contract post locals ghost else post (some ⟨⟩) locals ghost := by
  unfold provided
  split <;> rfl

@[simp]
theorem meets_recovering {post : Option (Option A) → L → G → Prop} :
    (recovering body).Meets contract post locals ghost ↔
      body.Meets contract (fun value => post (some value)) locals ghost :=
  Program.meets_bind

/-- A deferred call keeps the outcome of the body, unless it panics itself. -/
@[simp]
theorem meets_deferring {cleanup : Handler L O R PUnit} {post : Option A → L → G → Prop} :
    (deferring cleanup body).Meets contract post locals ghost ↔
      body.Meets contract (fun value => cleanup.Meets contract fun done =>
        post (done.elim none fun _ => value)) locals ghost := by
  unfold deferring
  rw [meets_bind, meets_recovering]
  constructor
  · intro met
    refine met.mono fun value locals ghost held => ?_
    rw [then_some, meets_bind] at held
    refine held.mono ?_
    rintro (_ | _) locals ghost rest
    · exact rest
    · exact meets_orPanic.mp rest
  · intro met
    refine met.mono fun value locals ghost held => ?_
    rw [then_some, meets_bind]
    refine held.mono ?_
    rintro (_ | _) locals ghost rest
    · exact rest
    · exact meets_orPanic.mpr rest

end Handler

end CheckNetwork.Transition
