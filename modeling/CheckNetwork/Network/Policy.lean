import CheckNetwork.Go.Strings
import CheckNetwork.Network.Public

/-!
# The network policy

In public mode every connection is dialed through `NetworkPolicy`, which
resolves a host and dials the addresses that it got only if all of them are
public.  A resolver answers as it likes, each time anew.
-/

namespace CheckNetwork.Network

open Go

universe u

def maxResolvedDiagnosticAddresses : Nat := 16

def maxDialDiagnosticAddresses : Nat := 16

def maxPreservedDialFailures : Nat := 4

/-- `net.IPAddr`; `ip` is `none` for the nil address. -/
structure IPAddr where
  ip : Option IP
  zone : GoString
  deriving DecidableEq

/-- `net.ParseIP` and `net.SplitHostPort`. -/
structure TextLibrary where
  parseIP : GoString → Option IP
  splitHostPort : GoString → Option (GoString × GoString)

inductive NetError (E : Type u)
  | networkPolicyBlocked
  | notResolved
  | invalidNetworkAddress
  | noConnection
  | cause (error : E)
  | failures (causes : List (NetError E))

/-- What a dial does to its surroundings. -/
inductive Effect (E C : Type u)
  | lookup (host : GoString) (answer : Except E (List IPAddr))
  | dial (network address : GoString)
  | close (conn : C)

def Effect.isLookup {E C : Type u} : Effect E C → Bool
  | .lookup _ _ => true
  | _ => false

variable {E C : Type u} (library : TextLibrary)

/-! ## Resolution -/

/-- The host as it is looked up. -/
def lookupHost (host : GoString) : GoString :=
  (host.withoutSuffix [.scalar '.']).trimSpace

/-- The text before the last percent sign. -/
def withoutZone (host : GoString) : GoString :=
  match host.reverse.dropWhile fun rune => rune ≠ .scalar '%' with
  | [] => host
  | _ :: before => before.reverse

/-- The address that a host is, without its zone. -/
def literal (host : GoString) : Option IP := library.parseIP (withoutZone (lookupHost host))

def checkPublic (addresses : List IP) : Except (NetError E) (List IP) :=
  if addresses = [] then .error .notResolved
  else if addresses.all isPublicDiagnosticIP then .ok addresses
  else .error .networkPolicyBlocked

/-- `Resolve`, with a resolver that answers once. -/
def resolve (answer : GoString → Except E (List IPAddr)) (host : GoString) :
    List (Effect E C) × Except (NetError E) (List IP) :=
  match literal library host with
  | some ip => ([], checkPublic [ip])
  | none =>
      let resolved := answer (lookupHost host)
      ([.lookup (lookupHost host) resolved],
        match resolved with
        | .error failure => .error (.cause failure)
        | .ok addresses =>
            if maxResolvedDiagnosticAddresses < addresses.length then .error .networkPolicyBlocked
            else checkPublic (addresses.filterMap IPAddr.ip))

/-! ## Dialing -/

/-- How a dial ends: the context is done before a slot is free, or before the
dialer returns, or the dialer returns. -/
inductive DialEnd (E C : Type u)
  | noSlot (error : E)
  | abandoned (conn : Option C) (error : E)
  | returned (conn : Option C) (error : Option E)

/-- What happens while an address is dialed, and the errors of the contexts after
it. -/
structure Attempt (E C : Type u) where
  ends : DialEnd E C
  attemptErr : Option E
  ctxErr : Option E

/-- What happens during one call: the answer of the resolver, the error of the
context after the resolution and at the end, and the attempts. -/
structure DialEnv (E C : Type u) where
  answer : GoString → Except E (List IPAddr)
  resolvedErr : Option E
  attempts : Nat → Attempt E C
  finalErr : Option E

def closes (conn : Option C) : List (Effect E C) := conn.toList.map .close

/-- `dialWithContext`: what it does, the connection and the error that it
returns. -/
def dialWithContext (network address : GoString) :
    DialEnd E C → List (Effect E C) × Option C × Option E
  | .noSlot error => ([], none, some error)
  | .abandoned conn error => (.dial network address :: closes conn, none, some error)
  | .returned conn error => ([.dial network address], conn, error)

/-- `net.JoinHostPort`. -/
def joinHostPort (host port : GoString) : GoString :=
  if .scalar ':' ∈ host ∨ .scalar '%' ∈ host then
    .scalar '[' :: host ++ .scalar ']' :: .scalar ':' :: port
  else host ++ .scalar ':' :: port

/-- The failures that are kept. -/
def recordFailure (failures : List (NetError E)) (failure : NetError E) : List (NetError E) :=
  if failures.length < maxPreservedDialFailures then failures ++ [failure] else failures

/-- The loop over the candidates, from an index on. -/
def dialCandidates (env : DialEnv E C) (network port : GoString) :
    Nat → List IP → List (NetError E) → List (Effect E C) × Except (NetError E) C
  | _, [], failures =>
      ([], match env.finalErr with
        | some error => .error (.cause error)
        | none => .error (.failures failures))
  | index, ip :: rest, failures =>
      let attempt := env.attempts index
      let (effects, conn, dialErr) :=
        dialWithContext network (joinHostPort ip.string port) attempt.ends
      match attempt.ctxErr, attempt.attemptErr, dialErr, conn with
      | some error, _, _, conn => (effects ++ closes conn, .error (.cause error))
      | none, some error, _, conn =>
          let later := dialCandidates env network port (index + 1) rest
            (recordFailure failures (.cause error))
          (effects ++ closes conn ++ later.1, later.2)
      | none, none, none, some conn => (effects, .ok conn)
      | none, none, dialErr, conn =>
          let later := dialCandidates env network port (index + 1) rest
            (recordFailure failures (dialErr.elim .noConnection .cause))
          (effects ++ closes conn ++ later.1, later.2)

/-- `DialContext`. -/
def dialContext (env : DialEnv E C) (network address : GoString) :
    List (Effect E C) × Except (NetError E) C :=
  match library.splitHostPort address with
  | none => ([], .error .invalidNetworkAddress)
  | some (host, port) =>
      let resolved := resolve library env.answer host
      match resolved.2, env.resolvedErr with
      | _, some error => (resolved.1, .error (.cause error))
      | .error failure, none => (resolved.1, .error failure)
      | .ok addresses, none =>
          let dialed := dialCandidates env network port 0
            (addresses.take maxDialDiagnosticAddresses) []
          (resolved.1 ++ dialed.1, dialed.2)

/-! ## What is dialed -/

section Dialed

variable {library} {env : DialEnv E C} {network port target text host : GoString}
  {ips addresses : List IP}

/-- One attempt dials nothing but its address. -/
theorem mem_dialWithContext {address : GoString} {ends : DialEnd E C} {effect : Effect E C}
    (member : effect ∈ (dialWithContext network address ends).1) :
    effect = .dial network address ∨ ∃ conn, effect = .close conn := by
  cases ends with
  | noSlot error => cases member
  | abandoned conn error =>
      rcases List.mem_cons.mp member with same | closed
      · exact .inl same
      · obtain ⟨closed, _, same⟩ := List.mem_map.mp closed
        exact .inr ⟨closed, same.symm⟩
  | returned conn error => exact .inl (List.mem_singleton.mp member)

/-- A connection that an attempt returns was dialed. -/
theorem dial_mem_of_conn {address : GoString} {ends : DialEnd E C} {conn : C}
    (connected : (dialWithContext network address ends).2.1 = some conn) :
    .dial network address ∈ (dialWithContext network address ends).1 := by
  cases ends with
  | noSlot error => cases connected
  | abandoned other error => cases connected
  | returned other error => exact List.mem_singleton.mpr rfl

/-- One round of the loop. -/
theorem dialCandidates_cons (index : Nat) (ip : IP) (rest : List IP)
    (failures : List (NetError E)) :
    (∃ conn, dialCandidates env network port index (ip :: rest) failures =
      ((dialWithContext network (joinHostPort ip.string port) (env.attempts index).ends).1, .ok conn) ∧
        (dialWithContext network (joinHostPort ip.string port) (env.attempts index).ends).2.1 =
          some conn) ∨
    (∃ conn error, dialCandidates env network port index (ip :: rest) failures =
      ((dialWithContext network (joinHostPort ip.string port) (env.attempts index).ends).1 ++
        closes conn, .error error)) ∨
    ∃ conn failures', dialCandidates env network port index (ip :: rest) failures =
      ((dialWithContext network (joinHostPort ip.string port) (env.attempts index).ends).1 ++
        closes conn ++ (dialCandidates env network port (index + 1) rest failures').1,
        (dialCandidates env network port (index + 1) rest failures').2) := by
  rw [dialCandidates]
  generalize dialWithContext network (joinHostPort ip.string port) (env.attempts index).ends = dialed
  rcases dialed with ⟨effects, conn, dialErr⟩
  dsimp only
  split
  · exact .inr (.inl ⟨_, _, rfl⟩)
  · exact .inr (.inr ⟨_, _, rfl⟩)
  · exact .inl ⟨_, rfl, rfl⟩
  · exact .inr (.inr ⟨_, _, rfl⟩)

/-- The loop dials candidates, and looks nothing up. -/
theorem mem_dialCandidates {index : Nat} {failures : List (NetError E)} {effect : Effect E C}
    (member : effect ∈ (dialCandidates env network port index ips failures).1) :
    (∃ ip ∈ ips, effect = .dial network (joinHostPort ip.string port)) ∨
      ∃ conn, effect = .close conn := by
  induction ips generalizing index failures with
  | nil => cases member
  | cons ip rest ih =>
      have attempted : effect ∈ (dialWithContext network (joinHostPort ip.string port)
          (env.attempts index).ends).1 →
          (∃ ip' ∈ ip :: rest, effect = .dial network (joinHostPort ip'.string port)) ∨
            ∃ conn, effect = .close conn := by
        intro inside
        rcases mem_dialWithContext inside with same | closed
        · exact .inl ⟨ip, List.mem_cons_self, same⟩
        · exact .inr closed
      have closed : ∀ conn : Option C, effect ∈ closes conn → ∃ conn, effect = .close conn := by
        intro conn inside
        obtain ⟨closed, _, same⟩ := List.mem_map.mp inside
        exact ⟨closed, same.symm⟩
      rcases @dialCandidates_cons E C env network port index ip rest failures with
        ⟨conn, same, _⟩ | ⟨conn, error, same⟩ | ⟨conn, failures', same⟩ <;> rw [same] at member
      · exact attempted member
      · rcases List.mem_append.mp member with inside | inside
        · exact attempted inside
        · exact .inr (closed conn inside)
      · rcases List.mem_append.mp member with inside | later
        · rcases List.mem_append.mp inside with inside | inside
          · exact attempted inside
          · exact .inr (closed conn inside)
        · rcases ih later with ⟨ip', inside, same⟩ | isClose
          · exact .inl ⟨ip', List.mem_cons_of_mem _ inside, same⟩
          · exact .inr isClose

/-- What the loop connects to was dialed. -/
theorem dialed_of_ok {index : Nat} {failures : List (NetError E)} {conn : C}
    (connected : (dialCandidates env network port index ips failures).2 = .ok conn) :
    ∃ text, .dial network text ∈ (dialCandidates env network port index ips failures).1 := by
  induction ips generalizing index failures with
  | nil =>
      rw [dialCandidates] at connected
      dsimp only at connected
      split at connected <;> cases connected
  | cons ip rest ih =>
      rcases @dialCandidates_cons E C env network port index ip rest failures with
        ⟨found, same, returned⟩ | ⟨found, error, same⟩ | ⟨found, failures', same⟩ <;>
        rw [same] at connected ⊢
      · exact ⟨_, dial_mem_of_conn returned⟩
      · cases connected
      · obtain ⟨text, member⟩ := ih connected
        exact ⟨text, List.mem_append_right _ member⟩

theorem checkPublic_ok (checked : (checkPublic addresses : Except (NetError E) _) = .ok ips) :
    ips = addresses ∧ addresses ≠ [] ∧ ∀ ip ∈ addresses, isPublicDiagnosticIP ip = true := by
  rcases ite_eq_iff.mp checked with ⟨_, rejected⟩ | ⟨nonempty, checked⟩
  · cases rejected
  · rcases ite_eq_iff.mp checked with ⟨all, same⟩ | ⟨_, rejected⟩
    · exact ⟨(Except.ok.inj same).symm, nonempty, List.all_eq_true.mp all⟩
    · cases rejected

/-- The answers of one lookup that may be dialed: few, and all that carry an
address carry a public one. -/
def Acceptable (answers : List IPAddr) : Prop :=
  answers.length ≤ maxResolvedDiagnosticAddresses ∧
    ∀ answer ∈ answers, ∀ ip, answer.ip = some ip → isPublicDiagnosticIP ip = true

/-- Why an address may be dialed: the host is a literal of it, and it is public,
or it is one of the acceptable answers to the lookup of this call. -/
def Licensed (library : TextLibrary) (effects : List (Effect E C)) (host : GoString) (ip : IP) :
    Prop :=
  literal library host = some ip ∧ isPublicDiagnosticIP ip = true ∨
    literal library host = none ∧ ∃ answers : List IPAddr,
      .lookup (lookupHost host) (.ok answers) ∈ effects ∧ Acceptable answers ∧
        ∃ answer ∈ answers, answer.ip = some ip

theorem licensed_of_resolve {answer : GoString → Except E (List IPAddr)}
    (resolved : (resolve library answer host : List (Effect E C) × _).2 = .ok addresses) :
    ∀ ip ∈ addresses, Licensed library (resolve library answer host : List (Effect E C) × _).1 host
      ip := by
  unfold resolve at resolved ⊢
  cases isLiteral : literal library host with
  | some found =>
      rw [isLiteral] at resolved
      dsimp only at resolved
      obtain ⟨rfl, _, isPublic⟩ := checkPublic_ok resolved
      intro ip member
      rw [List.mem_singleton.mp member]
      exact .inl ⟨isLiteral, isPublic found (List.mem_singleton.mpr rfl)⟩
  | none =>
      rw [isLiteral] at resolved
      dsimp only at resolved ⊢
      cases answered : answer (lookupHost host) with
      | error failure =>
          rw [answered] at resolved
          cases resolved
      | ok answers =>
          rw [answered] at resolved
          dsimp only at resolved
          rcases ite_eq_iff.mp resolved with ⟨_, rejected⟩ | ⟨few, checked⟩
          · cases rejected
          · obtain ⟨rfl, _, isPublic⟩ := checkPublic_ok checked
            intro ip member
            refine .inr ⟨isLiteral, answers, List.mem_singleton.mpr rfl, ⟨not_lt.mp few, ?_⟩,
              List.mem_filterMap.mp member⟩
            intro answer inside found same
            exact isPublic found (List.mem_filterMap.mpr ⟨answer, inside, same⟩)

/-- The one lookup of a resolution. -/
theorem mem_resolve {answer : GoString → Except E (List IPAddr)} {effect : Effect E C}
    (member : effect ∈ (resolve library answer host : List (Effect E C) × _).1) :
    literal library host = none ∧ effect = .lookup (lookupHost host) (answer (lookupHost host)) := by
  unfold resolve at member
  cases isLiteral : literal library host with
  | some found =>
      rw [isLiteral] at member
      cases member
  | none =>
      rw [isLiteral] at member
      exact ⟨rfl, List.mem_singleton.mp member⟩

/-- A call does what its resolution does, and then what its loop does. -/
theorem dialContext_cases (address : GoString) :
    (∃ error, dialContext library env network address = ([], .error error)) ∨
    ∃ host port, library.splitHostPort address = some (host, port) ∧
      ((∃ error, dialContext library env network address =
        ((resolve library env.answer host).1, .error error)) ∨
      ∃ addresses, (resolve library env.answer host : List (Effect E C) × _).2 = .ok addresses ∧
        dialContext library env network address =
          ((resolve library env.answer host).1 ++ (dialCandidates env network port 0
            (addresses.take maxDialDiagnosticAddresses) []).1,
            (dialCandidates env network port 0 (addresses.take maxDialDiagnosticAddresses) []).2)) := by
  unfold dialContext
  cases library.splitHostPort address with
  | none => exact .inl ⟨_, rfl⟩
  | some parts =>
      rcases parts with ⟨host, port⟩
      refine .inr ⟨host, port, rfl, ?_⟩
      dsimp only
      split
      · exact .inl ⟨_, rfl⟩
      · exact .inl ⟨_, rfl⟩
      · rename_i addresses resolved _
        exact .inr ⟨addresses, resolved, rfl⟩

theorem Licensed.mono {effects more : List (Effect E C)} {ip : IP}
    (licensed : Licensed library effects host ip) (subset : effects ⊆ more) :
    Licensed library more host ip :=
  licensed.imp_right fun ⟨isLiteral, answers, looked, rest⟩ =>
    ⟨isLiteral, answers, subset looked, rest⟩

theorem lookup_eq {address : GoString} {answer : Except E (List IPAddr)}
    (member : .lookup text answer ∈ (dialContext library env network address).1) :
    ∃ host port, library.splitHostPort address = some (host, port) ∧
      literal library host = none ∧ text = lookupHost host ∧ answer = env.answer text := by
  rcases @dialContext_cases E C library env network address with
    ⟨error, same⟩ | ⟨host, port, parts, ⟨error, same⟩ | ⟨addresses, _, same⟩⟩ <;> rw [same] at member
  · cases member
  · obtain ⟨notLiteral, looked⟩ := mem_resolve member
    cases looked
    exact ⟨host, port, parts, notLiteral, rfl, rfl⟩
  · rcases List.mem_append.mp member with looked | dialed
    · obtain ⟨notLiteral, looked⟩ := mem_resolve looked
      cases looked
      exact ⟨host, port, parts, notLiteral, rfl, rfl⟩
    · rcases mem_dialCandidates dialed with ⟨ip, _, other⟩ | ⟨conn, other⟩ <;> cases other

/-- Every dial of a call is licensed. -/
theorem licensed_of_dial {address : GoString}
    (member : .dial target text ∈ (dialContext library env network address).1) :
    ∃ host port ip, library.splitHostPort address = some (host, port) ∧ target = network ∧
      text = joinHostPort ip.string port ∧
        Licensed library (dialContext library env network address).1 host ip := by
  rcases @dialContext_cases E C library env network address with
    ⟨error, same⟩ | ⟨host, port, parts, ⟨error, same⟩ | ⟨addresses, resolved, same⟩⟩ <;>
    rw [same] at member ⊢
  · cases member
  · cases (mem_resolve member).2
  · rcases List.mem_append.mp member with looked | dialed
    · cases (mem_resolve looked).2
    · rcases mem_dialCandidates dialed with ⟨ip, inside, dial_eq⟩ | ⟨conn, other⟩
      · cases dial_eq
        exact ⟨host, port, ip, parts, rfl, rfl, (licensed_of_resolve resolved ip
          (List.mem_of_mem_take inside)).mono (List.subset_append_left _ _)⟩
      · cases other

theorem length_lookups_le (address : GoString) :
    ((dialContext library env network address).1.filter Effect.isLookup).length ≤ 1 := by
  have resolves : ∀ host, ((resolve library env.answer host : List (Effect E C) × _).1.filter
      Effect.isLookup).length ≤ 1 := by
    intro host
    refine (List.length_filter_le _ _).trans ?_
    unfold resolve
    cases literal library host <;> simp
  rcases @dialContext_cases E C library env network address with
    ⟨error, same⟩ | ⟨host, port, _, ⟨error, same⟩ | ⟨addresses, _, same⟩⟩ <;> rw [same]
  · exact Nat.zero_le 1
  · exact resolves host
  · have nothing : (dialCandidates env network port 0
        (addresses.take maxDialDiagnosticAddresses) []).1.filter Effect.isLookup = [] := by
      rw [List.filter_eq_nil_iff]
      intro effect member
      rcases mem_dialCandidates member with ⟨ip, _, rfl⟩ | ⟨conn, rfl⟩ <;> exact Bool.false_ne_true
    rw [List.filter_append, nothing, List.append_nil]
    exact resolves host

theorem isPublicDiagnosticIP_of_malformed {ip : IP} (notFour : ip.length ≠ 4)
    (notSixteen : ip.length ≠ 16) : isPublicDiagnosticIP ip = false := by
  rw [Bool.eq_false_iff]
  intro isPublic
  have sized := ((isPublicDiagnosticIP_iff ip).mp isPublic).1
  have short : ip.to4 = none := by
    rw [IP.to4, if_neg notFour, if_neg fun mapped => notSixteen mapped.1]
  rw [short, Option.getD_none] at sized
  exact sized.elim notFour notSixteen

end Dialed

/-- A set of answers with one that is not public or malformed, with too many, or
with none that carries an address. -/
def Rejected (answers : List IPAddr) : Prop :=
  maxResolvedDiagnosticAddresses < answers.length ∨
    (∃ answer ∈ answers, ∃ ip, answer.ip = some ip ∧
      (isPublicDiagnosticIP ip = false ∨ (ip.length ≠ 4 ∧ ip.length ≠ 16))) ∨
    ∀ answer ∈ answers, answer.ip = none

theorem not_acceptable_of_rejected {answers : List IPAddr} (rejected : Rejected answers) :
    ¬ (Acceptable answers ∧ ∃ answer ∈ answers, ∃ ip, answer.ip = some ip) := by
  rintro ⟨⟨few, isPublic⟩, answer, member, ip, carried⟩
  rcases rejected with many | ⟨other, inside, found, carries, bad | ⟨notFour, notSixteen⟩⟩ | empty
  · exact absurd few (not_le.mpr many)
  · rw [isPublic other inside found carries] at bad
    cases bad
  · have isPublic := isPublic other inside found carries
    rw [isPublicDiagnosticIP_of_malformed notFour notSixteen] at isPublic
    cases isPublic
  · rw [empty answer member] at carried
    cases carried

end CheckNetwork.Network
