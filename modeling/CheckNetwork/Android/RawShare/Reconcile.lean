import CheckNetwork.Android.RawShare.Runtime

/-!
# The reconciliation of the raw share

A reconciliation deletes what earlier processes left in the directory of shared reports.  It
goes through the directory in steps that are posted one after the other, until a pass through
all entries has deleted nothing.
-/

namespace CheckNetwork.Android.RawShare

/-! ## The directory -/

/-- The token between the start and the end of a name. -/
def hasToken (start finish name : String) : Bool :=
  let token := (name.toList.drop start.length).take (name.length - start.length - finish.length)
  name.toList = start.toList ++ token ++ finish.toList && isToken (String.ofList token)

def recognizedName (name : String) : Bool :=
  hasToken "raw-" ".json" name || hasToken ".raw-" ".tmp" name

/-- An entry of the directory. -/
structure FileEntry where
  name : String
  isDirectory : Bool
  deriving DecidableEq

/-- How the system answers a deletion; a text is a failure. -/
structure DeleteAnswers where
  prepare : Option String
  attributes : Option String
  delete : Option String
  sync : Option String

/-- `SystemFileSystem.delete`. -/
def deleteFile (answers : DeleteAnswers) (name : String) (disk : List FileEntry) :
    List FileEntry × Option String :=
  match answers.prepare with
  | some problem => (disk, some problem)
  | none =>
      match disk.find? (·.name = name) with
      | none => (disk, none)
      | some entry =>
          match answers.attributes with
          | some problem => (disk, some problem)
          | none =>
              if entry.isDirectory then (disk, some "Refusing to delete recognized directory")
              else match answers.delete with
                | some problem => (disk, some problem)
                | none => (disk.filter (·.name ≠ name), answers.sync)

/-- The names that a directory stream yields.  They were there when it was opened, and all that
were there are among them unless a candidate is, which is deleted on the way. -/
structure Stream (disk : List FileEntry) where
  names : List String
  real : ∀ name ∈ names, ∃ entry ∈ disk, entry.name = name
  complete : (∀ name ∈ names, recognizedName name = false) →
    ∀ entry ∈ disk, entry.name ∈ names

/-- A session, with the directory as it was when the session was opened and the number of names
that it has shown. -/
structure ScanSession where
  id : Nat
  disk : List FileEntry
  stream : Stream disk
  inspected : Nat := 0

structure ScanPage where
  entries : List String
  cursor : Option String
  hasMore : Bool

/-- `ScanSession.next`. -/
def ScanSession.next (limit : Nat) (session : ScanSession) : ScanPage × ScanSession :=
  let entries := (session.stream.names.drop session.inspected).take limit
  ({ entries, cursor := entries.getLast?
     hasMore := session.inspected + limit < session.stream.names.length },
    { session with inspected := session.inspected + entries.length })

/-! ## Steps -/

def reconcileEntryLimit : Nat := 32

def reconcileDeleteLimit : Nat := 32

/-- The fields of a `Reconciliation`, without what it runs when it succeeds. -/
structure Pass where
  session : Option ScanSession := none
  cursor : Option String := none
  passDeletes : Nat := 0

/-- The number of sessions that were opened, the sessions that were closed, the number of entries
that were inspected and the names that were given to `delete`, the last one first. -/
structure Log where
  opened : Nat := 0
  closed : List Nat := []
  inspected : Nat := 0
  deleted : List String := []

structure Scanning where
  disk : List FileEntry
  pass : Pass := {}
  log : Log := {}

/-- How the file system answers a step; a page fails after some of its entries. -/
structure StepAnswers where
  prepare : Option String
  opens : ∀ disk : List FileEntry, Except String (Stream disk)
  next : Option (Nat × String)
  delete : String → DeleteAnswers
  close : Option String

namespace Scanning

/-- `closeScan`, and the failure of the close. -/
def closeScan (failure : Option String) (scanning : Scanning) : Scanning × Option String :=
  match scanning.pass.session with
  | none => (scanning, none)
  | some session =>
      ({ scanning with
          pass := { scanning.pass with session := none }
          log := { scanning.log with closed := session.id :: scanning.log.closed } }, failure)

/-- The session of a step, which opens one when there is none. -/
def session (answers : StepAnswers) (scanning : Scanning) :
    Except String (ScanSession × Scanning) :=
  match scanning.pass.session with
  | some session => .ok (session, scanning)
  | none =>
      match answers.prepare with
      | some problem => .error problem
      | none =>
          match answers.opens scanning.disk with
          | .error problem => .error problem
          | .ok stream =>
              let session : ScanSession :=
                { id := scanning.log.opened, disk := scanning.disk, stream }
              .ok (session,
                { scanning with
                  pass := { scanning.pass with session := some session, cursor := none }
                  log := { scanning.log with opened := scanning.log.opened + 1 } })

/-- The loop over the entries of a page. -/
def deletePage (answers : StepAnswers) : List String → (deletes : Nat) → Scanning →
    Scanning × Option String
  | [], _, scanning => (scanning, none)
  | name :: names, deletes, scanning =>
      if !recognizedName name then deletePage answers names deletes scanning
      else if deletes = reconcileDeleteLimit then
        (scanning, some "Reconciliation delete budget exhausted")
      else
        let log := { scanning.log with deleted := name :: scanning.log.deleted }
        match deleteFile (answers.delete name) name scanning.disk with
        | (disk, some problem) => ({ scanning with disk, log }, some problem)
        | (disk, none) =>
            deletePage answers names (deletes + 1)
              { disk, log
                pass := { scanning.pass with passDeletes := scanning.pass.passDeletes + 1 } }

/-- The end of a step that failed: `closeScanMerging`. -/
def fail (answers : StepAnswers) (problem : String) (scanning : Scanning) : Scanning × Scan :=
  ((scanning.closeScan answers.close).1, .failed problem)

/-- The next step is posted, unless the worker rejects it. -/
def post (answers : StepAnswers) (isShutdown : Bool) (scanning : Scanning) : Scanning × Scan :=
  if isShutdown then scanning.fail answers rejected else (scanning, .again)

/-- The end of a step whose deletions are done. -/
def turnPage (answers : StepAnswers) (isShutdown : Bool) (page : ScanPage) (scanning : Scanning) :
    Scanning × Scan :=
  if page.hasMore then
    if page.cursor = none ∨ scanning.pass.cursor = page.cursor then
      scanning.fail answers "Filesystem reconciliation cursor did not advance"
    else
      { scanning with pass := { scanning.pass with cursor := page.cursor } }.post answers
        isShutdown
  else
    match scanning.closeScan answers.close with
    | (closed, some problem) => (closed, .failed problem)
    | (closed, none) =>
        if 0 < closed.pass.passDeletes then
          { closed with pass := { closed.pass with cursor := none, passDeletes := 0 } }.post answers
            isShutdown
        else ({ closed with pass := { closed.pass with cursor := none } }, .clean)

/-- `reconcileStepOnWorker`, up to what it runs when it succeeds or fails. -/
def step (answers : StepAnswers) (isShutdown : Bool) (scanning : Scanning) : Scanning × Scan :=
  match scanning.session answers with
  | .error problem => (scanning, .failed problem)
  | .ok (session, scanning) =>
      let (page, session) := session.next reconcileEntryLimit
      match answers.next with
      | some (inspected, problem) =>
          { scanning with log := { scanning.log with
              inspected := scanning.log.inspected + min inspected page.entries.length } }.fail
            answers problem
      | none =>
          let scanning := { scanning with
            pass := { scanning.pass with session := some session }
            log := { scanning.log with inspected := scanning.log.inspected + page.entries.length } }
          if reconcileEntryLimit < page.entries.length then
            scanning.fail answers "Filesystem exceeded reconciliation entry limit"
          else
            match scanning.deletePage answers page.entries 0 with
            | (scanning, some problem) => scanning.fail answers problem
            | (scanning, none) => scanning.turnPage answers isShutdown page

end Scanning

/-! ## The chain of steps -/

/-- The runtime and what its reconciliation works on. -/
structure Config where
  state : State
  scanning : Scanning

/-- `reconcileStepOnWorker`. -/
def reconcileStepOnWorker (system : Answers) (answers : StepAnswers) (config : Config) : Config :=
  match config.state.reconciliation with
  | none => config
  | some _ =>
      let (scanning, scan) := config.scanning.step answers config.state.isShutdown
      let state := reconcileStep { system with scan } [] config.state
      match scan with
      | .failed problem => { state := finishCleanupFailure problem [] state, scanning }
      | _ => { state, scanning }

/-- The calls of the main thread before a step, each with what the clock shows, and what answers
the step. -/
structure Turn where
  calls : List (Int × Call)
  system : Answers
  answers : StepAnswers

def Config.turn (config : Config) (turn : Turn) : Config :=
  reconcileStepOnWorker turn.system turn.answers
    { config with
      state := turn.calls.foldl (fun state call => invoke call.1 state call.2) config.state }

/-- The chain after a number of steps. -/
def chain (turns : Nat → Turn) (config : Config) : Nat → Config
  | 0 => config
  | steps + 1 => (chain turns config steps).turn (turns steps)

/-- The beginning of a reconciliation. -/
def Config.start (success : Success) (state : State) (disk : List FileEntry) : Config where
  state := { state with reconciliation := some success }
  scanning := { disk }

/-- The candidates in a directory. -/
def candidates (disk : List FileEntry) : List FileEntry :=
  disk.filter fun entry => recognizedName entry.name

section Delete

variable {answers : DeleteAnswers} {name : String} {disk left : List FileEntry}
  {failure : Option String}

/-- A deletion takes away entries of its name alone. -/
theorem deleteFile_cases (deleted : deleteFile answers name disk = (left, failure)) :
    left = disk ∧ (failure = none → ∀ entry ∈ disk, entry.name ≠ name) ∨
      left = disk.filter (·.name ≠ name) ∧ ∃ entry ∈ disk, entry.name = name := by
  rw [deleteFile] at deleted
  split at deleted
  · cases deleted
    exact .inl ⟨rfl, fun other => by cases other⟩
  · split at deleted
    · rename_i absent
      cases deleted
      refine .inl ⟨rfl, fun _ entry inside same => ?_⟩
      have missing := List.find?_eq_none.mp absent entry inside
      exact missing (decide_eq_true same)
    · rename_i entry found
      have chosen := List.find?_some found
      have here : entry.name = name := of_decide_eq_true chosen
      have inside := List.mem_of_find?_eq_some found
      split at deleted
      · cases deleted
        exact .inl ⟨rfl, fun other => by cases other⟩
      · split at deleted
        · cases deleted
          exact .inl ⟨rfl, fun other => by cases other⟩
        · split at deleted
          · cases deleted
            exact .inl ⟨rfl, fun other => by cases other⟩
          · cases deleted
            exact .inr ⟨rfl, entry, inside, here⟩

theorem sublist_of_deleteFile (deleted : deleteFile answers name disk = (left, failure)) :
    left.Sublist disk := by
  rcases deleteFile_cases deleted with ⟨rfl, -⟩ | ⟨rfl, -⟩
  · exact List.Sublist.refl _
  · exact List.filter_sublist

/-- Files that are no candidates stay. -/
theorem mem_of_deleteFile (deleted : deleteFile answers name disk = (left, failure))
    (recognized : recognizedName name = true) {entry : FileEntry} (inside : entry ∈ disk)
    (unrelated : recognizedName entry.name = false) : entry ∈ left := by
  rcases deleteFile_cases deleted with ⟨rfl, -⟩ | ⟨rfl, -⟩
  · exact inside
  · refine List.mem_filter.mpr ⟨inside, decide_eq_true ?_⟩
    rintro rfl
    rw [recognized] at unrelated
    cases unrelated

/-- A directory that lacks a candidate of another has fewer candidates. -/
theorem length_candidates_lt {large : List FileEntry} (sublist : disk.Sublist large)
    {entry : FileEntry} (inside : entry ∈ large) (recognized : recognizedName entry.name = true)
    (gone : entry ∉ disk) : (candidates disk).length < (candidates large).length := by
  have part : (candidates disk).Sublist (candidates large) := sublist.filter _
  refine lt_of_le_of_ne part.length_le fun same => gone ?_
  have whole := part.eq_of_length same
  have member : entry ∈ candidates large := List.mem_filter.mpr ⟨inside, recognized⟩
  rw [← whole] at member
  exact List.mem_of_mem_filter member

/-- After a deletion that succeeds no entry has the name. -/
theorem name_ne_of_deleteFile (deleted : deleteFile answers name disk = (left, none))
    {entry : FileEntry} (inside : entry ∈ left) : entry.name ≠ name := by
  rcases deleteFile_cases deleted with ⟨rfl, absent⟩ | ⟨rfl, -⟩
  · exact absent rfl entry inside
  · exact of_decide_eq_true (List.mem_filter.mp inside).2

end Delete

/-! ## What steps keep -/

/-- Sessions are closed once, in the order in which they were opened. -/
def Closed (pass : Pass) (log : Log) : Prop :=
  match pass.session with
  | none => log.closed = (List.range log.opened).reverse
  | some session => log.opened = session.id + 1 ∧ log.closed = (List.range session.id).reverse

/-- Files that are no candidates are never touched, and sessions are closed once. -/
structure Safe (start : List FileEntry) (scanning : Scanning) : Prop where
  sublist : scanning.disk.Sublist start
  unrelated : ∀ entry ∈ start, recognizedName entry.name = false → entry ∈ scanning.disk
  deleted : ∀ name ∈ scanning.log.deleted, recognizedName name = true
  closed : Closed scanning.pass scanning.log

/-- A pass has deleted candidates of the directory as it was, or it has seen none. -/
structure InPass (opened disk : List FileEntry) (passDeletes : Nat) (seen : List String) :
    Prop where
  sublist : disk.Sublist opened
  fresh : passDeletes = 0 → disk = opened ∧ ∀ name ∈ seen, recognizedName name = false
  fewer : 0 < passDeletes → (candidates disk).length < (candidates opened).length

/-- Between two steps, either no pass has begun or the open one is on its way. -/
def OnWay (scanning : Scanning) : Prop :=
  match scanning.pass.session with
  | none => scanning.pass.passDeletes = 0
  | some session => InPass session.disk scanning.disk scanning.pass.passDeletes
      (session.stream.names.take session.inspected)

/-- What a chain has yet to do: candidates first, then the names of the open session. -/
def rank (scanning : Scanning) : Nat ×ₗ Nat :=
  match scanning.pass.session with
  | none => toLex (2 * (candidates scanning.disk).length + 1, 0)
  | some session => toLex (2 * (candidates session.disk).length,
      session.stream.names.length - session.inspected)

section Page

variable {answers : StepAnswers} {start opened : List FileEntry} {scanning finish : Scanning}
  {names seen : List String} {deletes : Nat} {failure : Option String}

theorem safe_deletePage (safe : Safe start scanning)
    (turned : scanning.deletePage answers names deletes = (finish, failure)) :
    Safe start finish ∧ finish.pass.session = scanning.pass.session ∧
      finish.log.inspected = scanning.log.inspected ∧
      finish.log.deleted.length ≤ scanning.log.deleted.length + names.length := by
  induction names generalizing scanning deletes with
  | nil =>
      cases turned
      exact ⟨safe, rfl, rfl, le_rfl⟩
  | cons name names ih =>
      rw [Scanning.deletePage] at turned
      split at turned
      · obtain ⟨safe, session_eq, inspected_eq, le⟩ := ih safe turned
        exact ⟨safe, session_eq, inspected_eq, le.trans (Nat.le_succ _)⟩
      · rename_i known
        rw [Bool.not_eq_true, Bool.not_eq_false'] at known
        split at turned
        · cases turned
          exact ⟨safe, rfl, rfl, Nat.le_add_right _ _⟩
        · have next : ∀ {left : List FileEntry} {problem : Option String},
              deleteFile (answers.delete name) name scanning.disk = (left, problem) →
              ∀ pass : Pass, pass.session = scanning.pass.session →
              Safe start ⟨left, pass, { scanning.log with
                deleted := name :: scanning.log.deleted }⟩ := by
            intro left problem deleted pass same
            refine ⟨(sublist_of_deleteFile deleted).trans safe.sublist, ?_, ?_, ?_⟩
            · exact fun entry inside other =>
                mem_of_deleteFile deleted known (safe.unrelated entry inside other) other
            · exact List.forall_mem_cons.mpr ⟨known, safe.deleted⟩
            · have closed := safe.closed
              rw [Closed, ← same] at closed
              exact closed
          dsimp only at turned
          split at turned
          · rename_i deleted
            cases turned
            exact ⟨next deleted _ rfl, rfl, rfl, Nat.add_le_add_left (Nat.le_add_left 1 _) _⟩
          · rename_i left deleted
            obtain ⟨safe, session_eq, inspected_eq, le⟩ := ih (next deleted
              { scanning.pass with passDeletes := scanning.pass.passDeletes + 1 } rfl) turned
            refine ⟨safe, session_eq, inspected_eq, le.trans ?_⟩
            change scanning.log.deleted.length + 1 + _ ≤ _
            rw [List.length_cons]
            omega

theorem inPass_deletePage (real : ∀ name ∈ names, ∃ entry ∈ opened, entry.name = name)
    (turned : scanning.deletePage answers names deletes = (finish, none))
    (onWay : InPass opened scanning.disk scanning.pass.passDeletes seen) :
    InPass opened finish.disk finish.pass.passDeletes (seen ++ names) := by
  induction names generalizing scanning deletes seen with
  | nil =>
      cases turned
      rwa [List.append_nil]
  | cons name names ih =>
      obtain ⟨⟨entry, inside, rfl⟩, others⟩ := List.forall_mem_cons.mp real
      rw [Scanning.deletePage] at turned
      rw [List.append_cons]
      split at turned
      · rename_i unknown
        rw [Bool.not_eq_true'] at unknown
        refine ih others turned ⟨onWay.sublist, fun none => ?_, onWay.fewer⟩
        obtain ⟨same, all⟩ := onWay.fresh none
        refine ⟨same, fun other member => ?_⟩
        rcases List.mem_append.mp member with member | member
        · exact all other member
        · rwa [List.mem_singleton.mp member]
      · rename_i known
        rw [Bool.not_eq_true, Bool.not_eq_false'] at known
        split at turned
        · cases turned
        · dsimp only at turned
          split at turned
          · cases turned
          · rename_i left deleted
            have sublist := (sublist_of_deleteFile deleted).trans onWay.sublist
            refine ih others turned
              ⟨sublist, fun none => absurd none (Nat.succ_ne_zero _), fun _ => ?_⟩
            exact length_candidates_lt sublist inside known
              fun stays => name_ne_of_deleteFile deleted stays rfl

end Page

/-! ## What a step keeps -/

/-- The open session, if there is one, is closed, and nothing else has changed. -/
structure Ends (before after : Scanning) : Prop where
  disk : after.disk = before.disk
  session : after.pass.session = none
  passDeletes : after.pass.passDeletes = before.pass.passDeletes
  inspected : after.log.inspected = before.log.inspected
  deleted : after.log.deleted = before.log.deleted
  closed : Closed before.pass before.log → Closed after.pass after.log

/-- A part of a step that inspects and deletes nothing: it is safe, and the next step is posted
unless the session is closed. -/
structure Settles (start : List FileEntry) (before after : Scanning) (scan : Scan) : Prop where
  safe : Safe start after
  inspected : after.log.inspected = before.log.inspected
  deleted : after.log.deleted = before.log.deleted
  session : scan ≠ .again → after.pass.session = none

/-- A step that is followed by another has brought the chain below a bound; one that succeeds
leaves no candidates. -/
structure Advances (isShutdown : Bool) (bound : Nat ×ₗ Nat) (finish : Scanning) (scan : Scan) :
    Prop where
  again : scan = .again → isShutdown = false ∧ OnWay finish ∧ rank finish < bound
  clean : scan = .clean → ∀ entry ∈ finish.disk, recognizedName entry.name = false

section Step

variable {answers : StepAnswers} {start : List FileEntry} {scanning finish opened : Scanning}
  {session before : ScanSession} {isShutdown : Bool} {scan : Scan} {page : ScanPage}

theorem ends_closeScan (scanning : Scanning) (failure : Option String) :
    Ends scanning (scanning.closeScan failure).1 := by
  rw [Scanning.closeScan]
  cases here : scanning.pass.session with
  | none => exact ⟨rfl, here, rfl, rfl, rfl, id⟩
  | some session =>
      refine ⟨rfl, rfl, rfl, rfl, rfl, fun closed => ?_⟩
      rw [Closed, here] at closed
      change session.id :: scanning.log.closed = (List.range scanning.log.opened).reverse
      rw [closed.1, closed.2, List.range_succ, List.reverse_append]
      rfl

theorem Ends.safe (ends : Ends scanning finish) (safe : Safe start scanning) :
    Safe start finish where
  sublist := ends.disk ▸ safe.sublist
  unrelated := ends.disk ▸ safe.unrelated
  deleted := ends.deleted ▸ safe.deleted
  closed := ends.closed safe.closed

theorem settles_fail {problem : String} (safe : Safe start scanning)
    (failed : scanning.fail answers problem = (finish, scan)) :
    Settles start scanning finish scan := by
  cases failed
  have ends := ends_closeScan scanning answers.close
  exact ⟨ends.safe safe, ends.inspected, ends.deleted, fun _ => ends.session⟩

theorem settles_post (safe : Safe start scanning)
    (posted : scanning.post answers isShutdown = (finish, scan)) :
    Settles start scanning finish scan := by
  rw [Scanning.post] at posted
  split at posted
  · exact settles_fail safe posted
  · cases posted
    exact ⟨safe, rfl, rfl, fun other => absurd rfl other⟩

theorem post_cases (posted : scanning.post answers isShutdown = (finish, scan)) :
    scan = .again ∧ isShutdown = false ∧ finish = scanning ∨
      ∃ problem, scan = .failed problem := by
  rw [Scanning.post] at posted
  split at posted
  · cases posted
    exact .inr ⟨rejected, rfl⟩
  · rename_i running
    cases posted
    exact .inl ⟨rfl, Bool.not_eq_true _ |>.mp running, rfl⟩

theorem settles_turnPage (safe : Safe start scanning)
    (turned : scanning.turnPage answers isShutdown page = (finish, scan)) :
    Settles start scanning finish scan := by
  rw [Scanning.turnPage] at turned
  split at turned
  · split at turned
    · exact settles_fail safe turned
    · have same : Safe start
          { scanning with pass := { scanning.pass with cursor := page.cursor } } :=
        ⟨safe.sublist, safe.unrelated, safe.deleted, safe.closed⟩
      obtain ⟨safe, inspected, deleted, session⟩ := settles_post same turned
      exact ⟨safe, inspected, deleted, session⟩
  · have ends := ends_closeScan scanning answers.close
    cases closing : scanning.closeScan answers.close with
    | mk closed failure =>
        rw [closing] at turned ends
        have safe := ends.safe safe
        cases failure with
        | some problem =>
            cases turned
            exact ⟨safe, ends.inspected, ends.deleted, fun _ => ends.session⟩
        | none =>
            have again : ∀ pass : Pass, pass.session = closed.pass.session →
                Safe start { closed with pass } := by
              intro pass same
              refine ⟨safe.sublist, safe.unrelated, safe.deleted, ?_⟩
              have closed := safe.closed
              rw [Closed, ← same] at closed
              exact closed
            dsimp only at turned
            split at turned
            · obtain ⟨safe, inspected, deleted, session⟩ := settles_post
                (again { closed.pass with cursor := none, passDeletes := 0 } rfl) turned
              exact ⟨safe, inspected.trans ends.inspected, deleted.trans ends.deleted, session⟩
            · cases turned
              exact ⟨again _ rfl, ends.inspected, ends.deleted, fun _ => ends.session⟩

/-- The names that a session has shown before a page and with it. -/
theorem take_next (before : ScanSession) (limit : Nat) :
    before.stream.names.take (before.next limit).2.inspected =
      before.stream.names.take before.inspected ++ (before.next limit).1.entries := by
  change _ = _ ++ (before.stream.names.drop before.inspected).take limit
  change before.stream.names.take (before.inspected + (List.take limit _).length) = _
  rw [List.take_add, List.length_take, ← List.take_take, List.take_length]

theorem length_next (before : ScanSession) (limit : Nat) :
    (before.next limit).1.entries.length =
      min limit (before.stream.names.length - before.inspected) := by
  rw [ScanSession.next, List.length_take, List.length_drop]

theorem advances_failed {isShutdown : Bool} {bound : Nat ×ₗ Nat} {problem : String} :
    Advances isShutdown bound finish (.failed problem) where
  again other := by cases other
  clean other := by cases other

theorem advances_fail {bound : Nat ×ₗ Nat} {problem : String}
    (failed : scanning.fail answers problem = (finish, scan)) :
    Advances isShutdown bound finish scan := by
  cases failed
  exact advances_failed

/-- A page that is not the last one goes on with the pass; the last page ends it, and another
pass has fewer candidates before it. -/
theorem advances_turnPage (here : scanning.pass.session = some (before.next reconcileEntryLimit).2)
    (onWay : InPass before.disk scanning.disk scanning.pass.passDeletes
      (before.stream.names.take (before.next reconcileEntryLimit).2.inspected))
    (turned : scanning.turnPage answers isShutdown (before.next reconcileEntryLimit).1 =
      (finish, scan)) :
    Advances isShutdown (toLex (2 * (candidates before.disk).length,
      before.stream.names.length - before.inspected)) finish scan := by
  have length_eq := length_next before reconcileEntryLimit
  have inspected_eq : (before.next reconcileEntryLimit).2.inspected =
      before.inspected + (before.next reconcileEntryLimit).1.entries.length := rfl
  rw [Scanning.turnPage] at turned
  split at turned
  · rename_i more
    have more : before.inspected + reconcileEntryLimit < before.stream.names.length :=
      of_decide_eq_true more
    split at turned
    · exact advances_fail turned
    · rcases post_cases turned with ⟨rfl, running, rfl⟩ | ⟨problem, rfl⟩
      · refine ⟨fun _ => ⟨running, ?_, ?_⟩, fun other => by cases other⟩
        · rw [OnWay]
          dsimp only
          rw [here]
          exact onWay
        · rw [rank]
          dsimp only
          rw [here]
          refine Prod.Lex.right _ ?_
          change before.stream.names.length - (before.next reconcileEntryLimit).2.inspected < _
          rw [inspected_eq, length_eq, reconcileEntryLimit]
          rw [reconcileEntryLimit] at more
          omega
      · exact advances_failed
  · rename_i last
    have last : ¬ before.inspected + reconcileEntryLimit < before.stream.names.length :=
      fun more => last (decide_eq_true more)
    have ends := ends_closeScan scanning answers.close
    cases closing : scanning.closeScan answers.close with
    | mk closed failure =>
        rw [closing] at turned ends
        cases failure with
        | some problem =>
            cases turned
            exact advances_failed
        | none =>
            dsimp only at turned ends
            split at turned
            · rename_i deleted
              rw [ends.passDeletes] at deleted
              rcases post_cases turned with ⟨rfl, running, rfl⟩ | ⟨problem, rfl⟩
              · refine ⟨fun _ => ⟨running, ?_, ?_⟩, fun other => by cases other⟩
                · rw [OnWay]
                  dsimp only
                  rw [ends.session]
                · rw [rank]
                  dsimp only
                  rw [ends.session, ends.disk]
                  refine Prod.Lex.left _ _ ?_
                  have fewer := onWay.fewer deleted
                  omega
              · exact advances_failed
            · rename_i none
              rw [ends.passDeletes] at none
              cases turned
              refine ⟨fun other => (by cases other), fun _ entry inside => ?_⟩
              obtain ⟨same, unknown⟩ := onWay.fresh (Nat.eq_zero_of_not_pos none)
              have inside : entry ∈ scanning.disk := ends.disk ▸ inside
              rw [same] at inside
              have all : before.stream.names.length ≤
                  (before.next reconcileEntryLimit).2.inspected := by
                rw [inspected_eq, length_eq]
                omega
              rw [List.take_of_length_le all] at unknown
              exact unknown _ (before.stream.complete unknown entry inside)

/-- The session of a step is the one of the pass, or a new one. -/
theorem session_cases {next : Scanning}
    (found : scanning.session answers = .ok (session, next)) :
    scanning.pass.session = some session ∧ next = scanning ∨
      scanning.pass.session = none ∧ session.id = scanning.log.opened ∧
        session.disk = scanning.disk ∧ session.inspected = 0 ∧
        next = { scanning with
          pass := { scanning.pass with session := some session, cursor := none }
          log := { scanning.log with opened := scanning.log.opened + 1 } } := by
  rw [Scanning.session] at found
  split at found
  · rename_i here
    cases found
    exact .inl ⟨here, rfl⟩
  · rename_i none
    split at found
    · cases found
    · split at found
      · cases found
      · cases found
        exact .inr ⟨none, rfl, rfl, rfl, rfl⟩

theorem safe_session {next : Scanning} (safe : Safe start scanning)
    (found : scanning.session answers = .ok (session, next)) :
    Safe start next ∧ next.pass.session = some session ∧
      next.log.inspected = scanning.log.inspected ∧ next.log.deleted = scanning.log.deleted := by
  rcases session_cases found with ⟨here, rfl⟩ | ⟨none, id_eq, -, -, rfl⟩
  · exact ⟨safe, here, rfl, rfl⟩
  · refine ⟨⟨safe.sublist, safe.unrelated, safe.deleted, ?_⟩, rfl, rfl, rfl⟩
    have closed := safe.closed
    rw [Closed, none] at closed
    rw [Closed]
    dsimp only
    rw [id_eq]
    exact ⟨rfl, closed⟩

theorem onWay_session {next : Scanning} (onWay : OnWay scanning)
    (found : scanning.session answers = .ok (session, next)) :
    InPass session.disk next.disk next.pass.passDeletes
        (session.stream.names.take session.inspected) ∧
      toLex (2 * (candidates session.disk).length,
        session.stream.names.length - session.inspected) ≤ rank scanning := by
  rcases session_cases found with ⟨here, rfl⟩ | ⟨none, -, disk_eq, inspected_eq, rfl⟩
  · rw [OnWay, here] at onWay
    rw [rank, here]
    exact ⟨onWay, le_rfl⟩
  · rw [OnWay, none] at onWay
    dsimp only at onWay
    constructor
    · refine ⟨?_, fun _ => ⟨disk_eq.symm, ?_⟩, fun deleted => ?_⟩
      · rw [disk_eq]
      · rw [inspected_eq, List.take_zero]
        exact List.forall_mem_nil _
      · exact absurd onWay deleted.ne'
    · rw [rank, none]
      refine le_of_lt (Prod.Lex.left _ _ ?_)
      rw [disk_eq]
      exact Nat.lt_succ_self _

theorem session_of_error {problem : String}
    (failed : scanning.session answers = .error problem) : scanning.pass.session = none := by
  cases here : scanning.pass.session with
  | none => rfl
  | some session =>
      rw [Scanning.session, here] at failed
      cases failed

theorem Safe.advance (safe : Safe start scanning) (here : scanning.pass.session = some before)
    (same : session.id = before.id) (inspected : Nat) :
    Safe start { scanning with
      pass := { scanning.pass with session := some session }
      log := { scanning.log with inspected } } := by
  refine ⟨safe.sublist, safe.unrelated, safe.deleted, ?_⟩
  have closed := safe.closed
  rw [Closed, here] at closed
  rw [Closed]
  dsimp only
  rw [same]
  exact closed

/-- A step inspects and deletes few entries, and a chain that does not go on has closed its
session. -/
theorem safe_step (safe : Safe start scanning)
    (stepped : scanning.step answers isShutdown = (finish, scan)) :
    Safe start finish ∧ finish.log.inspected ≤ scanning.log.inspected + reconcileEntryLimit ∧
      finish.log.deleted.length ≤ scanning.log.deleted.length + reconcileEntryLimit ∧
      (scan ≠ .again → finish.pass.session = none) := by
  rw [Scanning.step] at stepped
  split at stepped
  · rename_i failed
    cases stepped
    exact ⟨safe, Nat.le_add_right _ _, Nat.le_add_right _ _, fun _ => session_of_error failed⟩
  · rename_i before next found
    obtain ⟨safe, here, inspected_eq, deleted_eq⟩ := safe_session safe found
    have length_le :
        (before.next reconcileEntryLimit).1.entries.length ≤ reconcileEntryLimit := by
      rw [length_next]
      exact min_le_left _ _
    dsimp only at stepped
    split at stepped
    · rename_i inspected problem failing
      have partly : Safe start { next with log := { next.log with
          inspected := next.log.inspected +
            min inspected (before.next reconcileEntryLimit).1.entries.length } } :=
        ⟨safe.sublist, safe.unrelated, safe.deleted, safe.closed⟩
      have settled := settles_fail partly stepped
      rw [settled.inspected, settled.deleted, ← inspected_eq, ← deleted_eq]
      exact ⟨settled.safe, Nat.add_le_add_left ((min_le_right _ _).trans length_le) _,
        Nat.le_add_right _ _, settled.session⟩
    · rw [if_neg (not_lt.mpr length_le)] at stepped
      have advanced := @Safe.advance start next (before.next reconcileEntryLimit).2 before safe
        here rfl (next.log.inspected + (before.next reconcileEntryLimit).1.entries.length)
      have few : ∀ {turned : Scanning} {failure : Option String},
          Scanning.deletePage answers (before.next reconcileEntryLimit).1.entries 0
            { next with
              pass := { next.pass with session := some (before.next reconcileEntryLimit).2 }
              log := { next.log with inspected := next.log.inspected +
                (before.next reconcileEntryLimit).1.entries.length } } = (turned, failure) →
          Settles start turned finish scan →
          Safe start finish ∧
            finish.log.inspected ≤ scanning.log.inspected + reconcileEntryLimit ∧
            finish.log.deleted.length ≤ scanning.log.deleted.length + reconcileEntryLimit ∧
            (scan ≠ .again → finish.pass.session = none) := by
        intro turned failure deleted settled
        obtain ⟨-, -, same, le⟩ := safe_deletePage advanced deleted
        refine ⟨settled.safe, ?_, ?_, settled.session⟩
        · rw [settled.inspected, same, ← inspected_eq]
          exact Nat.add_le_add_left length_le _
        · rw [settled.deleted, ← deleted_eq]
          exact le.trans (Nat.add_le_add_left length_le _)
      split at stepped
      · rename_i turned
        have safe := (safe_deletePage advanced turned).1
        exact few turned (settles_fail safe stepped)
      · rename_i turned
        have safe := (safe_deletePage advanced turned).1
        exact few turned (settles_turnPage safe stepped)

/-- A step that is followed by another has brought the chain forward; a chain that succeeds
leaves no candidates. -/
theorem advances_step (safe : Safe start scanning) (onWay : OnWay scanning)
    (stepped : scanning.step answers isShutdown = (finish, scan)) :
    Advances isShutdown (rank scanning) finish scan := by
  rw [Scanning.step] at stepped
  split at stepped
  · cases stepped
    exact advances_failed
  · rename_i before next found
    obtain ⟨inPass, le⟩ := onWay_session onWay found
    obtain ⟨safe, here, -, -⟩ := safe_session safe found
    dsimp only at stepped
    split at stepped
    · exact advances_fail stepped
    · split at stepped
      · exact advances_fail stepped
      · split at stepped
        · exact advances_fail stepped
        · rename_i turned
          have real : ∀ name ∈ (before.next reconcileEntryLimit).1.entries,
              ∃ entry ∈ before.disk, entry.name = name := fun name inside =>
            before.stream.real name (List.mem_of_mem_drop (List.mem_of_mem_take inside))
          have advanced := @Safe.advance start next (before.next reconcileEntryLimit).2 before safe
            here rfl (next.log.inspected + (before.next reconcileEntryLimit).1.entries.length)
          have paged := inPass_deletePage real turned inPass
          rw [← take_next] at paged
          have same := (safe_deletePage advanced turned).2.1
          have advances := advances_turnPage same paged stepped
          refine ⟨fun again => ?_, advances.clean⟩
          obtain ⟨running, onWay, lt⟩ := advances.again again
          exact ⟨running, onWay, lt.trans_le le⟩

end Step

/-! ## The end of a chain -/

section Calls

variable {owner : Option Owner} {now : Int} {state after : State} {reason : String}

/-- What the calls of the main thread leave to the worker. -/
structure Leaves (before after : State) : Prop where
  reconciliation : after.reconciliation = before.reconciliation
  isShutdown : after.isShutdown = before.isShutdown

theorem Leaves.retire {told : State} (leaves : Leaves state told)
    (marked : told.markRetire reason = some after) : Leaves state after.scheduleRetire := by
  rw [State.markRetire] at marked
  split at marked
  · cases marked
  · cases marked
    exact ⟨leaves.reconciliation, leaves.isShutdown⟩

theorem leaves_markExpiry (marked : state.markExpiry now = some after) :
    Leaves state after.scheduleRetire := by
  rw [State.markExpiry] at marked
  split at marked
  · exact Leaves.retire ⟨rfl, rfl⟩ marked
  · cases marked

/-- The end of `detach`. -/
theorem Leaves.forget {told : State} (leaves : Leaves state told) (owner : Option Owner) :
    Leaves state
      (if told.operationOwner = owner ∧ (told.phase = .cleaning ∨ told.phase = .preparing) then
        { told.dropOperation with generation := told.generation + 1 }
      else if told.operationOwner = owner ∧ told.phase = .materialized then
        match told.markRetire "detached" with
        | some retired => retired.scheduleRetire
        | none => told
      else told) := by
  split
  · exact ⟨leaves.reconciliation, leaves.isShutdown⟩
  · split
    · split
      · rename_i retired marked
        exact leaves.retire marked
      · exact leaves
    · exact leaves

theorem leaves_detach (owner : Option Owner) (state : State) :
    Leaves state (detach owner state) := by
  rw [detach]
  refine Leaves.forget ?_ owner
  split
  · exact ⟨rfl, rfl⟩
  · exact ⟨rfl, rfl⟩

theorem leaves_prepare (owner : Owner) (raw : String) (now : Int) (state : State) :
    Leaves state (prepare owner raw now state).1 := by
  rw [prepare]
  split
  · rename_i expired marked
    exact leaves_markExpiry marked
  · split
    · exact ⟨rfl, rfl⟩
    · split
      · exact ⟨rfl, rfl⟩
      · exact ⟨rfl, rfl⟩

theorem leaves_grant (owner : Option Owner) (now : Int) (state : State) :
    Leaves state (grant owner now state).1 := by
  rw [grant]
  split
  · rename_i expired marked
    exact leaves_markExpiry marked
  · split
    · exact ⟨rfl, rfl⟩
    · split
      · exact ⟨rfl, rfl⟩
      · exact ⟨rfl, rfl⟩

theorem leaves_dispose (state : State) : Leaves state (dispose state) := by
  rw [dispose]
  split
  · exact ⟨rfl, rfl⟩
  · dsimp only
    split
    · exact ⟨rfl, rfl⟩
    · exact ⟨rfl, rfl⟩

theorem leaves_invoke (now : Int) (state : State) (call : Call) :
    Leaves state (invoke now state call) := by
  cases call with
  | attach owner listener =>
      rw [invoke, attach]
      split
      · exact ⟨rfl, rfl⟩
      · exact ⟨rfl, rfl⟩
  | detach owner => exact leaves_detach owner state
  | prepare owner raw => exact leaves_prepare owner raw now state
  | grant owner => exact leaves_grant owner now state
  | observe =>
      rw [invoke, observe]
      split
      · rename_i expired marked
        exact leaves_markExpiry marked
      · exact ⟨rfl, rfl⟩
  | retire owner =>
      rw [invoke, retire]
      split
      · split
        · rename_i retired marked
          exact Leaves.retire ⟨rfl, rfl⟩ marked
        · exact ⟨rfl, rfl⟩
      · exact ⟨rfl, rfl⟩
  | retryCleanup =>
      rw [invoke, retryCleanup]
      split
      · exact ⟨rfl, rfl⟩
      · split
        · exact ⟨rfl, rfl⟩
        · exact ⟨rfl, rfl⟩
  | dispose => exact leaves_dispose state

theorem leaves_calls (calls : List (Int × Call)) (state : State) :
    Leaves state (calls.foldl (fun state call => invoke call.1 state call.2) state) := by
  induction calls generalizing state with
  | nil => exact ⟨rfl, rfl⟩
  | cons call calls ih =>
      have first := leaves_invoke call.1 state call.2
      have rest := ih (invoke call.1 state call.2)
      exact ⟨rest.reconciliation.trans first.reconciliation,
        rest.isShutdown.trans first.isShutdown⟩

end Calls

section Chain

variable {start : List FileEntry} {config after : Config} {turn : Turn} {success : Success}

/-- A chain has ended, with its sessions closed: no candidate is left, or the cleanup has failed,
which a disposal keeps for the one who waits for it. -/
structure Ended (config : Config) : Prop where
  reconciliation : config.state.reconciliation = none
  closed : config.scanning.log.closed = (List.range config.scanning.log.opened).reverse
  outcome : (∀ entry ∈ config.scanning.disk, recognizedName entry.name = false) ∨
    config.state.phase = .cleanupFailed ∨
    config.state.disposalRequested = true ∧ config.state.phase = .disposed ∧
      config.state.disposalFailure.isSome

/-- A turn of a chain that goes on. -/
structure Forward (before after : Config) : Prop where
  reconciliation : after.state.reconciliation = before.state.reconciliation
  onWay : OnWay after.scanning
  rank : rank after.scanning < rank before.scanning

/-- What a turn does to a chain that is safe. -/
structure Turned (start : List FileEntry) (before after : Config) : Prop where
  safe : Safe start after.scanning
  inspected : after.scanning.log.inspected ≤
    before.scanning.log.inspected + reconcileEntryLimit
  deleted : after.scanning.log.deleted.length ≤
    before.scanning.log.deleted.length + reconcileDeleteLimit

theorem turn_of_ended (ended : config.state.reconciliation = none) :
    (config.turn turn).scanning = config.scanning := by
  have leaves := leaves_calls turn.calls config.state
  rw [Config.turn, reconcileStepOnWorker, leaves.reconciliation, ended]

theorem turned_turn (safe : Safe start config.scanning) :
    Turned start config (config.turn turn) := by
  cases running : config.state.reconciliation with
  | none =>
      have same : (config.turn turn).scanning = config.scanning := turn_of_ended running
      exact ⟨same ▸ safe, same ▸ Nat.le_add_right _ _, same ▸ Nat.le_add_right _ _⟩
  | some success =>
      have leaves := leaves_calls turn.calls config.state
      rw [Config.turn, reconcileStepOnWorker, leaves.reconciliation, running]
      dsimp only
      generalize turn.calls.foldl _ _ = state
      rcases stepped : config.scanning.step turn.answers state.isShutdown with ⟨scanning, scan⟩
      obtain ⟨safe, inspected, deleted, -⟩ := safe_step safe stepped
      cases scan with
      | failed problem => exact ⟨safe, inspected, deleted⟩
      | again => exact ⟨safe, inspected, deleted⟩
      | clean => exact ⟨safe, inspected, deleted⟩

/-- A turn brings a chain forward or ends it. -/
theorem forward_or_ended (running : config.state.reconciliation = some success)
    (safe : Safe start config.scanning) (onWay : OnWay config.scanning) :
    Forward config (config.turn turn) ∨ Ended (config.turn turn) := by
  have leaves := leaves_calls turn.calls config.state
  rw [Config.turn, reconcileStepOnWorker, leaves.reconciliation, running]
  dsimp only
  generalize turn.calls.foldl _ _ = state at leaves
  rcases stepped : config.scanning.step turn.answers state.isShutdown with ⟨scanning, scan⟩
  have advances := advances_step safe onWay stepped
  obtain ⟨safe, -, -, finished⟩ := safe_step safe stepped
  have closed : scan ≠ .again →
      scanning.log.closed = (List.range scanning.log.opened).reverse := by
    intro other
    have closed := safe.closed
    rw [Closed, finished other] at closed
    exact closed
  have reconciling := leaves.reconciliation.trans running
  cases scan with
  | failed problem =>
      right
      refine ⟨?_, closed (by intro other; cases other), ?_⟩
      · rw [reconcileStep, reconciling]
        rfl
      · right
        rw [reconcileStep, reconciling]
        dsimp only [finishCleanupFailure, State.dropOperation, State.record]
        cases state.disposalRequested
        · exact .inl rfl
        · exact .inr ⟨rfl, rfl, rfl⟩
  | again =>
      obtain ⟨up, onWay, lt⟩ := advances.again rfl
      left
      refine ⟨?_, onWay, lt⟩
      rw [reconcileStep, reconciling, up]
      exact running.symm
  | clean =>
      right
      refine ⟨?_, closed (by intro other; cases other), .inl (advances.clean rfl)⟩
      rw [reconcileStep, reconciling]

theorem safe_start (state : State) (disk : List FileEntry) :
    Safe disk (Config.start success state disk).scanning where
  sublist := List.Sublist.refl disk
  unrelated _ inside _ := inside
  deleted := List.forall_mem_nil _
  closed := rfl

theorem safe_chain (turns : Nat → Turn) (safe : Safe start config.scanning) (steps : Nat) :
    Safe start (chain turns config steps).scanning := by
  induction steps with
  | zero => exact safe
  | succ steps ih => exact (turned_turn ih).safe

/-- A chain that runs comes to its end. -/
theorem chain_ends (turns : Nat → Turn) (safe : Safe start config.scanning) (steps : Nat)
    (running : (chain turns config steps).state.reconciliation = some success)
    (onWay : OnWay (chain turns config steps).scanning) :
    ∃ steps, Ended (chain turns config steps) := by
  have moved : Forward (chain turns config steps) (chain turns config (steps + 1)) ∨
      Ended (chain turns config (steps + 1)) :=
    forward_or_ended running (safe_chain turns safe steps) onWay
  rcases moved with forward | ended
  · exact chain_ends turns safe (steps + 1) (forward.reconciliation.trans running) forward.onWay
  · exact ⟨steps + 1, ended⟩
termination_by rank (chain turns config steps).scanning
decreasing_by exact forward.rank

/-- Whatever the directory holds and however the file system answers, a reconciliation ends, with
no candidate left or with a failure that is kept; it deletes candidates alone, it inspects and
deletes few entries in a step, and it closes each session that it opened once. -/
theorem reconciliation_ends (turns : Nat → Turn) (success : Success) (state : State)
    (disk : List FileEntry) :
    (∃ steps, Ended (chain turns (Config.start success state disk) steps)) ∧
    ∀ steps, Turned disk (chain turns (Config.start success state disk) steps)
      (chain turns (Config.start success state disk) (steps + 1)) := by
  have safe : Safe disk (Config.start success state disk).scanning := safe_start state disk
  constructor
  · exact @chain_ends disk _ success turns safe 0 rfl rfl
  · intro steps
    exact turned_turn (safe_chain turns safe steps)

end Chain

/-! ## A disposal during a reconciliation -/

def leftover : FileEntry := ⟨"raw-AAAAAAAAAAAAAAAA.json", false⟩

/-- The application disposes of the runtime before the first step, and the directory is gone. -/
def disposing (step : Nat) : Turn where
  calls := if step = 0 then [(0, .dispose)] else []
  system :=
    { directory := none, attempts := [], write := none, uri := .error "", revoke := none
      deleteTemporary := none, deleteFinal := none, scan := .again }
  answers :=
    { prepare := some "Raw-share directory is not a real directory"
      opens _ := .error "Raw-share directory is not a real directory"
      next := none
      delete _ := ⟨none, none, none, none⟩
      close := none }

theorem chain_disposing (steps : Nat) :
    chain disposing (Config.start .finishIdle initial [leftover]) (steps + 1) =
      chain disposing (Config.start .finishIdle initial [leftover]) 1 := by
  induction steps with
  | zero => rfl
  | succ steps ih =>
      rw [chain, ih]
      rfl

/-- A reconciliation that fails after a disposal leaves its candidates, and the phase does not
tell that the cleanup failed. -/
theorem disposal_hides_failure :
    ¬ ∃ steps,
      (chain disposing (Config.start .finishIdle initial [leftover]) steps).state.reconciliation =
        none ∧
      ((∀ entry ∈
          (chain disposing (Config.start .finishIdle initial [leftover]) steps).scanning.disk,
          recognizedName entry.name = false) ∨
        (chain disposing (Config.start .finishIdle initial [leftover]) steps).state.phase =
          .cleanupFailed) := by
  rintro ⟨steps, ended, outcome⟩
  cases steps with
  | zero => cases ended
  | succ steps =>
      rw [chain_disposing] at outcome
      rcases outcome with clean | failed
      · have candidate : recognizedName leftover.name = true := by decide
        have none := clean leftover (List.mem_singleton.mpr rfl)
        rw [candidate] at none
        cases none
      · cases failed

end CheckNetwork.Android.RawShare
