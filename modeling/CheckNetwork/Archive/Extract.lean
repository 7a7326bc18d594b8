import CheckNetwork.Archive.Layer

/-!
# Extraction of the programs

`_safe_extract` writes the two programs into an empty directory and reads them back.  When a
step fails it takes away the files that it created.  The directory is closed last.
-/

namespace CheckNetwork.Archive.Api

open Go Collection

/-- An entry of the directory. -/
structure Entry where
  regular : Bool := true
  mode : Nat
  data : List UInt8
  deriving DecidableEq

/-- An exception: one of the checks, an `OSError`, or a `KeyError`. -/
inductive Raised
  | validation (failure : ValidationError)
  | os
  | key (name : Name)
  deriving DecidableEq

/-- What the system answers while a file is written.  A call of `os.write` raises or returns
a number. -/
structure Writing where
  opens : Bool := true
  chmods : Bool := true
  write : Nat → Option Int
  syncs : Bool := true
  closes : Bool := true

/-- What the system answers while a file is read back.  A call of `os.read` raises or returns
some bytes, and none at the end of the file. -/
structure Reading where
  opens : Bool := true
  stat : Option (Bool × Nat)
  chunks : List (Option (List UInt8))
  closes : Bool := true

/-- What the system answers. -/
structure System where
  opens : Bool := true
  stat : Option (Bool × Nat)
  euid : Nat
  listing : Option (List Name)
  umask : Nat := 0o022
  writing : Name → Writing
  reading : Name → Reading
  unlinks : Name → Bool := fun _ => true
  closes : Bool := true

/-- The expected files, sorted. -/
def expectedFiles : List Name := [.ofString "checknetwork-api", .ofString "traceroute"]

/-- The directory, and the files that were created in it. -/
structure Session where
  directory : Store Name Entry
  created : List Name := []

/-- The entry that a file should be. -/
def entryOf (value : ProjectedFile) : Entry where
  mode := value.mode
  data := value.data

/-- The loop over `os.write`: the bytes that reached the file, and how it ended. -/
def writeAll (write : Nat → Option Int) (name : Name) (call : Nat) (view : List UInt8) :
    List UInt8 × Except Raised Unit :=
  if view = [] then ([], .ok ())
  else match write call with
    | none => ([], .error .os)
    | some written =>
        if written ≤ 0 then
          ([], .error (.validation ⟨"short write while extracting", name⟩))
        else
          let (rest, outcome) := writeAll write name (call + 1) (view.drop written.toNat)
          (view.take written.toNat ++ rest, outcome)
termination_by view.length
decreasing_by
  have nonempty := List.length_pos_iff.mpr ‹¬view = []›
  rw [List.length_drop]
  omega

/-- The calls on the descriptor of a created file, before it is closed. -/
def fill (system : System) (name : Name) (value : ProjectedFile) : Entry × Except Raised Unit :=
  let writing := system.writing name
  -- the mode of `os.open` has the bits of the umask taken out
  if !writing.chmods then
    ({ mode := value.mode ^^^ (value.mode &&& system.umask), data := [] }, .error .os)
  else
    let (data, outcome) := writeAll writing.write name 0 value.data
    ({ mode := value.mode, data }, outcome >>= fun _ => if writing.syncs then .ok () else .error .os)

def createFile (system : System) (files : Store Name ProjectedFile) (name : Name)
    (session : Session) : Session × Except Raised Unit :=
  match files.lookup name with
  | none => (session, .error (.key name))
  | some value =>
      if name ∈ session.directory ∨ (system.writing name).opens = false then
        (session, .error (.validation ⟨"safe extraction create failed for", name⟩))
      else
        let (entry, outcome) := fill system name value
        ({ directory := session.directory.insert name entry, created := session.created ++ [name] },
          if (system.writing name).closes then outcome else .error .os)

def createFiles (system : System) (files : Store Name ProjectedFile) :
    List Name → Session → Session × Except Raised Unit
  | [], session => (session, .ok ())
  | name :: names, session =>
      match createFile system files name session with
      | (session, .ok _) => createFiles system files names session
      | (session, .error raised) => (session, .error raised)

/-- The loop over `os.read`. -/
def readAll : List (Option (List UInt8)) → (read : List UInt8) → Except Raised (List UInt8)
  | [], read => .ok read
  | none :: _, _ => .error .os
  | some chunk :: chunks, read => if chunk = [] then .ok read else readAll chunks (read ++ chunk)

/-- The comparison of a file that was read back. -/
def compareFile (system : System) (sha256 : List UInt8 → String) (hashes : Store Name String)
    (name : Name) (value : ProjectedFile) : Except Raised Unit :=
  match (system.reading name).stat with
  | none => .error .os
  | some (regular, mode) =>
      if !regular || mode ≠ value.mode then
        .error (.validation ⟨"extracted mode/type mismatch", name⟩)
      else do
        let read ← readAll (system.reading name).chunks []
        if read.length ≠ value.data.length then
          .error (.validation ⟨"extracted bytes/hash mismatch", name⟩)
        else match hashes.lookup name with
          | none => .error (.key name)
          | some hash =>
              if sha256 read ≠ hash then
                .error (.validation ⟨"extracted bytes/hash mismatch", name⟩)
              else .ok ()

def verifyFile (system : System) (sha256 : List UInt8 → String) (files : Store Name ProjectedFile)
    (hashes : Store Name String) (name : Name) : Except Raised Unit :=
  if !(system.reading name).opens then .error .os
  else
    let outcome := match files.lookup name with
      | none => .error (.key name)
      | some value => compareFile system sha256 hashes name value
    if (system.reading name).closes then outcome else .error .os

/-- What stands under `try`. -/
def extractFiles (system : System) (sha256 : List UInt8 → String)
    (files : Store Name ProjectedFile) (hashes : Store Name String) (session : Session) :
    Session × Except Raised Unit :=
  match system.stat with
  | none => (session, .error .os)
  | some (isDirectory, uid) =>
      if !isDirectory then
        (session, .error (.validation { what := "extraction target must be a real directory" }))
      else if uid ≠ system.euid then
        (session, .error (.validation { what := "extraction target must be caller-owned" }))
      else match system.listing with
        | none => (session, .error .os)
        | some names =>
            if names ≠ [] then
              (session, .error (.validation { what := "extraction target must be empty" }))
            else match createFiles system files expectedFiles session with
              | (session, .error raised) => (session, .error raised)
              | (session, .ok _) =>
                  (session, expectedFiles.forM (verifyFile system sha256 files hashes))

/-- The directory after a run, the names whose `os.unlink` failed, and how the run ended. -/
structure Extraction where
  directory : Store Name Entry
  stuck : List Name := []
  outcome : Except Raised Unit

/-- `_safe_extract`.  The directory has all entries of others, also those that come after it was
listed. -/
def safeExtract (system : System) (sha256 : List UInt8 → String)
    (files : Store Name ProjectedFile) (hashes : Store Name String) (directory : Store Name Entry) :
    Extraction :=
  if !system.opens then
    { directory, outcome := .error (.validation { what := "extraction target must be a real directory" }) }
  else
    let (session, outcome) := extractFiles system sha256 files hashes { directory }
    let closed := if system.closes then outcome else .error .os
    match outcome with
    | .ok _ => { directory := session.directory, outcome := closed }
    | .error _ =>
        { directory := (session.created.filter system.unlinks).foldl (·.erase ·) session.directory
          stuck := session.created.filter (!system.unlinks ·), outcome := closed }

/-! ## Answers that let a run pass -/

/-- Every call of `os.write` writes something until nothing is left. -/
inductive Accepts (write : Nat → Option Int) : Nat → List UInt8 → Prop
  | done {call : Nat} : Accepts write call []
  | more {call : Nat} {view : List UInt8} {written : Int} : view ≠ [] →
      write call = some written → 0 < written →
      Accepts write (call + 1) (view.drop written.toNat) → Accepts write call view

/-- The calls of `os.read` return the bytes one after the other. -/
inductive Serves : List (Option (List UInt8)) → List UInt8 → Prop
  | nil : Serves [] []
  | eof {chunks : List (Option (List UInt8))} : Serves (some [] :: chunks) []
  | chunk {chunk rest : List UInt8} {chunks : List (Option (List UInt8))} : chunk ≠ [] →
      Serves chunks rest → Serves (some chunk :: chunks) (chunk ++ rest)

/-- The calls that create and fill a file succeed. -/
structure Creates (writing : Writing) (value : ProjectedFile) : Prop where
  opens : writing.opens = true
  chmods : writing.chmods = true
  writes : Accepts writing.write 0 value.data
  syncs : writing.syncs = true
  closes : writing.closes = true

/-- The calls that read a file back succeed, and it is what it should be. -/
structure Verifies (reading : Reading) (sha256 : List UInt8 → String) (value : ProjectedFile)
    (hash : String) : Prop where
  opens : reading.opens = true
  stat : reading.stat = some (true, value.mode)
  reads : ∃ read, Serves reading.chunks read ∧ read.length = value.data.length ∧ sha256 read = hash
  closes : reading.closes = true

/-- Nothing fails before the directory is closed. -/
structure Unhindered (system : System) (sha256 : List UInt8 → String)
    (files : Store Name ProjectedFile) (hashes : Store Name String)
    (directory : Store Name Entry) : Prop where
  opens : system.opens = true
  owned : system.stat = some (true, system.euid)
  empty : system.listing = some []
  each : ∀ name ∈ expectedFiles, ∃ value hash, files.lookup name = some value ∧
    hashes.lookup name = some hash ∧ name ∉ directory ∧ Creates (system.writing name) value ∧
    Verifies (system.reading name) sha256 value hash

section Calls

variable {write : Nat → Option Int} {name : Name} {call : Nat} {view read : List UInt8}
  {chunks : List (Option (List UInt8))} {system : System} {sha256 : List UInt8 → String}
  {files : Store Name ProjectedFile} {hashes : Store Name String} {value : ProjectedFile}
  {session : Session} {names : List Name}

theorem writeAll_eq_ok_iff : (writeAll write name call view).2 = .ok () ↔ Accepts write call view := by
  fun_induction writeAll write name call view with
  | case1 call => exact ⟨fun _ => .done, fun _ => rfl⟩
  | case2 call view nonempty raises =>
      constructor
      · intro passed
        cases passed
      · intro accepts
        cases accepts with
        | done => exact absurd rfl nonempty
        | more _ answer => rw [raises] at answer; cases answer
  | case3 call view nonempty written answers short =>
      constructor
      · intro passed
        cases passed
      · intro accepts
        cases accepts with
        | done => exact absurd rfl nonempty
        | more _ answer positive =>
            rw [answers] at answer
            cases answer
            omega
  | case4 call view nonempty written answers short rest outcome later ih =>
      rw [later] at ih
      rw [ih]
      constructor
      · intro accepts
        exact .more nonempty answers (not_le.mp short) accepts
      · intro accepts
        cases accepts with
        | done => exact absurd rfl nonempty
        | more _ answer _ accepts =>
            rw [answers] at answer
            cases answer
            exact accepts

/-- A loop that ends well has written all bytes. -/
theorem writeAll_eq_of_accepts (accepts : Accepts write call view) :
    writeAll write name call view = (view, .ok ()) := by
  induction accepts with
  | done =>
      rw [writeAll]
      rfl
  | more nonempty answer positive _ ih =>
      rw [writeAll, if_neg nonempty, answer]
      dsimp only
      rw [if_neg (not_le.mpr positive), ih]
      dsimp only
      rw [List.take_append_drop]

theorem readAll_eq_ok_iff {all : List UInt8} :
    readAll chunks read = .ok all ↔ ∃ served, Serves chunks served ∧ all = read ++ served := by
  induction chunks generalizing read with
  | nil =>
      constructor
      · intro same
        cases same
        exact ⟨[], .nil, (List.append_nil _).symm⟩
      · rintro ⟨_, serves, rfl⟩
        cases serves
        rw [List.append_nil, readAll]
  | cons chunk chunks ih =>
      cases chunk with
      | none =>
          constructor
          · intro same
            cases same
          · rintro ⟨_, serves, _⟩
            cases serves
      | some chunk =>
          rw [readAll]
          by_cases empty : chunk = []
          · rw [if_pos empty]
            subst empty
            constructor
            · intro same
              cases same
              exact ⟨[], .eof, (List.append_nil _).symm⟩
            · rintro ⟨_, serves, rfl⟩
              cases serves with
              | eof => rw [List.append_nil]
              | chunk nonempty => exact absurd rfl nonempty
          · rw [if_neg empty, ih]
            constructor
            · rintro ⟨served, serves, rfl⟩
              exact ⟨chunk ++ served, .chunk empty serves, List.append_assoc ..⟩
            · rintro ⟨_, serves, rfl⟩
              cases serves with
              | eof => exact absurd rfl empty
              | chunk _ serves => exact ⟨_, serves, (List.append_assoc ..).symm⟩

theorem fill_of_creates (creates : Creates (system.writing name) value) :
    fill system name value = (entryOf value, .ok ()) := by
  have written := @writeAll_eq_of_accepts _ name _ _ creates.writes
  rw [fill]
  dsimp only
  rw [creates.chmods, written]
  dsimp only
  rw [creates.syncs]
  rfl

theorem chmods_of_fill (filled : (fill system name value).2 = .ok ()) :
    (system.writing name).chmods = true ∧ Accepts (system.writing name).write 0 value.data ∧
      (system.writing name).syncs = true := by
  rw [fill] at filled
  dsimp only at filled
  cases chmods : (system.writing name).chmods with
  | false =>
      rw [chmods] at filled
      cases filled
  | true =>
      rw [chmods, Bool.not_true, if_neg Bool.false_ne_true] at filled
      dsimp only at filled
      cases written : (writeAll (system.writing name).write name 0 value.data).2 with
      | error raised =>
          rw [written] at filled
          cases filled
      | ok =>
          rw [written] at filled
          cases syncs : (system.writing name).syncs with
          | false =>
              rw [syncs] at filled
              cases filled
          | true => exact ⟨rfl, writeAll_eq_ok_iff.mp written, rfl⟩

theorem createFile_of_creates (found : files.lookup name = some value)
    (fresh : name ∉ session.directory) (creates : Creates (system.writing name) value) :
    createFile system files name session =
      ({ directory := session.directory.insert name (entryOf value)
         created := session.created ++ [name] }, .ok ()) := by
  have free : ¬ (name ∈ session.directory ∨ (system.writing name).opens = false) := by
    rintro (present | closed)
    · exact fresh present
    · rw [creates.opens] at closed
      cases closed
  rw [createFile, found]
  dsimp only
  rw [if_neg free, fill_of_creates creates, creates.closes]
  rfl

/-- A file is created exactly when its name is free and the calls succeed. -/
theorem createFile_eq_ok_iff : (createFile system files name session).2 = .ok () ↔
    ∃ value, files.lookup name = some value ∧ name ∉ session.directory ∧
      Creates (system.writing name) value := by
  constructor
  · intro passed
    rw [createFile] at passed
    cases found : files.lookup name with
    | none =>
        rw [found] at passed
        cases passed
    | some value =>
        rw [found] at passed
        dsimp only at passed
        by_cases taken : name ∈ session.directory ∨ (system.writing name).opens = false
        · rw [if_pos taken] at passed
          cases passed
        · rw [if_neg taken] at passed
          obtain ⟨fresh, opens⟩ := not_or.mp taken
          cases closes : (system.writing name).closes with
          | false =>
              rw [closes] at passed
              cases passed
          | true =>
              rw [closes] at passed
              obtain ⟨chmods, writes, syncs⟩ := chmods_of_fill passed
              exact ⟨value, rfl, fresh, Bool.not_eq_false _ |>.mp opens, chmods, writes, syncs, closes⟩
  · rintro ⟨value, found, fresh, creates⟩
    rw [createFile_of_creates found fresh creates]

end Calls

/-! ## The directory -/

/-- The directory differs from what it was at the created names alone, and these were free. -/
structure Session.Keeps (directory : Store Name Entry) (session : Session) : Prop where
  lookup : ∀ name, name ∉ session.created → session.directory.lookup name = directory.lookup name
  free : ∀ name ∈ session.created, name ∉ directory

section Directory

variable {system : System} {sha256 : List UInt8 → String} {files : Store Name ProjectedFile}
  {hashes : Store Name String} {directory : Store Name Entry} {session : Session} {name : Name}
  {names : List Name}

theorem Session.Keeps.insert (keeps : session.Keeps directory) (fresh : name ∉ session.directory)
    (entry : Entry) :
    Session.Keeps directory ⟨session.directory.insert name entry, session.created ++ [name]⟩ where
  lookup other outside := by
    rw [List.mem_append, List.mem_singleton, not_or] at outside
    exact (AList.lookup_insert_ne outside.2).trans (keeps.lookup other outside.1)
  free other inside := by
    rcases List.mem_append.mp inside with inside | inside
    · exact keeps.free other inside
    · rw [List.mem_singleton.mp inside]
      by_cases created : name ∈ session.created
      · exact keeps.free name created
      · rw [← AList.lookup_eq_none, ← keeps.lookup name created, AList.lookup_eq_none]
        exact fresh

theorem Session.Keeps.createFile (keeps : session.Keeps directory) (system : System)
    (files : Store Name ProjectedFile) (name : Name) :
    (createFile system files name session).1.Keeps directory := by
  rw [Api.createFile]
  cases files.lookup name with
  | none => exact keeps
  | some value =>
      dsimp only
      by_cases taken : name ∈ session.directory ∨ (system.writing name).opens = false
      · rw [if_pos taken]
        exact keeps
      · rw [if_neg taken]
        exact keeps.insert (not_or.mp taken).1 _

theorem Session.Keeps.createFiles (keeps : session.Keeps directory) (system : System)
    (files : Store Name ProjectedFile) (names : List Name) :
    (createFiles system files names session).1.Keeps directory := by
  induction names generalizing session with
  | nil => exact keeps
  | cons name names ih =>
      have step := keeps.createFile system files name
      rw [Api.createFiles]
      cases created : Api.createFile system files name session with
      | mk next outcome =>
          rw [created] at step
          cases outcome with
          | ok => exact ih step
          | error => exact step

/-- Files that are created are what they should be. -/
theorem lookup_createFiles (distinct : names.Nodup)
    (created : (createFiles system files names session).2 = .ok ()) (path : Name) :
    (createFiles system files names session).1.directory.lookup path =
      if path ∈ names then (files.lookup path).map entryOf else session.directory.lookup path := by
  induction names generalizing session with
  | nil => rw [createFiles, if_neg List.not_mem_nil]
  | cons name names ih =>
      obtain ⟨absent, distinct⟩ := List.nodup_cons.mp distinct
      rw [createFiles] at created ⊢
      cases first : createFile system files name session with
      | mk next outcome =>
          rw [first] at created
          cases outcome with
          | error raised => cases created
          | ok =>
              obtain ⟨value, found, fresh, creates⟩ :=
                createFile_eq_ok_iff.mp (congrArg Prod.snd first)
              rw [createFile_of_creates found fresh creates] at first
              cases first
              dsimp only at created ⊢
              rw [ih distinct created]
              by_cases later : path ∈ names
              · rw [if_pos later, if_pos (List.mem_cons_of_mem _ later)]
              · rw [if_neg later]
                by_cases here : path = name
                · rw [here, if_pos List.mem_cons_self, AList.lookup_insert, found]
                  rfl
                · rw [AList.lookup_insert_ne here, if_neg]
                  rw [List.mem_cons, not_or]
                  exact ⟨here, later⟩

theorem createFiles_eq_ok_iff (distinct : names.Nodup) :
    (createFiles system files names session).2 = .ok () ↔ ∀ name ∈ names, ∃ value,
      files.lookup name = some value ∧ name ∉ session.directory ∧
        Creates (system.writing name) value := by
  induction names generalizing session with
  | nil => exact ⟨fun _ => List.forall_mem_nil _, fun _ => rfl⟩
  | cons name names ih =>
      obtain ⟨absent, distinct⟩ := List.nodup_cons.mp distinct
      rw [List.forall_mem_cons, createFiles, ← createFile_eq_ok_iff]
      cases first : createFile system files name session with
      | mk next outcome =>
          cases outcome with
          | error raised =>
              constructor
              · intro passed
                cases passed
              · intro both
                cases both.1
          | ok =>
              obtain ⟨value, found, fresh, creates⟩ :=
                createFile_eq_ok_iff.mp (congrArg Prod.snd first)
              rw [createFile_of_creates found fresh creates] at first
              cases first
              dsimp only
              rw [ih distinct]
              have same : ∀ other ∈ names, (other ∉ session.directory.insert name (entryOf value) ↔
                  other ∉ session.directory) := by
                intro other inside
                have ne : other ≠ name := by
                  rintro rfl
                  exact absent inside
                rw [AList.mem_insert, not_or, and_iff_right ne]
              constructor
              · intro each
                refine ⟨rfl, fun other inside => ?_⟩
                obtain ⟨value, found, free, creates⟩ := each other inside
                exact ⟨value, found, (same other inside).mp free, creates⟩
              · rintro ⟨-, each⟩ other inside
                obtain ⟨value, found, free, creates⟩ := each other inside
                exact ⟨value, found, (same other inside).mpr free, creates⟩

theorem lookup_foldl_erase (store : Store Name Entry) (path : Name) :
    (names.foldl (·.erase ·) store).lookup path =
      if path ∈ names then none else store.lookup path := by
  induction names generalizing store with
  | nil => rw [List.foldl_nil, if_neg List.not_mem_nil]
  | cons name names ih =>
      rw [List.foldl_cons, ih]
      by_cases later : path ∈ names
      · rw [if_pos later, if_pos (List.mem_cons_of_mem _ later)]
      · rw [if_neg later]
        by_cases here : path = name
        · rw [here, if_pos List.mem_cons_self, AList.lookup_erase]
        · rw [AList.lookup_erase_ne here, if_neg]
          rw [List.mem_cons, not_or]
          exact ⟨here, later⟩

theorem compareFile_eq_ok_iff {value : ProjectedFile} :
    compareFile system sha256 hashes name value = .ok () ↔
      (system.reading name).stat = some (true, value.mode) ∧ ∃ hash, hashes.lookup name = some hash ∧
        ∃ read, Serves (system.reading name).chunks read ∧ read.length = value.data.length ∧
          sha256 read = hash := by
  rw [compareFile]
  cases stat : (system.reading name).stat with
  | none =>
      constructor
      · intro passed
        cases passed
      · rintro ⟨same, -⟩
        cases same
  | some answer =>
      obtain ⟨regular, mode⟩ := answer
      dsimp only
      by_cases differs : (!regular || decide (mode ≠ value.mode)) = true
      · rw [if_pos differs]
        constructor
        · intro passed
          cases passed
        · rintro ⟨same, -⟩
          cases same
          rw [Bool.not_true, Bool.false_or, decide_eq_true_iff] at differs
          exact absurd rfl differs
      · rw [if_neg differs]
        rw [Bool.not_eq_true, Bool.or_eq_false_iff, Bool.not_eq_false', decide_eq_false_iff_not,
          not_not] at differs
        obtain ⟨rfl, rfl⟩ := differs
        rw [and_iff_right rfl]
        cases served : readAll (system.reading name).chunks [] with
        | error raised =>
            constructor
            · intro passed
              cases passed
            · rintro ⟨_, _, read, serves, -, -⟩
              have same := readAll_eq_ok_iff.mpr ⟨read, serves, (List.nil_append _).symm⟩
              rw [served] at same
              cases same
        | ok read =>
            obtain ⟨_, serves, rfl⟩ := readAll_eq_ok_iff.mp served
            change (if _ then _ else _) = _ ↔ _
            constructor
            · intro passed
              split at passed
              · cases passed
              · rename_i length_eq
                cases found : hashes.lookup name with
                | none =>
                    rw [found] at passed
                    cases passed
                | some hash =>
                    rw [found] at passed
                    dsimp only at passed
                    split at passed
                    · cases passed
                    · rename_i same
                      exact ⟨hash, rfl, _, serves, not_not.mp length_eq, not_not.mp same⟩
            · rintro ⟨hash, found, other, serves', length_eq, same⟩
              have again := readAll_eq_ok_iff.mpr ⟨other, serves', (List.nil_append _).symm⟩
              rw [served] at again
              cases again
              rw [if_neg (not_not.mpr length_eq), found]
              dsimp only
              rw [if_neg (not_not.mpr same)]

theorem verifyFile_eq_ok_iff : verifyFile system sha256 files hashes name = .ok () ↔
    ∃ value hash, files.lookup name = some value ∧ hashes.lookup name = some hash ∧
      Verifies (system.reading name) sha256 value hash := by
  rw [verifyFile]
  constructor
  · intro passed
    split at passed
    · cases passed
    · rename_i opens
      cases found : files.lookup name with
      | none =>
          rw [found] at passed
          dsimp only at passed
          split at passed
          · cases passed
          · cases passed
      | some value =>
          rw [found] at passed
          dsimp only at passed
          split at passed
          · rename_i closes
            obtain ⟨stat, hash, known, reads⟩ := compareFile_eq_ok_iff.mp passed
            rw [Bool.not_eq_true, Bool.not_eq_false'] at opens
            exact ⟨value, hash, rfl, known, opens, stat, reads, closes⟩
          · cases passed
  · rintro ⟨value, hash, found, known, verifies⟩
    have compared := compareFile_eq_ok_iff.mpr ⟨verifies.stat, hash, known, verifies.reads⟩
    rw [verifies.opens, Bool.not_true, if_neg Bool.false_ne_true, found]
    dsimp only
    rw [if_pos verifies.closes, compared]

theorem forM_eq_ok_iff {check : Name → Except Raised Unit} :
    names.forM check = .ok () ↔ ∀ name ∈ names, check name = .ok () := by
  induction names with
  | nil => exact ⟨fun _ => List.forall_mem_nil _, fun _ => rfl⟩
  | cons name names ih =>
      rw [List.forall_mem_cons, ← ih]
      change (check name >>= fun _ => names.forM check) = _ ↔ _
      cases check name with
      | ok => exact ⟨fun rest => ⟨rfl, rest⟩, And.right⟩
      | error raised =>
          constructor
          · intro passed
            cases passed
          · intro both
            cases both.1

theorem nodup_expectedFiles : expectedFiles.Nodup := by
  decide

theorem extractFiles_of_unhindered
    (unhindered : Unhindered system sha256 files hashes directory) :
    (createFiles system files expectedFiles { directory }).2 = .ok () ∧
      extractFiles system sha256 files hashes { directory } =
        ((createFiles system files expectedFiles { directory }).1, .ok ()) := by
  have created : (createFiles system files expectedFiles { directory }).2 = .ok () := by
    rw [createFiles_eq_ok_iff nodup_expectedFiles]
    intro name expected
    obtain ⟨value, hash, found, known, fresh, creates, verifies⟩ := unhindered.each name expected
    exact ⟨value, found, fresh, creates⟩
  have verified : expectedFiles.forM (verifyFile system sha256 files hashes) = .ok () := by
    rw [forM_eq_ok_iff]
    intro name expected
    obtain ⟨value, hash, found, known, fresh, creates, verifies⟩ := unhindered.each name expected
    exact verifyFile_eq_ok_iff.mpr ⟨value, hash, found, known, verifies⟩
  refine ⟨created, ?_⟩
  rw [extractFiles, unhindered.owned]
  dsimp only
  rw [Bool.not_true, if_neg Bool.false_ne_true, if_neg (not_not.mpr rfl), unhindered.empty]
  dsimp only
  rw [if_neg (not_not.mpr rfl)]
  cases created_eq : createFiles system files expectedFiles { directory } with
  | mk next outcome =>
      rw [created_eq] at created
      cases created
      dsimp only
      rw [verified]

/-- What stands under `try` passes exactly when nothing hinders it. -/
theorem extractFiles_eq_ok_iff (opens : system.opens = true) :
    (extractFiles system sha256 files hashes { directory }).2 = .ok () ↔
      Unhindered system sha256 files hashes directory := by
  constructor
  · intro passed
    rw [extractFiles] at passed
    cases stat : system.stat with
    | none =>
        rw [stat] at passed
        cases passed
    | some answer =>
        obtain ⟨isDirectory, uid⟩ := answer
        rw [stat] at passed
        dsimp only at passed
        split at passed
        · cases passed
        · rename_i isDirectory_eq
          split at passed
          · cases passed
          · rename_i uid_eq
            cases listing : system.listing with
            | none =>
                rw [listing] at passed
                cases passed
            | some names =>
                rw [listing] at passed
                dsimp only at passed
                split at passed
                · cases passed
                · rename_i empty
                  rw [not_not] at empty uid_eq
                  rw [Bool.not_eq_true, Bool.not_eq_false'] at isDirectory_eq
                  cases created : createFiles system files expectedFiles { directory } with
                  | mk next outcome =>
                      rw [created] at passed
                      cases outcome with
                      | error raised => cases passed
                      | ok =>
                          have creates := (createFiles_eq_ok_iff nodup_expectedFiles).mp
                            (congrArg Prod.snd created)
                          have verified := forM_eq_ok_iff.mp passed
                          refine ⟨opens, ?_, ?_, ?_⟩
                          · rw [stat, isDirectory_eq, uid_eq]
                          · rw [listing, empty]
                          · intro name expected
                            obtain ⟨value, found, fresh, creates⟩ := creates name expected
                            obtain ⟨other, hash, found', known, verifies⟩ :=
                              verifyFile_eq_ok_iff.mp (verified name expected)
                            rw [found] at found'
                            cases found'
                            exact ⟨value, hash, found, known, fresh, creates, verifies⟩
  · intro unhindered
    rw [(extractFiles_of_unhindered unhindered).2]

theorem Session.Keeps.start : Session.Keeps directory { directory } where
  lookup _ _ := rfl
  free _ created := absurd created List.not_mem_nil

/-- Whatever happens, nothing but created files has changed. -/
theorem keeps_extractFiles (system : System) (sha256 : List UInt8 → String)
    (files : Store Name ProjectedFile) (hashes : Store Name String)
    (directory : Store Name Entry) :
    (extractFiles system sha256 files hashes { directory }).1.Keeps directory := by
  have keeps := (@Session.Keeps.start directory).createFiles system files expectedFiles
  rw [extractFiles]
  split
  · exact .start
  · split
    · exact .start
    · split
      · exact .start
      · split
        · exact .start
        · split
          · exact .start
          · cases created : createFiles system files expectedFiles { directory } with
            | mk next outcome =>
                rw [created] at keeps
                cases outcome with
                | error raised => exact keeps
                | ok => exact keeps

/-- The cleanup leaves what was there before, and what it cannot unlink. -/
theorem Session.Keeps.cleaned (keeps : session.Keeps directory) (unlinks : Name → Bool) :
    (∀ name ∈ directory, ((session.created.filter unlinks).foldl (·.erase ·)
        session.directory).lookup name = directory.lookup name) ∧
      ∀ name, name ∉ session.created.filter (!unlinks ·) →
        ((session.created.filter unlinks).foldl (·.erase ·) session.directory).lookup name =
          directory.lookup name := by
  constructor
  · intro name present
    have kept : name ∉ session.created := fun created => keeps.free name created present
    rw [lookup_foldl_erase, if_neg fun erased => kept (List.mem_of_mem_filter erased)]
    exact keeps.lookup name kept
  · intro name gone
    rw [lookup_foldl_erase]
    by_cases created : name ∈ session.created
    · rw [AList.lookup_eq_none.mpr (keeps.free name created), if_pos]
      rw [List.mem_filter]
      refine ⟨created, ?_⟩
      by_contra remains
      rw [Bool.not_eq_true] at remains
      exact gone (List.mem_filter.mpr ⟨created, by rw [remains]; rfl⟩)
    · rw [if_neg fun erased => created (List.mem_of_mem_filter erased)]
      exact keeps.lookup name created

end Directory

/-! ## All or nothing -/

/-- A run succeeds with the expected files in place and nothing else touched, or it raises, and
has touched nothing but files of its own that could not be unlinked. -/
def AllOrNothing (system : System) (files : Store Name ProjectedFile)
    (directory : Store Name Entry) (run : Extraction) : Prop :=
  match run.outcome with
  | .ok _ => system.listing = some [] ∧
      (∀ name ∈ expectedFiles, ∃ value, files.lookup name = some value ∧
        run.directory.lookup name = some (entryOf value)) ∧
      ∀ name, name ∉ expectedFiles → run.directory.lookup name = directory.lookup name
  | .error _ =>
      (∀ name ∈ directory, run.directory.lookup name = directory.lookup name) ∧
        ∀ name, name ∉ run.stuck → run.directory.lookup name = directory.lookup name

section Runs

variable {system : System} {sha256 : List UInt8 → String} {files : Store Name ProjectedFile}
  {hashes : Store Name String} {directory : Store Name Entry}

/-- Without a failure before the directory is closed, the files are in place whether or not it
can be closed. -/
theorem safeExtract_of_unhindered (unhindered : Unhindered system sha256 files hashes directory) :
    (safeExtract system sha256 files hashes directory).outcome =
        (if system.closes then .ok () else .error .os) ∧
      (safeExtract system sha256 files hashes directory).stuck = [] ∧
      ∀ path, (safeExtract system sha256 files hashes directory).directory.lookup path =
        if path ∈ expectedFiles then (files.lookup path).map entryOf else directory.lookup path := by
  obtain ⟨created, extracted⟩ := extractFiles_of_unhindered unhindered
  rw [safeExtract, unhindered.opens, Bool.not_true, if_neg Bool.false_ne_true, extracted]
  exact ⟨rfl, rfl, lookup_createFiles nodup_expectedFiles created⟩

theorem not_allOrNothing_of_unhindered
    (unhindered : Unhindered system sha256 files hashes directory) (open_ : system.closes = false) :
    ¬ AllOrNothing system files directory
      (safeExtract system sha256 files hashes directory) := by
  obtain ⟨outcome, stuck, lookup⟩ := safeExtract_of_unhindered unhindered
  rw [open_, if_neg Bool.false_ne_true] at outcome
  rw [AllOrNothing, outcome]
  dsimp only
  rintro ⟨-, clean⟩
  have expected : GoString.ofString "traceroute" ∈ expectedFiles :=
    List.mem_cons_of_mem _ List.mem_cons_self
  obtain ⟨value, _, found, _, fresh, _, _⟩ := unhindered.each _ expected
  have left := clean (GoString.ofString "traceroute") (by rw [stuck]; exact List.not_mem_nil)
  rw [lookup, if_pos expected, found, AList.lookup_eq_none.mpr fresh] at left
  cases left

/-- A failure before the directory is closed leaves nothing but what cannot be unlinked. -/
theorem allOrNothing_of_hindered (hindered : ¬ Unhindered system sha256 files hashes directory) :
    AllOrNothing system files directory (safeExtract system sha256 files hashes directory) := by
  rw [safeExtract]
  cases opens : system.opens with
  | false => exact ⟨fun _ _ => rfl, fun _ _ => rfl⟩
  | true =>
      rw [Bool.not_true, if_neg Bool.false_ne_true]
      have keeps := keeps_extractFiles system sha256 files hashes directory
      have failed := (extractFiles_eq_ok_iff opens).not.mpr hindered
      cases extracted : extractFiles system sha256 files hashes { directory } with
      | mk session outcome =>
          rw [extracted] at keeps failed
          cases outcome with
          | ok => exact absurd rfl failed
          | error raised =>
              dsimp only
              cases system.closes with
              | false => exact keeps.cleaned system.unlinks
              | true => exact keeps.cleaned system.unlinks

end Runs

/-- An extraction is all or nothing exactly unless the directory cannot be closed after all else
has succeeded. -/
theorem safeExtract_allOrNothing_iff (system : System) (sha256 : List UInt8 → String)
    (files : Store Name ProjectedFile) (hashes : Store Name String)
    (directory : Store Name Entry) :
    AllOrNothing system files directory (safeExtract system sha256 files hashes directory) ↔
      (Unhindered system sha256 files hashes directory → system.closes = true) := by
  by_cases unhindered : Unhindered system sha256 files hashes directory
  · rw [forall_prop_of_true unhindered]
    cases closes : system.closes with
    | false => exact iff_of_false (not_allOrNothing_of_unhindered unhindered closes) Bool.false_ne_true
    | true =>
        refine iff_of_true ?_ rfl
        obtain ⟨outcome, -, lookup⟩ := safeExtract_of_unhindered unhindered
        rw [closes, if_pos rfl] at outcome
        rw [AllOrNothing, outcome]
        refine ⟨unhindered.empty, ?_, ?_⟩
        · intro name expected
          obtain ⟨value, _, found, _⟩ := unhindered.each name expected
          refine ⟨value, found, ?_⟩
          rw [lookup, if_pos expected, found]
          rfl
        · intro name other
          rw [lookup, if_neg other]
  · exact iff_of_true (allOrNothing_of_hindered unhindered) fun passed => absurd passed unhindered

/-! ## A directory that cannot be closed -/

/-- Two programs of four bytes. -/
def programs : Store Name ProjectedFile :=
  ((∅ : Store Name ProjectedFile).insert (.ofString "checknetwork-api")
    ⟨[0x7f, 0x45, 0x4c, 0x46], 0o755⟩).insert (.ofString "traceroute") ⟨[0x7f, 0x45, 0x4c, 0x46], 0o755⟩

/-- The hash of these bytes. -/
def programHash : String := "3bdbb4fe8397cd2b842430b39ccff01a8663c751945ef5e9a09e267fb8b1d359"

def programHashes : Store Name String :=
  ((∅ : Store Name String).insert (.ofString "checknetwork-api") programHash).insert
    (.ofString "traceroute") programHash

/-- All calls succeed but the last. -/
def unclosed : System where
  stat := some (true, 1000)
  euid := 1000
  listing := some []
  writing _ := { write := fun _ => some 4 }
  reading _ := { stat := some (true, 0o755), chunks := [some [0x7f, 0x45, 0x4c, 0x46], some []] }
  closes := false

theorem unhindered_unclosed :
    Unhindered unclosed (fun _ => programHash) programs programHashes ∅ where
  opens := rfl
  owned := rfl
  empty := rfl
  each := by
    intro name expected
    have creates : Creates (unclosed.writing name) ⟨[0x7f, 0x45, 0x4c, 0x46], 0o755⟩ :=
      ⟨rfl, rfl, .more (List.cons_ne_nil _ _) rfl (by decide) .done, rfl, rfl⟩
    have verifies : Verifies (unclosed.reading name) (fun _ => programHash)
        ⟨[0x7f, 0x45, 0x4c, 0x46], 0o755⟩ programHash :=
      ⟨rfl, rfl, ⟨_, .chunk (List.cons_ne_nil _ _) .eof, rfl, rfl⟩, rfl⟩
    have known : programs.lookup name = some ⟨[0x7f, 0x45, 0x4c, 0x46], 0o755⟩ ∧
        programHashes.lookup name = some programHash := by
      rcases List.mem_pair.mp expected with rfl | rfl
      · exact ⟨rfl, rfl⟩
      · exact ⟨rfl, rfl⟩
    exact ⟨_, _, known.1, known.2, AList.notMem_empty _, creates, verifies⟩

/-- Both programs stay when the directory cannot be closed. -/
theorem unclosed_leaves_programs : ¬ ∀ (system : System) (sha256 : List UInt8 → String)
    (files : Store Name ProjectedFile) (hashes : Store Name String) (directory : Store Name Entry),
    AllOrNothing system files directory (safeExtract system sha256 files hashes directory) := by
  intro every
  exact not_allOrNothing_of_unhindered unhindered_unclosed rfl (every _ _ _ _ _)

end CheckNetwork.Archive.Api
