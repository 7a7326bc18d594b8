import CheckNetwork.Archive.Api

/-!
# The order of the members of a layer

Whiteouts are applied to the files of the layers below and additions are kept apart, and
no name comes twice, so the members of a layer can come in any order.
-/

namespace CheckNetwork.Archive.Api

open Go Collection Overlay

/-- States with the same names seen and the same files. -/
structure Scan.Same (left right : Scan) : Prop where
  count : left.count = right.count
  seen : ∀ name, name ∈ left.seen ↔ name ∈ right.seen
  projection : ∀ path, left.projection.lookup path = right.projection.lookup path
  additions : ∀ path, left.additions.lookup path = right.additions.lookup path
  consumed : left.consumed = right.consumed

namespace Scan.Same

theorem refl (scan : Scan) : scan.Same scan :=
  ⟨rfl, fun _ => Iff.rfl, fun _ => rfl, fun _ => rfl, rfl⟩

theorem trans {first second third : Scan} (left : first.Same second) (right : second.Same third) :
    first.Same third :=
  ⟨left.count.trans right.count, fun name => (left.seen name).trans (right.seen name),
    fun path => (left.projection path).trans (right.projection path),
    fun path => (left.additions path).trans (right.additions path),
    left.consumed.trans right.consumed⟩

end Scan.Same

section Changes

variable {limits : Limits} {inheritedBase : Bool} {name other : Name} {change changed : Change}
  {left right scan middle finish : Scan} {member : Member} {consumed : Nat}

theorem lookup_insert_congr {files others : Store Name ProjectedFile} {content : ProjectedFile}
    (same : ∀ path, files.lookup path = others.lookup path) (path : Name) :
    (files.insert name content).lookup path = (others.insert name content).lookup path := by
  by_cases at_name : path = name
  · rw [at_name, AList.lookup_insert, AList.lookup_insert]
  · rw [AList.lookup_insert_ne at_name, AList.lookup_insert_ne at_name, same]

theorem lookup_insert_comm {files : Store Name ProjectedFile} {content written : ProjectedFile}
    (distinct : name ≠ other) (path : Name) :
    ((files.insert name content).insert other written).lookup path =
      ((files.insert other written).insert name content).lookup path := by
  by_cases at_name : path = name
  · subst at_name
    rw [AList.lookup_insert_ne distinct, AList.lookup_insert, AList.lookup_insert]
  · rw [AList.lookup_insert_ne at_name]
    by_cases at_other : path = other
    · rw [at_other, AList.lookup_insert, AList.lookup_insert]
    · rw [AList.lookup_insert_ne at_other, AList.lookup_insert_ne at_name,
        AList.lookup_insert_ne at_other]

theorem Scan.Same.visit (same : left.Same right) :
    (left.visit name change).Same (right.visit name change) where
  count := congrArg (· + 1) same.count
  seen path := by
    change path ∈ name :: left.seen ↔ path ∈ name :: right.seen
    rw [List.mem_cons, List.mem_cons, same.seen]
  projection path := by
    cases change with
    | delete test =>
        change (left.projection.keep fun path _ => !test path).lookup path =
          (right.projection.keep fun path _ => !test path).lookup path
        rw [Store.lookup_keep, Store.lookup_keep, same.projection path]
    | skip => exact same.projection path
    | add content => exact same.projection path
  additions path := by
    cases change with
    | delete test => exact same.additions path
    | skip => exact same.additions path
    | add content => exact lookup_insert_congr same.additions path
  consumed := congrArg (· + change.weight) same.consumed

/-- Iterations for different names commute. -/
theorem Scan.visit_comm (distinct : name ≠ other) :
    ((scan.visit name change).visit other changed).Same
      ((scan.visit other changed).visit name change) where
  count := rfl
  seen path := by
    simp only [Scan.visit, List.mem_cons]
    exact or_left_comm
  projection path := by
    cases change with
    | delete test =>
        cases changed with
        | delete tested =>
            change ((scan.projection.keep fun path _ => !test path).keep
                fun path _ => !tested path).lookup path =
              ((scan.projection.keep fun path _ => !tested path).keep
                fun path _ => !test path).lookup path
            rw [Store.lookup_keep, Store.lookup_keep, Store.lookup_keep, Store.lookup_keep,
              Option.filter_filter, Option.filter_filter]
            simp only [Bool.and_comm]
        | skip => rfl
        | add content => rfl
    | skip => cases changed <;> rfl
    | add content => cases changed <;> rfl
  additions path := by
    cases change with
    | delete test => cases changed <;> rfl
    | skip => cases changed <;> rfl
    | add content =>
        cases changed with
        | delete test => rfl
        | skip => rfl
        | add written => exact lookup_insert_comm distinct path
  consumed := Nat.add_right_comm _ _ _

theorem Change.Fits.before (fits : changed.Fits limits (consumed + change.weight)) :
    changed.Fits limits consumed := by
  cases changed with
  | delete test => trivial
  | skip => trivial
  | add content =>
      simp only [Change.Fits] at fits ⊢
      omega

theorem Change.Fits.exchange (first : change.Fits limits consumed)
    (second : changed.Fits limits (consumed + change.weight)) :
    change.Fits limits (consumed + changed.weight) := by
  cases changed with
  | delete test => exact first
  | skip => exact first
  | add content =>
      cases change with
      | delete test => trivial
      | skip => trivial
      | add written =>
          simp only [Change.Fits, Change.weight] at second ⊢
          omega

theorem scanMember_congr (same : left.Same right)
    (step : scanMember limits inheritedBase left member = .ok finish) :
    ∃ final, scanMember limits inheritedBase right member = .ok final ∧ finish.Same final := by
  obtain ⟨room, canonical, fresh, change, passed, fits, rfl⟩ := scanMember_eq_ok_iff.mp step
  rw [same.count] at room
  rw [same.seen] at fresh
  rw [same.consumed] at fits
  exact ⟨_, scanMember_eq_ok_iff.mpr ⟨room, canonical, fresh, change, passed, fits, rfl⟩,
    same.visit⟩

theorem scanMember_comm {one two : Member}
    (first : scanMember limits inheritedBase scan one = .ok middle)
    (second : scanMember limits inheritedBase middle two = .ok finish) :
    ∃ other final, scanMember limits inheritedBase scan two = .ok other ∧
      scanMember limits inheritedBase other one = .ok final ∧ finish.Same final := by
  obtain ⟨_, canonical, fresh, change, passed, fits, rfl⟩ := scanMember_eq_ok_iff.mp first
  obtain ⟨room, canonical', fresh', changed, passed', fits', rfl⟩ :=
    scanMember_eq_ok_iff.mp second
  have distinct : memberName one ≠ memberName two := by
    intro same
    rw [same] at fresh'
    exact fresh' List.mem_cons_self
  have roomy : (scan.count + 1 : Int) ≤ limits.members := by
    simp only [Scan.visit] at room
    omega
  refine ⟨scan.visit (memberName two) changed, _, scanMember_eq_ok_iff.mpr ⟨roomy, canonical',
    fun seen => fresh' (List.mem_cons_of_mem _ seen), changed, passed', fits'.before, rfl⟩,
    scanMember_eq_ok_iff.mpr ⟨room, canonical, ?_, change, passed, fits.exchange fits', rfl⟩,
    Scan.visit_comm distinct⟩
  intro seen
  rcases List.mem_cons.mp seen with same | seen
  · exact distinct same
  · exact fresh seen

end Changes

section Members

variable {limits : Limits} {inheritedBase : Bool} {left right scan : Scan}
  {members permuted : List Member}

theorem scanMembers_perm (perm : members.Perm permuted) (same : left.Same right)
    (run : members.foldlM (scanMember limits inheritedBase) left = .ok scan) :
    ∃ final, permuted.foldlM (scanMember limits inheritedBase) right = .ok final ∧
      scan.Same final := by
  have start := @foldlM_congr _ _ _ (scanMember limits inheritedBase) Scan.Same scanMember_congr
    members left right scan same run
  obtain ⟨middle, run', agree⟩ := start
  have permute := @foldlM_perm _ _ _ (scanMember limits inheritedBase) Scan.Same Scan.Same.refl
    Scan.Same.trans scanMember_congr scanMember_comm members permuted perm right middle run'
  obtain ⟨final, run'', agree'⟩ := permute
  exact ⟨final, run'', agree.trans agree'⟩

end Members

/-! ## Layers in another order -/

/-- Layers that differ in the order of their members alone. -/
def Layer.Reordered (layer other : Layer) : Prop :=
  layer.length = other.length ∧ layer.compression = other.compression ∧
    ∃ archive members, layer.archive = .ok archive ∧ archive.members.Perm members ∧
      other.archive = .ok { archive with members }

/-- Selections with the same files. -/
structure Selection.Same (left right : Selection) : Prop where
  projection : ∀ path, left.projection.lookup path = right.projection.lookup path
  consumed : left.consumed = right.consumed

section Layers

variable {limits : Limits} {inheritedBase : Bool} {layer other : Layer}
  {left right result : Selection}

theorem scanLayer_eq_ok_iff {archive : Tar} (opened : layer.archive = .ok archive) :
    scanLayer limits layer left inheritedBase = .ok result ↔
      expandedLayer limits layer = .ok () ∧ archive.close = .ok () ∧ ∃ scan,
        archive.members.foldlM (scanMember limits inheritedBase)
          { projection := left.projection, consumed := left.consumed } = .ok scan ∧
        result = ⟨update scan.projection scan.additions, scan.consumed⟩ := by
  rw [scanLayer, bind_eq_ok_iff]
  simp only [opened, bind_eq_ok_iff]
  constructor
  · rintro ⟨_, expands, _, same, scan, run, _, closes, finished⟩
    cases same
    cases finished
    exact ⟨expands, closes, scan, run, rfl⟩
  · rintro ⟨expands, closes, scan, run, rfl⟩
    exact ⟨(), expands, archive, rfl, scan, run, (), closes, rfl⟩

theorem scanLayer_reordered (reordered : Layer.Reordered layer other) (same : left.Same right)
    (scanned : scanLayer limits layer left inheritedBase = .ok result) :
    ∃ final, scanLayer limits other right inheritedBase = .ok final ∧ result.Same final := by
  obtain ⟨length_eq, stored, archive, members, opened, perm, opened'⟩ := reordered
  obtain ⟨expands, closes, scan, run, rfl⟩ := (scanLayer_eq_ok_iff opened).mp scanned
  have expands' : expandedLayer limits other = .ok () := by
    rw [← expands, expandedLayer, expandedLayer, length_eq, stored]
  have start : Scan.Same { projection := left.projection, consumed := left.consumed }
      { projection := right.projection, consumed := right.consumed } :=
    ⟨rfl, fun _ => Iff.rfl, same.projection, fun _ => rfl, same.consumed⟩
  obtain ⟨final, run, agree⟩ := scanMembers_perm perm start run
  have closes' : Tar.close { archive with members } = .ok () := closes
  refine ⟨_, (scanLayer_eq_ok_iff opened').mpr ⟨expands', closes', final, run, rfl⟩, ?_,
    agree.consumed⟩
  intro path
  rw [lookup_update, lookup_update, agree.additions, agree.projection]

/-- A stack of layers is accepted in any order of their members, with the same files. -/
theorem scanLayers_reordered {stack reordered : List (Layer × Bool)}
    (each : List.Forall₂ (fun layer other => Layer.Reordered layer.1 other.1 ∧ layer.2 = other.2)
      stack reordered) (same : left.Same right)
    (scanned : scanLayers limits stack left = .ok result) :
    ∃ final, scanLayers limits reordered right = .ok final ∧ result.Same final := by
  induction each generalizing left right with
  | nil =>
      cases scanned
      exact ⟨right, rfl, same⟩
  | @cons layer other _ _ head _ ih =>
      rw [scanLayers, List.foldlM_cons, bind_eq_ok_iff] at scanned
      obtain ⟨middle, first, rest⟩ := scanned
      obtain ⟨middle', first', agree⟩ := scanLayer_reordered head.1 same first
      obtain ⟨final, rest', agree⟩ := ih agree rest
      rw [head.2] at first'
      refine ⟨final, ?_, agree⟩
      rw [scanLayers, List.foldlM_cons, bind_eq_ok_iff]
      exact ⟨middle', first', rest'⟩

end Layers

/-! ## The filesystem of the container -/

section Merged

variable {limits : Limits} {inheritedBase : Bool} {selection result : Selection}

theorem tracks_scanLayer {stack : List (List (Item Name ProjectedFile))} {layer : Layer}
    (tracks : Tracks selectedName stack selection.projection.lookup)
    (scanned : scanLayer limits layer selection inheritedBase = .ok result) :
    Tracks selectedName (stack ++ [layerItems layer]) result.projection.lookup := by
  cases opened : layer.archive with
  | error failure =>
      rw [scanLayer, bind_eq_ok_iff, opened] at scanned
      obtain ⟨_, _, failed⟩ := scanned
      cases failed
  | ok archive =>
      obtain ⟨_, _, scan, run, rfl⟩ := (scanLayer_eq_ok_iff opened).mp scanned
      rw [layerItems, opened]
      have after := @Tracks.scan _ _ _ _ _ _ _ (fun member => Member.item (memberName member) member)
        (fun scan : Scan => scan.projection.lookup) (fun scan : Scan => scan.additions.lookup) _ _
        scanMember_applied _ _ _ run tracks (fun _ => rfl)
      intro path
      exact (lookup_update _ _ _).trans (after path)

/-- The tracked entries of an accepted stack are the selected files that were written last. -/
theorem tracks_scanLayers {before : List (List (Item Name ProjectedFile))}
    {stack : List (Layer × Bool)}
    (tracks : Tracks selectedName before selection.projection.lookup)
    (scanned : scanLayers limits stack selection = .ok result) :
    Tracks selectedName (before ++ stack.map fun layer => layerItems layer.1)
      result.projection.lookup := by
  induction stack generalizing before selection with
  | nil =>
      cases scanned
      rwa [List.map_nil, List.append_nil]
  | cons layer upper ih =>
      rw [scanLayers, List.foldlM_cons, bind_eq_ok_iff] at scanned
      obtain ⟨middle, first, rest⟩ := scanned
      rw [List.map_cons, List.append_cons]
      exact ih (tracks_scanLayer tracks first) rest

end Merged

/-- The layers of a stack as `Overlay` has them. -/
def overlay (stack : List (Layer × Bool)) : List (List (Item Name ProjectedFile)) :=
  stack.map fun layer => layerItems layer.1

/-- The files under the names of the programs that a container of the image has. -/
def installedFile (stack : List (Layer × Bool)) (path : Name) : Option ProjectedFile :=
  if selectedName path then fileAt (merged Name.within (overlay stack)) path else none

/-- The tracked entries of an accepted stack are what the container has exactly when none of
them is displaced, and they do not depend on the order of the members in a layer. -/
theorem tracked_eq_installed_iff (limits : Limits) (stack : List (Layer × Bool))
    (tracked : Selection) (accepted : scanLayers limits stack {} = .ok tracked) :
    ((∀ path, tracked.projection.lookup path = installedFile stack path) ↔
      ¬ ∃ path, selectedName path = true ∧ Displaced Name.within (overlay stack) path) ∧
    ∀ reordered, List.Forall₂ (fun layer other =>
        Layer.Reordered layer.1 other.1 ∧ layer.2 = other.2) stack reordered →
      ∃ final, scanLayers limits reordered {} = .ok final ∧
        ∀ path, tracked.projection.lookup path = final.projection.lookup path := by
  constructor
  · have start : Tracks selectedName ([] : List (List (Item Name ProjectedFile)))
        (AList.lookup · ({} : Selection).projection) := by
      intro path
      exact (AList.lookup_empty path).trans (ite_self none).symm
    have tracks := tracks_scanLayers start accepted
    rw [List.nil_append] at tracks
    exact tracks.eq_merged_iff Name.within
  · intro reordered each
    obtain ⟨final, scanned, same⟩ :=
      scanLayers_reordered each ⟨fun _ => rfl, rfl⟩ accepted
    exact ⟨final, scanned, same.projection⟩

/-! ## A program in place of a directory -/

def program : Name := .ofString "traceroute"

def descendant : Name := .ofString "traceroute/data"

/-- A file below the path of a program, and above it a layer that has the program. -/
def replacedDirectory : List (Layer × Bool) :=
  [({ length := 2048, archive := .ok { members := [
      { name := descendant, size := 1, mode := 0o755, bytes := [0x61] }] } }, false),
    ({ length := 2048, archive := .ok { members := [
      { name := program, size := 1, mode := 0o755, bytes := [0x62] }] } }, false)]

def bothTracked : Selection where
  projection := ((∅ : Store Name ProjectedFile).insert descendant ⟨[0x61], 0o755⟩).insert program
    ⟨[0x62], 0o755⟩
  consumed := 2

theorem scanLayers_replacedDirectory : scanLayers {} replacedDirectory {} = .ok bothTracked :=
  rfl

theorem descendant_not_installed :
    bothTracked.projection.lookup descendant ≠ installedFile replacedDirectory descendant := by
  have missing : installedFile replacedDirectory descendant = none := by decide +kernel
  have tracked : bothTracked.projection.lookup descendant = some ⟨[0x61], 0o755⟩ := by
    decide +kernel
  rw [missing, tracked]
  exact Option.some_ne_none _

/-- The verifier still tracks an entry that the container does not have. -/
theorem tracked_not_installed : ¬ ∀ (limits : Limits) (stack : List (Layer × Bool))
    (tracked : Selection), scanLayers limits stack {} = .ok tracked →
    ∀ path, tracked.projection.lookup path = installedFile stack path := by
  intro every
  exact descendant_not_installed
    (every {} replacedDirectory _ scanLayers_replacedDirectory descendant)

theorem tracked_eq_installed_sample :
    ∃ path, selectedName path = true ∧ Displaced Name.within (overlay replacedDirectory) path := by
  by_contra undisturbed
  exact descendant_not_installed ((tracked_eq_installed_iff {} replacedDirectory _
    scanLayers_replacedDirectory).1.mpr undisturbed descendant)

end CheckNetwork.Archive.Api
