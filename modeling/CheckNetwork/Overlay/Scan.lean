import CheckNetwork.Overlay.Stack

/-!
# Scans of selected files

A scan goes once over the members of a layer.  It takes what the layer hides out of
the files of the layers below and keeps apart the files that the layer adds, so that
the order of the members does not matter.
-/

namespace CheckNetwork.Overlay

universe u v w

variable {P : Type u} {F : Type v} [DecidableEq P]

/-- What a member changes: the files that it hides go, and a selected file is added. -/
structure Applied (selected : P → Bool) (item : Item P F) (files added files' added' : P → Option F) :
    Prop where
  kept : ∀ path, files' path = if item.hides path then none else files path
  written : ∀ path, added' path =
    if selected path then (item.writes path).or (added path) else added path

/-- The selected files of a stack, and no others. -/
def Tracks (selected : P → Bool) (stack : List (List (Item P F))) (files : P → Option F) : Prop :=
  ∀ path, files path = if selected path then projected stack path else none

section Members

variable {S M E : Type w} {step : S → M → Except E S} {item : M → Item P F}
  {files added : S → P → Option F} {selected : P → Bool}

/-- A run over the members of a layer. -/
theorem scanned
    (each : ∀ {start : S} {member : M} {finish : S}, step start member = .ok finish →
      Applied selected (item member) (files start) (added start) (files finish) (added finish))
    {members : List M} {start finish : S} (run : members.foldlM step start = .ok finish)
    (path : P) :
    files finish path =
        (if (members.map item).any (Item.hides path) then none else files start path) ∧
      added finish path = if selected path then
        (((members.map item).filterMap (Item.writes path)).getLast?).or (added start path)
      else added start path := by
  induction members generalizing start with
  | nil =>
      cases run
      simp
  | cons member rest ih =>
      rw [List.foldlM_cons] at run
      cases first : step start member with
      | error failure =>
          rw [first] at run
          cases run
      | ok middle =>
          rw [first] at run
          have applied := each first
          obtain ⟨kept, written⟩ := ih run
          constructor
          · rw [kept, applied.kept path, List.map_cons, List.any_cons]
            cases (item member).hides path <;> simp
          · rw [written, applied.written path, List.map_cons, List.filterMap_cons]
            cases chosen : selected path with
            | false => simp
            | true =>
                cases (item member).writes path with
                | none => simp
                | some content =>
                    rw [if_pos rfl, if_pos rfl, if_pos rfl, List.getLast?_cons]
                    cases ((rest.map item).filterMap (Item.writes path)).getLast? <;> rfl

/-- A layer is scanned with nothing added yet, and what it adds is put over the rest. -/
theorem Tracks.scan {stack : List (List (Item P F))}
    (each : ∀ {start : S} {member : M} {finish : S}, step start member = .ok finish →
      Applied selected (item member) (files start) (added start) (files finish) (added finish))
    {members : List M} {start finish : S} (run : members.foldlM step start = .ok finish)
    (tracks : Tracks selected stack (files start)) (fresh : ∀ path, added start path = none) :
    Tracks selected (stack ++ [members.map item])
      fun path => (added finish path).or (files finish path) := by
  intro path
  obtain ⟨kept, written⟩ := scanned each run path
  have layered : projected (stack ++ [members.map item]) path =
      projectLayer (projected stack) (members.map item) path := by
    rw [projected, List.foldl_append]
    rfl
  change (added finish path).or (files finish path) = _
  rw [kept, written, fresh, tracks path, layered, projectLayer]
  cases selected path with
  | false => simp
  | true => simp

end Members

/-! ## The order of the members -/

section Order

variable {S M E : Type w} {step : S → M → Except E S} {same : S → S → Prop}

theorem foldlM_congr
    (congr : ∀ {left right : S} {member : M} {finish : S}, same left right →
      step left member = .ok finish → ∃ final, step right member = .ok final ∧ same finish final)
    {members : List M} {left right finish : S} (start : same left right)
    (run : members.foldlM step left = .ok finish) :
    ∃ final, members.foldlM step right = .ok final ∧ same finish final := by
  induction members generalizing left right with
  | nil =>
      cases run
      exact ⟨right, rfl, start⟩
  | cons member rest ih =>
      rw [List.foldlM_cons] at run
      cases first : step left member with
      | error failure =>
          rw [first] at run
          cases run
      | ok middle =>
          rw [first] at run
          obtain ⟨middle', first', agree⟩ := congr start first
          obtain ⟨final, rest', agree⟩ := ih agree run
          refine ⟨final, ?_, agree⟩
          rw [List.foldlM_cons, first']
          exact rest'

/-- Steps that commute can be made in any order. -/
theorem foldlM_perm (refl : ∀ state, same state state)
    (trans : ∀ {first second third : S}, same first second → same second third → same first third)
    (congr : ∀ {left right : S} {member : M} {finish : S}, same left right →
      step left member = .ok finish → ∃ final, step right member = .ok final ∧ same finish final)
    (commute : ∀ {start middle finish : S} {one two : M}, step start one = .ok middle →
      step middle two = .ok finish →
      ∃ other final, step start two = .ok other ∧ step other one = .ok final ∧ same finish final)
    {members permuted : List M} (perm : members.Perm permuted) {start finish : S}
    (run : members.foldlM step start = .ok finish) :
    ∃ final, permuted.foldlM step start = .ok final ∧ same finish final := by
  induction perm generalizing start finish with
  | nil => exact ⟨finish, run, refl finish⟩
  | cons member _ ih =>
      rw [List.foldlM_cons] at run
      cases first : step start member with
      | error failure =>
          rw [first] at run
          cases run
      | ok middle =>
          rw [first] at run
          obtain ⟨final, rest', agree⟩ := ih run
          refine ⟨final, ?_, agree⟩
          rw [List.foldlM_cons, first]
          exact rest'
  | swap one two rest =>
      rw [List.foldlM_cons] at run
      cases first : step start two with
      | error failure =>
          rw [first] at run
          cases run
      | ok middle =>
          rw [first] at run
          change (rest.foldlM step =<< step middle one) = _ at run
          cases second : step middle one with
          | error failure =>
              rw [second] at run
              cases run
          | ok later =>
              rw [second] at run
              obtain ⟨other, later', first', second', agree⟩ := commute first second
              obtain ⟨final, rest', agree⟩ := foldlM_congr congr agree run
              refine ⟨final, ?_, agree⟩
              rw [List.foldlM_cons, first']
              change (rest.foldlM step =<< step other two) = _
              rw [second']
              exact rest'
  | trans _ _ ih ih' =>
      obtain ⟨middle, run', agree⟩ := ih run
      obtain ⟨final, run'', agree'⟩ := ih' run'
      exact ⟨final, run'', trans agree agree'⟩

end Order

/-- A scan of selected files has the files of the merged tree exactly when nothing displaces
a selected one. -/
theorem Tracks.eq_merged_iff {selected : P → Bool} {stack : List (List (Item P F))}
    {files : P → Option F} (below : P → P → Bool) (tracks : Tracks selected stack files) :
    (∀ path, files path = if selected path then fileAt (merged below stack) path else none) ↔
      ¬ ∃ path, selected path = true ∧ Displaced below stack path := by
  constructor
  · rintro agree ⟨path, chosen, displaced⟩
    have same := (tracks path).symm.trans (agree path)
    rw [if_pos chosen, if_pos chosen] at same
    exact (fileAt_merged_eq_projected_iff below stack path).mp same.symm displaced
  · intro undisturbed path
    rw [tracks path]
    cases chosen : selected path with
    | false => rfl
    | true =>
        rw [if_pos rfl, if_pos rfl]
        refine ((fileAt_merged_eq_projected_iff below stack path).mpr ?_).symm
        exact fun displaced => undisturbed ⟨path, chosen, displaced⟩

end CheckNetwork.Overlay
