import CheckNetwork.Archive.Layer

/-!
# Layers of the API archive

The verifier of the API archive follows every entry that has the name of one of the two
programs, or one that starts like it, through the layers of the image.
-/

namespace CheckNetwork.Archive.Api

open Go Collection Overlay

structure Limits where
  members : Int := 4096
  memberBytes : Int := 256 * 1024 * 1024
  layerBytes : Int := 256 * 1024 * 1024
  expandedLayerBytes : Int := 512 * 1024 * 1024
  selectedBytes : Int := 128 * 1024 * 1024

/-- The name of a directory without the slash at its end. -/
def memberName (member : Member) : Name :=
  if member.isdir && member.name.endsWith [Name.slash] then member.name.dropLast else member.name

def canonicalName (name : Name) : Except ValidationError Name := do
  refuse (name = [] || name.startsWith [Name.slash] || name.includes (.ofString "\\") ||
    name.includes [Name.nul]) "unsafe archive path" name
  refuse (name.parts.any fun part => part = [] || part = .ofString "." || part = .ofString "..")
    "noncanonical archive path" name
  refuse (name.normpath ≠ name) "noncanonical archive path" name
  return name

def selectedName (name : Name) : Bool :=
  let first : Name := name.takeWhile (· ≠ Name.slash)
  first = .ofString "checknetwork-api" || first.startsWith (.ofString "checknetwork-api.") ||
    first = .ofString "traceroute" || first.startsWith (.ofString "traceroute.")

def expandedLayer (limits : Limits) (layer : Layer) : Except ValidationError Unit := do
  refuse (limits.layerBytes < layer.length) "layer exceeds byte limit"
  match layer.compression with
  | .plain =>
    refuse (limits.expandedLayerBytes < layer.length) "expanded layer exceeds byte limit"
  | .gzip none => .error { what := "malformed compressed layer" }
  | .gzip (some expanded) =>
    refuse (limits.expandedLayerBytes < expanded) "expanded layer exceeds byte limit"

/-- The paths that `_apply_whiteout` deletes. -/
def whiteoutTest (name : Name) : Except ValidationError (Name → Bool) := do
  let directory := name.dirname
  let leaf := name.basename
  if leaf = opaqueMarker then
    return fun target => directory = [] || Name.within directory target
  else
    refuse (!leaf.startsWith whiteoutPrefix || leaf.count whiteoutPrefix ≠ 1)
      "malformed whiteout" name
    let targetLeaf : Name := leaf.drop 4
    refuse (targetLeaf = [] || targetLeaf = .ofString "." || targetLeaf = .ofString ".." ||
      targetLeaf.includes [Name.slash] || targetLeaf.startsWith (.ofString "."))
      "malformed whiteout" name
    let target := directory.join targetLeaf
    return fun projected => projected = target || Name.within target projected

def validateBaseLinkTarget (name target : Name) (hardlink : Bool) :
    Except ValidationError Unit := do
  refuse (linkTargetUnsafe target) "unsafe base-layer link target" name
  refuse (linkTargetEscapes name target hardlink) "unsafe base-layer link target" name

/-- The state of the loop over the members of a layer. -/
structure Scan where
  count : Nat := 0
  seen : List Name := []
  projection : Store Name ProjectedFile
  additions : Store Name ProjectedFile := ∅
  consumed : Nat

/-- What an iteration does when its checks of the member have passed. -/
inductive Change
  | delete (test : Name → Bool)
  | skip
  | add (content : ProjectedFile)

/-- The checks of the member, under its name. -/
def inspect (limits : Limits) (inheritedBase : Bool) (name : Name) (member : Member) :
    Except ValidationError Change := do
  if name.basename.includes whiteoutPrefix then
    refuse (!member.isreg || member.size ≠ 0) "whiteout is not an empty regular file" name
    let test ← whiteoutTest name
    return .delete test
  else
    refuse (selectedName name && (!member.isreg || permissions member.mode &&& 0o111 = 0))
      "selected member must be a regular executable non-link" name
    if member.isdir then
      refuse (selectedName name) "selected extra directory is forbidden" name
      return .skip
    else if !member.isreg then
      refuse (!inheritedBase) "post-base layer links/devices/FIFO/socket are forbidden" name
      if member.issym || member.islnk then
        validateBaseLinkTarget name member.linkname member.islnk
        return .skip
      else if member.ischr || member.isblk then
        refuse (member.size ≠ 0 || member.devmajor < 0 || member.devminor < 0)
          "malformed base-layer device" name
        return .skip
      else
        refuse (member.isfifo || member.type = .socket)
          "base layer FIFO/socket is forbidden" name
        .error { what := "unsupported base-layer member type", path := name }
    else
      refuse (member.size < 0 || limits.memberBytes < member.size)
        "layer member exceeds byte limit" name
      if !selectedName name then return .skip
      else
        refuse (limits.memberBytes < member.bytes.length) "selected member exceeds byte limit" name
        refuse (member.bytes.length ≠ member.size) "selected member is truncated" name
        return .add ⟨member.bytes, permissions member.mode⟩

def Change.apply (limits : Limits) (name : Name) (scan : Scan) :
    Change → Except ValidationError Scan
  | .delete test => return { scan with projection := scan.projection.keep fun path _ => !test path }
  | .skip => return scan
  | .add content => do
    let consumed := scan.consumed + content.data.length
    refuse (limits.selectedBytes < consumed) "expanded selected-file bytes exceed limit"
    return { scan with consumed, additions := scan.additions.insert name content }

def scanMember (limits : Limits) (inheritedBase : Bool) (scan : Scan) (member : Member) :
    Except ValidationError Scan := do
  refuse (limits.members < scan.count + 1) "layer member count exceeds limit"
  let name ← canonicalName (memberName member)
  refuse (name ∈ scan.seen) "duplicate layer path" name
  let change ← inspect limits inheritedBase name member
  change.apply limits name { scan with count := scan.count + 1, seen := name :: scan.seen }

/-- The files that are followed, and the bytes that were read so far. -/
structure Selection where
  projection : Store Name ProjectedFile := ∅
  consumed : Nat := 0

def scanLayer (limits : Limits) (layer : Layer) (selection : Selection) (inheritedBase : Bool) :
    Except ValidationError Selection := do
  expandedLayer limits layer
  let archive ← layer.archive
  let scan ← archive.members.foldlM (scanMember limits inheritedBase)
    { projection := selection.projection, consumed := selection.consumed }
  archive.close
  return { projection := update scan.projection scan.additions, consumed := scan.consumed }

/-- The loop of `validate` over the layers, the lowest first.  A layer comes with whether it
is one of the base. -/
def scanLayers (limits : Limits) (stack : List (Layer × Bool)) (selection : Selection) :
    Except ValidationError Selection :=
  stack.foldlM (fun selection (layer, inheritedBase) =>
    scanLayer limits layer selection inheritedBase) selection

/-- The members of a layer under their names. -/
def layerItems (layer : Layer) : List (Item Name ProjectedFile) :=
  match layer.archive with
  | .ok archive => archive.members.map fun member => member.item (memberName member)
  | .error _ => []

section Scan

variable {limits : Limits} {inheritedBase : Bool} {name : Name} {member : Member}
  {scan finish : Scan} {change : Change}

theorem whiteoutTest_eq_ok {test : Name → Bool} (tested : whiteoutTest name = .ok test) :
    name.basename.startsWith whiteoutPrefix = true ∧ test = whiteoutHides name := by
  rw [whiteoutTest] at tested
  by_cases marker : name.basename = opaqueMarker
  · rw [if_pos marker] at tested
    cases tested
    constructor
    · rw [marker]
      decide
    · funext path
      simp only [whiteoutHides, if_pos marker]
  · rw [if_neg marker, refuse_bind_eq_ok_iff, refuse_bind_eq_ok_iff] at tested
    obtain ⟨plain, _, tested⟩ := tested
    cases tested
    rw [Bool.or_eq_false_iff, Bool.not_eq_false'] at plain
    refine ⟨plain.1, ?_⟩
    funext path
    simp only [whiteoutHides, if_neg marker, whiteoutTarget]
    rfl

/-- What the checks of a member allow is what the member means. -/
inductive Inspected (name : Name) (member : Member) : Change → Prop
  | delete : name.basename.startsWith whiteoutPrefix = true →
      Inspected name member (.delete (whiteoutHides name))
  | skip : name.basename.startsWith whiteoutPrefix = false →
      (selectedName name = true → member.node.isFile = false) → Inspected name member .skip
  | add {content : ProjectedFile} : name.basename.startsWith whiteoutPrefix = false →
      selectedName name = true → member.node = .file content → Inspected name member (.add content)

theorem inspected_of_eq_ok (passed : inspect limits inheritedBase name member = .ok change) :
    Inspected name member change := by
  rw [inspect] at passed
  by_cases marked : name.basename.includes whiteoutPrefix = true
  · rw [if_pos marked, refuse_bind_eq_ok_iff, bind_eq_ok_iff] at passed
    obtain ⟨_, test, tested, passed⟩ := passed
    cases passed
    obtain ⟨starts, rfl⟩ := whiteoutTest_eq_ok tested
    exact .delete starts
  · rw [if_neg marked, refuse_bind_eq_ok_iff] at passed
    obtain ⟨_, passed⟩ := passed
    have plain : name.basename.startsWith whiteoutPrefix = false := by
      rw [Bool.eq_false_iff]
      intro starts
      exact marked (decide_eq_true (of_decide_eq_true starts).isInfix)
    by_cases directory : member.isdir = true
    · rw [if_pos directory, refuse_bind_eq_ok_iff] at passed
      cases passed.2
      refine .skip plain fun _ => ?_
      rw [Member.node, of_decide_eq_true directory]
      rfl
    · rw [if_neg directory] at passed
      by_cases special : (!member.isreg) = true
      · rw [if_pos special, refuse_bind_eq_ok_iff] at passed
        obtain ⟨_, passed⟩ := passed
        rw [Bool.not_eq_true'] at special
        have skipped : selectedName name = true → member.node.isFile = false :=
          fun _ => member.isFile_node_of_not_isreg special
        by_cases link : (member.issym || member.islnk) = true
        · rw [if_pos link, bind_eq_ok_iff] at passed
          obtain ⟨_, _, passed⟩ := passed
          cases passed
          exact .skip plain skipped
        · rw [if_neg link] at passed
          by_cases device : (member.ischr || member.isblk) = true
          · rw [if_pos device, refuse_bind_eq_ok_iff] at passed
            cases passed.2
            exact .skip plain skipped
          · rw [if_neg device, refuse_bind_eq_ok_iff] at passed
            cases passed.2
      · rw [if_neg special, refuse_bind_eq_ok_iff] at passed
        obtain ⟨_, passed⟩ := passed
        rw [Bool.not_eq_true, Bool.not_eq_false'] at special
        by_cases chosen : (!selectedName name) = true
        · rw [if_pos chosen] at passed
          cases passed
          rw [Bool.not_eq_true'] at chosen
          refine .skip plain fun other => ?_
          rw [chosen] at other
          cases other
        · rw [if_neg chosen, refuse_bind_eq_ok_iff, refuse_bind_eq_ok_iff] at passed
          obtain ⟨_, _, passed⟩ := passed
          cases passed
          rw [Bool.not_eq_true, Bool.not_eq_false'] at chosen
          exact .add plain chosen (member.node_of_isreg special)

/-- The bytes that a change reads. -/
def Change.weight : Change → Nat
  | .add content => content.data.length
  | _ => 0

/-- There is room for what a change reads. -/
def Change.Fits (limits : Limits) (consumed : Nat) : Change → Prop
  | .add content => ((consumed + content.data.length : Nat) : Int) ≤ limits.selectedBytes
  | _ => True

/-- The state after an iteration. -/
def Scan.visit (name : Name) (change : Change) (scan : Scan) : Scan where
  count := scan.count + 1
  seen := name :: scan.seen
  projection := match change with
    | .delete test => scan.projection.keep fun path _ => !test path
    | _ => scan.projection
  additions := match change with
    | .add content => scan.additions.insert name content
    | _ => scan.additions
  consumed := scan.consumed + change.weight

theorem Change.apply_eq_ok_iff : change.apply limits name
      { scan with count := scan.count + 1, seen := name :: scan.seen } = .ok finish ↔
    change.Fits limits scan.consumed ∧ finish = scan.visit name change := by
  cases change with
  | delete test =>
      constructor
      · intro applied
        cases applied
        exact ⟨trivial, rfl⟩
      · rintro ⟨_, rfl⟩
        rfl
  | skip =>
      constructor
      · intro applied
        cases applied
        exact ⟨trivial, rfl⟩
      · rintro ⟨_, rfl⟩
        rfl
  | add content =>
      rw [Change.apply, refuse_bind_eq_ok_iff, decide_eq_false_iff_not, Int.not_lt]
      refine and_congr_right fun _ => ?_
      constructor
      · intro same
        cases same
        rfl
      · rintro rfl
        rfl

/-- One iteration: its checks pass, and it makes the change that the member asks for. -/
theorem scanMember_eq_ok_iff : scanMember limits inheritedBase scan member = .ok finish ↔
    (scan.count + 1 : Int) ≤ limits.members ∧
      canonicalName (memberName member) = .ok (memberName member) ∧
      memberName member ∉ scan.seen ∧ ∃ change,
        inspect limits inheritedBase (memberName member) member = .ok change ∧
        change.Fits limits scan.consumed ∧ finish = scan.visit (memberName member) change := by
  rw [scanMember, refuse_bind_eq_ok_iff, bind_eq_ok_iff, decide_eq_false_iff_not, Int.not_lt]
  refine and_congr_right fun _ => ?_
  constructor
  · rintro ⟨name, canonical, step⟩
    rw [refuse_bind_eq_ok_iff, bind_eq_ok_iff, decide_eq_false_iff_not] at step
    have same : name = memberName member := by
      simp only [canonicalName, refuse_bind_eq_ok_iff] at canonical
      cases canonical.2.2.2
      rfl
    subst same
    obtain ⟨fresh, change, passed, applied⟩ := step
    exact ⟨canonical, fresh, change, passed, Change.apply_eq_ok_iff.mp applied⟩
  · rintro ⟨canonical, fresh, change, passed, applied⟩
    refine ⟨memberName member, canonical, ?_⟩
    rw [refuse_bind_eq_ok_iff, bind_eq_ok_iff, decide_eq_false_iff_not]
    exact ⟨fresh, change, passed, Change.apply_eq_ok_iff.mpr applied⟩

theorem scanMember_applied (step : scanMember limits inheritedBase scan member = .ok finish) :
    Applied selectedName (member.item (memberName member)) scan.projection.lookup
      scan.additions.lookup finish.projection.lookup finish.additions.lookup := by
  obtain ⟨_, _, _, change, passed, _, rfl⟩ := scanMember_eq_ok_iff.mp step
  cases inspected_of_eq_ok passed with
  | delete marked => exact applied_whiteout marked
  | skip plain skipped => exact applied_skipped plain skipped
  | add plain chosen node_eq => exact applied_insert plain chosen node_eq

end Scan

end CheckNetwork.Archive.Api
