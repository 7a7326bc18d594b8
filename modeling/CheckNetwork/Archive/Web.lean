import CheckNetwork.Archive.Layer

/-!
# Layers of the web archive

The verifier of the web archive follows the configuration and the assets through the
layers of the image.
-/

namespace CheckNetwork.Archive.Web

open Go Collection Overlay

structure Limits where
  members : Int := 4096
  memberBytes : Int := 256 * 1024 * 1024
  layerBytes : Int := 256 * 1024 * 1024
  selectedBytes : Int := 32 * 1024 * 1024

def webRoot : Name := .ofString "usr/share/nginx/html"

def configPath : Name := .ofString "etc/nginx/nginx.conf"

def safeName (name : Name) : Except ValidationError Name := do
  refuse (name = [] || name.startsWith [Name.slash] || name.includes (.ofString "\\") ||
    name.includes [Name.nul]) "unsafe archive path" name
  refuse (name.parts.any fun part => part = [] || part = .ofString "." || part = .ofString "..")
    "noncanonical archive path" name
  refuse (name.normpath ≠ name || name.normpath.startsWith (.ofString "../"))
    "escaping archive path" name
  return name

def isSelected (name : Name) : Bool :=
  name = configPath || name = webRoot || Name.within webRoot name

def expandedLayer (limits : Limits) (layer : Layer) : Except ValidationError Unit := do
  refuse (limits.layerBytes < layer.length) "layer exceeds byte limit"
  match layer.compression with
  | .plain => return ()
  | .gzip none => .error { what := "malformed compressed layer" }
  | .gzip (some expanded) =>
    refuse (limits.layerBytes < expanded) "expanded layer exceeds byte limit"

def applyWhiteout (name : Name) (projection : Store Name ProjectedFile) :
    Except ValidationError (Store Name ProjectedFile) := do
  let _ ← safeName name
  let directory := name.dirname
  let leaf := name.basename
  refuse (!leaf.includes whiteoutPrefix || !leaf.startsWith whiteoutPrefix)
    "malformed or unsupported whiteout" name
  if leaf = opaqueMarker then
    return projection.keep fun target _ => !(directory = [] || Name.within directory target)
  else
    let targetLeaf : Name := leaf.drop 4
    refuse (targetLeaf = [] || targetLeaf = .ofString "." || targetLeaf = .ofString ".." ||
      targetLeaf.includes [Name.slash] || targetLeaf.includes whiteoutPrefix ||
      targetLeaf.startsWith (.ofString ".")) "malformed or escaping whiteout" name
    let target := directory.join targetLeaf
    return projection.keep fun projected _ => !(projected = target || Name.within target projected)

def validateBaseLinkTarget (name target : Name) (hardlink : Bool) :
    Except ValidationError Unit := do
  refuse (linkTargetUnsafe target) "unsafe base-layer link target" name
  refuse (hardlink && target.startsWith [Name.slash]) "unsafe base-layer link target" name
  refuse (linkTargetEscapes name target hardlink) "unsafe base-layer link target" name

/-- The state of the loop over the members of a layer. -/
structure Scan where
  count : Nat := 0
  seen : List Name := []
  projection : Store Name ProjectedFile
  additions : Store Name ProjectedFile := ∅

def memberName (member : Member) : Name :=
  if member.isdir then member.name.rstrip else member.name

/-- The rest of an iteration, when the name is known to be new. -/
def scanNamed (limits : Limits) (inheritedBase : Bool) (name : Name) (scan : Scan)
    (member : Member) : Except ValidationError Scan := do
  let leaf := name.basename
  if leaf.startsWith whiteoutPrefix || leaf.includes whiteoutPrefix then
    refuse (!member.isreg || member.size ≠ 0) "whiteout is not an empty regular file" name
    let projection ← applyWhiteout name scan.projection
    return { scan with projection }
  else
    refuse (isSelected name && !(member.isreg || member.isdir))
      "selected special file is forbidden" name
    if member.isdir then return scan
    else if !member.isreg then
      refuse (!inheritedBase) "post-base layer links/devices/FIFO/socket are forbidden" name
      refuse (!(member.issym || member.islnk)) "base layer device/FIFO/socket is forbidden" name
      validateBaseLinkTarget name member.linkname member.islnk
      return scan
    else
      refuse (member.size < 0 || limits.memberBytes < member.size)
        "layer member exceeds byte limit" name
      if !isSelected name then return scan
      else
        refuse (limits.memberBytes < member.bytes.length) "exceeds byte limit" name
        let additions := scan.additions.insert name ⟨member.bytes, permissions member.mode⟩
        refuse (limits.selectedBytes < selectedTotal (update scan.projection additions))
          "expanded selected-file bytes exceed limit"
        return { scan with additions }

def scanMember (limits : Limits) (inheritedBase : Bool) (scan : Scan) (member : Member) :
    Except ValidationError Scan := do
  refuse (limits.members < scan.count + 1) "layer member count exceeds limit"
  let name ← safeName (memberName member)
  refuse (name ∈ scan.seen) "duplicate layer path" name
  scanNamed limits inheritedBase name
    { scan with count := scan.count + 1, seen := name :: scan.seen } member

def scanLayer (limits : Limits) (layer : Layer) (projection : Store Name ProjectedFile)
    (inheritedBase : Bool) : Except ValidationError (Store Name ProjectedFile) := do
  expandedLayer limits layer
  let archive ← layer.archive
  let scan ← archive.members.foldlM (scanMember limits inheritedBase) { projection }
  archive.close
  return update scan.projection scan.additions

/-- The loop of `validate` over the layers, the lowest first.  A layer comes with whether it
is one of the base. -/
def scanLayers (limits : Limits) (stack : List (Layer × Bool))
    (projection : Store Name ProjectedFile) : Except ValidationError (Store Name ProjectedFile) :=
  stack.foldlM (fun projection (layer, inheritedBase) =>
    scanLayer limits layer projection inheritedBase) projection

/-- The members of a layer under their names. -/
def layerItems (layer : Layer) : List (Item Name ProjectedFile) :=
  match layer.archive with
  | .ok archive => archive.members.map fun member => member.item (memberName member)
  | .error _ => []

section Scan

variable {formats : Formats} {limits : Limits} {inheritedBase : Bool} {name : Name}
  {member : Member} {scan finish : Scan} {projection result : Store Name ProjectedFile}

theorem applyWhiteout_eq_ok (applied : applyWhiteout name projection = .ok result) :
    name.basename.startsWith whiteoutPrefix = true ∧ result = removeHidden name projection := by
  rw [applyWhiteout, bind_eq_ok_iff] at applied
  obtain ⟨_, _, applied⟩ := applied
  rw [refuse_bind_eq_ok_iff] at applied
  obtain ⟨marked, applied⟩ := applied
  simp only [Bool.or_eq_false_iff, Bool.not_eq_false'] at marked
  refine ⟨marked.2, ?_⟩
  by_cases marker : name.basename = opaqueMarker
  · rw [if_pos marker] at applied
    cases applied
    simp only [removeHidden, whiteoutHides, if_pos marker]
  · rw [if_neg marker, refuse_bind_eq_ok_iff] at applied
    cases applied.2
    simp only [removeHidden, whiteoutHides, if_neg marker, whiteoutTarget]
    rfl

/-- One member is a whiteout, is skipped, or adds a selected file. -/
theorem scanNamed_applied (step : scanNamed limits inheritedBase name scan member = .ok finish) :
    Applied isSelected (member.item name) scan.projection.lookup scan.additions.lookup
      finish.projection.lookup finish.additions.lookup := by
  rw [scanNamed] at step
  by_cases marked : (name.basename.startsWith whiteoutPrefix ||
    name.basename.includes whiteoutPrefix) = true
  · rw [if_pos marked, refuse_bind_eq_ok_iff, bind_eq_ok_iff] at step
    obtain ⟨_, hidden, applied, step⟩ := step
    cases step
    obtain ⟨marked, rfl⟩ := applyWhiteout_eq_ok applied
    exact applied_whiteout marked
  · rw [if_neg marked, refuse_bind_eq_ok_iff] at step
    obtain ⟨_, step⟩ := step
    have plain : name.basename.startsWith whiteoutPrefix = false := by
      rw [Bool.not_eq_true, Bool.or_eq_false_iff] at marked
      exact marked.1
    by_cases directory : member.isdir = true
    · rw [if_pos directory] at step
      cases step
      refine applied_skipped plain fun _ => ?_
      rw [Member.node, of_decide_eq_true directory]
      rfl
    · rw [if_neg directory] at step
      by_cases special : (!member.isreg) = true
      · rw [if_pos special, refuse_bind_eq_ok_iff, refuse_bind_eq_ok_iff, bind_eq_ok_iff] at step
        obtain ⟨_, _, _, _, step⟩ := step
        cases step
        refine applied_skipped plain fun _ => member.isFile_node_of_not_isreg ?_
        rwa [Bool.not_eq_true'] at special
      · rw [if_neg special, refuse_bind_eq_ok_iff] at step
        obtain ⟨_, step⟩ := step
        rw [Bool.not_eq_true, Bool.not_eq_false'] at special
        by_cases chosen : (!isSelected name) = true
        · rw [if_pos chosen] at step
          cases step
          rw [Bool.not_eq_true'] at chosen
          refine applied_skipped plain fun other => ?_
          rw [chosen] at other
          cases other
        · rw [if_neg chosen, refuse_bind_eq_ok_iff, refuse_bind_eq_ok_iff] at step
          obtain ⟨_, _, step⟩ := step
          cases step
          rw [Bool.not_eq_true, Bool.not_eq_false'] at chosen
          exact applied_insert plain chosen (member.node_of_isreg special)

theorem scanMember_applied (step : scanMember limits inheritedBase scan member = .ok finish) :
    Applied isSelected (member.item (memberName member)) scan.projection.lookup
      scan.additions.lookup finish.projection.lookup finish.additions.lookup := by
  rw [scanMember, refuse_bind_eq_ok_iff, bind_eq_ok_iff] at step
  obtain ⟨_, name, safe, step⟩ := step
  rw [refuse_bind_eq_ok_iff] at step
  simp only [safeName, refuse_bind_eq_ok_iff] at safe
  cases safe.2.2.2
  have applied := scanNamed_applied step.2
  exact applied

theorem tracks_scanLayer {stack : List (List (Item Name ProjectedFile))} {layer : Layer}
    (tracks : Tracks isSelected stack projection.lookup)
    (scanned : scanLayer limits layer projection inheritedBase = .ok result) :
    Tracks isSelected (stack ++ [layerItems layer]) result.lookup := by
  rw [scanLayer, bind_eq_ok_iff] at scanned
  obtain ⟨_, _, scanned⟩ := scanned
  rw [bind_eq_ok_iff] at scanned
  obtain ⟨archive, opened, scanned⟩ := scanned
  rw [bind_eq_ok_iff] at scanned
  obtain ⟨finish, run, scanned⟩ := scanned
  rw [bind_eq_ok_iff] at scanned
  obtain ⟨_, _, scanned⟩ := scanned
  cases scanned
  rw [layerItems, opened]
  have after := @Tracks.scan _ _ _ _ _ _ _ (fun member => Member.item (memberName member) member)
    (fun scan : Scan => scan.projection.lookup) (fun scan : Scan => scan.additions.lookup) _ _
    scanMember_applied _ _ _ run tracks (fun _ => rfl)
  intro path
  exact (lookup_update _ _ _).trans (after path)

/-- The projection of an accepted stack has the selected files that were written last. -/
theorem tracks_scanLayers {before : List (List (Item Name ProjectedFile))}
    {stack : List (Layer × Bool)} (tracks : Tracks isSelected before projection.lookup)
    (scanned : scanLayers limits stack projection = .ok result) :
    Tracks isSelected (before ++ stack.map fun layer => layerItems layer.1) result.lookup := by
  induction stack generalizing before projection with
  | nil =>
      cases scanned
      rwa [List.map_nil, List.append_nil]
  | cons layer upper ih =>
      rw [scanLayers, List.foldlM_cons, bind_eq_ok_iff] at scanned
      obtain ⟨middle, first, rest⟩ := scanned
      rw [List.map_cons, List.append_cons]
      exact ih (tracks_scanLayer tracks first) rest

end Scan

/-! ## The filesystem of the container -/

/-- The layers of a stack as `Overlay` has them. -/
def overlay (stack : List (Layer × Bool)) : List (List (Item Name ProjectedFile)) :=
  stack.map fun layer => layerItems layer.1

/-- The selected files that a container of the image has. -/
def servedFile (stack : List (Layer × Bool)) (path : Name) : Option ProjectedFile :=
  if isSelected path then fileAt (merged Name.within (overlay stack)) path else none

/-- The projection of an accepted stack is what the container serves exactly when no selected
file is displaced. -/
theorem projection_eq_served_iff (limits : Limits) (stack : List (Layer × Bool))
    (projection : Store Name ProjectedFile)
    (accepted : scanLayers limits stack ∅ = .ok projection) :
    (∀ path, projection.lookup path = servedFile stack path) ↔
      ¬ ∃ path, isSelected path = true ∧ Displaced Name.within (overlay stack) path := by
  have start : Tracks isSelected ([] : List (List (Item Name ProjectedFile)))
      (AList.lookup · (∅ : Store Name ProjectedFile)) := by
    intro path
    exact (AList.lookup_empty path).trans (ite_self none).symm
  have tracks := tracks_scanLayers start accepted
  rw [List.nil_append] at tracks
  exact tracks.eq_merged_iff Name.within

/-! ## A directory in place of an asset -/

def script : Name := .ofString "usr/share/nginx/html/app.js"

/-- An asset, and above it a layer that has a directory at the path of the asset. -/
def replacedScript : List (Layer × Bool) :=
  [({ length := 2048, archive := .ok { members := [
      { name := script, size := 2, mode := 0o644, bytes := [0x7b, 0x7d] }] } }, false),
    ({ length := 1536, archive := .ok { members := [
      { name := script, type := .directory, mode := 0o755 }] } }, false)]

def scriptProjection : Store Name ProjectedFile :=
  (∅ : Store Name ProjectedFile).insert script ⟨[0x7b, 0x7d], 0o644⟩

theorem scanLayers_replacedScript :
    scanLayers {} replacedScript ∅ = .ok scriptProjection :=
  rfl

theorem script_not_served :
    scriptProjection.lookup script ≠ servedFile replacedScript script := by
  have missing : servedFile replacedScript script = none := by decide +kernel
  rw [missing, scriptProjection, AList.lookup_insert]
  exact Option.some_ne_none _

/-- The verifier accepts an asset that the container does not have. -/
theorem accepted_not_served : ¬ ∀ (limits : Limits) (stack : List (Layer × Bool))
    (projection : Store Name ProjectedFile), scanLayers limits stack ∅ = .ok projection →
    ∀ path, projection.lookup path = servedFile stack path := by
  intro every
  exact script_not_served (every {} replacedScript _ scanLayers_replacedScript script)

theorem projection_eq_served_sample :
    ∃ path, isSelected path = true ∧ Displaced Name.within (overlay replacedScript) path := by
  by_contra undisturbed
  exact script_not_served ((projection_eq_served_iff {} replacedScript _
    scanLayers_replacedScript).mpr undisturbed script)

end CheckNetwork.Archive.Web
