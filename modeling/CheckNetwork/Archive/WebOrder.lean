import CheckNetwork.Archive.Order
import CheckNetwork.Archive.Web
import Mathlib.Algebra.Order.BigOperators.Group.Finset

/-!
# The order of the members of a layer of the web archive

Whiteouts delete files of the layers below and additions are kept apart, so the files that a
layer leaves do not depend on the order of its members.  The budget is checked while they are
read: it sees an addition before the whiteouts that come after it, and before the smaller
assets that take the place of larger ones.
-/

namespace CheckNetwork.Archive.Web

open Go Collection Overlay

/-! ## The checks of a member -/

def isWhiteout (name : Name) : Bool :=
  name.basename.startsWith whiteoutPrefix || name.basename.includes whiteoutPrefix

/-- A member whose bytes are read into the additions. -/
def isAsset (member : Member) : Bool :=
  !isWhiteout (memberName member) && member.isreg && isSelected (memberName member)

/-- What `applyWhiteout` checks before it deletes. -/
def checkWhiteout (name : Name) : Except ValidationError Unit := do
  let _ ← safeName name
  let leaf := name.basename
  refuse (!leaf.includes whiteoutPrefix || !leaf.startsWith whiteoutPrefix)
    "malformed or unsupported whiteout" name
  if leaf = opaqueMarker then return ()
  else
    let targetLeaf : Name := leaf.drop 4
    refuse (targetLeaf = [] || targetLeaf = .ofString "." || targetLeaf = .ofString ".." ||
      targetLeaf.includes [Name.slash] || targetLeaf.includes whiteoutPrefix ||
      targetLeaf.startsWith (.ofString ".")) "malformed or escaping whiteout" name

/-- The checks of a member that do not look at the other members. -/
def inspect (limits : Limits) (inheritedBase : Bool) (name : Name) (member : Member) :
    Except ValidationError Unit := do
  if isWhiteout name then
    refuse (!member.isreg || member.size ≠ 0) "whiteout is not an empty regular file" name
    checkWhiteout name
  else
    refuse (isSelected name && !(member.isreg || member.isdir))
      "selected special file is forbidden" name
    if member.isdir then return ()
    else if !member.isreg then
      refuse (!inheritedBase) "post-base layer links/devices/FIFO/socket are forbidden" name
      refuse (!(member.issym || member.islnk)) "base layer device/FIFO/socket is forbidden" name
      validateBaseLinkTarget name member.linkname member.islnk
    else
      refuse (member.size < 0 || limits.memberBytes < member.size)
        "layer member exceeds byte limit" name
      if !isSelected name then return ()
      else refuse (limits.memberBytes < member.bytes.length) "exceeds byte limit" name

/-- The state after an iteration. -/
def Scan.visit (scan : Scan) (member : Member) : Scan where
  count := scan.count + 1
  seen := memberName member :: scan.seen
  projection := if isWhiteout (memberName member) then
      removeHidden (memberName member) scan.projection
    else scan.projection
  additions := if isAsset member then
      scan.additions.insert (memberName member) ⟨member.bytes, permissions member.mode⟩
    else scan.additions

/-- The files that a state of the loop would leave. -/
def Scan.files (scan : Scan) : Store Name ProjectedFile :=
  update scan.projection scan.additions

/-- The state after some members. -/
def laid (projection : Store Name ProjectedFile) (members : List Member) : Scan :=
  members.foldl Scan.visit { projection }

/-- The bytes that the files take after some members. -/
def taken (projection : Store Name ProjectedFile) (members : List Member) : Nat :=
  selectedTotal (laid projection members).files

section Member

variable {limits : Limits} {inheritedBase : Bool} {name : Name} {member : Member}
  {scan finish : Scan} {projection result : Store Name ProjectedFile}

theorem refuse_eq_ok_iff {test : Bool} {what : String} {path : Name} :
    refuse test what path = .ok () ↔ test = false := by
  cases test with
  | false => exact ⟨fun _ => rfl, fun _ => rfl⟩
  | true => exact ⟨nofun, nofun⟩

theorem safeName_eq_ok_iff {safe : Name} :
    safeName name = .ok safe ↔ safeName name = .ok name ∧ safe = name := by
  constructor
  · intro passed
    have same : safe = name := by
      simp only [safeName, refuse_bind_eq_ok_iff] at passed
      cases passed.2.2.2
      rfl
    exact ⟨same ▸ passed, same⟩
  · rintro ⟨passed, rfl⟩
    exact passed

theorem applyWhiteout_eq_ok_iff : applyWhiteout name projection = .ok result ↔
    checkWhiteout name = .ok () ∧ result = removeHidden name projection := by
  constructor
  · intro applied
    rw [applyWhiteout, bind_eq_ok_iff] at applied
    obtain ⟨safe, passed, applied⟩ := applied
    rw [refuse_bind_eq_ok_iff] at applied
    rw [checkWhiteout, bind_eq_ok_iff]
    by_cases marker : name.basename = opaqueMarker
    · rw [if_pos marker] at applied
      cases applied.2
      constructor
      · refine ⟨safe, passed, ?_⟩
        rw [refuse_bind_eq_ok_iff, if_pos marker]
        exact ⟨applied.1, rfl⟩
      · simp only [removeHidden, whiteoutHides, if_pos marker]
    · rw [if_neg marker, refuse_bind_eq_ok_iff] at applied
      cases applied.2.2
      constructor
      · refine ⟨safe, passed, ?_⟩
        rw [refuse_bind_eq_ok_iff, if_neg marker, refuse_eq_ok_iff]
        exact ⟨applied.1, applied.2.1⟩
      · simp only [removeHidden, whiteoutHides, if_neg marker, whiteoutTarget]
        rfl
  · rintro ⟨checked, rfl⟩
    rw [checkWhiteout, bind_eq_ok_iff] at checked
    obtain ⟨safe, passed, checked⟩ := checked
    rw [refuse_bind_eq_ok_iff] at checked
    rw [applyWhiteout, bind_eq_ok_iff]
    refine ⟨safe, passed, ?_⟩
    rw [refuse_bind_eq_ok_iff]
    by_cases marker : name.basename = opaqueMarker
    · rw [if_pos marker]
      refine ⟨checked.1, ?_⟩
      simp only [removeHidden, whiteoutHides, if_pos marker]
      rfl
    · rw [if_neg marker, refuse_eq_ok_iff] at checked
      rw [if_neg marker, refuse_bind_eq_ok_iff]
      refine ⟨checked.1, checked.2, ?_⟩
      simp only [removeHidden, whiteoutHides, if_neg marker, whiteoutTarget]
      rfl

/-- What follows the checks of the name. -/
theorem scanNamed_eq_ok_iff :
    scanNamed limits inheritedBase (memberName member)
        { scan with count := scan.count + 1, seen := memberName member :: scan.seen } member =
      .ok finish ↔ inspect limits inheritedBase (memberName member) member = .ok () ∧
        (isAsset member = true →
          (selectedTotal (scan.visit member).files : Int) ≤ limits.selectedBytes) ∧
        finish = scan.visit member := by
  rw [scanNamed, inspect]
  change (if isWhiteout (memberName member) = true then _ else _) = _ ↔ _
  by_cases whiteout : isWhiteout (memberName member) = true
  · have notAsset : isAsset member ≠ true := by
      rw [isAsset, whiteout]
      exact Bool.false_ne_true
    rw [if_pos whiteout, if_pos whiteout, refuse_bind_eq_ok_iff, refuse_bind_eq_ok_iff,
      bind_eq_ok_iff, Scan.visit, if_pos whiteout, if_neg notAsset]
    simp only [applyWhiteout_eq_ok_iff]
    constructor
    · rintro ⟨plain, _, ⟨checked, rfl⟩, same⟩
      cases same
      exact ⟨⟨plain, checked⟩, fun asset => absurd asset notAsset, rfl⟩
    · rintro ⟨⟨plain, checked⟩, _, rfl⟩
      exact ⟨plain, _, ⟨checked, rfl⟩, rfl⟩
  · have skipped : isAsset member ≠ true →
        ((.ok { scan with count := scan.count + 1, seen := memberName member :: scan.seen } :
          Except ValidationError Scan) = .ok finish ↔ (isAsset member = true →
            (selectedTotal (scan.visit member).files : Int) ≤ limits.selectedBytes) ∧
          finish = scan.visit member) := by
      intro notAsset
      have kept : scan.visit member =
          { scan with count := scan.count + 1, seen := memberName member :: scan.seen } := by
        rw [Scan.visit, if_neg whiteout, if_neg notAsset]
      constructor
      · intro same
        cases same
        exact ⟨fun asset => absurd asset notAsset, kept.symm⟩
      · rintro ⟨_, rfl⟩
        rw [kept]
    rw [if_neg whiteout, if_neg whiteout, refuse_bind_eq_ok_iff, refuse_bind_eq_ok_iff, and_assoc]
    refine and_congr_right fun _ => ?_
    by_cases directory : member.isdir = true
    · have notAsset : isAsset member ≠ true := by
        rw [isAsset, Member.isreg, of_decide_eq_true directory]
        simp
      rw [if_pos directory, if_pos directory]
      exact (skipped notAsset).trans ⟨fun both => ⟨rfl, both⟩, And.right⟩
    · rw [if_neg directory, if_neg directory]
      by_cases special : (!member.isreg) = true
      · have notAsset : isAsset member ≠ true := by
          rw [Bool.not_eq_true'] at special
          rw [isAsset, special, Bool.and_false, Bool.false_and]
          exact Bool.false_ne_true
        rw [if_pos special, if_pos special, refuse_bind_eq_ok_iff, refuse_bind_eq_ok_iff,
          refuse_bind_eq_ok_iff, refuse_bind_eq_ok_iff, bind_eq_ok_iff, and_assoc, and_assoc]
        refine and_congr_right fun _ => and_congr_right fun _ => ?_
        constructor
        · rintro ⟨_, passed, same⟩
          exact ⟨passed, (skipped notAsset).mp same⟩
        · rintro ⟨passed, both⟩
          exact ⟨(), passed, (skipped notAsset).mpr both⟩
      · rw [if_neg special, if_neg special, refuse_bind_eq_ok_iff, refuse_bind_eq_ok_iff, and_assoc]
        refine and_congr_right fun _ => ?_
        by_cases other : (!isSelected (memberName member)) = true
        · have notAsset : isAsset member ≠ true := by
            rw [Bool.not_eq_true'] at other
            rw [isAsset, other, Bool.and_false]
            exact Bool.false_ne_true
          rw [if_pos other, if_pos other]
          exact (skipped notAsset).trans ⟨fun both => ⟨rfl, both⟩, And.right⟩
        · have asset : isAsset member = true := by
            rw [Bool.not_eq_true] at whiteout
            rw [Bool.not_eq_true, Bool.not_eq_false'] at special other
            rw [isAsset, whiteout, special, other]
            rfl
          rw [if_neg other, if_neg other, refuse_bind_eq_ok_iff, refuse_bind_eq_ok_iff,
            refuse_eq_ok_iff, decide_eq_false_iff_not, decide_eq_false_iff_not, Int.not_lt,
            Int.not_lt, forall_prop_of_true asset, Scan.files, Scan.visit, if_neg whiteout,
            if_pos asset]
          refine and_congr_right fun _ => and_congr_right fun _ => ?_
          constructor
          · intro same
            cases same
            rfl
          · rintro rfl
            rfl

/-- One iteration passes the checks of its member, and a file that it adds stays within the
budget. -/
theorem scanMember_eq_ok_iff : scanMember limits inheritedBase scan member = .ok finish ↔
    (scan.count + 1 : Int) ≤ limits.members ∧
      safeName (memberName member) = .ok (memberName member) ∧ memberName member ∉ scan.seen ∧
      inspect limits inheritedBase (memberName member) member = .ok () ∧
      (isAsset member = true →
        (selectedTotal (scan.visit member).files : Int) ≤ limits.selectedBytes) ∧
      finish = scan.visit member := by
  rw [scanMember, refuse_bind_eq_ok_iff, bind_eq_ok_iff, decide_eq_false_iff_not, Int.not_lt]
  refine and_congr_right fun _ => ?_
  constructor
  · rintro ⟨name, safe, step⟩
    obtain ⟨safe, rfl⟩ := safeName_eq_ok_iff.mp safe
    rw [refuse_bind_eq_ok_iff, decide_eq_false_iff_not, scanNamed_eq_ok_iff] at step
    exact ⟨safe, step⟩
  · rintro ⟨safe, step⟩
    refine ⟨memberName member, safe, ?_⟩
    rw [refuse_bind_eq_ok_iff, decide_eq_false_iff_not, scanNamed_eq_ok_iff]
    exact step

end Member

/-! ## The files after some members -/

/-- The bytes of a file, if there is one. -/
def fileSize (file : Option ProjectedFile) : Nat :=
  file.elim 0 fun file => file.data.length

/-- Whether a whiteout among the members hides a path. -/
def hidden (members : List Member) (path : Name) : Bool :=
  members.any fun member =>
    isWhiteout (memberName member) && whiteoutHides (memberName member) path

/-- The bytes at a path after some members. -/
def bytesAt (projection : Store Name ProjectedFile) (members : List Member) (path : Name) : Nat :=
  fileSize ((laid projection members).files.lookup path)

theorem selectedTotal_eq_sum (files : Store Name ProjectedFile) (paths : Finset Name)
    (all : ∀ path ∈ files, path ∈ paths) :
    selectedTotal files = ∑ path ∈ paths, fileSize (files.lookup path) := by
  have keys : selectedTotal files = (files.keys.map fun path => fileSize (files.lookup path)).sum := by
    rw [selectedTotal, AList.keys, List.keys, List.map_map]
    refine congrArg List.sum (List.map_congr_left ?_)
    intro entry member
    rw [Function.comp_apply, AList.mem_lookup_iff.mpr member]
    rfl
  rw [keys, ← List.sum_toFinset _ files.keys_nodup]
  apply Finset.sum_subset
  · intro path member
    exact all path (List.mem_toFinset.mp member)
  · intro path _ missing
    have absent : path ∉ files := fun member => missing (List.mem_toFinset.mpr member)
    rw [AList.lookup_eq_none.mpr absent]
    rfl

/-- Files that are smaller at every path take fewer bytes. -/
theorem selectedTotal_le {files others : Store Name ProjectedFile}
    (le : ∀ path, fileSize (files.lookup path) ≤ fileSize (others.lookup path)) :
    selectedTotal files ≤ selectedTotal others := by
  set paths := files.keys.toFinset ∪ others.keys.toFinset
  rw [selectedTotal_eq_sum files paths, selectedTotal_eq_sum others paths]
  · exact Finset.sum_le_sum fun path _ => le path
  · exact fun path member => Finset.mem_union_right _ (List.mem_toFinset.mpr member)
  · exact fun path member => Finset.mem_union_left _ (List.mem_toFinset.mpr member)

section Laid

variable {projection : Store Name ProjectedFile} {members others part whole assets : List Member}
  {member : Member} {path name : Name} {content : ProjectedFile}

theorem laid_concat (projection : Store Name ProjectedFile) (members : List Member)
    (member : Member) :
    laid projection (members ++ [member]) = (laid projection members).visit member := by
  rw [laid, List.foldl_append]
  rfl

theorem count_laid (projection : Store Name ProjectedFile) (members : List Member) :
    (laid projection members).count = members.length := by
  induction members using List.reverseRecOn with
  | nil => rfl
  | append_singleton members member ih =>
      rw [laid_concat, List.length_append]
      exact congrArg (· + 1) ih

theorem mem_seen_laid : name ∈ (laid projection members).seen ↔ name ∈ members.map memberName := by
  induction members using List.reverseRecOn with
  | nil => rfl
  | append_singleton members member ih =>
      rw [laid_concat, List.map_append, List.mem_append, ← ih]
      change name ∈ memberName member :: _ ↔ _ ∨ name ∈ [memberName member]
      rw [List.mem_cons, List.mem_singleton, or_comm]

/-- Files of the layers below are there until a whiteout hides them. -/
theorem lookup_projection_laid : (laid projection members).projection.lookup path =
    (projection.lookup path).filter fun _ => !hidden members path := by
  induction members using List.reverseRecOn with
  | nil =>
      change projection.lookup path = _
      cases projection.lookup path <;> rfl
  | append_singleton members member ih =>
      rw [laid_concat, Scan.visit]
      have split : hidden (members ++ [member]) path = (hidden members path ||
          isWhiteout (memberName member) && whiteoutHides (memberName member) path) := by
        rw [hidden, List.any_append, List.any_cons, List.any_nil, Bool.or_false]
        rfl
      rw [split]
      by_cases whiteout : isWhiteout (memberName member) = true
      · rw [if_pos whiteout, removeHidden, Store.lookup_keep, ih, whiteout, Bool.true_and]
        cases projection.lookup path with
        | none => rfl
        | some file =>
            cases hidden members path <;> cases whiteoutHides (memberName member) path <;> rfl
      · rw [if_neg whiteout, ih, Bool.not_eq_true _ |>.mp whiteout, Bool.false_and, Bool.or_false]

/-- The additions are the assets among the members. -/
theorem lookup_additions_laid (distinct : (members.map memberName).Nodup) :
    (laid projection members).additions.lookup path = some content ↔
      ∃ member ∈ members, isAsset member = true ∧ memberName member = path ∧
        content = ⟨member.bytes, permissions member.mode⟩ := by
  induction members using List.reverseRecOn with
  | nil =>
      constructor
      · intro found
        cases found
      · rintro ⟨_, none, _⟩
        cases none
  | append_singleton members member ih =>
      rw [List.map_append, List.nodup_append] at distinct
      have fresh : ∀ other ∈ members, memberName other ≠ memberName member := fun other inside =>
        distinct.2.2 _ (List.mem_map_of_mem inside) _ List.mem_cons_self
      simp only [List.mem_append, List.mem_singleton, or_and_right, exists_or, exists_eq_left]
      rw [laid_concat, Scan.visit, ← ih distinct.1]
      by_cases asset : isAsset member = true
      · rw [if_pos asset, Store.lookup_insert_eq_some]
        constructor
        · rintro (⟨rfl, rfl⟩ | ⟨_, found⟩)
          · exact .inr ⟨asset, rfl, rfl⟩
          · exact .inl found
        · rintro (found | ⟨_, rfl, rfl⟩)
          · obtain ⟨other, inside, _, rfl, _⟩ := (ih distinct.1).mp found
            exact .inr ⟨fresh other inside, found⟩
          · exact .inl ⟨rfl, rfl⟩
      · rw [if_neg asset]
        exact ⟨.inl, Or.rec id fun found => absurd found.1 asset⟩

/-- The files do not depend on the order of the members. -/
theorem lookup_files_perm (perm : members.Perm others)
    (distinct : (members.map memberName).Nodup) :
    (laid projection members).files.lookup path = (laid projection others).files.lookup path := by
  have distinct' : (others.map memberName).Nodup := (perm.map memberName).nodup_iff.mp distinct
  have additions : (laid projection members).additions.lookup path =
      (laid projection others).additions.lookup path := by
    apply Option.ext
    intro content
    rw [lookup_additions_laid distinct, lookup_additions_laid distinct']
    exact exists_congr fun member => and_congr_left' perm.mem_iff
  have same : hidden members path = hidden others path := by
    rw [Bool.eq_iff_iff, hidden, hidden, List.any_eq_true, List.any_eq_true]
    exact exists_congr fun member => and_congr_left' perm.mem_iff
  rw [Scan.files, Scan.files, lookup_update, lookup_update, additions, lookup_projection_laid,
    lookup_projection_laid, same]

theorem bytesAt_of_asset (distinct : (members.map memberName).Nodup) (inside : member ∈ members)
    (asset : isAsset member = true) :
    bytesAt projection members (memberName member) = member.bytes.length := by
  have found : (laid projection members).additions.lookup (memberName member) =
      some ⟨member.bytes, permissions member.mode⟩ :=
    (lookup_additions_laid distinct).mpr ⟨member, inside, asset, rfl, rfl⟩
  rw [bytesAt, Scan.files, lookup_update, found]
  rfl

theorem bytesAt_of_no_asset (distinct : (members.map memberName).Nodup)
    (other : ∀ member ∈ members, isAsset member = true → memberName member ≠ path) :
    bytesAt projection members path =
      fileSize ((projection.lookup path).filter fun _ => !hidden members path) := by
  have absent : (laid projection members).additions.lookup path = none := by
    cases found : (laid projection members).additions.lookup path with
    | none => rfl
    | some content =>
        obtain ⟨member, inside, asset, same, _⟩ := (lookup_additions_laid distinct).mp found
        exact absurd same (other member inside asset)
  rw [bytesAt, Scan.files, lookup_update, absent, Option.none_or, lookup_projection_laid]

/-- More whiteouts leave fewer bytes. -/
theorem taken_anti (subset : part ⊆ whole)
    (same : ∀ member ∈ whole, isAsset member = true → member ∈ part)
    (distinct : (part.map memberName).Nodup) (distinct' : (whole.map memberName).Nodup) :
    taken projection whole ≤ taken projection part := by
  apply selectedTotal_le
  intro path
  change bytesAt projection whole path ≤ bytesAt projection part path
  by_cases found : ∃ member ∈ whole, isAsset member = true ∧ memberName member = path
  · obtain ⟨member, inside, asset, rfl⟩ := found
    rw [bytesAt_of_asset distinct' inside asset, bytesAt_of_asset distinct (same _ inside asset) asset]
  · have none : ∀ member ∈ whole, isAsset member = true → memberName member ≠ path :=
      fun member inside asset at_path => found ⟨member, inside, asset, at_path⟩
    rw [bytesAt_of_no_asset distinct' none,
      bytesAt_of_no_asset distinct fun member inside => none member (subset inside)]
    cases projection.lookup path with
    | none => exact le_rfl
    | some file =>
        cases above : hidden part path with
        | false =>
            cases hidden whole path with
            | false => exact le_rfl
            | true => exact Nat.zero_le _
        | true =>
            obtain ⟨member, inside, hides⟩ := List.any_eq_true.mp above
            have also : hidden whole path = true :=
              List.any_eq_true.mpr ⟨member, subset inside, hides⟩
            rw [also]

theorem taken_perm (perm : members.Perm others) (distinct : (members.map memberName).Nodup) :
    taken projection members = taken projection others := by
  have distinct' : (others.map memberName).Nodup := (perm.map memberName).nodup_iff.mp distinct
  apply Nat.le_antisymm
  · exact taken_anti perm.symm.subset (fun _ inside _ => perm.subset inside) distinct' distinct
  · exact taken_anti perm.subset (fun _ inside _ => perm.symm.subset inside) distinct distinct'

theorem hidden_append_assets (all : ∀ member ∈ assets, isAsset member = true) :
    hidden (members ++ assets) path = hidden members path := by
  have none : hidden assets path = false := by
    rw [hidden, List.any_eq_false]
    intro member inside
    have asset := all member inside
    rw [isAsset, Bool.and_eq_true, Bool.and_eq_true, Bool.not_eq_true'] at asset
    rw [asset.1.1]
    exact Bool.false_ne_true
  rw [hidden, List.any_append]
  change (hidden members path || hidden assets path) = _
  rw [none, Bool.or_false]

/-- Assets change the bytes at their own paths alone. -/
theorem bytesAt_append_assets (all : ∀ member ∈ assets, isAsset member = true)
    (distinct : ((members ++ assets).map memberName).Nodup)
    (other : ∀ member ∈ assets, memberName member ≠ path) :
    bytesAt projection (members ++ assets) path = bytesAt projection members path := by
  have distinct' : (members.map memberName).Nodup :=
    distinct.sublist ((List.sublist_append_left _ _).map memberName)
  by_cases found : ∃ member ∈ members, isAsset member = true ∧ memberName member = path
  · obtain ⟨member, inside, asset, rfl⟩ := found
    rw [bytesAt_of_asset distinct (List.mem_append_left _ inside) asset,
      bytesAt_of_asset distinct' inside asset]
  · have none : ∀ member ∈ members, isAsset member = true → memberName member ≠ path :=
      fun member inside asset at_path => found ⟨member, inside, asset, at_path⟩
    rw [bytesAt_of_no_asset distinct' none, bytesAt_of_no_asset distinct, hidden_append_assets all]
    intro member inside asset
    rcases List.mem_append.mp inside with inside | inside
    · exact none member inside asset
    · exact other member inside

theorem name_ne {first second : List Member}
    (distinct : ((first ++ second).map memberName).Nodup) {one two : Member} (left : one ∈ first)
    (right : two ∈ second) : memberName one ≠ memberName two := by
  rw [List.map_append, List.nodup_append] at distinct
  exact distinct.2.2 _ (List.mem_map_of_mem left) _ (List.mem_map_of_mem right)

/-- Assets that are no larger than what they replace do not take more bytes. -/
theorem taken_append_le (all : ∀ member ∈ assets, isAsset member = true)
    (distinct : ((members ++ assets).map memberName).Nodup)
    (smaller : ∀ member ∈ assets,
      member.bytes.length ≤ bytesAt projection members (memberName member)) :
    taken projection (members ++ assets) ≤ taken projection members := by
  apply selectedTotal_le
  intro path
  change bytesAt projection (members ++ assets) path ≤ bytesAt projection members path
  by_cases found : ∃ member ∈ assets, memberName member = path
  · obtain ⟨member, inside, rfl⟩ := found
    rw [bytesAt_of_asset distinct (List.mem_append_right _ inside) (all member inside)]
    exact smaller member inside
  · exact (bytesAt_append_assets all distinct fun member inside at_path =>
      found ⟨member, inside, at_path⟩).le

/-- Assets that are no smaller than what they replace do not take fewer bytes. -/
theorem le_taken_append (all : ∀ member ∈ assets, isAsset member = true)
    (distinct : ((members ++ assets).map memberName).Nodup)
    (larger : ∀ member ∈ assets,
      bytesAt projection members (memberName member) ≤ member.bytes.length) :
    taken projection members ≤ taken projection (members ++ assets) := by
  apply selectedTotal_le
  intro path
  change bytesAt projection members path ≤ bytesAt projection (members ++ assets) path
  by_cases found : ∃ member ∈ assets, memberName member = path
  · obtain ⟨member, inside, rfl⟩ := found
    rw [bytesAt_of_asset distinct (List.mem_append_right _ inside) (all member inside)]
    exact larger member inside
  · exact (bytesAt_append_assets all distinct fun member inside at_path =>
      found ⟨member, inside, at_path⟩).ge

end Laid

/-! ## Runs of the loop -/

/-- The members pass the checks that do not depend on their order. -/
structure Admissible (limits : Limits) (inheritedBase : Bool) (members : List Member) : Prop where
  count : members = [] ∨ (members.length : Int) ≤ limits.members
  safe : ∀ member ∈ members, safeName (memberName member) = .ok (memberName member)
  distinct : (members.map memberName).Nodup
  sound : ∀ member ∈ members, inspect limits inheritedBase (memberName member) member = .ok ()

/-- The files are within the budget whenever an asset has been added. -/
def Fits (limits : Limits) (projection : Store Name ProjectedFile) (members : List Member) : Prop :=
  ∀ before asset, before ++ [asset] <+: members → isAsset asset = true →
    (taken projection (before ++ [asset]) : Int) ≤ limits.selectedBytes

section Runs

variable {limits : Limits} {inheritedBase : Bool} {projection : Store Name ProjectedFile}
  {members others : List Member} {member : Member} {finish : Scan}

theorem Admissible.perm (admissible : Admissible limits inheritedBase members)
    (perm : members.Perm others) : Admissible limits inheritedBase others where
  count := by
    rw [← perm.length_eq]
    exact admissible.count.imp_left fun empty => (empty ▸ perm).nil_eq.symm
  safe member inside := admissible.safe member (perm.symm.subset inside)
  distinct := (perm.map memberName).nodup_iff.mp admissible.distinct
  sound member inside := admissible.sound member (perm.symm.subset inside)

theorem admissible_concat_iff : Admissible limits inheritedBase (members ++ [member]) ↔
    Admissible limits inheritedBase members ∧ (members.length + 1 : Int) ≤ limits.members ∧
      safeName (memberName member) = .ok (memberName member) ∧
      memberName member ∉ members.map memberName ∧
      inspect limits inheritedBase (memberName member) member = .ok () := by
  have both : ∀ {holds : Member → Prop}, (∀ other ∈ members ++ [member], holds other) ↔
      (∀ other ∈ members, holds other) ∧ holds member := by
    intro holds
    rw [List.forall_mem_append, List.forall_mem_singleton]
  have names : ((members ++ [member]).map memberName).Nodup ↔
      (members.map memberName).Nodup ∧ memberName member ∉ members.map memberName := by
    rw [List.map_append, List.map_singleton, List.nodup_append_comm, List.singleton_append,
      List.nodup_cons, and_comm]
  constructor
  · rintro ⟨count, safe, distinct, sound⟩
    rw [both] at safe sound
    rw [names] at distinct
    have few : (members.length + 1 : Int) ≤ limits.members := by
      rcases count with empty | few
      · exact absurd empty (List.append_ne_nil_of_right_ne_nil _ (List.cons_ne_nil _ _))
      · rwa [List.length_append, List.length_singleton, Nat.cast_add, Nat.cast_one] at few
    exact ⟨⟨.inr (by omega), safe.1, distinct.1, sound.1⟩, few, safe.2, distinct.2, sound.2⟩
  · rintro ⟨⟨_, safe, distinct, sound⟩, few, safe', fresh, sound'⟩
    refine ⟨.inr ?_, both.mpr ⟨safe, safe'⟩, names.mpr ⟨distinct, fresh⟩, both.mpr ⟨sound, sound'⟩⟩
    rwa [List.length_append, List.length_singleton, Nat.cast_add, Nat.cast_one]

theorem fits_concat_iff : Fits limits projection (members ++ [member]) ↔
    Fits limits projection members ∧ (isAsset member = true →
      (taken projection (members ++ [member]) : Int) ≤ limits.selectedBytes) := by
  constructor
  · intro fits
    exact ⟨fun before asset first => fits before asset (first.trans (List.prefix_append _ _)),
      fits members member (List.prefix_refl _)⟩
  · rintro ⟨fits, last⟩ before asset first chosen
    rcases List.prefix_concat_iff.mp first with whole | earlier
    · obtain ⟨rfl, same⟩ := List.append_inj' whole rfl
      cases same
      exact last chosen
    · exact fits before asset earlier chosen

/-- What the loop over the members accepts. -/
theorem foldlM_eq_ok_iff :
    members.foldlM (scanMember limits inheritedBase) { projection } = .ok finish ↔
      Admissible limits inheritedBase members ∧ Fits limits projection members ∧
        finish = laid projection members := by
  induction members using List.reverseRecOn generalizing finish with
  | nil =>
      constructor
      · intro same
        cases same
        refine ⟨⟨.inl rfl, List.forall_mem_nil _, List.nodup_nil, List.forall_mem_nil _⟩, ?_, rfl⟩
        intro before asset first
        exact absurd (List.prefix_nil.mp first)
          (List.append_ne_nil_of_right_ne_nil _ (List.cons_ne_nil _ _))
      · rintro ⟨_, _, rfl⟩
        rfl
  | append_singleton members member ih =>
      rw [List.foldlM_append, bind_eq_ok_iff, admissible_concat_iff, fits_concat_iff, laid_concat]
      simp only [ih, List.foldlM_cons, List.foldlM_nil, bind_pure, scanMember_eq_ok_iff]
      constructor
      · rintro ⟨_, ⟨admissible, fits, rfl⟩, few, safe, fresh, sound, room, rfl⟩
        rw [count_laid] at few
        rw [mem_seen_laid] at fresh
        rw [← laid_concat] at room
        exact ⟨⟨admissible, few, safe, fresh, sound⟩, ⟨fits, room⟩, rfl⟩
      · rintro ⟨⟨admissible, few, safe, fresh, sound⟩, ⟨fits, room⟩, rfl⟩
        refine ⟨_, ⟨admissible, fits, rfl⟩, ?_, safe, ?_, sound, ?_, rfl⟩
        · rwa [count_laid]
        · rwa [mem_seen_laid]
        · rwa [← laid_concat]

end Runs

/-! ## The budget and the order -/

/-- The budget holds for the assets and for any part of them, before a whiteout comes. -/
def EveryOrderFits (limits : Limits) (projection : Store Name ProjectedFile)
    (members : List Member) : Prop :=
  ∀ chosen : List Member, chosen.Sublist (members.filter isAsset) → chosen ≠ [] →
    (taken projection chosen : Int) ≤ limits.selectedBytes

/-- There is an asset, and the budget does not hold for all members, or not for any asset alone
when all whiteouts come before it. -/
def NoOrderFits (limits : Limits) (projection : Store Name ProjectedFile)
    (members : List Member) : Prop :=
  (∃ asset ∈ members, isAsset asset = true) ∧
    (limits.selectedBytes < taken projection members ∨ ∀ asset ∈ members, isAsset asset = true →
      limits.selectedBytes < taken projection ((members.filter (!isAsset ·)) ++ [asset]))

section Orders

variable {limits : Limits} {projection : Store Name ProjectedFile} {members others : List Member}

theorem fits_of_everyOrderFits (every : EveryOrderFits limits projection members)
    (distinct : (members.map memberName).Nodup) (perm : members.Perm others) :
    Fits limits projection others := by
  intro before asset first chosen
  have distinct' : ((before ++ [asset]).map memberName).Nodup :=
    ((perm.map memberName).nodup_iff.mp distinct).sublist (first.sublist.map memberName)
  have part : ((before ++ [asset]).filter isAsset).Sublist (others.filter isAsset) :=
    first.sublist.filter isAsset
  obtain ⟨found, same, inside⟩ := List.exists_perm_sublist part (perm.filter isAsset).symm
  have nonempty : found ≠ [] := by
    rintro rfl
    have member : asset ∈ (before ++ [asset]).filter isAsset :=
      List.mem_filter.mpr ⟨List.mem_append_right _ List.mem_cons_self, chosen⟩
    rw [same.nil_eq.symm] at member
    exact List.not_mem_nil member
  have distinct'' : (((before ++ [asset]).filter isAsset).map memberName).Nodup :=
    distinct'.sublist (List.filter_sublist.map memberName)
  have fewer : taken projection (before ++ [asset]) ≤ taken projection found := by
    rw [← taken_perm same.symm distinct'']
    apply taken_anti List.filter_sublist.subset _ distinct'' distinct'
    exact fun member inside asset => List.mem_filter.mpr ⟨inside, asset⟩
  have fits := every found inside nonempty
  omega

theorem exists_first_asset (some : ∃ asset ∈ others, isAsset asset = true) :
    ∃ before asset after, others = before ++ asset :: after ∧ isAsset asset = true ∧
      ∀ member ∈ before, isAsset member = false := by
  obtain ⟨asset, found⟩ := Option.isSome_iff_exists.mp (List.find?_isSome.mpr some)
  obtain ⟨chosen, before, after, split, none⟩ := List.find?_eq_some_iff_append.mp found
  exact ⟨before, asset, after, split, chosen, fun member inside => by simpa using none member inside⟩

theorem exists_last_asset (some : ∃ asset ∈ others, isAsset asset = true) :
    ∃ before asset after, others = before ++ asset :: after ∧ isAsset asset = true ∧
      ∀ member ∈ after, isAsset member = false := by
  have reversed : ∃ asset ∈ others.reverse, isAsset asset = true := by
    simpa only [List.mem_reverse] using some
  obtain ⟨after, asset, before, split, chosen, none⟩ := exists_first_asset reversed
  refine ⟨before.reverse, asset, after.reverse, ?_, chosen, ?_⟩
  · rw [← List.reverse_reverse others, split]
    simp
  · exact fun member inside => none member (List.mem_reverse.mp inside)

/-- The members that are no assets come first, then an asset, then those that a test tells, and
then the rest. -/
theorem perm_arranged {asset : Member} (inside : asset ∈ members) (chosen : isAsset asset = true)
    (test : Member → Bool) : members.Perm ((members.filter (!isAsset ·) ++ [asset]) ++
      (((members.filter isAsset).erase asset).filter test ++
        ((members.filter isAsset).erase asset).filter (!test ·))) := by
  have first : asset ∈ members.filter isAsset := List.mem_filter.mpr ⟨inside, chosen⟩
  have split := List.filter_append_perm isAsset members
  have parts := List.filter_append_perm test ((members.filter isAsset).erase asset)
  have assets := List.perm_cons_erase first
  refine split.symm.trans (List.perm_append_comm.trans ?_)
  rw [List.append_assoc]
  exact (assets.trans (parts.symm.cons asset)).append_left _

theorem distinct_others_concat {asset : Member} (distinct : (members.map memberName).Nodup)
    (inside : asset ∈ members) (chosen : isAsset asset = true) :
    ((members.filter (!isAsset ·) ++ [asset]).map memberName).Nodup := by
  have perm := perm_arranged inside chosen fun _ => true
  exact ((perm.map memberName).nodup_iff.mp distinct).sublist
    ((List.sublist_append_left _ _).map memberName)

theorem not_fits_of_noOrderFits (no : NoOrderFits limits projection members)
    (distinct : (members.map memberName).Nodup) (perm : members.Perm others) :
    ¬ Fits limits projection others := by
  intro fits
  have distinct' : (others.map memberName).Nodup := (perm.map memberName).nodup_iff.mp distinct
  obtain ⟨⟨asset, inside, chosen⟩, exceeds⟩ := no
  have some : ∃ asset ∈ others, isAsset asset = true := ⟨asset, perm.subset inside, chosen⟩
  rcases exceeds with exceeds | exceeds
  · obtain ⟨before, last, after, split, chosen', none⟩ := exists_last_asset some
    have first : before ++ [last] <+: others := ⟨after, by rw [split]; simp⟩
    have le : taken projection others ≤ taken projection (before ++ [last]) := by
      apply taken_anti first.subset _ (distinct'.sublist (first.sublist.map memberName)) distinct'
      intro member within asset
      rw [split] at within
      rcases List.mem_append.mp within with within | within
      · exact List.mem_append_left _ within
      · rcases List.mem_cons.mp within with rfl | within
        · exact List.mem_append_right _ List.mem_cons_self
        · rw [none member within] at asset
          cases asset
    have room := fits before last first chosen'
    rw [taken_perm perm distinct] at exceeds
    omega
  · obtain ⟨before, asset, after, split, chosen', none⟩ := exists_first_asset some
    have first : before ++ [asset] <+: others := ⟨after, by rw [split]; simp⟩
    have inside' : asset ∈ members := by
      apply perm.symm.subset
      rw [split]
      exact List.mem_append_right _ List.mem_cons_self
    have subset : before ++ [asset] ⊆ (members.filter (!isAsset ·)) ++ [asset] := by
      intro member within
      rcases List.mem_append.mp within with within | within
      · refine List.mem_append_left _ (List.mem_filter.mpr ⟨perm.symm.subset ?_, ?_⟩)
        · rw [split]
          exact List.mem_append_left _ within
        · rw [none member within]
          rfl
      · exact List.mem_append_right _ within
    have le : taken projection ((members.filter (!isAsset ·)) ++ [asset]) ≤
        taken projection (before ++ [asset]) := by
      apply taken_anti subset _ (distinct'.sublist (first.sublist.map memberName))
        (distinct_others_concat distinct inside' chosen')
      intro member within asset
      rcases List.mem_append.mp within with within | within
      · have other := (List.mem_filter.mp within).2
        rw [asset] at other
        cases other
      · exact List.mem_append_right _ within
    have room := fits before asset first chosen'
    have over' := exceeds asset inside' chosen'
    omega

theorem exists_asset_of_not_every (exceeds : ¬ EveryOrderFits limits projection members) :
    ∃ asset ∈ members, isAsset asset = true := by
  by_contra none
  apply exceeds
  intro chosen part nonempty
  have member := part.subset (List.head_mem nonempty)
  obtain ⟨inside, asset⟩ := List.mem_filter.mp member
  exact absurd ⟨_, inside, asset⟩ none

theorem exists_not_fits (exceeds : ¬ EveryOrderFits limits projection members) :
    ∃ others, members.Perm others ∧ ¬ Fits limits projection others := by
  rw [EveryOrderFits] at exceeds
  push Not at exceeds
  obtain ⟨chosen, part, nonempty, exceeds⟩ := exceeds
  obtain ⟨rest, perm⟩ := (part.trans List.filter_sublist).exists_perm_append
  refine ⟨chosen ++ rest, perm, ?_⟩
  intro fits
  have split := List.dropLast_append_getLast nonempty
  have asset : isAsset (chosen.getLast nonempty) = true :=
    (List.mem_filter.mp (part.subset (List.getLast_mem nonempty))).2
  have room := fits chosen.dropLast (chosen.getLast nonempty)
    (by rw [split]; exact List.prefix_append _ _) asset
  rw [split] at room
  omega

theorem prefix_append_cases {first second list : List Member} (initial : list <+: first ++ second) :
    list <+: first ∨ ∃ rest, list = first ++ rest ∧ rest <+: second := by
  rcases List.prefix_or_prefix_of_prefix initial (List.prefix_append first second) with within | beyond
  · exact .inl within
  · obtain ⟨rest, rfl⟩ := beyond
    exact .inr ⟨rest, rfl, (List.prefix_append_right_inj first).mp initial⟩

/-- The whiteouts, an asset that fits, the assets that are no larger than what they replace, and
then the others. -/
theorem exists_fits {asset : Member} (distinct : (members.map memberName).Nodup)
    (inside : asset ∈ members) (chosen : isAsset asset = true)
    (alone : (taken projection (members.filter (!isAsset ·) ++ [asset]) : Int) ≤
      limits.selectedBytes)
    (all : (taken projection members : Int) ≤ limits.selectedBytes) :
    ∃ others, members.Perm others ∧ Fits limits projection others := by
  set others := members.filter (!isAsset ·)
  set small : Member → Bool := fun member =>
    member.bytes.length ≤ bytesAt projection others (memberName member)
  set remaining := (members.filter isAsset).erase asset
  have perm := perm_arranged inside chosen small
  change members.Perm ((others ++ [asset]) ++
    (remaining.filter small ++ remaining.filter (!small ·))) at perm
  have names := (perm.map memberName).nodup_iff.mp distinct
  have assets : ∀ member ∈ remaining, isAsset member = true := fun member within =>
    (List.mem_filter.mp (List.mem_of_mem_erase within)).2
  refine ⟨_, perm, ?_⟩
  intro before last first chosen'
  rcases prefix_append_cases first with early | ⟨added, split, later⟩
  · rcases List.prefix_concat_iff.mp early with whole | none
    · rwa [whole]
    · have within : last ∈ others := none.subset (List.mem_append_right _ List.mem_cons_self)
      have other := (List.mem_filter.mp within).2
      rw [chosen'] at other
      cases other
  · rw [split]
    rw [split] at first
    have names' := names.sublist (first.sublist.map memberName)
    rcases prefix_append_cases later with within | ⟨larger, rfl, beyond, larger_eq⟩
    · have assets' : ∀ member ∈ added, isAsset member = true := fun member inside =>
        assets member (List.mem_of_mem_filter (within.subset inside))
      have le : taken projection ((others ++ [asset]) ++ added) ≤
          taken projection (others ++ [asset]) := by
        apply taken_append_le assets' names'
        intro member inside
        have fits : small member = true := (List.mem_filter.mp (within.subset inside)).2
        rw [bytesAt_append_assets (by simpa using chosen)
          (names'.sublist ((List.sublist_append_left _ _).map memberName))]
        · exact of_decide_eq_true fits
        · intro other same
          exact name_ne names' (List.mem_append_right _ same) inside
      omega
    · have assets' : ∀ member ∈ remaining.filter (!small ·), isAsset member = true :=
        fun member inside => assets member (List.mem_of_mem_filter inside)
      have whole : (others ++ [asset]) ++ (remaining.filter small ++ remaining.filter (!small ·)) =
          ((others ++ [asset]) ++ (remaining.filter small ++ larger)) ++ beyond := by
        rw [← larger_eq, List.append_assoc, List.append_assoc, List.append_assoc, List.append_assoc]
      rw [whole] at names perm
      have le : taken projection ((others ++ [asset]) ++ (remaining.filter small ++ larger)) ≤
          taken projection (((others ++ [asset]) ++ (remaining.filter small ++ larger)) ++ beyond) := by
        have last : ∀ member ∈ beyond, member ∈ remaining.filter (!small ·) := by
          intro member inside
          rw [← larger_eq]
          exact List.mem_append_right _ inside
        apply le_taken_append (fun member inside => assets' member (last member inside)) names
        intro member inside
        have exceeds := (List.mem_filter.mp (last member inside)).2
        rw [Bool.not_eq_true', decide_eq_false_iff_not, not_le] at exceeds
        rw [List.append_assoc, bytesAt_append_assets]
        · exact exceeds.le
        · intro other within
          rcases List.mem_append.mp within with within | within
          · rwa [List.mem_singleton.mp within]
          · rcases List.mem_append.mp within with within | within
            · exact assets other (List.mem_of_mem_filter within)
            · apply assets' other
              rw [← larger_eq]
              exact List.mem_append_left _ within
        · rw [← List.append_assoc]
          exact names'
        · intro other within
          refine name_ne names ?_ inside
          rw [List.append_assoc]
          exact List.mem_append_right _ within
      rw [← taken_perm perm distinct] at le
      omega

end Orders

/-! ## Layers in another order -/

/-- Two scans accept with the same files, or both reject. -/
def SameOutcome : (left right : Except ValidationError (Store Name ProjectedFile)) → Prop
  | .ok files, .ok others => ∀ path, files.lookup path = others.lookup path
  | .error _, .error _ => True
  | _, _ => False

/-- The budget settles the members of a layer whose other checks pass in the same way in every
order. -/
def BudgetSettles (limits : Limits) (layer : Layer) (projection : Store Name ProjectedFile)
    (inheritedBase : Bool) : Prop :=
  ∀ archive, layer.archive = .ok archive → expandedLayer limits layer = .ok () →
    archive.close = .ok () → Admissible limits inheritedBase archive.members →
    EveryOrderFits limits projection archive.members ∨
      NoOrderFits limits projection archive.members

section Layers

variable {limits : Limits} {inheritedBase : Bool} {layer other : Layer}
  {projection result : Store Name ProjectedFile}

theorem scanLayer_eq_ok_iff {archive : Tar} (opened : layer.archive = .ok archive) :
    scanLayer limits layer projection inheritedBase = .ok result ↔
      expandedLayer limits layer = .ok () ∧ archive.close = .ok () ∧
        Admissible limits inheritedBase archive.members ∧
        Fits limits projection archive.members ∧
        result = (laid projection archive.members).files := by
  rw [scanLayer, bind_eq_ok_iff]
  simp only [opened, bind_eq_ok_iff, foldlM_eq_ok_iff]
  constructor
  · rintro ⟨_, expands, _, same, scan, ⟨admissible, fits, rfl⟩, _, closes, finished⟩
    cases same
    cases finished
    exact ⟨expands, closes, admissible, fits, rfl⟩
  · rintro ⟨expands, closes, admissible, fits, rfl⟩
    exact ⟨(), expands, archive, rfl, _, ⟨admissible, fits, rfl⟩, (), closes, rfl⟩

theorem sameOutcome_of {left right : Except ValidationError (Store Name ProjectedFile)}
    (accepted : ∀ files, left = .ok files →
      ∃ others, right = .ok others ∧ ∀ path, files.lookup path = others.lookup path)
    (refused : ∀ others, right = .ok others → ∃ files, left = .ok files) :
    SameOutcome left right := by
  cases left with
  | ok files =>
      obtain ⟨others, rfl, same⟩ := accepted files rfl
      exact same
  | error =>
      cases right with
      | error => trivial
      | ok others =>
          obtain ⟨_, same⟩ := refused others rfl
          cases same

theorem SameOutcome.exists_ok {left right : Except ValidationError (Store Name ProjectedFile)}
    (same : SameOutcome left right) :
    (∃ files, left = .ok files) ↔ ∃ others, right = .ok others := by
  cases left with
  | ok files =>
      cases right with
      | ok others => exact ⟨fun _ => ⟨others, rfl⟩, fun _ => ⟨files, rfl⟩⟩
      | error => exact same.elim
  | error =>
      cases right with
      | ok => exact same.elim
      | error =>
          constructor
          · rintro ⟨_, accepted⟩
            cases accepted
          · rintro ⟨_, accepted⟩
            cases accepted

theorem expandedLayer_reordered (reordered : Api.Layer.Reordered layer other) :
    expandedLayer limits layer = expandedLayer limits other := by
  rw [expandedLayer, expandedLayer, reordered.1, reordered.2.1]

end Layers

/-- A scan has the same outcome for every order of the members exactly when the budget settles
them in the same way in every order. -/
theorem scanLayer_order_iff (limits : Limits) (layer : Layer)
    (projection : Store Name ProjectedFile) (inheritedBase : Bool) :
    (∀ other, Api.Layer.Reordered layer other →
      SameOutcome (scanLayer limits layer projection inheritedBase)
        (scanLayer limits other projection inheritedBase)) ↔
      BudgetSettles limits layer projection inheritedBase := by
  constructor
  · intro same archive opened expands closes admissible
    by_contra unsettled
    obtain ⟨exceeds, possible⟩ := not_or.mp unsettled
    obtain ⟨worse, perm, fails⟩ := exists_not_fits exceeds
    rw [NoOrderFits, not_and] at possible
    have room := possible (exists_asset_of_not_every exceeds)
    push Not at room
    obtain ⟨all, asset, inside, chosen, alone⟩ := room
    obtain ⟨better, perm', fits⟩ := exists_fits admissible.distinct inside chosen alone all
    let ordered (members : List Member) : Layer :=
      { layer with archive := .ok { archive with members } }
    have opens : ∀ members, (ordered members).archive = .ok { archive with members } := fun _ => rfl
    have first := same (ordered worse) ⟨rfl, rfl, archive, worse, opened, perm, rfl⟩
    have second := same (ordered better) ⟨rfl, rfl, archive, better, opened, perm', rfl⟩
    have accepted := (scanLayer_eq_ok_iff (opens better)).mpr
      ⟨expands, closes, admissible.perm perm', fits, rfl⟩
    obtain ⟨_, accepted⟩ := first.exists_ok.mp (second.exists_ok.mpr ⟨_, accepted⟩)
    exact fails ((scanLayer_eq_ok_iff (opens worse)).mp accepted).2.2.2.1
  · intro settles other reordered
    have expands' : expandedLayer limits layer = expandedLayer limits other :=
      expandedLayer_reordered reordered
    obtain ⟨length_eq, stored, archive, members, opened, perm, opened'⟩ := reordered
    have both : ∀ files, scanLayer limits layer projection inheritedBase = .ok files →
        ∃ others, scanLayer limits other projection inheritedBase = .ok others ∧
          ∀ path, files.lookup path = others.lookup path := by
      intro files accepted
      obtain ⟨expands, closes, admissible, fits, rfl⟩ := (scanLayer_eq_ok_iff opened).mp accepted
      have fits' : Fits limits projection members := by
        rcases settles archive opened expands closes admissible with every | no
        · exact fits_of_everyOrderFits every admissible.distinct perm
        · exact absurd fits (not_fits_of_noOrderFits no admissible.distinct (List.Perm.refl _))
      exact ⟨_, (scanLayer_eq_ok_iff opened').mpr
        ⟨expands' ▸ expands, closes, admissible.perm perm, fits', rfl⟩,
        fun path => lookup_files_perm perm admissible.distinct⟩
    apply sameOutcome_of both
    intro others accepted
    obtain ⟨expands, closes, admissible, fits, -⟩ := (scanLayer_eq_ok_iff opened').mp accepted
    have admissible' := admissible.perm perm.symm
    have expanded := expands'.trans expands
    have fits' : Fits limits projection archive.members := by
      rcases settles archive opened expanded closes admissible' with every | no
      · exact fits_of_everyOrderFits every admissible'.distinct (List.Perm.refl _)
      · exact absurd fits (not_fits_of_noOrderFits no admissible'.distinct perm)
    exact ⟨_, (scanLayer_eq_ok_iff opened).mpr ⟨expanded, closes, admissible', fits', rfl⟩⟩

/-! ## A whiteout before and after the asset that takes the room -/

/-- A whiteout of the script of the layer below. -/
def scriptWhiteout : Member where
  name := .ofString "usr/share/nginx/html/.wh.app.js"

/-- A page of one byte. -/
def page : Member where
  name := .ofString "usr/share/nginx/html/index.html"
  size := 1
  mode := 0o644
  bytes := [0x61]

/-- A layer that takes the script away and adds the page. -/
def pageLayer (members : List Member) : Layer where
  length := 2048
  archive := .ok { members }

theorem reordered_pageLayer {members others : List Member} (perm : members.Perm others) :
    Api.Layer.Reordered (pageLayer members) (pageLayer others) :=
  ⟨rfl, rfl, { members }, others, rfl, perm, rfl⟩

theorem scanLayer_whiteout_first :
    scanLayer { selectedBytes := 2 } (pageLayer [scriptWhiteout, page]) scriptProjection false =
      .ok ((∅ : Store Name ProjectedFile).insert page.name ⟨[0x61], 0o644⟩) :=
  rfl

theorem scanLayer_whiteout_last :
    scanLayer { selectedBytes := 2 } (pageLayer [page, scriptWhiteout]) scriptProjection false =
      .error ⟨"expanded selected-file bytes exceed limit", []⟩ :=
  rfl

/-- Two bytes are accepted when the whiteout comes first and refused when it comes last. -/
theorem order_decides : ¬ ∀ (limits : Limits) (layer other : Layer)
    (projection : Store Name ProjectedFile) (inheritedBase : Bool),
    Api.Layer.Reordered layer other → SameOutcome (scanLayer limits layer projection inheritedBase)
      (scanLayer limits other projection inheritedBase) := by
  intro every
  have same := every { selectedBytes := 2 } _ _ scriptProjection false
    (reordered_pageLayer (List.Perm.swap page scriptWhiteout []))
  rw [scanLayer_whiteout_first, scanLayer_whiteout_last] at same
  exact same

end CheckNetwork.Archive.Web
