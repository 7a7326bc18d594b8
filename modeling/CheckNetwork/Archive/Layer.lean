import CheckNetwork.Archive.Path
import CheckNetwork.Collection.Recency
import CheckNetwork.Overlay.Scan
import Mathlib

/-!
# What the members of a layer mean

A member is a whiteout, an opaque marker, or what stands at its path.
-/

namespace CheckNetwork.Archive

open Go Collection Overlay

def whiteoutPrefix : Name := .ofString ".wh."

def opaqueMarker : Name := .ofString ".wh..wh..opq"

/-- The path that a whiteout removes. -/
def whiteoutTarget (name : Name) : Name := name.dirname.join (name.basename.drop 4)

/-- What an opaque marker hides is in its directory; what another whiteout hides is its
target and what is below that. -/
def whiteoutHides (name path : Name) : Bool :=
  if name.basename = opaqueMarker then
    name.dirname = [] || Name.within name.dirname path
  else
    path = whiteoutTarget name || Name.within (whiteoutTarget name) path

namespace Member

def node (member : Member) : Node ProjectedFile :=
  match member.type with
  | .regular => .file ⟨member.bytes, permissions member.mode⟩
  | .directory => .directory
  | _ => .special

theorem node_of_isreg (member : Member) (regular : member.isreg = true) :
    member.node = .file ⟨member.bytes, permissions member.mode⟩ := by
  rw [node, of_decide_eq_true regular]

theorem isFile_node_of_not_isreg (member : Member) (special : member.isreg = false) :
    member.node.isFile = false := by
  cases type_eq : member.type <;> simp_all [isreg, node, Node.isFile]

/-- The member under a name. -/
def item (name : Name) (member : Member) : Item Name ProjectedFile :=
  if name.basename.startsWith whiteoutPrefix then .hide (whiteoutHides name)
  else .add name member.node

end Member

/-- The bytes of all files. -/
def selectedTotal (files : Store Name ProjectedFile) : Nat :=
  (files.entries.map fun entry => entry.2.data.length).sum

/-- Delete what a whiteout hides. -/
def removeHidden (name : Name) (projection : Store Name ProjectedFile) : Store Name ProjectedFile :=
  projection.keep fun path _ => !whiteoutHides name path

section Steps

variable {selected : Name → Bool} {name : Name} {member : Member}
  {projection additions : Store Name ProjectedFile}

theorem item_of_whiteout (marked : name.basename.startsWith whiteoutPrefix = true) :
    member.item name = .hide (whiteoutHides name) :=
  if_pos marked

theorem item_of_node (plain : name.basename.startsWith whiteoutPrefix = false) :
    member.item name = .add name member.node := by
  refine if_neg ?_
  rw [plain]
  exact Bool.false_ne_true

theorem applied_whiteout (marked : name.basename.startsWith whiteoutPrefix = true) :
    Applied selected (member.item name) projection.lookup additions.lookup
      (removeHidden name projection).lookup additions.lookup := by
  rw [item_of_whiteout marked]
  constructor
  · intro path
    rw [removeHidden, Store.lookup_keep, Item.hides]
    cases projection.lookup path <;> cases whiteoutHides name path <;> rfl
  · intro path
    have silent : (Item.hide (F := ProjectedFile) (whiteoutHides name)).writes path = none := rfl
    rw [silent, Option.none_or, ite_self]

/-- A member that is no selected file changes nothing. -/
theorem applied_skipped (plain : name.basename.startsWith whiteoutPrefix = false)
    (skipped : selected name = true → member.node.isFile = false) :
    Applied selected (member.item name) projection.lookup additions.lookup
      projection.lookup additions.lookup := by
  rw [item_of_node plain]
  constructor
  · intro path
    rw [Item.hides, if_neg Bool.false_ne_true]
  · intro path
    cases chosen : selected path with
    | false => rfl
    | true =>
        rw [if_pos rfl]
        cases writes : (Item.add name member.node).writes path with
        | none => rfl
        | some content =>
            cases node_eq : member.node with
            | file written =>
                rw [node_eq] at writes skipped
                rw [writes_eq_some_iff] at writes
                cases writes
                cases skipped chosen
            | directory =>
                rw [node_eq] at writes
                cases writes
            | special =>
                rw [node_eq] at writes
                cases writes

theorem applied_insert {content : ProjectedFile}
    (plain : name.basename.startsWith whiteoutPrefix = false) (chosen : selected name = true)
    (node_eq : member.node = .file content) :
    Applied selected (member.item name) projection.lookup additions.lookup
      projection.lookup (additions.insert name content).lookup := by
  rw [item_of_node plain, node_eq]
  constructor
  · intro path
    rw [Item.hides, if_neg Bool.false_ne_true]
  · intro path
    by_cases same : name = path
    · subst same
      rw [AList.lookup_insert, if_pos chosen, Item.writes, if_pos rfl, Option.some_or]
    · rw [AList.lookup_insert_ne (Ne.symm same), Item.writes, if_neg same, Option.none_or, ite_self]

end Steps

/-- `projection.update(additions)`. -/
def update (projection additions : Store Name ProjectedFile) : Store Name ProjectedFile :=
  additions ∪ projection

theorem lookup_update (projection additions : Store Name ProjectedFile) (path : Name) :
    (update projection additions).lookup path =
      (additions.lookup path).or (projection.lookup path) := by
  cases added : additions.lookup path with
  | none =>
      rw [update, AList.lookup_union_right (AList.lookup_eq_none.mp added), Option.none_or]
  | some content =>
      have present : path ∈ additions := AList.lookup_isSome.mp (by rw [added]; rfl)
      rw [update, AList.lookup_union_left present, added, Option.some_or]

end CheckNetwork.Archive
