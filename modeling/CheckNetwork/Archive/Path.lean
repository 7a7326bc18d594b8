import CheckNetwork.Go.Strings
import Mathlib.Data.List.DropRight

/-!
# Paths of archive members

The functions of `posixpath` and of `str` that the archive verifiers apply to the names
of members.  Names are decoded with `surrogateescape`: a byte that is not part of a
character stands for itself.
-/

namespace CheckNetwork.Archive

open Go

abbrev Name := GoString

namespace Name

def slash : Rune := .scalar '/'

def nul : Rune := .scalar (Char.ofNat 0)

/-- `text.rstrip("/")`. -/
def rstrip (text : Name) : Name := text.rdropWhile (· = slash)

/-- `text.endswith(ending)`. -/
def endsWith (text ending : Name) : Bool := ending <:+ text

/-- `text.split("/")`. -/
def parts (text : Name) : List Name := text.splitOn slash

/-- `"/".join(parts)`. -/
def joined (parts : List Name) : Name := [slash].intercalate parts

/-- `text.count(part)` from a position on, when occurrences may not overlap. -/
def countFrom (part : Name) : Nat → Name → Nat
  | _, [] => 0
  | skip + 1, _ :: text => countFrom part skip text
  | 0, rune :: text =>
      if part <+: rune :: text then countFrom part (part.length - 1) text + 1
      else countFrom part 0 text

/-- `text.count(part)`. -/
def count (text part : Name) : Nat := countFrom part 0 text

/-- `posixpath.basename`. -/
def basename (path : Name) : Name := path.rtakeWhile (· ≠ slash)

/-- `posixpath.dirname`. -/
def dirname (path : Name) : Name :=
  let head := path.rdropWhile (· ≠ slash)
  if head.all (· = slash) then head else rstrip head

/-- `posixpath.join` of two paths. -/
def join (directory path : Name) : Name :=
  if path.startsWith [slash] then path
  else if directory = [] || directory.endsWith [slash] then directory ++ path
  else directory ++ slash :: path

/-- What `posixpath.normpath` keeps of the components. -/
def collapse (rooted : Bool) (kept : List Name) (component : Name) : List Name :=
  if component = [] || component = .ofString "." then kept
  else if component ≠ .ofString ".." || (!rooted && kept = []) ||
      kept.getLast? = some (.ofString "..") then kept ++ [component]
  else kept.dropLast

/-- `posixpath.normpath`. -/
def normpath (path : Name) : Name :=
  if path = [] then .ofString "."
  else
    let rooted := path.startsWith [slash]
    let slashes : Name :=
      if path.startsWith (.ofString "//") && !path.startsWith (.ofString "///") then .ofString "//"
      else if rooted then [slash] else []
    let collapsed := slashes ++ joined (path.parts.foldl (collapse rooted) [])
    if collapsed = [] then .ofString "." else collapsed

/-- The path starts with the directory and a slash. -/
def within (directory path : Name) : Bool := path.startsWith (directory ++ [slash])

end Name

/-- The start of an error text and the path that the text names. -/
structure ValidationError where
  what : String
  path : Name := []
  deriving DecidableEq

/-- Raise an error if the test holds. -/
def refuse (test : Bool) (what : String) (path : Name := []) : Except ValidationError Unit :=
  if test then .error ⟨what, path⟩ else .ok ()

theorem refuse_bind_eq_ok_iff {α : Type} {test : Bool} {what : String} {path : Name}
    {rest : Unit → Except ValidationError α} {result : α} :
    (refuse test what path >>= rest) = .ok result ↔ test = false ∧ rest () = .ok result := by
  cases test with
  | true => exact iff_of_false (fun failed => by cases failed) fun both => by cases both.1
  | false => exact ⟨fun passed => ⟨rfl, passed⟩, And.right⟩

theorem bind_eq_ok_iff {α β : Type} {first : Except ValidationError α}
    {rest : α → Except ValidationError β} {result : β} :
    first >>= rest = .ok result ↔ ∃ value, first = .ok value ∧ rest value = .ok result := by
  cases first with
  | error failure =>
      exact iff_of_false (fun failed => by cases failed) fun ⟨_, failed, _⟩ => by cases failed
  | ok value =>
      exact ⟨fun passed => ⟨value, rfl, passed⟩, fun ⟨_, same, passed⟩ => by cases same; exact passed⟩

/-- `member.type`. -/
inductive MemberType
  | regular
  | directory
  | symbolicLink
  | hardLink
  | characterDevice
  | blockDevice
  | fifo
  | socket
  | unknown
  deriving DecidableEq

/-- A `tarfile.TarInfo` and the bytes that `extractfile` reads for it. -/
structure Member where
  name : Name
  type : MemberType := .regular
  size : Int := 0
  mode : Nat := 0
  linkname : Name := []
  devmajor : Int := 0
  devminor : Int := 0
  bytes : List UInt8 := []
  deriving DecidableEq

namespace Member

def isreg (member : Member) : Bool := member.type = .regular

def isdir (member : Member) : Bool := member.type = .directory

def issym (member : Member) : Bool := member.type = .symbolicLink

def islnk (member : Member) : Bool := member.type = .hardLink

def ischr (member : Member) : Bool := member.type = .characterDevice

def isblk (member : Member) : Bool := member.type = .blockDevice

def isfifo (member : Member) : Bool := member.type = .fifo

end Member

/-- `stat.S_IMODE`. -/
def permissions (mode : Nat) : Nat := mode &&& 0o7777

structure ProjectedFile where
  data : List UInt8
  mode : Nat
  deriving DecidableEq

/-- The members that `tarfile` yields, and the error that it raises after them. -/
structure Tar where
  members : List Member
  failure : Option ValidationError := none

/-- The iteration over the members ends. -/
def Tar.close (archive : Tar) : Except ValidationError Unit :=
  match archive.failure with
  | none => .ok ()
  | some failure => .error failure

/-- How a layer is stored.  What does not decompress has no expanded size. -/
inductive Compression
  | plain
  | gzip (expanded : Option Nat)

/-- A layer by its size in bytes, and the archive that `tarfile` opens in it. -/
structure Layer where
  length : Nat
  compression : Compression := .plain
  archive : Except ValidationError Tar

/-- The checks of a link target that both verifiers make first. -/
def linkTargetUnsafe (target : Name) : Bool :=
  let components := Name.parts (if target.startsWith [Name.slash] then target.drop 1 else target)
  target = [] || target.includes (.ofString "\\") || target.includes [Name.nul] ||
    target = [Name.slash] || components.any (fun part => part = [] || part = .ofString ".") ||
    target.normpath ≠ target

/-- A link target that leaves the root. -/
def linkTargetEscapes (name target : Name) (hardlink : Bool) : Bool :=
  if target.startsWith [Name.slash] then
    (Name.parts (target.drop 1)).any (· = .ofString "..")
  else
    let resolved := Name.normpath (if hardlink then target else name.dirname.join target)
    resolved = .ofString ".." || resolved.startsWith (.ofString "../") ||
      resolved.startsWith [Name.slash]

end CheckNetwork.Archive
