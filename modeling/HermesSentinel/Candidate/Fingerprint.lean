import HermesSentinel.Foundation.Dictionary
import HermesSentinel.Foundation.SortedSet
import HermesSentinel.Foundation.Utf8
import HermesSentinel.Python.Exceptions

namespace HermesSentinel
namespace Candidate

open Python
open Foundation

/-!
# The candidate fingerprint

The fingerprint hashes the effective entries of a repository: for every path of
the index and every untracked path the mode and the content id it would be
committed with.  What the tool asks of the file system, of Git and of the hash
library is given by `WorkTree` and `Repository`.
-/

abbrev Bytes := List Utf8.Byte

abbrev Path := Bytes

/-- The modes of the entries of an index. -/
inductive GitMode
  | regular
  | executable
  | symlink
  | gitlink
  deriving DecidableEq

def GitMode.text : GitMode -> Text
  | .regular => Foundation.text "100644"
  | .executable => Foundation.text "100755"
  | .symlink => Foundation.text "120000"
  | .gitlink => Foundation.text "160000"

abbrev Entry := GitMode × Text

abbrev Entries := Dictionary Path Entry

def modeOf (index : Entries) (path : Path) : Option GitMode :=
  (index.get path).map Prod.fst

inductive ObjectFormat
  | sha1
  | sha256
  deriving DecidableEq

def ObjectFormat.text : ObjectFormat -> Text
  | .sha1 => Foundation.text "sha1"
  | .sha256 => Foundation.text "sha256"

/-- The types of a file the tool tells apart, and the permissions of a regular one. -/
inductive FileKind
  | symlink
  | regular (permissions : Nat)
  | directory
  | special
  deriving DecidableEq

/-- `bool(permissions & 0o111)`. -/
def hasExecuteBit (permissions : Nat) : Bool :=
  decide (permissions &&& 0o111 ≠ 0)

/-- What the tool reads under the root of the working tree.  An error is the
detail of an `OSError` or of a Git command that failed. -/
structure WorkTree where
  /-- `os.lstat`, with `none` for a path that is not there. -/
  lstat : Path -> Except String (Option FileKind)
  readBytes : Path -> Except String Bytes
  readLink : Path -> Except String Bytes
  /-- Whether the directory holds a `.git`. -/
  hasGitDirectory : Path -> Bool
  /-- `git rev-parse HEAD` in the directory. -/
  revParseHead : Path -> Except String Text
  /-- `git check-attr --stdin -z filter`. -/
  checkAttributes : Bytes -> Except String Bytes
  /-- `git hash-object --path=… --stdin`. -/
  hashObject : Path -> Bytes -> Except String Text
  /-- `hashlib.new(format, data).hexdigest()`. -/
  hexDigest : ObjectFormat -> Bytes -> Text

def fail {α : Type} (message : String) : Fallible α :=
  raise .fingerprintError message

/-- The result of a call, or the tool's own error if the call fails. -/
def orFail {α : Type} (message : String) : Except String α -> Fallible α
  | .ok value => .ok value
  | .error _ => fail message

def asciiBytes (s : Text) : Bytes :=
  s.map fun c => Utf8.byte c.val

def literal (s : String) : Bytes :=
  asciiBytes (Foundation.text s)

namespace WorkTree

variable (tree : WorkTree)

/-- The Git blob id of data that Git does not clean. -/
def blobHexId (data : Bytes) (format : ObjectFormat) : Text :=
  tree.hexDigest format
    (literal "blob " ++ asciiBytes (decimal data.length) ++ literal "\x00" ++ data)

def readCandidateBytes (path : Path) : Fallible Bytes :=
  orFail "cannot read candidate file" (tree.readBytes path)

def readLinkTarget (path : Path) : Fallible Bytes :=
  orFail "cannot read symlink target" (tree.readLink path)

/-- The tokens come in threes: a path, the attribute and its value. -/
def checkFilters : List Bytes -> Fallible Unit
  | _path :: _attribute :: value :: rest =>
      if value ≠ literal "unspecified" then fail "path requires an external clean filter"
      else checkFilters rest
  | _ => .ok ()

def assertNoExternalCleanFilters (paths : List Path) : Fallible Unit := do
  let raw ← orFail "git check-attr failed"
    (tree.checkAttributes ([Utf8.byte 0].intercalate paths ++ [Utf8.byte 0]))
  let tokens := raw.splitOn (Utf8.byte 0)
  if (tokens.length - 1) % 3 ≠ 0 then fail "malformed git check-attr output"
  else checkFilters tokens

def isLowerHex (c : CodePoint) : Bool :=
  isDigit c || decide (97 ≤ c.val ∧ c.val ≤ 102)

/-- The id under which Git would stage the content of a regular file. -/
def cleanBlobId (path : Path) : Fallible Text := do
  let content ← tree.readCandidateBytes path
  let output ← orFail "git hash-object failed" (tree.hashObject path content)
  let value := strip output
  if (value.length = 40 ∨ value.length = 64) ∧ value.all isLowerHex = true then .ok value
  else fail "malformed git hash-object output"

/-- The checked-out commit of a nested repository, `none` where there is none. -/
def nestedHead (path : Path) : Fallible (Option Text) :=
  if tree.hasGitDirectory path = false then .ok none
  else do
    let head ← orFail "cannot resolve initialized nested repository HEAD" (tree.revParseHead path)
    .ok (some (strip head))

end WorkTree

/-- What the first pass finds at a path. -/
inductive Finding
  | nothing
  | entry (entry : Entry)
  /-- A regular file, its content not cleaned yet. -/
  | file (executable : Bool)

/-- The part of the first pass that looks at one path. -/
def examine (tree : WorkTree) (index : Entries) (trustedFilemode : Bool) (format : ObjectFormat)
    (path : Path) : Fallible Finding := do
  let found ← orFail "cannot stat candidate path" (tree.lstat path)
  match found with
  | some .symlink => do
      let target ← tree.readLinkTarget path
      .ok (.entry (.symlink, tree.blobHexId target format))
  | some (.regular permissions) =>
      match modeOf index path with
      | some .symlink => do
          let content ← tree.readCandidateBytes path
          .ok (.entry (.symlink, tree.blobHexId content format))
      | some .gitlink => fail "gitlink entry has a regular working-tree file"
      | mode =>
          .ok (.file ((trustedFilemode && hasExecuteBit permissions) ||
            decide (mode = some .executable)))
  | some .directory =>
      match index.get path with
      | some (.gitlink, indexId) => do
          let nested ← tree.nestedHead path
          .ok (.entry (.gitlink, nested.getD indexId))
      | _ => .ok .nothing
  | _ =>
      match index.get path with
      | some (.symlink, indexId) => .ok (.entry (.symlink, indexId))
      | some (.gitlink, _) => fail "gitlink has no working-tree directory"
      | _ => .ok .nothing

/-- The first pass: the entries known at once, and the regular files. -/
def survey (look : Path -> Fallible Finding) :
    List Path -> Entries -> Dictionary Path Bool -> Fallible (Entries × Dictionary Path Bool)
  | [], entries, regularPaths => .ok (entries, regularPaths)
  | path :: rest, entries, regularPaths => do
      let finding ← look path
      match finding with
      | .nothing => survey look rest entries regularPaths
      | .entry entry => survey look rest (entries.assign path entry) regularPaths
      | .file executable => survey look rest entries (regularPaths.assign path executable)

/-- The second pass: the ids of the regular files. -/
def hashRegular (tree : WorkTree) : Dictionary Path Bool -> Entries -> Fallible Entries
  | [], entries => .ok entries
  | (path, executable) :: rest, entries => do
      let id ← tree.cleanBlobId path
      hashRegular tree rest
        (entries.assign path (if executable = true then .executable else .regular, id))

def effectiveEntries (tree : WorkTree) (index : Entries) (untracked : List Path)
    (trustedFilemode : Bool) (format : ObjectFormat) : Fallible Entries := do
  let (entries, regularPaths) ←
    survey (examine tree index trustedFilemode format) (sortedSet (index.keys ++ untracked)) [] []
  if regularPaths = [] then .ok entries
  else do
    tree.assertNoExternalCleanFilters (sortedSet regularPaths.keys)
    hashRegular tree regularPaths entries

/-- `value.to_bytes(8, "big")`. -/
def bigEndian (value : Nat) : Fallible Bytes :=
  if value < 256 ^ 8 then
    .ok ((List.range 8).reverse.map fun position => Utf8.byte (value / 256 ^ position))
  else raise .overflowError "int too big to convert"

/-- A field with its length before it. -/
def field (data : Bytes) : Fallible Bytes := do
  let size ← bigEndian data.length
  .ok (size ++ data)

/-- `value.encode("ascii")`. -/
def encodeAscii (value : Text) : Fallible Bytes :=
  if value.all (fun c => decide (c.val < 128)) = true then .ok (asciiBytes value)
  else raise .unicodeEncodeError "'ascii' codec can't encode character"

def chunk (files : Entries) (path : Path) : Fallible Bytes := do
  let name ← field path
  match files.get path with
  | none => .ok (literal "D" ++ name)
  | some (mode, contentId) => do
      let id ← encodeAscii contentId
      let content ← field id
      .ok (literal "F" ++ name ++ asciiBytes mode.text ++ content)

def buildRepresentation (base : Text) (format : ObjectFormat) (deleted : List Path)
    (files : Entries) : Fallible Bytes := do
  let encodedBase ← encodeAscii base
  let chunks ← (sortedSet (deleted ++ files.keys)).mapM (chunk files)
  .ok (literal "candidate-fingerprint 3" ++ literal "\x00" ++ literal "base " ++ encodedBase ++
    literal "\x00" ++ literal "objfmt " ++ asciiBytes format.text ++ literal "\x00" ++
    chunks.flatten)

/-- A repository as its Git commands report it. -/
structure Repository where
  tree : WorkTree
  resolveBase : Text -> Fallible Text
  objectFormat : Fallible ObjectFormat
  readIndex : Fallible Entries
  readUntracked : Fallible (List Path)
  readBaseTree : Text -> Fallible Entries
  filemodeTrusted : Bool

def fingerprint (repo : Repository) (expectedBase : Text) : Fallible Text := do
  let base ← repo.resolveBase expectedBase
  let format ← repo.objectFormat
  let index ← repo.readIndex
  let untracked ← repo.readUntracked
  let baseTree ← repo.readBaseTree base
  let present ← effectiveEntries repo.tree index untracked repo.filemodeTrusted format
  let files := present.filter fun entry => decide (baseTree.get entry.1 ≠ some entry.2)
  let deleted := baseTree.keys.filter fun path => decide (path ∉ present.keys)
  let representation ← buildRepresentation base format deleted files
  .ok (repo.tree.hexDigest .sha256 representation)

end Candidate
end HermesSentinel
