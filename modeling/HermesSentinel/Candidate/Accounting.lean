import HermesSentinel.Candidate.Listing

namespace HermesSentinel
namespace Candidate

open Python
open Foundation

/-!
# A fingerprint accounts for every path

The tool prefers no fingerprint to one that leaves something out.  If it prints
one, every record that Git listed is that of a merged entry, and every listed
path is in the hashed bytes as it was found, or as in the base and not hashed.
-/

/-- Entries as they are listed. -/
def shown (entries : Entries) : Dictionary Path ListedEntry :=
  entries.map fun entry => (entry.1, entry.2.1.text, entry.2.2)

/-- The repository is what the tool reads from the commands. -/
structure ReadFrom (repo : Repository) (git : GitCommands) : Prop where
  resolveBase : git.resolveBase = repo.resolveBase
  objectFormat : git.objectFormat = repo.objectFormat
  filemodeTrusted : git.filemodeTrusted = repo.filemodeTrusted
  index : git.readIndex = repo.readIndex.map shown
  untracked : git.readUntracked = repo.readUntracked
  baseTree : forall base, git.readBaseTree base = (repo.readBaseTree base).map shown

/-- What `git check-attr` prints about a path: the path, the attribute and its value. -/
def filterAnswer (filterOf : Path -> Bytes) (path : Path) : List Bytes :=
  [path, literal "filter", filterOf path]

/-- The words of an answer, each ended by a zero byte. -/
def answers (filterOf : Path -> Bytes) (paths : List Path) : Bytes :=
  (paths.flatMap (filterAnswer filterOf)).flatMap fun word => word ++ [zero]

/-- What the tool relies on: the root is a directory, and `git check-attr`
tells the filter of each path it is given. -/
structure GitAnswers (tree : WorkTree) (filterOf : Path -> Bytes) : Prop where
  root : tree.lstat [] = .ok (some .directory)
  value_free : forall path, zero ∉ filterOf path
  answered : forall paths, paths ≠ [] -> (forall path, path ∈ paths -> path ≠ [] ∧ zero ∉ path) ->
    tree.checkAttributes ([zero].intercalate paths ++ [zero]) = .ok (answers filterOf paths)

section Filters

variable {tree : WorkTree} {filterOf : Path -> Bytes}

theorem answers_splitOn (free : forall path, zero ∉ filterOf path) {paths : List Path}
    (plain : forall path, path ∈ paths -> zero ∉ path) :
    (answers filterOf paths).splitOn zero = paths.flatMap (filterAnswer filterOf) ++ [[]] := by
  apply Lines.splitOn_terminated
  intro word member
  rcases List.mem_flatMap.mp member with ⟨path, listed, within⟩
  simp only [filterAnswer, List.mem_cons, List.not_mem_nil, or_false] at within
  rcases within with rfl | rfl | rfl
  · exact plain _ listed
  · decide
  · exact free path

theorem length_answers (paths : List Path) :
    (paths.flatMap (filterAnswer filterOf)).length = paths.length * 3 := by
  induction paths with
  | nil => rfl
  | cons path rest inductionHypothesis =>
      rw [List.flatMap_cons, List.length_append, inductionHypothesis, List.length_cons]
      show 3 + _ = _
      omega

theorem checkFilters_answers (paths : List Path) :
    WorkTree.checkFilters (paths.flatMap (filterAnswer filterOf) ++ [[]]) = .ok () ↔
      forall path, path ∈ paths -> filterOf path = literal "unspecified" := by
  induction paths with
  | nil => exact ⟨fun _ path member => absurd member List.not_mem_nil, fun _ => rfl⟩
  | cons path rest inductionHypothesis =>
      show (if filterOf path ≠ literal "unspecified" then _ else WorkTree.checkFilters
        (rest.flatMap (filterAnswer filterOf) ++ [[]])) = _ ↔ _
      rw [List.forall_mem_cons]
      by_cases unfiltered : filterOf path = literal "unspecified"
      · rw [if_neg (not_not.mpr unfiltered), inductionHypothesis]
        exact ⟨fun others => ⟨unfiltered, others⟩, fun both => both.2⟩
      · rw [if_pos unfiltered]
        exact ⟨fun done => absurd done (raise_ne_ok _ _ _), fun both => absurd both.1 unfiltered⟩

/-- The check passes exactly if no path has a filter. -/
theorem assertNoExternalCleanFilters_iff (git : GitAnswers tree filterOf) {paths : List Path}
    (some : paths ≠ []) (plain : forall path, path ∈ paths -> path ≠ [] ∧ zero ∉ path) :
    tree.assertNoExternalCleanFilters paths = .ok () ↔
      forall path, path ∈ paths -> filterOf path = literal "unspecified" := by
  have words := answers_splitOn git.value_free fun path member => (plain path member).2
  unfold WorkTree.assertNoExternalCleanFilters
  rw [show tree.checkAttributes ([Utf8.byte 0].intercalate paths ++ [Utf8.byte 0]) = _ from
    git.answered paths some plain]
  show (if (((answers filterOf paths).splitOn zero).length - 1) % 3 ≠ 0 then _ else
    WorkTree.checkFilters ((answers filterOf paths).splitOn zero)) = _ ↔ _
  rw [words, List.length_append, length_answers, if_neg (by simp), checkFilters_answers]

end Filters

/-- A content id as Git prints it. -/
def IsObjectId (id : Text) : Prop :=
  (id.length = 40 ∨ id.length = 64) ∧ id.all WorkTree.isLowerHex = true

section Files

variable {tree : WorkTree} {filterOf : Path -> Bytes} {index : Entries} {untracked : List Path}
  {trusted : Bool} {format : ObjectFormat} {entries : Entries}

theorem cleanBlobId_isObjectId {path : Path} {id : Text} (cleaned : tree.cleanBlobId path = .ok id) :
    IsObjectId id := by
  unfold WorkTree.cleanBlobId at cleaned
  rcases bind_eq_ok.mp cleaned with ⟨content, _, hashed⟩
  rcases bind_eq_ok.mp hashed with ⟨output, _, accepted⟩
  dsimp only at accepted
  split at accepted
  · rename_i wellFormed
    rw [<- Except.ok.inj accepted]
    exact wellFormed
  · cases accepted

/-- The root of the working tree is no regular file. -/
theorem file_not_root (git : GitAnswers tree filterOf) {path : Path} {executable : Bool}
    (file : examine tree index trusted format path = .ok (.file executable)) : path ≠ [] := by
  rintro rfl
  unfold examine at file
  rw [git.root] at file
  rcases bind_eq_ok.mp file with ⟨kind, same, found⟩
  cases same
  dsimp only at found
  split at found
  · rcases bind_eq_ok.mp found with ⟨_, _, impossible⟩
    cases impossible
  · cases found

/-- A regular file whose entry is effective has no filter. -/
theorem effectiveEntries_unfiltered (git : GitAnswers tree filterOf)
    (done : effectiveEntries tree index untracked trusted format = .ok entries)
    (plain : forall path, Listed index untracked path -> zero ∉ path) {path : Path}
    {executable : Bool} (listed : Listed index untracked path)
    (file : examine tree index trusted format path = .ok (.file executable)) :
    filterOf path = literal "unspecified" := by
  unfold effectiveEntries at done
  rcases bind_eq_ok.mp done with ⟨⟨known, regularPaths⟩, surveyed, hashed⟩
  rcases survey_records (sortedSet_nodup _) surveyed (mem_paths.mpr listed) with
    ⟨found, looked, recorded⟩
  have present := recorded.file executable (Except.ok.inj (looked.symm.trans file))
  have some : regularPaths ≠ [] := by
    rintro rfl
    cases present
  simp only [some, if_false] at hashed
  have checked := ((check_bind_eq_ok _ _ _).mp hashed).1
  -- Only listed regular files are checked, so that Git answers for each of them.
  have answered : forall other, other ∈ sortedSet regularPaths.keys -> other ≠ [] ∧ zero ∉ other := by
    intro other member
    rcases List.mem_map.mp (mem_sortedSet.mp member) with ⟨⟨own, flag⟩, within, rfl⟩
    rcases survey_files surveyed within with before | ⟨inside, regular⟩
    · cases before
    · exact ⟨file_not_root git regular, plain _ (mem_paths.mp inside)⟩
  have inside : path ∈ sortedSet regularPaths.keys := mem_sortedSet.mpr present
  exact (assertNoExternalCleanFilters_iff git (List.ne_nil_of_mem inside) answered).mp checked path
    inside

end Files

theorem keys_shown (entries : Entries) : (shown entries).keys = entries.keys := by
  rw [shown, Dictionary.keys, Dictionary.keys, List.map_map]
  rfl

theorem mem_keys_assignAll {rows : List (Path × ListedEntry)} {entries : Dictionary Path ListedEntry}
    {path : Path} : path ∈ (assignAll rows entries).keys ↔
      path ∈ rows.map Prod.fst ∨ path ∈ entries.keys := by
  induction rows generalizing entries with
  | nil => exact ⟨Or.inr, fun either => either.resolve_left List.not_mem_nil⟩
  | cons row rest inductionHypothesis =>
      rw [show assignAll (row :: rest) entries = assignAll rest (entries.assign row.1 row.2) from rfl,
        inductionHypothesis, Dictionary.mem_keys_assign, List.map_cons, List.mem_cons, eq_comm]
      tauto

/-- An untracked path is a word that a zero byte ended. -/
theorem readUntracked_plain {git : GitCommands} {untracked : List Path}
    (read : git.readUntracked = .ok untracked) {path : Path} (member : path ∈ untracked) :
    zero ∉ path := by
  unfold GitCommands.readUntracked at read
  rcases bind_eq_ok.mp read with ⟨raw, _, same⟩
  rw [<- Except.ok.inj same] at member
  exact ((Lines.splitOn_eq_iff (List.splitOn_ne_nil _ _)).mp rfl).2 path (List.mem_of_mem_filter member)

/-! ## The account -/

/-- What a run found out. -/
structure Findings where
  base : Text
  format : ObjectFormat
  indexRows : List Row
  untracked : List Path
  treeRows : List TreeRow
  index : Entries
  baseTree : Entries
  /-- The effective entries. -/
  present : EntryMap

/-- The path of an index record, or an untracked path. -/
def Findings.Lists (found : Findings) (path : Path) : Prop :=
  (exists row, row ∈ found.indexRows ∧ row.path = path) ∨ path ∈ found.untracked

/-- How a fingerprint accounts for what Git lists and the working tree holds. -/
structure AccountsFor (repo : Repository) (git : GitCommands) (filterOf : Path -> Bytes)
    (expectedBase digest : Text) (found : Findings) : Prop where
  /-- The base is the commit that the argument names, and an ancestor of `HEAD`. -/
  base : exists named, git.revParseVerify expectedBase = .ok (asciiBytes named) ∧
    found.base = strip named ∧ git.isAncestor found.base = true
  format : exists printed, git.showObjectFormat = .ok (asciiBytes printed) ∧
    strip printed = found.format.text
  /-- Every index record is that of a merged entry. -/
  indexRecords : exists raw, git.lsFiles = .ok raw ∧
    ((raw.splitOn zero).filter fun record => decide (record ≠ [])) =
      found.indexRows.map Row.indexRecord
  index : shown found.index = assignAll (found.indexRows.map Row.listed) []
  /-- Every record of the base is well formed. -/
  baseRecords : exists raw, git.lsTree found.base = .ok raw ∧
    ((raw.splitOn zero).filter fun record => decide (record ≠ [])) =
      found.treeRows.map TreeRow.record
  baseTree : shown found.baseTree = assignAll (found.treeRows.map fun row => row.listed) []
  untracked : git.readUntracked = .ok found.untracked
  /-- Every listed path is examined, and its entry is as it was found. -/
  listed : forall path, found.Lists path -> exists finding,
    examine repo.tree found.index git.filemodeTrusted found.format path = .ok finding ∧
      Recorded repo.tree path (found.present.entries.get path) finding
  unlisted : forall path, ¬ found.Lists path -> found.present.entries.get path = none
  /-- A regular file has no filter and is identified by an id that Git printed. -/
  files : forall path, found.Lists path -> forall executable,
    examine repo.tree found.index git.filemodeTrusted found.format path = .ok (.file executable) ->
      filterOf path = literal "unspecified" ∧
        exists id, found.present.entries.get path = some (fileMode executable, id) ∧ IsObjectId id
  /-- The digest is that of a record for each path that differs from the base. -/
  hashed : exists encodedBase words, encodeAscii found.base = .ok encodedBase ∧
    List.Forall₂ Spelled (records found.baseTree found.present.entries) words ∧
    digest = repo.tree.hexDigest .sha256 (header encodedBase found.format ++ words.flatten)
  records : forall path described, (path, described) ∈ records found.baseTree found.present.entries ↔
    found.present.entries.get path ≠ found.baseTree.get path ∧
      described = found.present.entries.get path

/-- A fingerprint that is printed accounts for every path. -/
theorem fingerprint_accounts_for_every_path {repo : Repository} {git : GitCommands}
    {filterOf : Path -> Bytes} (read : ReadFrom repo git) (answers : GitAnswers repo.tree filterOf)
    {expectedBase digest : Text} (printed : fingerprint repo expectedBase = .ok digest) :
    exists found, AccountsFor repo git filterOf expectedBase digest found := by
  rw [fingerprint_eq] at printed
  simp only [bind_eq_ok] at printed
  rcases printed with ⟨base, resolved, format, known, index, indexed, untracked, others, baseTree,
    based, present, effective, bytes, represented, same⟩
  have readIndex : git.readIndex = .ok (shown index) := by rw [read.index, indexed]; rfl
  have readBase : git.readBaseTree base = .ok (shown baseTree) := by rw [read.baseTree, based]; rfl
  have readOthers : git.readUntracked = .ok untracked := read.untracked.trans others
  rcases readIndex_eq_ok.mp readIndex with ⟨raw, lsFiles, indexRows, indexRecords, indexRead⟩
  rcases readBaseTree_eq_ok.mp readBase with ⟨rawTree, lsTree, treeRows, treeRecords, treeRead⟩
  let found : Findings := {
    base, format, indexRows, untracked, treeRows, index, baseTree
    present := ⟨present, effectiveEntries_distinct effective⟩ }
  have lists (path : Path) : found.Lists path ↔ Listed index untracked path := by
    refine or_congr ?_ Iff.rfl
    rw [<- keys_shown, indexRead, mem_keys_assignAll, List.map_map, List.mem_map]
    exact ⟨fun known => .inl known, fun known => known.resolve_right List.not_mem_nil⟩
  have plain (path : Path) (listed : Listed index untracked path) : zero ∉ path := by
    rcases (lists path).mpr listed with ⟨row, _, rfl⟩ | member
    · exact row.path_free
    · exact readUntracked_plain readOthers member
  rw [<- read.filemodeTrusted] at effective
  have examined (path : Path) (listed : Listed index untracked path) : exists finding,
      examine repo.tree index git.filemodeTrusted format path = .ok finding ∧
        Recorded repo.tree path (present.get path) finding := by
    rcases get_effectiveEntries effective path with ⟨finding, looked, recorded⟩
    exact ⟨finding, (finding_listed listed).symm.trans looked, recorded⟩
  refine ⟨found, ?_⟩
  constructor
  case base =>
    rw [<- read.resolveBase] at resolved
    rcases resolveBase_eq_ok.mp resolved with ⟨_, ⟨named, verified, _, same⟩, ancestor⟩
    exact ⟨named, verified, same, ancestor⟩
  case format => exact objectFormat_eq_ok (read.objectFormat.trans known)
  case indexRecords => exact ⟨raw, lsFiles, indexRecords⟩
  case index => exact indexRead
  case baseRecords => exact ⟨rawTree, lsTree, treeRecords⟩
  case baseTree => exact treeRead
  case untracked => exact readOthers
  case listed => exact fun path listed => examined path ((lists path).mp listed)
  case unlisted =>
    intro path unlisted
    rcases get_effectiveEntries effective path with ⟨finding, looked, recorded⟩
    rw [finding_unlisted fun listed => unlisted ((lists path).mpr listed)] at looked
    cases looked
    exact recorded
  case files =>
    intro path listed executable file
    have inside := (lists path).mp listed
    refine ⟨effectiveEntries_unfiltered answers effective plain inside file, ?_⟩
    rcases examined path inside with ⟨finding, looked, recorded⟩
    cases Except.ok.inj (looked.symm.trans file)
    rcases recorded with ⟨id, cleaned, entry⟩
    exact ⟨id, entry, cleanBlobId_isObjectId cleaned⟩
  case hashed =>
    rcases representation_eq_ok.mp represented with ⟨encodedBase, words, encoded, spelled, rfl⟩
    exact ⟨encodedBase, words, encoded, spelled, (Except.ok.inj same).symm⟩
  case records => exact fun path described => mem_records (path, described)

/-- The files named "big" are kept outside of Git. -/
def largeFileFilter (path : Path) : Bytes :=
  if path = literal "big" then literal "lfs" else literal "unspecified"

def candidateTree : WorkTree where
  lstat path :=
    if path = [] then .ok (some .directory)
    else if path = literal "gone" then .ok none
    else .ok (some (.regular 0o644))
  readBytes path := .ok path
  readLink _ := .error "not a symlink"
  hasGitDirectory _ := false
  revParseHead _ := .error "not a repository"
  checkAttributes stdin := .ok (answers largeFileFilter (stdin.splitOn zero).dropLast)
  hashObject _ _ := .ok (List.replicate 40 (codePoint 'e'))
  hexDigest _ _ := [codePoint 'd']

def candidateId : String :=
  "eeeeeeeeeeeeeeeeeeeeeeeeeeeeeeeeeeeeeeee"

def candidateGit : GitCommands where
  revParseInside := .ok (literal "true\n")
  revParseVerify _ := .ok (literal (candidateId ++ "\n"))
  isAncestor _ := true
  showObjectFormat := .ok (literal "sha1\n")
  lsFiles := .ok (literal
    ("100644 " ++ candidateId ++ " 0\ta\x00" ++ "100644 " ++ candidateId ++ " 0\tgone\x00"))
  lsFilesOthers := .ok (literal "new\x00")
  lsTree _ := .ok (literal
    ("100644 blob " ++ candidateId ++ "\ta\x00" ++ "100644 blob " ++ candidateId ++ "\tgone\x00"))
  configFilemode := .ok (literal "true\n")
  windows := false

def candidateEntries : Entries :=
  [(literal "a", (.regular, text candidateId)), (literal "gone", (.regular, text candidateId))]

def candidateRepository : Repository where
  tree := candidateTree
  resolveBase := candidateGit.resolveBase
  objectFormat := candidateGit.objectFormat
  readIndex := .ok candidateEntries
  readUntracked := .ok [literal "new"]
  readBaseTree _ := .ok candidateEntries
  filemodeTrusted := candidateGit.filemodeTrusted

set_option maxRecDepth 4000 in
theorem readFrom_candidate : ReadFrom candidateRepository candidateGit where
  resolveBase := rfl
  objectFormat := rfl
  filemodeTrusted := rfl
  index := rfl
  untracked := rfl
  baseTree _ := rfl

theorem gitAnswers_candidate : GitAnswers candidateTree largeFileFilter where
  root := rfl
  value_free path := by
    unfold largeFileFilter
    split
    · decide
    · decide
  answered paths some plain := by
    show Except.ok (answers largeFileFilter (([zero].intercalate paths ++ [zero]).splitOn zero).dropLast)
      = _
    rw [Lines.join_terminated some, Lines.splitOn_terminated fun path member => (plain path member).2,
      List.dropLast_concat]

/-- An unchanged file, a deleted one and a new one. -/
theorem fingerprint_accounts_for_every_path_candidate :
    fingerprint candidateRepository (text "main") = .ok [codePoint 'd'] ∧
      exists found, AccountsFor candidateRepository candidateGit largeFileFilter (text "main")
        [codePoint 'd'] found := by
  have printed : fingerprint candidateRepository (text "main") = .ok [codePoint 'd'] := rfl
  exact ⟨printed, fingerprint_accounts_for_every_path readFrom_candidate gitAnswers_candidate printed⟩

end Candidate
end HermesSentinel
