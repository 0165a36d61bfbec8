import HermesSentinel.Candidate.EffectiveEntries
import HermesSentinel.Foundation.Json

namespace HermesSentinel
namespace Candidate

open Python
open Foundation

/-!
# Staging and the fingerprint

Staging one path puts what its working-tree file is into the index.  The tool
means its fingerprint to stay the same.  It does, except where the index says
more than the file: an index symlink survives a missing or a regular file, an
executable index entry survives a dropped execute bit, and a repository in the
place of a path is only seen once it is staged.
-/

def slash : Utf8.Byte :=
  Utf8.byte 47

/-- Whether `git add` has something to do for exactly this path: the index or
the untracked files have it, or it is an untracked repository, which Git lists
with a slash at its end. -/
def Addable (tree : WorkTree) (index : Entries) (untracked : List Path) (path : Path) : Prop :=
  path.getLast? ≠ some slash ∧
    (Listed index untracked path ∨
      (path ++ [slash] ∈ untracked ∧ tree.lstat path = .ok (some .directory)))

instance (tree : WorkTree) (index : Entries) (untracked : List Path) (path : Path) :
    Decidable (Addable tree index untracked path) :=
  inferInstanceAs (Decidable (_ ∧ (_ ∨ (_ ∧ tree.lstat path = .ok (some .directory)))))

/-- The mode of a staged regular file. -/
def stagedMode (trustedFilemode : Bool) (permissions : Nat) (previous : Option GitMode) : GitMode :=
  if trustedFilemode = true then fileMode (hasExecuteBit permissions)
  else fileMode (decide (previous = some .executable))

/-- The index after an exact-path `git add`; one that fails leaves it alone. -/
def gitAdd (tree : WorkTree) (index : Entries) (untracked : List Path) (trustedFilemode : Bool)
    (format : ObjectFormat) (path : Path) : Entries :=
  if Addable tree index untracked path then
    match tree.lstat path with
    | .ok none => index.erase path
    | .ok (some .symlink) =>
        match tree.readLinkTarget path with
        | .ok target => index.assign path (.symlink, tree.blobHexId target format)
        | .error _ => index
    | .ok (some (.regular permissions)) =>
        match tree.cleanBlobId path with
        | .ok id =>
            index.assign path (stagedMode trustedFilemode permissions (modeOf index path), id)
        | .error _ => index
    | .ok (some .directory) =>
        match tree.nestedHead path with
        | .ok (some head) => index.assign path (.gitlink, head)
        | .ok none => if modeOf index path = some .gitlink then index else index.erase path
        | .error _ => index
    | .ok (some .special) => index
    | .error _ => index
  else index

/-- The untracked files listed after a path was staged: those of before, where
the staged path need not be listed once the index has it. -/
def Relisted (index : Entries) (path : Path) (before after : List Path) : Prop :=
  forall other, other ≠ path ∨ other ∉ index.keys -> (other ∈ after ↔ other ∈ before)

/-- The repository with a new index. -/
def Repository.reindexed (repo : Repository) (index : Entries) (untracked : List Path) :
    Repository :=
  { repo with readIndex := .ok index, readUntracked := .ok untracked }

/-- A repository whose effective entries the tool can tell. -/
structure Effective (repo : Repository) (format : ObjectFormat) (index : Entries)
    (untracked : List Path) (entries : Entries) : Prop where
  objectFormat : repo.objectFormat = .ok format
  readIndex : repo.readIndex = .ok index
  readUntracked : repo.readUntracked = .ok untracked
  succeeds : effectiveEntries repo.tree index untracked repo.filemodeTrusted format = .ok entries

/-- Staging the path changes neither the effective entries nor the fingerprint. -/
def StagingKeeps (repo : Repository) (format : ObjectFormat) (index : Entries)
    (untracked : List Path) (entries : Entries) (path : Path) : Prop :=
  let staged := gitAdd repo.tree index untracked repo.filemodeTrusted format path
  forall relisted, Relisted staged path untracked relisted ->
    (exists entries', Effective (repo.reindexed staged relisted) format staged relisted entries' ∧
      Dictionary.Same entries' entries) ∧
    forall expectedBase,
      fingerprint (repo.reindexed staged relisted) expectedBase = fingerprint repo expectedBase

/-! ## Where the tool and Git disagree -/

/-- The index and the file of an addable path that the tool and Git read differently. -/
inductive Diverges (tree : WorkTree) (index : Entries) (trustedFilemode : Bool) (path : Path) : Prop
  /-- A tracked symlink without a file: Git stages its removal. -/
  | symlinkGone (missing : tree.lstat path = .ok none)
      (mode : modeOf index path = some .symlink)
  /-- A tracked symlink that is a regular file now: Git stages a regular file. -/
  | symlinkReplaced (permissions : Nat) (id : Text)
      (kind : tree.lstat path = .ok (some (.regular permissions)))
      (cleaned : tree.cleanBlobId path = .ok id) (mode : modeOf index path = some .symlink)
  /-- A tracked executable without an execute bit now: Git stages its loss. -/
  | executeBitDropped (permissions : Nat)
      (kind : tree.lstat path = .ok (some (.regular permissions)))
      (trusted : trustedFilemode = true) (dropped : hasExecuteBit permissions = false)
      (mode : modeOf index path = some .executable)
  /-- A repository that is no gitlink of the index yet: Git stages one. -/
  | nestedRepository (head : Text) (kind : tree.lstat path = .ok (some .directory))
      (nested : tree.nestedHead path = .ok (some head)) (mode : modeOf index path ≠ some .gitlink)

/-! ## What is found after staging -/

section Findings

variable {tree : WorkTree} {index : Entries} {untracked relisted : List Path} {trusted : Bool}
  {format : ObjectFormat} {path : Path}

theorem modeOf_assign (entry : Entry) (other : Path) :
    modeOf (index.assign path entry) other =
      if path = other then some entry.1 else modeOf index other := by
  unfold modeOf
  rw [Dictionary.get_assign]
  split
  · rfl
  · rfl

theorem get_of_mode {mode : GitMode} (given : modeOf index path = some mode) :
    exists id, index.get path = some (mode, id) := by
  rcases Option.map_eq_some_iff.mp given with ⟨⟨own, id⟩, present, same⟩
  cases same
  exact ⟨id, present⟩

theorem tracked_of_mode {mode : GitMode} (given : modeOf index path = some mode) :
    Listed index untracked path := by
  rcases get_of_mode given with ⟨id, present⟩
  apply Or.inl
  rw [Dictionary.mem_keys_iff, present]
  exact Option.some_ne_none _

/-- Staging a path touches no entry of another one. -/
theorem get_gitAdd_other {other : Path} (different : path ≠ other) :
    (gitAdd tree index untracked trusted format path).get other = index.get other := by
  have erased : (index.erase path).get other = index.get other := by
    rw [Dictionary.get_erase, if_neg different]
  have assigned (entry : Entry) : (index.assign path entry).get other = index.get other := by
    rw [Dictionary.get_assign, if_neg different]
  unfold gitAdd
  split
  · split
    · exact erased
    · split
      · exact assigned _
      · rfl
    · split
      · exact assigned _
      · rfl
    · split
      · exact assigned _
      · split
        · rfl
        · exact erased
      · rfl
    · rfl
    · rfl
  · rfl

theorem listed_other {other : Path} (different : path ≠ other)
    (list : Relisted (gitAdd tree index untracked trusted format path) path untracked relisted) :
    Listed (gitAdd tree index untracked trusted format path) relisted other ↔
      Listed index untracked other := by
  unfold Listed
  rw [Dictionary.mem_keys_iff, get_gitAdd_other different, <- Dictionary.mem_keys_iff,
    list other (Or.inl (Ne.symm different))]

theorem finding_other {other : Path} (different : path ≠ other)
    (list : Relisted (gitAdd tree index untracked trusted format path) path untracked relisted) :
    finding tree (gitAdd tree index untracked trusted format path) relisted trusted format other =
      finding tree index untracked trusted format other := by
  by_cases listed : Listed index untracked other
  · rw [finding_listed listed, finding_listed ((listed_other different list).mpr listed)]
    exact examine_congr (get_gitAdd_other different)
  · rw [finding_unlisted listed]
    exact finding_unlisted fun member => listed ((listed_other different list).mp member)

/-- Where staging leaves the index alone, the same is found. -/
theorem finding_unchanged (list : Relisted index path untracked relisted) :
    finding tree index relisted trusted format path =
      finding tree index untracked trusted format path := by
  by_cases tracked : path ∈ index.keys
  · rw [finding_listed (Or.inl tracked), finding_listed (Or.inl tracked)]
  · have same := list path (Or.inr tracked)
    by_cases listed : path ∈ untracked
    · rw [finding_listed (Or.inr listed), finding_listed (Or.inr (same.mpr listed))]
    · rw [finding_unlisted, finding_unlisted]
      · exact fun either => either.elim tracked listed
      · exact fun either => either.elim tracked fun member => listed (same.mp member)

/-- A staged path is looked at. -/
theorem finding_assigned (entry : Entry) :
    finding tree (index.assign path entry) relisted trusted format path =
      examine tree (index.assign path entry) trusted format path :=
  finding_listed (Or.inl ((Dictionary.mem_keys_assign _ _ _ _).mpr (Or.inl rfl)))

theorem examine_link {target : Bytes} (kind : tree.lstat path = .ok (some .symlink))
    (read : tree.readLinkTarget path = .ok target) :
    examine tree index trusted format path =
      .ok (.entry (.symlink, tree.blobHexId target format)) := by
  unfold examine
  rw [kind]
  show (tree.readLinkTarget path >>= _) = _
  rw [read]
  rfl

theorem examine_file {permissions : Nat} (kind : tree.lstat path = .ok (some (.regular permissions)))
    (noLink : modeOf index path ≠ some .symlink) (noGitlink : modeOf index path ≠ some .gitlink) :
    examine tree index trusted format path =
      .ok (.file ((trusted && hasExecuteBit permissions) ||
        decide (modeOf index path = some .executable))) := by
  unfold examine
  rw [kind]
  simp only [orFail, ok_bind]

theorem examine_linkText {permissions : Nat} {found : Finding}
    (kind : tree.lstat path = .ok (some (.regular permissions)))
    (mode : modeOf index path = some .symlink)
    (examined : examine tree index trusted format path = .ok found) :
    exists id, found = .entry (.symlink, id) := by
  unfold examine at examined
  rw [kind] at examined
  simp only [orFail, ok_bind, mode] at examined
  rcases bind_eq_ok.mp examined with ⟨content, _, same⟩
  cases same
  exact ⟨tree.blobHexId content format, rfl⟩

theorem examine_fileUnderGitlink {permissions : Nat} {found : Finding}
    (kind : tree.lstat path = .ok (some (.regular permissions)))
    (mode : modeOf index path = some .gitlink) :
    examine tree index trusted format path ≠ .ok found := by
  unfold examine
  rw [kind]
  simp only [orFail, ok_bind, mode]
  exact raise_ne_ok _ _ _

theorem examine_repository {head id : Text} (kind : tree.lstat path = .ok (some .directory))
    (present : index.get path = some (.gitlink, id))
    (nested : tree.nestedHead path = .ok (some head)) :
    examine tree index trusted format path = .ok (.entry (.gitlink, head)) := by
  unfold examine
  rw [kind]
  simp only [orFail, ok_bind, present]
  rw [nested]
  rfl

theorem examine_directory (kind : tree.lstat path = .ok (some .directory))
    (mode : modeOf index path ≠ some .gitlink) :
    examine tree index trusted format path = .ok .nothing := by
  unfold examine
  rw [kind]
  simp only [orFail, ok_bind]
  split
  · rename_i id present
    unfold modeOf at mode
    rw [present] at mode
    exact absurd rfl mode
  · rfl

theorem examine_missing (kind : tree.lstat path = .ok none)
    (noLink : modeOf index path ≠ some .symlink) (noGitlink : modeOf index path ≠ some .gitlink) :
    examine tree index trusted format path = .ok .nothing := by
  unfold examine
  rw [kind]
  simp only [orFail, ok_bind]
  unfold modeOf at noLink noGitlink
  split
  · rename_i id present
    rw [present] at noLink
    exact absurd rfl noLink
  · rename_i id present
    rw [present] at noGitlink
    exact absurd rfl noGitlink
  · rfl

theorem examine_missingLink {id : Text} (kind : tree.lstat path = .ok none)
    (present : index.get path = some (.symlink, id)) :
    examine tree index trusted format path = .ok (.entry (.symlink, id)) := by
  unfold examine
  rw [kind]
  simp only [orFail, ok_bind, present]

theorem examine_missingGitlink {found : Finding} (kind : tree.lstat path = .ok none)
    (mode : modeOf index path = some .gitlink) :
    examine tree index trusted format path ≠ .ok found := by
  rcases get_of_mode mode with ⟨id, present⟩
  unfold examine
  rw [kind]
  simp only [orFail, ok_bind, present]
  exact raise_ne_ok _ _ _

theorem modeOf_erase : modeOf (index.erase path) path = none := by
  unfold modeOf
  rw [Dictionary.get_erase, if_pos rfl]
  rfl

theorem finding_ok_listed {found : Finding} (listed : Listed index untracked path)
    (seen : finding tree index untracked trusted format path = .ok found) :
    examine tree index trusted format path = .ok found :=
  (finding_listed listed).symm.trans seen

/-- A path that is not in the index after staging and has no untracked file is
found empty, listed or not. -/
theorem finding_erased (kind : tree.lstat path = .ok none ∨ tree.lstat path = .ok (some .directory)) :
    finding tree (index.erase path) relisted trusted format path = .ok .nothing := by
  have noMode (mode : GitMode) : modeOf (index.erase path) path ≠ some mode := by
    rw [modeOf_erase]
    intro same
    cases same
  by_cases listed : Listed (index.erase path) relisted path
  · rw [finding_listed listed]
    rcases kind with missing | directory
    · exact examine_missing missing (noMode _) (noMode _)
    · exact examine_directory directory (noMode _)
  · exact finding_unlisted listed

/-- A regular file is found with the same executability, unless its index entry
was executable and it is not. -/
theorem stagedMode_agrees {permissions : Nat} {previous : Option GitMode}
    (agrees : ¬ (trusted = true ∧ hasExecuteBit permissions = false ∧ previous = some .executable)) :
    ((trusted && hasExecuteBit permissions) ||
        decide (some (stagedMode trusted permissions previous) = some GitMode.executable)) =
      ((trusted && hasExecuteBit permissions) || decide (previous = some .executable)) := by
  cases trusted with
  | false =>
      by_cases executable : previous = some .executable
      · rw [executable]
        rfl
      · simp [stagedMode, fileMode, executable]
  | true =>
      cases bit : hasExecuteBit permissions with
      | true => rfl
      | false =>
          have other : previous ≠ some .executable := fun executable => agrees ⟨rfl, bit, executable⟩
          simp [stagedMode, fileMode, bit, other]

theorem stagedMode_file {permissions : Nat} {previous : Option GitMode} :
    stagedMode trusted permissions previous ≠ .symlink ∧
      stagedMode trusted permissions previous ≠ .gitlink := by
  unfold stagedMode fileMode
  constructor
  · split
    · split <;> exact GitMode.noConfusion
    · split <;> exact GitMode.noConfusion
  · split
    · split <;> exact GitMode.noConfusion
    · split <;> exact GitMode.noConfusion

/-- A regular file is examined alike before and after it is staged. -/
theorem examine_stagedFile {permissions : Nat} {id : Text} {found : Finding}
    (kind : tree.lstat path = .ok (some (.regular permissions)))
    (cleaned : tree.cleanBlobId path = .ok id) (agrees : ¬ Diverges tree index trusted path)
    (examined : examine tree index trusted format path = .ok found) :
    examine tree (index.assign path (stagedMode trusted permissions (modeOf index path), id))
        trusted format path = examine tree index trusted format path := by
  have noLink : modeOf index path ≠ some .symlink := fun mode =>
    agrees (.symlinkReplaced permissions id kind cleaned mode)
  have noGitlink : modeOf index path ≠ some .gitlink := fun mode =>
    examine_fileUnderGitlink kind mode examined
  have mode : modeOf (index.assign path (stagedMode trusted permissions (modeOf index path), id))
      path = some (stagedMode trusted permissions (modeOf index path)) := by
    rw [modeOf_assign, if_pos rfl]
  rw [examine_file kind noLink noGitlink, examine_file kind, mode, stagedMode_agrees]
  · exact fun all => agrees (.executeBitDropped permissions kind all.1 all.2.1 all.2.2)
  · rw [mode]
    exact fun same => stagedMode_file.1 (Option.some.inj same)
  · rw [mode]
    exact fun same => stagedMode_file.2 (Option.some.inj same)

/-- Staging keeps what is found at the staged path. -/
theorem finding_staged {found : Finding}
    (seen : finding tree index untracked trusted format path = .ok found)
    (agrees : ¬ (Addable tree index untracked path ∧ Diverges tree index trusted path))
    (list : Relisted (gitAdd tree index untracked trusted format path) path untracked relisted) :
    finding tree (gitAdd tree index untracked trusted format path) relisted trusted format path =
      .ok found := by
  by_cases addable : Addable tree index untracked path
  · have diverges : ¬ Diverges tree index trusted path := fun diverges => agrees ⟨addable, diverges⟩
    have listedUnless : tree.lstat path ≠ .ok (some .directory) -> Listed index untracked path := by
      intro other
      rcases addable.2 with listed | ⟨_, directory⟩
      · exact listed
      · exact absurd directory other
    unfold gitAdd at list ⊢
    rw [if_pos addable] at list ⊢
    cases kind : tree.lstat path with
    | error e =>
        simp only [kind] at list ⊢
        exact (finding_unchanged list).trans seen
    | ok file =>
        cases file with
        | none =>
            simp only
            rw [finding_erased (Or.inl kind)]
            have examined := finding_ok_listed (listedUnless (by rw [kind]; simp)) seen
            rw [<- examined]
            apply Eq.symm
            apply examine_missing kind
            · exact fun mode => diverges (.symlinkGone kind mode)
            · exact fun mode => examine_missingGitlink kind mode examined
        | some file =>
            cases file with
            | symlink =>
                simp only [kind] at list ⊢
                cases read : tree.readLinkTarget path with
                | error e =>
                    simp only [read] at list ⊢
                    exact (finding_unchanged list).trans seen
                | ok target =>
                    simp only
                    have examined := finding_ok_listed (listedUnless (by rw [kind]; simp)) seen
                    rw [finding_assigned, examine_link kind read, <- examined,
                      examine_link kind read]
            | regular permissions =>
                simp only [kind] at list ⊢
                cases cleaned : tree.cleanBlobId path with
                | error e =>
                    simp only [cleaned] at list ⊢
                    exact (finding_unchanged list).trans seen
                | ok id =>
                    simp only
                    have examined := finding_ok_listed (listedUnless (by rw [kind]; simp)) seen
                    rw [finding_assigned, <- examined]
                    exact examine_stagedFile kind cleaned diverges examined
            | directory =>
                simp only [kind] at list ⊢
                cases nested : tree.nestedHead path with
                | error e =>
                    simp only [nested] at list ⊢
                    exact (finding_unchanged list).trans seen
                | ok head =>
                    cases head with
                    | none =>
                        simp only [nested] at list ⊢
                        by_cases gitlink : modeOf index path = some .gitlink
                        · rw [if_pos gitlink] at list ⊢
                          exact (finding_unchanged list).trans seen
                        · rw [if_neg gitlink, finding_erased (Or.inr kind), <- seen]
                          by_cases listed : Listed index untracked path
                          · rw [finding_listed listed, examine_directory kind gitlink]
                          · rw [finding_unlisted listed]
                    | some head =>
                        simp only
                        have gitlink : modeOf index path = some .gitlink := by
                          by_contra other
                          exact diverges (.nestedRepository head kind nested other)
                        rcases get_of_mode gitlink with ⟨id, present⟩
                        have examined := finding_ok_listed (tracked_of_mode gitlink) seen
                        have staged : (index.assign path (.gitlink, head)).get path =
                            some (.gitlink, head) := by
                          rw [Dictionary.get_assign, if_pos rfl]
                        rw [finding_assigned, <- examined, examine_repository kind present nested,
                          examine_repository kind staged nested]
            | special =>
                simp only [kind] at list ⊢
                exact (finding_unchanged list).trans seen
  · unfold gitAdd at list ⊢
    rw [if_neg addable] at list ⊢
    exact (finding_unchanged list).trans seen

/-- The same files may be listed as untracked. -/
theorem relisted_same : Relisted index path untracked untracked :=
  fun _ _ => Iff.rfl

theorem gitAdd_file {permissions : Nat} {id : Text} (addable : Addable tree index untracked path)
    (kind : tree.lstat path = .ok (some (.regular permissions)))
    (cleaned : tree.cleanBlobId path = .ok id) :
    gitAdd tree index untracked trusted format path =
      index.assign path (stagedMode trusted permissions (modeOf index path), id) := by
  unfold gitAdd
  rw [if_pos addable, kind]
  simp only [cleaned]

/-- A staged regular file has an entry of a regular mode. -/
theorem finding_stagedFile {permissions : Nat} {id : Text}
    (addable : Addable tree index untracked path)
    (kind : tree.lstat path = .ok (some (.regular permissions)))
    (cleaned : tree.cleanBlobId path = .ok id) :
    finding tree (gitAdd tree index untracked trusted format path) untracked trusted format path =
      .ok (.file ((trusted && hasExecuteBit permissions) ||
        decide (some (stagedMode trusted permissions (modeOf index path)) =
          some GitMode.executable))) := by
  have mode (id : Text) :
      modeOf (index.assign path (stagedMode trusted permissions (modeOf index path), id)) path =
        some (stagedMode trusted permissions (modeOf index path)) := by
    rw [modeOf_assign, if_pos rfl]
  rw [gitAdd_file addable kind cleaned, finding_assigned, examine_file kind, mode]
  · rw [mode]
    exact fun same => stagedMode_file.1 (Option.some.inj same)
  · rw [mode]
    exact fun same => stagedMode_file.2 (Option.some.inj same)

/-- Where the tool and Git disagree, staging changes the effective entry of the path. -/
theorem diverging_get {entries entries' : Entries} (addable : Addable tree index untracked path)
    (diverges : Diverges tree index trusted path)
    (before : effectiveEntries tree index untracked trusted format = .ok entries)
    (after : effectiveEntries tree (gitAdd tree index untracked trusted format path) untracked
      trusted format = .ok entries') :
    entries'.get path ≠ entries.get path := by
  rcases get_effectiveEntries before path with ⟨found, seen, recorded⟩
  rcases get_effectiveEntries after path with ⟨found', seen', recorded'⟩
  cases diverges with
  | symlinkGone missing mode =>
      rcases get_of_mode mode with ⟨id, present⟩
      rw [finding_listed (tracked_of_mode mode), examine_missingLink missing present] at seen
      cases seen
      have removed : gitAdd tree index untracked trusted format path = index.erase path := by
        unfold gitAdd
        rw [if_pos addable, missing]
      rw [removed, finding_erased (Or.inl missing)] at seen'
      cases seen'
      rw [recorded, recorded']
      exact (Option.some_ne_none _).symm
  | symlinkReplaced permissions id kind cleaned mode =>
      have examined := finding_ok_listed (tracked_of_mode mode) seen
      rcases examine_linkText kind mode examined with ⟨linkId, same⟩
      subst same
      rw [finding_stagedFile addable kind cleaned] at seen'
      cases seen'
      rcases recorded' with ⟨id', _, entry⟩
      rw [recorded, entry]
      intro same
      have modes := congrArg (Option.map Prod.fst) same
      unfold fileMode at modes
      split at modes
      · cases modes
      · cases modes
  | executeBitDropped permissions kind trustedMode dropped mode =>
      subst trustedMode
      have noLink : modeOf index path ≠ some .symlink := by
        rw [mode]
        decide
      have noGitlink : modeOf index path ≠ some .gitlink := by
        rw [mode]
        decide
      rw [finding_listed (tracked_of_mode mode), examine_file kind noLink noGitlink, mode] at seen
      cases seen
      rcases recorded with ⟨id, cleaned, entry⟩
      rw [finding_stagedFile addable kind cleaned] at seen'
      cases seen'
      rcases recorded' with ⟨id', _, entry'⟩
      rw [entry, entry']
      intro same
      have modes := congrArg (Option.map Prod.fst) same
      simp [stagedMode, fileMode, dropped] at modes
  | nestedRepository head kind nested mode =>
      have nothing : found = .nothing := by
        by_cases listed : Listed index untracked path
        · rw [finding_listed listed, examine_directory kind mode] at seen
          exact (Except.ok.inj seen).symm
        · rw [finding_unlisted listed] at seen
          exact (Except.ok.inj seen).symm
      subst nothing
      have linked : gitAdd tree index untracked trusted format path =
          index.assign path (.gitlink, head) := by
        unfold gitAdd
        rw [if_pos addable, kind]
        simp only [nested]
      have staged : (index.assign path (.gitlink, head)).get path = some (.gitlink, head) := by
        rw [Dictionary.get_assign, if_pos rfl]
      rw [linked, finding_assigned, examine_repository kind staged nested] at seen'
      cases seen'
      rw [recorded, recorded']
      exact Option.some_ne_none _

/-- A file that is no link of the index and has the execute bit that the index
gives it is read alike. -/
theorem not_diverges_file {permissions : Nat}
    (kind : tree.lstat path = .ok (some (.regular permissions)))
    (noLink : modeOf index path ≠ some .symlink)
    (executable : modeOf index path = some .executable -> hasExecuteBit permissions = true) :
    ¬ Diverges tree index trusted path := by
  intro diverges
  cases diverges with
  | symlinkGone _ mode => exact noLink mode
  | symlinkReplaced _ _ _ _ mode => exact noLink mode
  | executeBitDropped own file _ dropped mode =>
      cases kind.symm.trans file
      exact absurd (executable mode) (Bool.eq_false_iff.mp dropped)
  | nestedRepository _ directory _ _ => cases kind.symm.trans directory

end Findings

/-- Staging a path keeps the effective entries and the fingerprint exactly where
the tool and Git agree on it. -/
theorem staging_keeps_iff {repo : Repository} {format : ObjectFormat} {index : Entries}
    {untracked : List Path} {entries : Entries}
    (effective : Effective repo format index untracked entries) (path : Path) :
    StagingKeeps repo format index untracked entries path ↔
      ¬ (Addable repo.tree index untracked path ∧
        Diverges repo.tree index repo.filemodeTrusted path) := by
  constructor
  · intro keeps disagree
    rcases (keeps untracked relisted_same).1 with ⟨entries', staged, same⟩
    exact diverging_get disagree.1 disagree.2 effective.succeeds staged.succeeds (same path)
  · intro agrees relisted list
    rcases get_effectiveEntries effective.succeeds path with ⟨found, seen, _⟩
    have unchanged : effectiveEntries repo.tree
          (gitAdd repo.tree index untracked repo.filemodeTrusted format path) relisted
          repo.filemodeTrusted format =
        effectiveEntries repo.tree index untracked repo.filemodeTrusted format := by
      apply effectiveEntries_congr
      intro other
      by_cases own : path = other
      · subst own
        rw [seen]
        exact finding_staged seen agrees list
      · exact finding_other own list
    constructor
    · exact ⟨entries, ⟨effective.objectFormat, rfl, rfl, unchanged.trans effective.succeeds⟩,
        fun _ => rfl⟩
    · intro expectedBase
      unfold fingerprint Repository.reindexed
      simp only [effective.objectFormat, effective.readIndex, effective.readUntracked, ok_bind,
        unchanged]

/-- A digest that shows the data itself. -/
def hexText (data : Bytes) : Text :=
  data.flatMap fun byte => [Json.hexDigit (byte.val / 16), Json.hexDigit byte.val]

/-- The id of a content of at most 20 bytes. -/
def contentId (content : Bytes) : Text :=
  (List.replicate 40 (codePoint '0') ++ hexText content).drop (hexText content).length

def nestedCommit : Text :=
  List.replicate 40 (codePoint 'c')

/-- A script, a file, and a directory with a repository of its own. -/
def draftTree : WorkTree where
  lstat path :=
    if path = literal "run.sh" then .ok (some (.regular 0o755))
    else if path = literal "notes" then .ok (some (.regular 0o644))
    else if path = literal "sub" ∨ path = literal "sub/" then .ok (some .directory)
    else .ok none
  readBytes path := .ok (literal "new " ++ path)
  readLink _ := .error "not a symlink"
  hasGitDirectory path := decide (path = literal "sub" ∨ path = literal "sub/")
  revParseHead _ := .ok (nestedCommit ++ [codePoint '\n'])
  checkAttributes stdin := .ok ((stdin.splitOn (Utf8.byte 0)).dropLast.flatMap fun path =>
    path ++ literal "\x00filter\x00unspecified\x00")
  hashObject _ content := .ok (contentId content ++ [codePoint '\n'])
  hexDigest _ := hexText

/-- The script is tracked with an older content. -/
def draftIndex : Entries :=
  [(literal "run.sh", (.executable, contentId (literal "old")))]

def draftUntracked : List Path :=
  [literal "notes", literal "sub/"]

def draftRepository : Repository where
  tree := draftTree
  resolveBase base := .ok base
  objectFormat := .ok .sha1
  readIndex := .ok draftIndex
  readUntracked := .ok draftUntracked
  readBaseTree _ := .ok draftIndex
  filemodeTrusted := true

/-- The files as they are now; the repository is left out. -/
def draftEntries : Entries :=
  [(literal "notes", (.regular, contentId (literal "new notes"))),
    (literal "run.sh", (.executable, contentId (literal "new run.sh")))]

theorem effective_draft :
    Effective draftRepository .sha1 draftIndex draftUntracked draftEntries :=
  ⟨rfl, rfl, rfl, rfl⟩

/-- Staging the changed script and staging the new file change the index and
keep the fingerprint. -/
theorem draft_kept :
    Effective draftRepository .sha1 draftIndex draftUntracked draftEntries ∧
      forall path, path ∈ [literal "run.sh", literal "notes"] ->
        gitAdd draftTree draftIndex draftUntracked true .sha1 path ≠ draftIndex ∧
          StagingKeeps draftRepository .sha1 draftIndex draftUntracked draftEntries path := by
  refine ⟨effective_draft, fun path member => ⟨?_, (staging_keeps_iff effective_draft path).mpr ?_⟩⟩
  · revert path
    decide +kernel
  · intro disagree
    rcases List.mem_pair.mp member with rfl | rfl
    · exact not_diverges_file rfl (by decide) (by decide) disagree.2
    · exact not_diverges_file rfl (by decide) (by decide) disagree.2

/-- Staging the repository changes the fingerprint, which left it out. -/
theorem nestedRepository_changes :
    Effective draftRepository .sha1 draftIndex draftUntracked draftEntries ∧
      ¬ StagingKeeps draftRepository .sha1 draftIndex draftUntracked draftEntries
        (literal "sub") := by
  refine ⟨effective_draft, fun keeps => ?_⟩
  have changed : fingerprint (draftRepository.reindexed
        (gitAdd draftTree draftIndex draftUntracked true .sha1 (literal "sub")) draftUntracked) [] ≠
      fingerprint draftRepository [] := by
    decide +kernel
  exact changed ((keeps draftUntracked relisted_same).2 [])

end Candidate
end HermesSentinel
