import HermesSentinel.Candidate.Identification
import HermesSentinel.Foundation.Lines

namespace HermesSentinel
namespace Candidate

open Python
open Foundation

/-!
# What Git lists

The tool knows the repository from what Git commands print.  The index, the
untracked paths and the tree of the base are listed as records that a zero byte
ends.  A record holds three words, a tab and a path.
The readers accept exactly the listings of such records, with every index entry
merged, and keep every one of them.
-/

def zero : Utf8.Byte :=
  Utf8.byte 0

def tab : Utf8.Byte :=
  Utf8.byte 9

def blank : Utf8.Byte :=
  Utf8.byte 32

/-- What a record says about its path: the mode and the object id. -/
abbrev ListedEntry := Text × Text

/-- `value.decode("ascii")`. -/
def decodeAscii (value : Bytes) : Fallible Text :=
  if value.all (fun b => decide (b.val < 128)) = true then
    .ok (value.map fun b => Fin.castLE (by decide) b)
  else raise .unicodeDecodeError "'ascii' codec can't decode byte"

/-- `(mode.decode("ascii"), object_id.decode("ascii"))`. -/
def decodeEntry (mode objectId : Bytes) : Fallible ListedEntry := do
  let mode ← decodeAscii mode
  let objectId ← decodeAscii objectId
  .ok (mode, objectId)

/-- The words of an index record. -/
def indexEntry (mode objectId stage : Bytes) : Fallible ListedEntry :=
  if stage ≠ literal "0" then
    fail "index contains unmerged entries; candidate enumeration would not be deterministic"
  else decodeEntry mode objectId

/-- The words of a record of a tree. -/
def treeEntry (mode _kind objectId : Bytes) : Fallible ListedEntry :=
  decodeEntry mode objectId

def readRecord (entryOf : Bytes -> Bytes -> Bytes -> Fallible ListedEntry) (malformed : String)
    (record : Bytes) : Fallible (Path × ListedEntry) :=
  match Lines.splitFirst tab record with
  | none => fail malformed
  | some (metadata, path) =>
      match metadata.splitOn blank with
      | [first, second, third] => do
          let entry ← entryOf first second third
          .ok (path, entry)
      | _ => fail malformed

/-- The loop over the records, of which the empty ones are skipped. -/
def readRecords (entryOf : Bytes -> Bytes -> Bytes -> Fallible ListedEntry) (malformed : String) :
    List Bytes -> Dictionary Path ListedEntry -> Fallible (Dictionary Path ListedEntry)
  | [], entries => .ok entries
  | record :: rest, entries =>
      if record = [] then readRecords entryOf malformed rest entries
      else do
        let (path, entry) ← readRecord entryOf malformed record
        readRecords entryOf malformed rest (entries.assign path entry)

/-- What the commands about the whole repository print, or the detail of a
command that failed. -/
structure GitCommands where
  /-- `git rev-parse --is-inside-work-tree`. -/
  revParseInside : Except String Bytes
  /-- `git rev-parse --verify` of a commit. -/
  revParseVerify : Text -> Except String Bytes
  /-- Whether `git merge-base --is-ancestor` of a commit and `HEAD` exits with 0. -/
  isAncestor : Text -> Bool
  /-- `git rev-parse --show-object-format`. -/
  showObjectFormat : Except String Bytes
  /-- `git ls-files -s -z`. -/
  lsFiles : Except String Bytes
  /-- `git ls-files --others --exclude-standard -z`. -/
  lsFilesOthers : Except String Bytes
  /-- `git ls-tree -r -z` of a base. -/
  lsTree : Text -> Except String Bytes
  /-- `git config --type=bool core.filemode`. -/
  configFilemode : Except String Bytes
  /-- `sys.platform == "win32"`. -/
  windows : Bool

/-- `value.strip()` of bytes. -/
def stripBytes (value : Bytes) : Bytes :=
  let isSpace := fun b : Utf8.Byte => decide ((9 ≤ b.val ∧ b.val ≤ 13) ∨ b.val = 32)
  ((value.dropWhile isSpace).reverse.dropWhile isSpace).reverse

namespace GitCommands

variable (git : GitCommands)

def resolveBase (expected : Text) : Fallible Text := do
  let inside ← orFail "git rev-parse failed" git.revParseInside
  if stripBytes inside ≠ literal "true" then fail "not a Git working tree"
  else do
    let output ← orFail "invalid or missing BASE_HEAD" (git.revParseVerify expected)
    let decoded ← decodeAscii output
    let sha := strip decoded
    if git.isAncestor sha = false then
      fail "BASE_HEAD is not an ancestor of HEAD; the candidate/base relationship is ambiguous"
    else .ok sha

def objectFormat : Fallible ObjectFormat := do
  let output ← orFail "git rev-parse failed" git.showObjectFormat
  let decoded ← decodeAscii output
  let format := strip decoded
  if format = ObjectFormat.sha1.text then .ok .sha1
  else if format = ObjectFormat.sha256.text then .ok .sha256
  else fail "unsupported repository object format"

def filemodeTrusted : Bool :=
  match git.configFilemode with
  | .ok output =>
      if stripBytes output = literal "true" ∨ stripBytes output = literal "false" then
        decide (stripBytes output = literal "true")
      else !git.windows
  | .error _ => !git.windows

def readIndex : Fallible (Dictionary Path ListedEntry) := do
  let raw ← orFail "git ls-files -s failed" git.lsFiles
  readRecords indexEntry "malformed git ls-files -s record" (raw.splitOn zero) []

def readUntracked : Fallible (List Path) := do
  let raw ← orFail "git ls-files --others failed" git.lsFilesOthers
  .ok ((raw.splitOn zero).filter fun token => decide (token ≠ []))

def readBaseTree (base : Text) : Fallible (Dictionary Path ListedEntry) := do
  let raw ← orFail "git ls-tree failed" (git.lsTree base)
  readRecords treeEntry "malformed git ls-tree record" (raw.splitOn zero) []

end GitCommands

theorem decodeAscii_eq_ok {value : Bytes} {s : Text} :
    decodeAscii value = .ok s ↔ value = asciiBytes s ∧ forall c, c ∈ s -> c.val < 128 := by
  have back : forall b : Utf8.Byte, Utf8.byte (Fin.castLE (by decide : 256 ≤ 0x110000) b).val = b :=
    fun b => Fin.ext (Nat.mod_eq_of_lt b.isLt)
  unfold decodeAscii
  constructor
  · intro decoded
    split at decoded
    · rename_i small
      rw [<- Except.ok.inj decoded]
      refine ⟨?_, fun c member => ?_⟩
      · rw [asciiBytes, List.map_map]
        exact (List.map_id'' back value).symm
      · rcases List.mem_map.mp member with ⟨b, within, rfl⟩
        exact of_decide_eq_true (List.all_eq_true.mp small b within)
    · cases decoded
  · rintro ⟨rfl, small⟩
    have bounded : (asciiBytes s).all (fun b => decide (b.val < 128)) = true := by
      refine List.all_eq_true.mpr fun b member => ?_
      rcases List.mem_map.mp member with ⟨c, within, rfl⟩
      have below := small c within
      exact decide_eq_true (by show c.val % 256 < 128; omega)
    rw [if_pos bounded, asciiBytes, List.map_map]
    refine congrArg Except.ok ((List.map_congr_left fun c member => ?_).trans (List.map_id _))
    have below := small c member
    exact Fin.ext (Nat.mod_eq_of_lt (by omega : c.val < 256))

/-- A record of three words and a path. -/
def spell (first second third : Bytes) (path : Path) : Bytes :=
  [blank].intercalate [first, second, third] ++ tab :: path

theorem mem_words {b : Utf8.Byte} {first second third : Bytes} :
    b ∈ [blank].intercalate [first, second, third] ↔
      b ∈ first ∨ b ∈ second ∨ b ∈ third ∨ b = blank := by
  simp only [List.intercalate_cons_cons, List.intercalate_singleton, List.mem_append,
    List.mem_cons, List.not_mem_nil, or_false]
  tauto

/-- Bytes that neither a blank nor a tab divides. -/
def Undivided (word : Bytes) : Prop :=
  blank ∉ word ∧ tab ∉ word

instance (word : Bytes) : Decidable (Undivided word) :=
  inferInstanceAs (Decidable (_ ∧ _))

theorem mem_spell {b : Utf8.Byte} {first second third : Bytes} {path : Path} :
    b ∈ spell first second third path ↔
      (b ∈ first ∨ b ∈ second ∨ b ∈ third ∨ b = blank) ∨ b = tab ∨ b ∈ path := by
  rw [spell, List.mem_append, mem_words, List.mem_cons]

/-- A record is accepted exactly if it is spelled so and its words are. -/
theorem readRecord_eq_ok {entryOf : Bytes -> Bytes -> Bytes -> Fallible ListedEntry}
    {malformed : String} {record : Bytes} {path : Path} {entry : ListedEntry} :
    readRecord entryOf malformed record = .ok (path, entry) ↔
      exists first second third, record = spell first second third path ∧
        (Undivided first ∧ Undivided second ∧ Undivided third) ∧
        entryOf first second third = .ok entry := by
  constructor
  · intro accepted
    unfold readRecord at accepted
    cases found : Lines.splitFirst tab record with
    | none =>
        rw [found] at accepted
        cases accepted
    | some parts =>
        rcases parts with ⟨metadata, own⟩
        rcases Lines.splitFirst_eq_some.mp found with ⟨shape, noTab⟩
        rw [found] at accepted
        dsimp only at accepted
        split at accepted
        · rename_i first second third words
          rcases (Lines.splitOn_eq_iff (by simp)).mp words with ⟨joined, noBlank⟩
          rcases bind_eq_ok.mp accepted with ⟨read, known, same⟩
          cases same
          rw [joined] at shape noTab
          rw [mem_words, not_or, not_or, not_or] at noTab
          exact ⟨first, second, third, shape, ⟨⟨noBlank _ (by simp), noTab.1⟩,
            ⟨noBlank _ (by simp), noTab.2.1⟩, ⟨noBlank _ (by simp), noTab.2.2.1⟩⟩, known⟩
        · cases accepted
  · rintro ⟨first, second, third, rfl, undivided, known⟩
    have noTab : tab ∉ [blank].intercalate [first, second, third] := by
      rw [mem_words, not_or, not_or, not_or]
      exact ⟨undivided.1.2, undivided.2.1.2, undivided.2.2.2, by decide⟩
    have words : ([blank].intercalate [first, second, third]).splitOn blank =
        [first, second, third] := by
      apply Lines.split_join (by simp)
      intro word member
      simp only [List.mem_cons, List.not_mem_nil, or_false] at member
      rcases member with rfl | rfl | rfl
      · exact undivided.1.1
      · exact undivided.2.1.1
      · exact undivided.2.2.1
    unfold readRecord spell
    rw [Lines.splitFirst_eq_some.mpr ⟨rfl, noTab⟩]
    dsimp only
    rw [words]
    dsimp only
    rw [known]
    rfl

/-- The dictionary of a listing: a path listed again keeps its last entry. -/
def assignAll (rows : List (Path × ListedEntry)) (entries : Dictionary Path ListedEntry) :
    Dictionary Path ListedEntry :=
  rows.foldl (fun entries row => entries.assign row.1 row.2) entries

/-- The records are accepted together exactly if each of them is. -/
theorem readRecords_eq_ok {entryOf : Bytes -> Bytes -> Bytes -> Fallible ListedEntry}
    {malformed : String} {records : List Bytes} {entries result : Dictionary Path ListedEntry} :
    readRecords entryOf malformed records entries = .ok result ↔
      exists rows, List.Forall₂ (fun record row => readRecord entryOf malformed record = .ok row)
        (records.filter fun record => decide (record ≠ [])) rows ∧
        result = assignAll rows entries := by
  induction records generalizing entries with
  | nil =>
      constructor
      · intro done
        exact ⟨[], .nil, (Except.ok.inj done).symm⟩
      · rintro ⟨rows, none, rfl⟩
        cases none
        rfl
  | cons record rest inductionHypothesis =>
      unfold readRecords
      by_cases empty : record = []
      · rw [if_pos empty, List.filter_cons_of_neg (by simpa using empty)]
        exact inductionHypothesis
      · rw [if_neg empty, List.filter_cons_of_pos (by simpa using empty), bind_eq_ok]
        constructor
        · rintro ⟨row, accepted, others⟩
          rcases inductionHypothesis.mp others with ⟨rows, read, same⟩
          exact ⟨row :: rows, .cons accepted read, same⟩
        · rintro ⟨rows, read, same⟩
          cases read with
          | cons accepted others =>
              exact ⟨_, accepted, inductionHypothesis.mpr ⟨_, others, same⟩⟩

/-- Records that are accepted one by one as rows of some kind are listings of such rows. -/
theorem readRecords_rows {ρ : Type} {entryOf : Bytes -> Bytes -> Bytes -> Fallible ListedEntry}
    {malformed : String} {recordOf : ρ -> Bytes} {listedOf : ρ -> Path × ListedEntry}
    (spelled : forall record, zero ∉ record -> forall row,
      readRecord entryOf malformed record = .ok row ↔
        exists r, record = recordOf r ∧ row = listedOf r)
    {raw : Bytes} {result : Dictionary Path ListedEntry} :
    readRecords entryOf malformed (raw.splitOn zero) [] = .ok result ↔
      exists rows : List ρ,
        ((raw.splitOn zero).filter fun record => decide (record ≠ [])) = rows.map recordOf ∧
        result = assignAll (rows.map listedOf) [] := by
  have free : forall record,
      record ∈ (raw.splitOn zero).filter (fun record => decide (record ≠ [])) -> zero ∉ record :=
    fun record member => ((Lines.splitOn_eq_iff (List.splitOn_ne_nil _ _)).mp rfl).2 record
      (List.mem_of_mem_filter member)
  rw [readRecords_eq_ok]
  generalize (raw.splitOn zero).filter (fun record => decide (record ≠ [])) = records at free
  constructor
  · rintro ⟨rows, read, rfl⟩
    have found : exists rs : List ρ, records = rs.map recordOf ∧ rows = rs.map listedOf := by
      induction read with
      | nil => exact ⟨[], rfl, rfl⟩
      | cons accepted _ inductionHypothesis =>
          rcases (spelled _ (free _ List.mem_cons_self) _).mp accepted with ⟨r, shape, same⟩
          rcases inductionHypothesis fun record member => free record (List.mem_cons_of_mem _ member)
            with ⟨rs, shapes, others⟩
          exact ⟨r :: rs, congrArg₂ List.cons shape shapes, congrArg₂ List.cons same others⟩
    rcases found with ⟨rs, shapes, same⟩
    exact ⟨rs, shapes, by rw [same]⟩
  · rintro ⟨rows, rfl, rfl⟩
    refine ⟨rows.map listedOf, ?_, rfl⟩
    rw [List.forall₂_map_left_iff, List.forall₂_map_right_iff, List.forall₂_same]
    exact fun r member => (spelled _ (free _ (List.mem_map_of_mem member)) _).mpr ⟨r, rfl, rfl⟩

/-! ## Rows -/

/-- A word of a row: in ASCII, without a zero byte, a tab or a blank. -/
def Word (s : Text) : Prop :=
  forall c, c ∈ s -> c.val < 128 ∧ c.val ≠ 0 ∧ c.val ≠ 9 ∧ c.val ≠ 32

instance (s : Text) : Decidable (Word s) :=
  inferInstanceAs (Decidable (forall c, c ∈ s -> _))

/-- What Git lists about a path. -/
structure Row where
  mode : Text
  objectId : Text
  path : Path
  mode_word : Word mode
  objectId_word : Word objectId
  path_free : zero ∉ path

namespace Row

def listed (row : Row) : Path × ListedEntry :=
  (row.path, row.mode, row.objectId)

/-- The record of a merged index entry. -/
def indexRecord (row : Row) : Bytes :=
  spell (asciiBytes row.mode) (asciiBytes row.objectId) (literal "0") row.path

end Row

theorem byte_mem_asciiBytes {s : Text} (small : forall c, c ∈ s -> c.val < 128) {n : Nat}
    (below : n < 128) : Utf8.byte n ∈ asciiBytes s ↔ exists c, c ∈ s ∧ c.val = n := by
  constructor
  · intro member
    rcases List.mem_map.mp member with ⟨c, within, same⟩
    have value := byte_inj same
    have bounded := small c within
    exact ⟨c, within, by omega⟩
  · rintro ⟨c, within, rfl⟩
    exact List.mem_map.mpr ⟨c, within, rfl⟩

/-- The words are the texts that can stand in a record. -/
theorem word_iff {s : Text} :
    Word s ↔ (forall c, c ∈ s -> c.val < 128) ∧ Undivided (asciiBytes s) ∧ zero ∉ asciiBytes s := by
  constructor
  · intro word
    have small : forall c, c ∈ s -> c.val < 128 := fun c member => (word c member).1
    refine ⟨small, ⟨?_, ?_⟩, ?_⟩
    · intro member
      rcases (byte_mem_asciiBytes small (by decide)).mp member with ⟨c, within, same⟩
      exact (word c within).2.2.2 same
    · intro member
      rcases (byte_mem_asciiBytes small (by decide)).mp member with ⟨c, within, same⟩
      exact (word c within).2.2.1 same
    · intro member
      rcases (byte_mem_asciiBytes small (by decide)).mp member with ⟨c, within, same⟩
      exact (word c within).2.1 same
  · rintro ⟨small, ⟨noBlank, noTab⟩, noZero⟩ c member
    have absent {n : Nat} (below : n < 128) (none : Utf8.byte n ∉ asciiBytes s) : c.val ≠ n :=
      fun same => none ((byte_mem_asciiBytes small below).mpr ⟨c, member, same⟩)
    exact ⟨small c member, absent (by decide) noZero, absent (by decide) noTab,
      absent (by decide) noBlank⟩

theorem decodeEntry_eq_ok {mode objectId : Bytes} {entry : ListedEntry} :
    decodeEntry mode objectId = .ok entry ↔
      decodeAscii mode = .ok entry.1 ∧ decodeAscii objectId = .ok entry.2 := by
  unfold decodeEntry
  constructor
  · intro done
    rcases bind_eq_ok.mp done with ⟨first, known, others⟩
    rcases bind_eq_ok.mp others with ⟨second, known', same⟩
    cases same
    exact ⟨known, known'⟩
  · rintro ⟨first, second⟩
    exact bind_eq_ok.mpr ⟨_, first, bind_eq_ok.mpr ⟨_, second, rfl⟩⟩

/-- The words that are decoded are the words of a row. -/
theorem decodeEntry_words {mode objectId : Bytes} {entry : ListedEntry}
    (undivided : Undivided mode ∧ Undivided objectId) (free : zero ∉ mode ∧ zero ∉ objectId)
    (known : decodeEntry mode objectId = .ok entry) :
    (Word entry.1 ∧ Word entry.2) ∧ mode = asciiBytes entry.1 ∧ objectId = asciiBytes entry.2 := by
  rcases decodeEntry_eq_ok.mp known with ⟨first, second⟩
  rcases decodeAscii_eq_ok.mp first with ⟨rfl, small⟩
  rcases decodeAscii_eq_ok.mp second with ⟨rfl, small'⟩
  exact ⟨⟨word_iff.mpr ⟨small, undivided.1, free.1⟩, word_iff.mpr ⟨small', undivided.2, free.2⟩⟩,
    rfl, rfl⟩

/-- The words of a row are decoded. -/
theorem Row.decoded (row : Row) :
    decodeEntry (asciiBytes row.mode) (asciiBytes row.objectId) = .ok (row.mode, row.objectId) :=
  decodeEntry_eq_ok.mpr ⟨decodeAscii_eq_ok.mpr ⟨rfl, (word_iff.mp row.mode_word).1⟩,
    decodeAscii_eq_ok.mpr ⟨rfl, (word_iff.mp row.objectId_word).1⟩⟩

@[simp] theorem orFail_eq_ok {α : Type} {message : String} {printed : Except String α} {value : α} :
    orFail message printed = .ok value ↔ printed = .ok value := by
  cases printed with
  | error detail => simp [orFail, fail]
  | ok own => simp [orFail]

/-- An index record is accepted exactly if it is that of a merged entry. -/
theorem readRecord_index {malformed : String} (record : Bytes) (free : zero ∉ record)
    (listed : Path × ListedEntry) :
    readRecord indexEntry malformed record = .ok listed ↔
      exists row : Row, record = row.indexRecord ∧ listed = row.listed := by
  rcases listed with ⟨path, entry⟩
  rw [readRecord_eq_ok]
  constructor
  · rintro ⟨mode, objectId, stage, rfl, undivided, known⟩
    unfold indexEntry at known
    split at known
    · cases known
    · rename_i merged
      rw [mem_spell] at free
      simp only [not_or] at free
      rcases decodeEntry_words ⟨undivided.1, undivided.2.1⟩ ⟨free.1.1, free.1.2.1⟩ known with
        ⟨words, rfl, rfl⟩
      rw [not_not.mp merged]
      exact ⟨⟨entry.1, entry.2, path, words.1, words.2, free.2.2⟩, rfl, rfl⟩
  · rintro ⟨row, rfl, same⟩
    cases same
    refine ⟨_, _, _, rfl, ⟨(word_iff.mp row.mode_word).2.1, (word_iff.mp row.objectId_word).2.1,
      by decide⟩, ?_⟩
    unfold indexEntry
    rw [if_neg (not_not.mpr rfl)]
    exact row.decoded

/-- A row of a tree. -/
structure TreeRow extends Row where
  kind : Bytes
  kind_undivided : Undivided kind
  kind_free : zero ∉ kind

/-- The record of an entry of a tree, whose kind is not read. -/
def TreeRow.record (row : TreeRow) : Bytes :=
  spell (asciiBytes row.mode) row.kind (asciiBytes row.objectId) row.path

theorem readRecord_tree {malformed : String} (record : Bytes) (free : zero ∉ record)
    (listed : Path × ListedEntry) :
    readRecord treeEntry malformed record = .ok listed ↔
      exists row : TreeRow, record = row.record ∧ listed = row.listed := by
  rcases listed with ⟨path, entry⟩
  rw [readRecord_eq_ok]
  constructor
  · rintro ⟨mode, kind, objectId, rfl, undivided, known⟩
    rw [mem_spell] at free
    simp only [not_or] at free
    rcases decodeEntry_words ⟨undivided.1, undivided.2.2⟩ ⟨free.1.1, free.1.2.2.1⟩ known with
      ⟨words, rfl, rfl⟩
    exact ⟨⟨⟨entry.1, entry.2, path, words.1, words.2, free.2.2⟩, kind, undivided.2.1,
      free.1.2.1⟩, rfl, rfl⟩
  · rintro ⟨row, rfl, same⟩
    cases same
    exact ⟨_, _, _, rfl, ⟨(word_iff.mp row.mode_word).2.1, row.kind_undivided,
      (word_iff.mp row.objectId_word).2.1⟩, row.decoded⟩

/-- The index is read exactly if every record is that of a merged entry, and
then it holds every one of them. -/
theorem readIndex_eq_ok {git : GitCommands} {index : Dictionary Path ListedEntry} :
    git.readIndex = .ok index ↔
      exists raw, git.lsFiles = .ok raw ∧ exists rows : List Row,
        ((raw.splitOn zero).filter fun record => decide (record ≠ [])) =
          rows.map Row.indexRecord ∧
        index = assignAll (rows.map Row.listed) [] := by
  unfold GitCommands.readIndex
  rw [bind_eq_ok]
  exact exists_congr fun raw => and_congr orFail_eq_ok (readRecords_rows readRecord_index)

/-- The tree of the base is read exactly if every record is well formed. -/
theorem readBaseTree_eq_ok {git : GitCommands} {base : Text} {tree : Dictionary Path ListedEntry} :
    git.readBaseTree base = .ok tree ↔
      exists raw, git.lsTree base = .ok raw ∧ exists rows : List TreeRow,
        ((raw.splitOn zero).filter fun record => decide (record ≠ [])) =
          rows.map TreeRow.record ∧
        tree = assignAll (rows.map fun row => row.listed) [] := by
  unfold GitCommands.readBaseTree
  rw [bind_eq_ok]
  exact exists_congr fun raw => and_congr orFail_eq_ok (readRecords_rows readRecord_tree)

/-- The base is resolved exactly if the repository is a working tree in which
it names an ancestor of `HEAD`. -/
theorem resolveBase_eq_ok {git : GitCommands} {expected base : Text} :
    git.resolveBase expected = .ok base ↔
      (exists inside, git.revParseInside = .ok inside ∧ stripBytes inside = literal "true") ∧
      (exists named, git.revParseVerify expected = .ok (asciiBytes named) ∧
        (forall c, c ∈ named -> c.val < 128) ∧ base = strip named) ∧
      git.isAncestor base = true := by
  unfold GitCommands.resolveBase
  simp only [bind_eq_ok, orFail_eq_ok]
  constructor
  · rintro ⟨inside, printed, resolved⟩
    split at resolved
    · cases resolved
    · rename_i within
      rcases bind_eq_ok.mp resolved with ⟨output, verified, more⟩
      rcases bind_eq_ok.mp more with ⟨named, decoded, checked⟩
      rcases decodeAscii_eq_ok.mp decoded with ⟨rfl, small⟩
      split at checked
      · cases checked
      · rename_i ancestor
        cases checked
        exact ⟨⟨inside, printed, not_not.mp within⟩,
          ⟨named, orFail_eq_ok.mp verified, small, rfl⟩, Bool.not_eq_false _ ▸ ancestor⟩
  · rintro ⟨⟨inside, printed, within⟩, ⟨named, verified, small, rfl⟩, ancestor⟩
    refine ⟨inside, printed, ?_⟩
    rw [if_neg (not_not.mpr within)]
    refine bind_eq_ok.mpr ⟨_, orFail_eq_ok.mpr verified, bind_eq_ok.mpr
      ⟨named, decodeAscii_eq_ok.mpr ⟨rfl, small⟩, ?_⟩⟩
    rw [if_neg (by rw [ancestor]; exact Bool.noConfusion)]

theorem objectFormat_eq_ok {git : GitCommands} {format : ObjectFormat}
    (read : git.objectFormat = .ok format) :
    exists printed, git.showObjectFormat = .ok (asciiBytes printed) ∧ strip printed = format.text := by
  unfold GitCommands.objectFormat at read
  rcases bind_eq_ok.mp read with ⟨output, shown, more⟩
  rcases bind_eq_ok.mp more with ⟨printed, decoded, checked⟩
  rcases decodeAscii_eq_ok.mp decoded with ⟨rfl, _⟩
  refine ⟨printed, orFail_eq_ok.mp shown, ?_⟩
  dsimp only at checked
  split at checked
  · cases checked
    assumption
  · split at checked
    · cases checked
      assumption
    · cases checked

end Candidate
end HermesSentinel
