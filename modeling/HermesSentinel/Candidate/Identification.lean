import HermesSentinel.Candidate.EffectiveEntries
import HermesSentinel.Foundation.Alike
import HermesSentinel.Foundation.SelfDelimiting

namespace HermesSentinel
namespace Candidate

open Python
open Foundation

/-!
# What the fingerprint identifies

The bytes that are hashed are a sequence of records, one for each path at which
the effective tree differs from the base.  The records delimit themselves, so
the bytes determine the records; and the records determine the tree, because a
path without one is as it is in the base.
-/

theorem byte_inj {m n : Nat} (same : Utf8.byte m = Utf8.byte n) : m % 256 = n % 256 :=
  congrArg Fin.val same

/-- Eight bytes determine a number below `256 ^ 8`. -/
theorem bigEndian_injective {m n : Nat} {word : Bytes} (first : bigEndian m = .ok word)
    (second : bigEndian n = .ok word) : m = n := by
  unfold bigEndian at first second
  split at first
  · rename_i small
    split at second
    · rename_i small'
      have same := (Except.ok.inj first).trans (Except.ok.inj second).symm
      have digits : forall position, position < 8 ->
          m / 256 ^ position % 256 = n / 256 ^ position % 256 := by
        intro position inside
        have member : position ∈ (List.range 8).reverse :=
          List.mem_reverse.mpr (List.mem_range.mpr inside)
        exact byte_inj (List.map_inj_left.mp same position member)
      have upTo : forall width, width ≤ 8 -> m % 256 ^ width = n % 256 ^ width := by
        intro width
        induction width with
        | zero =>
            intro _
            rw [Nat.pow_zero, Nat.mod_one, Nat.mod_one]
        | succ width inductionHypothesis =>
            intro inside
            rw [Nat.mod_pow_succ, Nat.mod_pow_succ, inductionHypothesis (by omega),
              digits width (by omega)]
      have whole := upTo 8 (le_refl 8)
      rwa [Nat.mod_eq_of_lt small, Nat.mod_eq_of_lt small'] at whole
    · cases second
  · cases first

theorem bigEndian_length {n : Nat} {word : Bytes} (encoded : bigEndian n = .ok word) :
    word.length = 8 := by
  unfold bigEndian at encoded
  split at encoded
  · cases encoded
    rw [List.length_map, List.length_reverse, List.length_range]
  · cases encoded

/-- A field delimits itself by the length before it. -/
theorem selfDelimiting_field : SelfDelimiting fun data word => field data = .ok word := by
  have sizes : SelfDelimiting fun n word => bigEndian n = .ok word :=
    SelfDelimiting.of_width (fun _ _ => bigEndian_length) fun _ _ _ => bigEndian_injective
  have fields : forall data word, field data = .ok word ->
      exists size, bigEndian data.length = .ok size ∧ word = size ++ data := by
    intro data word encoded
    rcases bind_eq_ok.mp encoded with ⟨size, counted, joined⟩
    exact ⟨size, counted, (Except.ok.inj joined).symm⟩
  intro data data' word word' r s first second
  exact sizes.counted data data' word word' r s (fields _ _ first) (fields _ _ second)

theorem asciiBytes_injective {s t : Text} (small : forall c, c ∈ s -> c.val < 128)
    (small' : forall c, c ∈ t -> c.val < 128) (spelled : asciiBytes s = asciiBytes t) : s = t := by
  induction s generalizing t with
  | nil => exact (List.map_eq_nil_iff.mp spelled.symm).symm
  | cons c rest inductionHypothesis =>
      cases t with
      | nil => cases spelled
      | cons d others =>
          rw [asciiBytes, asciiBytes, List.map_cons, List.map_cons, List.cons.injEq] at spelled
          have value := byte_inj spelled.1
          have below := small c List.mem_cons_self
          have below' := small' d List.mem_cons_self
          rw [Nat.mod_eq_of_lt (by omega), Nat.mod_eq_of_lt (by omega)] at value
          have remaining : rest = others := inductionHypothesis
            (fun e member => small e (List.mem_cons_of_mem c member))
            (fun e member => small' e (List.mem_cons_of_mem d member)) spelled.2
          rw [Fin.ext value, remaining]

theorem encodeAscii_injective {s t : Text} {word : Bytes} (first : encodeAscii s = .ok word)
    (second : encodeAscii t = .ok word) : s = t := by
  have ascii : forall {u : Text}, encodeAscii u = .ok word ->
      (forall c, c ∈ u -> c.val < 128) ∧ asciiBytes u = word := by
    intro u encoded
    unfold encodeAscii at encoded
    split at encoded
    · rename_i small
      exact ⟨fun c member => of_decide_eq_true (List.all_eq_true.mp small c member),
        Except.ok.inj encoded⟩
    · cases encoded
  rcases ascii first with ⟨small, spelled⟩
  rcases ascii second with ⟨small', spelled'⟩
  exact asciiBytes_injective small small' (spelled.trans spelled'.symm)

/-- A path with what the fingerprint says about it: deleted, or an entry. -/
abbrev Record := Path × Option Entry

/-- The word of a record. -/
def Spelled (record : Record) (word : Bytes) : Prop :=
  exists name, field record.1 = .ok name ∧
    match record.2 with
    | none => word = literal "D" ++ name
    | some (mode, contentId) => exists id content, encodeAscii contentId = .ok id ∧
        field id = .ok content ∧ word = literal "F" ++ (name ++ (asciiBytes mode.text ++ content))

theorem chunk_eq_ok {files : Entries} {path : Path} {word : Bytes} :
    chunk files path = .ok word ↔ Spelled (path, files.get path) word := by
  rw [chunk, bind_eq_ok, Spelled]
  apply exists_congr
  intro name
  apply and_congr_right
  intro _
  dsimp only
  cases files.get path with
  | none => exact ⟨fun same => (Except.ok.inj same).symm, fun same => congrArg Except.ok same.symm⟩
  | some entry =>
      dsimp only
      constructor
      · intro built
        rcases bind_eq_ok.mp built with ⟨id, encoded, built⟩
        rcases bind_eq_ok.mp built with ⟨content, counted, joined⟩
        refine ⟨id, content, encoded, counted, ?_⟩
        rw [<- Except.ok.inj joined, List.append_assoc, List.append_assoc]
      · rintro ⟨id, content, encoded, counted, rfl⟩
        refine bind_eq_ok.mpr ⟨id, encoded, bind_eq_ok.mpr ⟨content, counted, ?_⟩⟩
        rw [List.append_assoc, List.append_assoc]

theorem mode_of_text {mode mode' : GitMode} {r s : Bytes}
    (same : asciiBytes mode.text ++ r = asciiBytes mode'.text ++ s) : mode = mode' ∧ r = s := by
  have width : forall mode : GitMode, (asciiBytes mode.text).length = 6 := by
    intro mode
    cases mode <;> rfl
  rcases List.append_inj same (by rw [width, width]) with ⟨texts, rest⟩
  refine ⟨?_, rest⟩
  revert texts
  cases mode <;> cases mode' <;> decide

theorem selfDelimiting_records : SelfDelimiting Spelled := by
  have marks : forall r s : Bytes, literal "D" ++ r ≠ literal "F" ++ s := by
    intro r s same
    have heads : literal "D" = literal "F" := (List.append_inj same rfl).1
    revert heads
    decide
  rintro ⟨path, found⟩ ⟨path', found'⟩ x y r s ⟨name, named, first⟩ ⟨name', named', second⟩ same
  cases found with
  | none =>
      cases found' with
      | none =>
          dsimp only at first second
          rw [first, second, List.append_assoc, List.append_assoc] at same
          have names := List.append_cancel_left same
          rcases selfDelimiting_field _ _ _ _ _ _ named named' names with ⟨rfl, rest⟩
          exact ⟨rfl, rest⟩
      | some entry' =>
          rcases second with ⟨_, _, _, _, rfl⟩
          dsimp only at first
          rw [first, List.append_assoc, List.append_assoc] at same
          exact absurd same (marks _ _)
  | some entry =>
      rcases first with ⟨id, content, encoded, counted, rfl⟩
      cases found' with
      | none =>
          dsimp only at second
          rw [second, List.append_assoc, List.append_assoc] at same
          exact absurd same.symm (marks _ _)
      | some entry' =>
          rcases second with ⟨id', content', encoded', counted', rfl⟩
          simp only [List.append_assoc] at same
          have names := List.append_cancel_left same
          rcases selfDelimiting_field _ _ _ _ _ _ named named' names with ⟨rfl, modes⟩
          rcases mode_of_text modes with ⟨sameMode, contents⟩
          rcases selfDelimiting_field _ _ _ _ _ _ counted counted' contents with ⟨rfl, rest⟩
          have ids := encodeAscii_injective encoded encoded'
          rw [show entry = entry' from Prod.ext sameMode ids]
          exact ⟨rfl, rest⟩

theorem not_spelled_nil (record : Record) : ¬ Spelled record [] := by
  rintro ⟨name, _, spelled⟩
  split at spelled
  · cases spelled
  · rcases spelled with ⟨_, _, _, _, impossible⟩
    cases impossible

theorem mapM_eq_ok {α β : Type} {f : α -> Fallible β} {xs : List α} {ys : List β} :
    xs.mapM f = .ok ys ↔ List.Forall₂ (fun x y => f x = .ok y) xs ys := by
  induction xs generalizing ys with
  | nil =>
      rw [List.mapM_nil, List.forall₂_nil_left_iff]
      exact ⟨fun same => (Except.ok.inj same).symm, fun same => congrArg Except.ok same.symm⟩
  | cons x rest inductionHypothesis =>
      rw [List.mapM_cons, bind_eq_ok]
      constructor
      · rintro ⟨y, found, more⟩
        rcases bind_eq_ok.mp more with ⟨others, founds, joined⟩
        rw [<- Except.ok.inj joined]
        exact .cons found (inductionHypothesis.mp founds)
      · rintro (_ | ⟨found, founds⟩)
        exact ⟨_, found, bind_eq_ok.mpr ⟨_, inductionHypothesis.mpr founds, rfl⟩⟩

/-! ## The difference from the base -/

/-- The present entries that differ from the base, `files` in the source. -/
def differing (baseTree present : Entries) : Entries :=
  present.filter fun entry => decide (baseTree.get entry.1 ≠ some entry.2)

/-- The paths of the base that are gone, `deleted` in the source. -/
def missing (baseTree present : Entries) : List Path :=
  baseTree.keys.filter fun path => (present.get path).isNone

/-- The bytes that are hashed for a tree over its base. -/
def representation (base : Text) (format : ObjectFormat) (baseTree present : Entries) :
    Fallible Bytes :=
  buildRepresentation base format (missing baseTree present) (differing baseTree present)

theorem fingerprint_eq (repo : Repository) (expectedBase : Text) :
    fingerprint repo expectedBase = (do
      let base ← repo.resolveBase expectedBase
      let format ← repo.objectFormat
      let index ← repo.readIndex
      let untracked ← repo.readUntracked
      let baseTree ← repo.readBaseTree base
      let present ← effectiveEntries repo.tree index untracked repo.filemodeTrusted format
      let bytes ← representation base format baseTree present
      .ok (repo.tree.hexDigest .sha256 bytes)) := by
  unfold fingerprint
  refine bind_congr fun base => bind_congr fun format => bind_congr fun index =>
    bind_congr fun untracked => bind_congr fun baseTree => bind_congr fun present => ?_
  have gone : forall path, decide (path ∉ present.keys) = (present.get path).isNone := by
    intro path
    rw [Bool.eq_iff_iff, decide_eq_true_iff, Dictionary.mem_keys_iff, not_not, Option.isNone_iff_eq_none]
  simp only [representation, missing, differing, gone]

/-- Entries with one entry for a path. -/
structure EntryMap where
  entries : Entries
  distinct : entries.keys.Nodup

/-- The records of a tree over its base. -/
def records (baseTree present : Entries) : List Record :=
  (sortedSet (missing baseTree present ++ (differing baseTree present).keys)).map fun path =>
    (path, (differing baseTree present).get path)

theorem mem_missing {baseTree present : Entries} {path : Path} :
    path ∈ missing baseTree present ↔ baseTree.get path ≠ none ∧ present.get path = none := by
  rw [missing, List.mem_filter, Dictionary.mem_keys_iff, Option.isNone_iff_eq_none]

section Difference

variable {baseTree : Entries} {present : EntryMap}

theorem get_differing (path : Path) :
    (differing baseTree present.entries).get path =
      if present.entries.get path = baseTree.get path then none else present.entries.get path := by
  rw [differing, Dictionary.get_filter present.distinct]
  cases present.entries.get path with
  | none =>
      rw [Option.filter_none]
      split
      · rfl
      · rfl
  | some entry =>
      rw [Option.filter_some]
      by_cases same : some entry = baseTree.get path
      · rw [if_pos same, if_neg (by simp [same])]
      · rw [if_neg same, if_pos (decide_eq_true (Ne.symm same))]

/-- There is a record for the paths at which the tree differs from its base. -/
theorem mem_recorded (path : Path) :
    path ∈ missing baseTree present.entries ++ (differing baseTree present.entries).keys ↔
      present.entries.get path ≠ baseTree.get path := by
  rw [List.mem_append, mem_missing, Dictionary.mem_keys_iff, get_differing]
  by_cases same : present.entries.get path = baseTree.get path
  · rw [if_pos same, same]
    constructor
    · rintro (⟨kept, absent⟩ | impossible)
      · exact absurd absent kept
      · exact absurd rfl impossible
    · intro different
      exact absurd rfl different
  · rw [if_neg same]
    constructor
    · intro _
      exact same
    · intro _
      cases found : present.entries.get path with
      | none =>
          rw [found] at same
          exact .inl ⟨Ne.symm same, rfl⟩
      | some entry => exact .inr (Option.some_ne_none entry)

theorem mem_records (record : Record) :
    record ∈ records baseTree present.entries ↔
      present.entries.get record.1 ≠ baseTree.get record.1 ∧
        record.2 = present.entries.get record.1 := by
  rw [records, List.mem_map]
  constructor
  · rintro ⟨path, member, rfl⟩
    have different := (mem_recorded path).mp (mem_sortedSet.mp member)
    refine ⟨different, ?_⟩
    dsimp only
    rw [get_differing, if_neg different]
  · rintro ⟨different, found⟩
    refine ⟨record.1, mem_sortedSet.mpr ((mem_recorded record.1).mpr different), ?_⟩
    rw [get_differing, if_neg different, <- found]

end Difference

/-- The effective entries of a run are such a map. -/
theorem effectiveEntries_distinct {tree : WorkTree} {index : Entries} {untracked : List Path}
    {trusted : Bool} {format : ObjectFormat} {entries : Entries}
    (found : effectiveEntries tree index untracked trusted format = .ok entries) :
    entries.keys.Nodup := by
  have hashed : forall (regularPaths : Dictionary Path Bool) (before after : Entries),
      hashRegular tree regularPaths before = .ok after -> before.keys.Nodup -> after.keys.Nodup := by
    intro regularPaths
    induction regularPaths with
    | nil =>
        intro before after done distinct
        cases done
        exact distinct
    | cons file rest inductionHypothesis =>
        intro before after done distinct
        rcases bind_eq_ok.mp done with ⟨id, _, more⟩
        exact inductionHypothesis _ _ more (Dictionary.keys_assign_nodup distinct _ _)
  have surveyed : forall (look : Path -> Fallible Finding) (paths : List Path) (before : Entries)
      (files : Dictionary Path Bool) (after : Entries × Dictionary Path Bool),
      survey look paths before files = .ok after -> before.keys.Nodup -> after.1.keys.Nodup := by
    intro look paths
    induction paths with
    | nil =>
        intro before files after done distinct
        cases done
        exact distinct
    | cons path rest inductionHypothesis =>
        intro before files after done distinct
        rcases bind_eq_ok.mp done with ⟨finding, _, more⟩
        cases finding with
        | nothing => exact inductionHypothesis _ _ _ more distinct
        | entry entry => exact inductionHypothesis _ _ _ more (Dictionary.keys_assign_nodup distinct _ _)
        | file executable => exact inductionHypothesis _ _ _ more distinct
  rcases bind_eq_ok.mp found with ⟨⟨known, files⟩, first, more⟩
  have distinct := surveyed _ _ _ _ _ first List.nodup_nil
  dsimp only at more
  split at more
  · cases more
    exact distinct
  · rcases bind_eq_ok.mp more with ⟨_, _, last⟩
    exact hashed _ _ _ last distinct

/-- The records determine the tree. -/
theorem same_of_records {baseTree : Entries} {present present' : EntryMap}
    (equal : records baseTree present.entries = records baseTree present'.entries) :
    Dictionary.Same present.entries present'.entries := by
  intro path
  by_cases asBase : present.entries.get path = baseTree.get path
  · by_contra different
    have changed : present'.entries.get path ≠ baseTree.get path :=
      fun alsoAsBase => different (asBase.trans alsoAsBase.symm)
    have member : (path, present'.entries.get path) ∈ records baseTree present'.entries :=
      (mem_records _).mpr ⟨changed, rfl⟩
    rw [<- equal] at member
    exact ((mem_records _).mp member).1 asBase
  · have member : (path, present.entries.get path) ∈ records baseTree present.entries :=
      (mem_records _).mpr ⟨asBase, rfl⟩
    rw [equal] at member
    exact ((mem_records _).mp member).2

def header (encodedBase : Bytes) (format : ObjectFormat) : Bytes :=
  literal "candidate-fingerprint 3" ++ literal "\x00" ++ literal "base " ++ encodedBase ++
    literal "\x00" ++ literal "objfmt " ++ asciiBytes format.text ++ literal "\x00"

theorem representation_eq_ok {base : Text} {format : ObjectFormat} {baseTree present : Entries}
    {bytes : Bytes} :
    representation base format baseTree present = .ok bytes ↔
      exists encodedBase words, encodeAscii base = .ok encodedBase ∧
        List.Forall₂ Spelled (records baseTree present) words ∧
        bytes = header encodedBase format ++ words.flatten := by
  rw [representation, buildRepresentation, bind_eq_ok, records]
  apply exists_congr
  intro encodedBase
  simp only [List.forall₂_map_left_iff, <- chunk_eq_ok, <- mapM_eq_ok]
  constructor
  · rintro ⟨encoded, more⟩
    rcases bind_eq_ok.mp more with ⟨words, chunks, joined⟩
    exact ⟨words, encoded, chunks, (Except.ok.inj joined).symm⟩
  · rintro ⟨words, encoded, chunks, rfl⟩
    exact ⟨encoded, bind_eq_ok.mpr ⟨words, chunks, rfl⟩⟩

/-- The records, one by one. -/
theorem representation_congr {base : Text} {format : ObjectFormat}
    {baseTree baseTree' present present' : Entries}
    (paths : forall path, path ∈ missing baseTree present ++ (differing baseTree present).keys ↔
      path ∈ missing baseTree' present' ++ (differing baseTree' present').keys)
    (files : forall path, (differing baseTree present).get path =
      (differing baseTree' present').get path) :
    representation base format baseTree present = representation base format baseTree' present' := by
  have chunks : chunk (differing baseTree present) = chunk (differing baseTree' present') := by
    funext path
    unfold chunk
    rw [files path]
  unfold representation buildRepresentation
  rw [sortedSet_congr paths, chunks]

theorem representation_total {base : Text} {format : ObjectFormat} {baseTree : Entries}
    {present : EntryMap} {encodedBase : Bytes} (encoded : encodeAscii base = .ok encodedBase)
    (spelled : forall record, record ∈ records baseTree present.entries ->
      exists word, Spelled record word) :
    exists bytes, representation base format baseTree present.entries = .ok bytes := by
  have words : forall list : List Record, (forall record, record ∈ list ->
      exists word, Spelled record word) -> exists words, List.Forall₂ Spelled list words := by
    intro list
    induction list with
    | nil =>
        intro _
        exact ⟨[], .nil⟩
    | cons record rest inductionHypothesis =>
        intro each
        rcases each record List.mem_cons_self with ⟨word, first⟩
        rcases inductionHypothesis fun other member =>
          each other (List.mem_cons_of_mem record member) with ⟨others, later⟩
        exact ⟨word :: others, .cons first later⟩
  rcases words _ spelled with ⟨list, each⟩
  exact ⟨_, representation_eq_ok.mpr ⟨encodedBase, list, encoded, each, rfl⟩⟩

/-- The bytes determine the records. -/
theorem records_of_representation {base : Text} {format : ObjectFormat}
    {baseTree present present' : Entries} {bytes : Bytes}
    (first : representation base format baseTree present = .ok bytes)
    (second : representation base format baseTree present' = .ok bytes) :
    records baseTree present = records baseTree present' := by
  rcases representation_eq_ok.mp first with ⟨encodedBase, words, encoded, spelled, shape⟩
  rcases representation_eq_ok.mp second with ⟨encodedBase', words', encoded', spelled', shape'⟩
  rw [encoded] at encoded'
  cases encoded'
  exact selfDelimiting_records.flatten_injective not_spelled_nil spelled spelled'
    (List.append_cancel_left (shape.symm.trans shape'))

/-- Two readings of one repository, whatever the order in which the index, the
untracked paths and the base are listed. -/
structure SameRepository (repo repo' : Repository) : Prop where
  tree : repo.tree = repo'.tree
  resolveBase : repo.resolveBase = repo'.resolveBase
  objectFormat : repo.objectFormat = repo'.objectFormat
  readIndex : Alike Dictionary.Same repo.readIndex repo'.readIndex
  readUntracked : Alike (fun paths paths' => forall path : Path, path ∈ paths ↔ path ∈ paths')
    repo.readUntracked repo'.readUntracked
  readBaseTree : forall base, Alike Dictionary.Same (repo.readBaseTree base) (repo'.readBaseTree base)
  filemodeTrusted : repo.filemodeTrusted = repo'.filemodeTrusted

theorem effectiveEntries_order {tree : WorkTree} {index index' : Entries}
    {untracked untracked' : List Path} {trusted : Bool} {format : ObjectFormat}
    (sameIndex : Dictionary.Same index index')
    (samePaths : forall path, path ∈ untracked ↔ path ∈ untracked') :
    effectiveEntries tree index untracked trusted format =
      effectiveEntries tree index' untracked' trusted format := by
  apply effectiveEntries_congr
  intro path
  have listed : Listed index untracked path ↔ Listed index' untracked' path := by
    unfold Listed
    rw [Dictionary.mem_keys_iff, Dictionary.mem_keys_iff, sameIndex path, samePaths path]
  by_cases inside : Listed index untracked path
  · rw [finding_listed inside, finding_listed (listed.mp inside)]
    exact examine_congr (sameIndex path)
  · rw [finding_unlisted inside, finding_unlisted fun other => inside (listed.mpr other)]

theorem representation_order {base : Text} {format : ObjectFormat} {baseTree baseTree' : Entries}
    (same : Dictionary.Same baseTree baseTree') (present : Entries) :
    representation base format baseTree present = representation base format baseTree' present := by
  have files : differing baseTree present = differing baseTree' present := by
    unfold differing
    apply List.filter_congr
    intro entry _
    rw [same entry.1]
  apply representation_congr
  · intro path
    rw [List.mem_append, List.mem_append, mem_missing, mem_missing, same path, files]
  · intro path
    rw [files]

/-- The fingerprint does not depend on the order of enumeration. -/
theorem fingerprint_order {repo repo' : Repository} (same : SameRepository repo repo')
    (expectedBase : Text) : fingerprint repo expectedBase = fingerprint repo' expectedBase := by
  rw [fingerprint_eq, fingerprint_eq, same.tree, same.resolveBase, same.objectFormat,
    same.filemodeTrusted]
  apply bind_congr
  intro base
  apply bind_congr
  intro format
  rcases same.readIndex.ends with ⟨index, index', read, read', sameIndex⟩ | ⟨e, failed, failed'⟩
  · rcases same.readUntracked.ends with
      ⟨untracked, untracked', list, list', samePaths⟩ | ⟨e, failed, failed'⟩
    · rcases (same.readBaseTree base).ends with
        ⟨baseTree, baseTree', tree, tree', sameTree⟩ | ⟨e, failed, failed'⟩
      · rw [read, read', list, list', tree, tree']
        simp only [ok_bind, effectiveEntries_order sameIndex samePaths, representation_order sameTree]
      · rw [read, read', list, list', failed, failed']
        rfl
    · rw [read, read', failed, failed']
      rfl
  · rw [failed, failed']
    rfl

/-- Over one base, two trees are hashed as the same bytes exactly if they are
the same map; neither the bytes nor the fingerprint depend on the order in
which the entries are enumerated. -/
theorem representation_identifies (base : Text) (format : ObjectFormat) (baseTree : Entries) :
    (forall (present present' : EntryMap) (bytes bytes' : Bytes),
      representation base format baseTree present.entries = .ok bytes ->
        representation base format baseTree present'.entries = .ok bytes' ->
          (bytes = bytes' ↔ Dictionary.Same present.entries present'.entries)) ∧
    (forall (baseTree' : Entries) (present present' : EntryMap), Dictionary.Same baseTree baseTree' ->
      Dictionary.Same present.entries present'.entries ->
        representation base format baseTree present.entries =
          representation base format baseTree' present'.entries) ∧
    (forall repo repo' : Repository, SameRepository repo repo' ->
      forall expectedBase, fingerprint repo expectedBase = fingerprint repo' expectedBase) := by
  have order : forall (baseTree' : Entries) (present present' : EntryMap),
      Dictionary.Same baseTree baseTree' -> Dictionary.Same present.entries present'.entries ->
        representation base format baseTree present.entries =
          representation base format baseTree' present'.entries := by
    intro baseTree' present present' sameBase same
    apply representation_congr
    · intro path
      rw [mem_recorded, mem_recorded, same path, sameBase path]
    · intro path
      rw [get_differing, get_differing, same path, sameBase path]
  refine ⟨?_, order, fun _ _ => fingerprint_order⟩
  intro present present' bytes bytes' first second
  constructor
  · rintro rfl
    exact same_of_records (records_of_representation first second)
  · intro same
    rw [order baseTree present present' (fun _ => rfl) same, second] at first
    exact (Except.ok.inj first).symm

end Candidate
end HermesSentinel
