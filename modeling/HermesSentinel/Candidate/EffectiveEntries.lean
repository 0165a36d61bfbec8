import HermesSentinel.Candidate.Fingerprint

namespace HermesSentinel
namespace Candidate

open Python
open Foundation

/-!
# What the effective entries are

An effective entry depends on nothing but what is found at its own path.  Two
runs that find the same at every path have the same result, also where one of
them looks at more paths and finds nothing there.
-/

section Survey

variable {look : Path -> Fallible Finding}

/-- Passes that find the same at the first path agree if they agree afterwards. -/
theorem survey_agree {look' : Path -> Fallible Finding} {path : Path} {rest rest' : List Path}
    (same : look path = look' path)
    (later : forall entries regularPaths,
      survey look rest entries regularPaths = survey look' rest' entries regularPaths)
    (entries : Entries) (regularPaths : Dictionary Path Bool) :
    survey look (path :: rest) entries regularPaths =
      survey look' (path :: rest') entries regularPaths := by
  unfold survey
  rw [same]
  cases look' path with
  | error e => rfl
  | ok finding =>
      cases finding with
      | nothing => exact later entries regularPaths
      | entry entry => exact later (entries.assign path entry) regularPaths
      | file executable => exact later entries (regularPaths.assign path executable)

theorem survey_congr {look' : Path -> Fallible Finding} {paths : List Path}
    (same : forall path, path ∈ paths -> look path = look' path) (entries : Entries)
    (regularPaths : Dictionary Path Bool) :
    survey look paths entries regularPaths = survey look' paths entries regularPaths := by
  induction paths generalizing entries regularPaths with
  | nil => rfl
  | cons path rest inductionHypothesis =>
      have later := inductionHypothesis fun path member => same path (List.mem_cons_of_mem _ member)
      exact survey_agree (same path List.mem_cons_self) later entries regularPaths

/-- Paths where nothing is found may be left out. -/
theorem survey_filter {keep : Path -> Bool} {paths : List Path}
    (empty : forall path, path ∈ paths -> keep path = false -> look path = .ok .nothing)
    (entries : Entries) (regularPaths : Dictionary Path Bool) :
    survey look (paths.filter keep) entries regularPaths =
      survey look paths entries regularPaths := by
  induction paths generalizing entries regularPaths with
  | nil => rfl
  | cons path rest inductionHypothesis =>
      have later := inductionHypothesis fun path member => empty path (List.mem_cons_of_mem _ member)
      rw [List.filter_cons]
      by_cases kept : keep path = true
      · rw [if_pos kept]
        exact survey_agree rfl later entries regularPaths
      · rw [if_neg kept, later]
        have nothing := empty path List.mem_cons_self (Bool.eq_false_iff.mpr kept)
        conv => rhs; unfold survey
        rw [nothing]
        rfl

/-- A pass that ends has looked at every path. -/
theorem survey_cons {path : Path} {rest : List Path} {entries : Entries}
    {regularPaths : Dictionary Path Bool} {result : Entries × Dictionary Path Bool}
    (done : survey look (path :: rest) entries regularPaths = .ok result) :
    (look path = .ok .nothing ∧ survey look rest entries regularPaths = .ok result) ∨
    (exists entry, look path = .ok (.entry entry) ∧
      survey look rest (entries.assign path entry) regularPaths = .ok result) ∨
    (exists executable, look path = .ok (.file executable) ∧
      survey look rest entries (regularPaths.assign path executable) = .ok result) := by
  unfold survey at done
  rcases bind_eq_ok.mp done with ⟨finding, looked, continued⟩
  cases finding with
  | nothing => exact Or.inl ⟨looked, continued⟩
  | entry entry => exact Or.inr (Or.inl ⟨entry, looked, continued⟩)
  | file executable => exact Or.inr (Or.inr ⟨executable, looked, continued⟩)

/-- The entry a finding gives at once. -/
def Finding.known : Finding -> Option Entry
  | .entry given => some given
  | _ => none

/-- What the first pass leaves about a path it looked at. -/
structure Surveyed (finding : Finding) (before entries : Entries)
    (regularPaths : Dictionary Path Bool) (path : Path) : Prop where
  entry : entries.get path = finding.known.or (before.get path)
  file : forall executable, finding = .file executable -> path ∈ regularPaths.keys

theorem survey_keeps {paths : List Path} {entries entries' : Entries}
    {regularPaths regularPaths' : Dictionary Path Bool}
    (done : survey look paths entries regularPaths = .ok (entries', regularPaths')) {path : Path}
    (elsewhere : path ∉ paths) : entries'.get path = entries.get path := by
  induction paths generalizing entries regularPaths with
  | nil =>
      cases done
      rfl
  | cons first rest inductionHypothesis =>
      rw [List.mem_cons, not_or] at elsewhere
      rcases survey_cons done with ⟨_, later⟩ | ⟨entry, _, later⟩ | ⟨executable, _, later⟩
      · exact inductionHypothesis later elsewhere.2
      · rw [inductionHypothesis later elsewhere.2, Dictionary.get_assign,
          if_neg (Ne.symm elsewhere.1)]
      · exact inductionHypothesis later elsewhere.2

theorem survey_keys {paths : List Path} {entries entries' : Entries}
    {regularPaths regularPaths' : Dictionary Path Bool}
    (done : survey look paths entries regularPaths = .ok (entries', regularPaths')) {path : Path}
    (present : path ∈ regularPaths.keys) : path ∈ regularPaths'.keys := by
  induction paths generalizing entries regularPaths with
  | nil =>
      cases done
      exact present
  | cons first rest inductionHypothesis =>
      rcases survey_cons done with ⟨_, later⟩ | ⟨entry, _, later⟩ | ⟨executable, _, later⟩
      · exact inductionHypothesis later present
      · exact inductionHypothesis later present
      · exact inductionHypothesis later ((Dictionary.mem_keys_assign _ _ _ _).mpr (Or.inr present))

/-- On distinct paths the pass records for each what was found there. -/
theorem survey_records {paths : List Path} (distinct : paths.Nodup) {entries entries' : Entries}
    {regularPaths regularPaths' : Dictionary Path Bool}
    (done : survey look paths entries regularPaths = .ok (entries', regularPaths')) {path : Path}
    (member : path ∈ paths) :
    exists finding, look path = .ok finding ∧ Surveyed finding entries entries' regularPaths' path := by
  induction paths generalizing entries regularPaths with
  | nil => cases member
  | cons first rest inductionHypothesis =>
      rw [List.nodup_cons] at distinct
      rcases List.mem_cons.mp member with equal | later
      · subst equal
        rcases survey_cons done with ⟨looked, rest⟩ | ⟨entry, looked, rest⟩ | ⟨flag, looked, rest⟩
        · exact ⟨.nothing, looked, survey_keeps rest distinct.1, fun _ other => by cases other⟩
        · refine ⟨.entry entry, looked, ?_, fun _ other => by cases other⟩
          rw [survey_keeps rest distinct.1, Dictionary.get_assign, if_pos rfl]
          rfl
        · refine ⟨.file flag, looked, survey_keeps rest distinct.1, fun _ _ => ?_⟩
          exact survey_keys rest ((Dictionary.mem_keys_assign _ _ _ _).mpr (Or.inl rfl))
      · have different : first ≠ path := by
          intro equal
          subst equal
          exact distinct.1 later
        rcases survey_cons done with ⟨_, rest⟩ | ⟨entry, _, rest⟩ | ⟨flag, _, rest⟩
        · exact inductionHypothesis distinct.2 rest later
        · rcases inductionHypothesis distinct.2 rest later with ⟨finding, looked, recorded⟩
          refine ⟨finding, looked, ?_, recorded.file⟩
          rw [recorded.entry, Dictionary.get_assign, if_neg different]
        · exact inductionHypothesis distinct.2 rest later

/-- Only regular files are left for the second pass. -/
theorem survey_files {paths : List Path} {entries entries' : Entries}
    {regularPaths regularPaths' : Dictionary Path Bool}
    (done : survey look paths entries regularPaths = .ok (entries', regularPaths')) {path : Path}
    {executable : Bool} (recorded : (path, executable) ∈ regularPaths') :
    (path, executable) ∈ regularPaths ∨ (path ∈ paths ∧ look path = .ok (.file executable)) := by
  induction paths generalizing entries regularPaths with
  | nil =>
      cases done
      exact Or.inl recorded
  | cons first rest inductionHypothesis =>
      rcases survey_cons done with ⟨_, later⟩ | ⟨entry, _, later⟩ | ⟨flag, looked, later⟩
      · rcases inductionHypothesis later with before | ⟨member, found⟩
        · exact Or.inl before
        · exact Or.inr ⟨List.mem_cons_of_mem _ member, found⟩
      · rcases inductionHypothesis later with before | ⟨member, found⟩
        · exact Or.inl before
        · exact Or.inr ⟨List.mem_cons_of_mem _ member, found⟩
      · rcases inductionHypothesis later with before | ⟨member, found⟩
        · rcases Dictionary.mem_assign before with same | earlier
          · cases same
            exact Or.inr ⟨List.mem_cons_self, looked⟩
          · exact Or.inl earlier
        · exact Or.inr ⟨List.mem_cons_of_mem _ member, found⟩

end Survey

/-! ## The second pass -/

/-- The mode of a regular file. -/
def fileMode (executable : Bool) : GitMode :=
  if executable = true then .executable else .regular

section Hashing

variable {tree : WorkTree}

theorem hashRegular_keeps {regularPaths : Dictionary Path Bool} {entries entries' : Entries}
    (done : hashRegular tree regularPaths entries = .ok entries') {path : Path}
    (elsewhere : path ∉ regularPaths.keys) : entries'.get path = entries.get path := by
  induction regularPaths generalizing entries with
  | nil =>
      cases done
      rfl
  | cons first rest inductionHypothesis =>
      rcases first with ⟨own, executable⟩
      rw [Dictionary.keys, List.map_cons, List.mem_cons, not_or] at elsewhere
      rcases bind_eq_ok.mp done with ⟨id, _, later⟩
      rw [inductionHypothesis later elsewhere.2, Dictionary.get_assign,
        if_neg (Ne.symm elsewhere.1)]

/-- A file recorded under one mode gets an entry of that mode. -/
theorem hashRegular_records {regularPaths : Dictionary Path Bool} {entries entries' : Entries}
    (done : hashRegular tree regularPaths entries = .ok entries') {path : Path} {executable : Bool}
    (present : path ∈ regularPaths.keys)
    (only : forall flag, (path, flag) ∈ regularPaths -> flag = executable) :
    exists id, tree.cleanBlobId path = .ok id ∧
      entries'.get path = some (fileMode executable, id) := by
  induction regularPaths generalizing entries with
  | nil => cases present
  | cons first rest inductionHypothesis =>
      rcases first with ⟨own, flag⟩
      rcases bind_eq_ok.mp done with ⟨id, cleaned, later⟩
      by_cases again : path ∈ Dictionary.keys rest
      · exact inductionHypothesis later again fun flag member =>
          only flag (List.mem_cons_of_mem _ member)
      · rcases List.mem_cons.mp present with same | member
        · cases same
          have flagged := only flag List.mem_cons_self
          subst flagged
          refine ⟨id, cleaned, ?_⟩
          rw [hashRegular_keeps later again, Dictionary.get_assign, if_pos rfl]
          rfl
        · exact absurd member again

end Hashing

section Entries

variable {tree : WorkTree} {index : Entries} {untracked : List Path} {trusted : Bool}
  {format : ObjectFormat}

/-- The paths a run looks at. -/
def Listed (index : Entries) (untracked : List Path) (path : Path) : Prop :=
  path ∈ index.keys ∨ path ∈ untracked

instance (index : Entries) (untracked : List Path) (path : Path) :
    Decidable (Listed index untracked path) :=
  inferInstanceAs (Decidable (_ ∨ _))

/-- What a run finds at a path, which is nothing where it does not look. -/
def finding (tree : WorkTree) (index : Entries) (untracked : List Path) (trusted : Bool)
    (format : ObjectFormat) (path : Path) : Fallible Finding :=
  if Listed index untracked path then examine tree index trusted format path else .ok .nothing

theorem finding_listed {path : Path} (listed : Listed index untracked path) :
    finding tree index untracked trusted format path = examine tree index trusted format path :=
  if_pos listed

theorem finding_unlisted {path : Path} (unlisted : ¬ Listed index untracked path) :
    finding tree index untracked trusted format path = .ok .nothing :=
  if_neg unlisted

theorem mem_paths {path : Path} :
    path ∈ sortedSet (index.keys ++ untracked) ↔ Listed index untracked path := by
  rw [mem_sortedSet, List.mem_append]
  rfl

/-- A path is examined by its own index entry alone. -/
theorem examine_congr {index' : Entries} {path : Path} (same : index'.get path = index.get path) :
    examine tree index' trusted format path = examine tree index trusted format path := by
  unfold examine modeOf
  rw [same]

/-- The first pass may as well look at further paths. -/
theorem survey_wider (paths : List Path)
    (wider : forall path, Listed index untracked path -> path ∈ paths) :
    survey (examine tree index trusted format) (sortedSet (index.keys ++ untracked)) [] [] =
      survey (finding tree index untracked trusted format) (sortedSet paths) [] [] := by
  have restricted : sortedSet (index.keys ++ untracked) =
      (sortedSet paths).filter fun path => decide (Listed index untracked path) := by
    rw [<- sortedSet_filter]
    apply sortedSet_congr
    intro path
    rw [List.mem_append, List.mem_filter, decide_eq_true_eq]
    exact ⟨fun listed => ⟨wider path listed, listed⟩, fun both => both.2⟩
  calc survey (examine tree index trusted format) (sortedSet (index.keys ++ untracked)) [] []
      = survey (finding tree index untracked trusted format)
          (sortedSet (index.keys ++ untracked)) [] [] :=
        survey_congr (fun path member => (finding_listed (mem_paths.mp member)).symm) [] []
    _ = survey (finding tree index untracked trusted format) (sortedSet paths) [] [] := by
        rw [restricted]
        apply survey_filter
        intro path _ dropped
        exact finding_unlisted (of_decide_eq_false dropped)

/-- Runs that find the same at every path have the same result. -/
theorem effectiveEntries_congr {index' : Entries} {untracked' : List Path}
    (same : forall path, finding tree index untracked trusted format path =
      finding tree index' untracked' trusted format path) :
    effectiveEntries tree index untracked trusted format =
      effectiveEntries tree index' untracked' trusted format := by
  have surveys : survey (examine tree index trusted format)
        (sortedSet (index.keys ++ untracked)) [] [] =
      survey (examine tree index' trusted format)
        (sortedSet (index'.keys ++ untracked')) [] [] := by
    rw [survey_wider ((index.keys ++ untracked) ++ (index'.keys ++ untracked'))
        fun path listed => List.mem_append_left _ (List.mem_append.mpr listed),
      survey_wider ((index.keys ++ untracked) ++ (index'.keys ++ untracked'))
        fun path listed => List.mem_append_right _ (List.mem_append.mpr listed)]
    exact survey_congr (fun path _ => same path) [] []
  unfold effectiveEntries
  rw [surveys]

/-- The effective entry of a path, given what was found there. -/
def Recorded (tree : WorkTree) (path : Path) (found : Option Entry) : Finding -> Prop
  | .nothing => found = none
  | .entry entry => found = some entry
  | .file executable => exists id, tree.cleanBlobId path = .ok id ∧
      found = some (fileMode executable, id)

theorem get_effectiveEntries {entries : Entries}
    (done : effectiveEntries tree index untracked trusted format = .ok entries) (path : Path) :
    exists found, finding tree index untracked trusted format path = .ok found ∧
      Recorded tree path (entries.get path) found := by
  unfold effectiveEntries at done
  rcases bind_eq_ok.mp done with ⟨⟨known, regularPaths⟩, surveyed, hashed⟩
  have files : forall flag, (path, flag) ∈ regularPaths ->
      Listed index untracked path ∧ examine tree index trusted format path = .ok (.file flag) := by
    intro flag member
    rcases survey_files surveyed member with before | ⟨listed, found⟩
    · cases before
    · exact ⟨mem_paths.mp listed, found⟩
  have second : hashRegular tree regularPaths known = .ok entries := by
    by_cases none : regularPaths = []
    · rw [none]
      simp only [none, if_true] at hashed
      exact hashed
    · simp only [none, if_false] at hashed
      exact ((check_bind_eq_ok _ _ _).mp hashed).2
  -- A path is left for the second pass exactly if a regular file was found there.
  have later : path ∈ regularPaths.keys -> exists flag, (path, flag) ∈ regularPaths := by
    intro present
    rcases List.mem_map.mp present with ⟨⟨own, flag⟩, member, same⟩
    cases same
    exact ⟨flag, member⟩
  by_cases listed : Listed index untracked path
  · rcases survey_records (sortedSet_nodup _) surveyed (mem_paths.mpr listed) with
      ⟨found, looked, recorded⟩
    refine ⟨found, (finding_listed listed).trans looked, ?_⟩
    have absent (noFile : forall flag, found ≠ .file flag) : path ∉ regularPaths.keys := by
      intro present
      rcases later present with ⟨flag, member⟩
      have other := (files flag member).2
      rw [looked] at other
      exact noFile flag (Except.ok.inj other)
    cases found with
    | nothing =>
        have noFile := absent fun flag impossible => Finding.noConfusion impossible
        exact (hashRegular_keeps second noFile).trans recorded.entry
    | entry entry =>
        have noFile := absent fun flag impossible => Finding.noConfusion impossible
        exact (hashRegular_keeps second noFile).trans recorded.entry
    | file executable =>
        apply hashRegular_records second (recorded.file executable rfl)
        intro flag member
        have other := (files flag member).2
        rw [looked] at other
        cases other
        rfl
  · refine ⟨.nothing, finding_unlisted listed, ?_⟩
    have absent : path ∉ regularPaths.keys := by
      intro present
      rcases later present with ⟨flag, member⟩
      exact listed (files flag member).1
    have unlisted : path ∉ sortedSet (index.keys ++ untracked) := fun member =>
      listed (mem_paths.mp member)
    exact (hashRegular_keeps second absent).trans (survey_keeps surveyed unlisted)

end Entries

end Candidate
end HermesSentinel
