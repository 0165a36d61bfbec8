import HermesSentinel.Heartbeat.Http
import HermesSentinel.Python.Strip

namespace HermesSentinel
namespace Heartbeat

open Python
open Foundation

/-!
# The grammar of an accepted Content-Type

A value is accepted when it is the JSON media type, alone or with the one
charset, each word surrounded by characters that `str.strip()` drops.  The
grammar is stated for any notion of a blank.  With the blanks of HTTP, space and
tab, it is narrower than what the adapter accepts: stripping also drops the
blanks beyond ASCII, which no check of the header value excludes.
-/

/-- The second is the first, or its lower case if that is an ASCII capital. -/
def SameLetter (c d : CodePoint) : Prop :=
  c = d ∨ (65 ≤ c.val ∧ c.val ≤ 90 ∧ d.val = c.val + 32)

/-- The characters of the words in question: in lower case, and nothing outside
of ASCII has one of them in its lower case. -/
def isWordChar (d : CodePoint) : Bool :=
  decide (lowerChar d = [d] ∧ d ≠ codePoint 'k' ∧ d.val < 128 ∧ isSpace d = false ∧ 32 < d.val ∧
    d.val < 127)

structure IsWord (literal : Text) : Prop where
  nonempty : literal ≠ []
  chars : forall d, d ∈ literal -> isWordChar d = true

theorem lowerChar_of_sameLetter {c d : CodePoint} (same : SameLetter c d)
    (word : isWordChar d = true) : lowerChar c = [d] := by
  have facts := of_decide_eq_true word
  rcases same with rfl | ⟨least, most, shifted⟩
  · exact facts.1
  · rw [lowerChar, if_pos ⟨least, most⟩]
    apply congrArg (fun letter => [letter])
    apply Fin.ext
    show c.val % 128 + 32 = d.val
    omega

/-- A lower case that starts with a character of a word comes from one letter. -/
theorem sameLetter_of_lowerChar {c d : CodePoint} {rest literal : Text}
    (lowered : lowerChar c ++ rest = d :: literal)
    (word : forall e, e ∈ d :: literal -> isWordChar e = true) :
    SameLetter c d ∧ rest = literal := by
  have facts := of_decide_eq_true (word d List.mem_cons_self)
  unfold lowerChar at lowered
  split_ifs at lowered with capital kelvin dotted
  · cases lowered
    refine ⟨.inr ⟨capital.1, capital.2, ?_⟩, rfl⟩
    show c.val % 128 + 32 = c.val + 32
    omega
  · cases lowered
    exact absurd rfl facts.2.1
  · cases lowered
    have beyond := of_decide_eq_true (word _ (List.mem_cons_of_mem _ List.mem_cons_self))
    exact absurd beyond.2.2.1 (by decide)
  · cases lowered
    exact ⟨.inl rfl, rfl⟩

/-- Lower-casing gives a word exactly for the spellings of the word. -/
theorem lower_eq_iff {s literal : Text} (word : forall d, d ∈ literal -> isWordChar d = true) :
    lower s = literal ↔ List.Forall₂ SameLetter s literal := by
  induction s generalizing literal with
  | nil =>
      constructor
      · intro lowered
        rw [<- lowered]
        exact List.Forall₂.nil
      · intro spelled
        cases spelled
        rfl
  | cons c s inductionHypothesis =>
      rw [lower, List.flatMap_cons]
      constructor
      · intro lowered
        cases literal with
        | nil =>
            have empty := (List.append_eq_nil_iff.mp lowered).1
            unfold lowerChar at empty
            split_ifs at empty
        | cons d literal =>
            rcases sameLetter_of_lowerChar lowered word with ⟨same, rest⟩
            apply List.Forall₂.cons same
            exact (inductionHypothesis fun e member => word e (List.mem_cons_of_mem d member)).mp rest
      · intro spelled
        cases spelled with
        | cons same rest =>
            rename_i d literal
            have lowered := (inductionHypothesis fun e member =>
              word e (List.mem_cons_of_mem d member)).mpr rest
            rw [lowerChar_of_sameLetter same (word d List.mem_cons_self)]
            exact congrArg (d :: ·) lowered

theorem spelled_mem {s literal : Text} (spelled : List.Forall₂ SameLetter s literal) {c : CodePoint}
    (member : c ∈ s) : exists d, d ∈ literal ∧ SameLetter c d := by
  induction spelled with
  | nil => cases member
  | @cons head letter tail letters same rest inductionHypothesis =>
      rcases List.mem_cons.mp member with first | later
      · rw [first]
        exact ⟨letter, List.mem_cons_self, same⟩
      · rcases inductionHypothesis later with ⟨d, within, spells⟩
        exact ⟨d, List.mem_cons_of_mem letter within, spells⟩

/-- What spells a character of a word is visible. -/
theorem visible_of_sameLetter {c d : CodePoint} (same : SameLetter c d) (word : isWordChar d = true) :
    isSpace c = false ∧ 32 < c.val ∧ c.val < 127 := by
  have facts := of_decide_eq_true word
  rcases same with rfl | ⟨least, most, _⟩
  · exact ⟨facts.2.2.2.1, facts.2.2.2.2⟩
  · refine ⟨decide_eq_false ?_, by omega, by omega⟩
    omega

/-- So is every character of a spelling of the word. -/
theorem spelled_visible {core literal : Text} (word : IsWord literal)
    (spelled : List.Forall₂ SameLetter core literal) {c : CodePoint} (member : c ∈ core) :
    isSpace c = false ∧ 32 < c.val ∧ c.val < 127 := by
  rcases spelled_mem spelled member with ⟨d, within, same⟩
  exact visible_of_sameLetter same (word.chars d within)

theorem spelled_ne_nil {core literal : Text} (word : IsWord literal)
    (spelled : List.Forall₂ SameLetter core literal) : core ≠ [] := by
  intro empty
  rw [empty] at spelled
  exact word.nonempty (List.forall₂_nil_left_iff.mp spelled)

theorem isWord_mediaType : IsWord (text "application/json") :=
  ⟨by decide, List.all_eq_true.mp (by decide +kernel)⟩

theorem isWord_charset : IsWord (text "charset") :=
  ⟨by decide, List.all_eq_true.mp (by decide +kernel)⟩

theorem isWord_utf8 : IsWord (text "utf-8") :=
  ⟨by decide, List.all_eq_true.mp (by decide +kernel)⟩

section

variable (blank : CodePoint -> Bool)

/-- A spelling of the word between runs of blanks. -/
def Padded (literal s : Text) : Prop :=
  exists before core after, s = before ++ (core ++ after) ∧
    Dropped blank before ∧ Dropped blank after ∧ List.Forall₂ SameLetter core literal

/-- The JSON media type, and possibly `;` and the charset. -/
def JsonMediaType (value : Text) : Prop :=
  Padded blank (text "application/json") value ∨
    exists mediaType name charset,
      value = mediaType ++ codePoint ';' :: (name ++ codePoint '=' :: charset) ∧
        Padded blank (text "application/json") mediaType ∧ Padded blank (text "charset") name ∧
        Padded blank (text "utf-8") charset

end

/-- The blanks of HTTP: space and tab. -/
def isOws (c : CodePoint) : Bool :=
  decide (c = codePoint ' ' ∨ c = codePoint '\t')

/-- Stripping and lower-casing gives a word exactly for its padded spellings. -/
theorem lower_strip_eq_iff {literal s : Text} (word : IsWord literal) :
    lower (strip s) = literal ↔ Padded isSpace literal s := by
  rw [lower_eq_iff word.chars]
  constructor
  · intro spelled
    rcases exists_stripBy isSpace s with ⟨before, after, shape, first, last⟩
    exact ⟨before, strip s, after, shape, first, last, spelled⟩
  · rintro ⟨before, core, after, shape, first, last, spelled⟩
    have visible : forall c, c ∈ core -> isSpace c = false :=
      fun c member => (spelled_visible word spelled member).1
    have tight : Tight isSpace core :=
      ⟨fun c head => visible c (List.mem_of_head? head),
        fun c last => visible c (List.mem_of_getLast? last)⟩
    rw [shape, strip, stripBy_of_tight first last tight (spelled_ne_nil word spelled)]
    exact spelled

/-! ## What the adapter accepts -/

/-- A word has as many slashes as its spellings. -/
theorem count_slash_eq {s literal : Text} (spelled : List.Forall₂ SameLetter s literal)
    (word : forall d, d ∈ literal -> isWordChar d = true) :
    s.count (codePoint '/') = literal.count (codePoint '/') := by
  induction spelled with
  | nil => rfl
  | @cons c d s literal same rest inductionHypothesis =>
      have letter : (c == codePoint '/') = (d == codePoint '/') := by
        rcases same with rfl | ⟨least, most, shifted⟩
        · rfl
        · rw [beq_eq_false_iff_ne.mpr, beq_eq_false_iff_ne.mpr]
          · intro slash
            rw [slash] at shifted
            have value : (codePoint '/').val = 47 := rfl
            omega
          · intro slash
            rw [slash] at least
            exact absurd least (by decide)
      rw [List.count_cons, List.count_cons, letter,
        inductionHypothesis fun e member => word e (List.mem_cons_of_mem d member)]

/-- A padded spelling of the JSON media type is never malformed. -/
theorem wellFormed_mediaType {value : Text}
    (lowered : lower (strip value) = text "application/json") : isMalformedMediaType value = false := by
  have spelled := (lower_eq_iff isWord_mediaType.chars).mp lowered
  have nonempty : strip value ≠ [] := by
    intro empty
    rw [empty] at lowered
    exact absurd lowered (by decide)
  have slashes : (strip value).count (codePoint '/') = 1 := by
    rw [count_slash_eq spelled isWord_mediaType.chars]
    decide +kernel
  have visible : (strip value).any isInvisible = false := by
    rw [List.any_eq_false]
    intro c member invisible
    have shown := spelled_visible isWord_mediaType spelled member
    have range := of_decide_eq_true invisible
    omega
  unfold isMalformedMediaType
  dsimp only
  rw [visible, Bool.or_false, Bool.or_eq_false_iff]
  exact ⟨List.isEmpty_eq_false_iff.mpr nonempty, decide_eq_false fun other => other slashes⟩

/-- After one charset nothing else gets through. -/
theorem parametersRejection_after {parameters : List PyStr} :
    parametersRejection true parameters = none ↔ parameters = [] := by
  constructor
  · intro accepted
    cases parameters with
    | nil => rfl
    | cons parameter rest =>
        unfold parametersRejection at accepted
        dsimp only at accepted
        split_ifs at accepted with shape blank name seen charset
        exact absurd rfl seen
  · intro empty
    rw [empty]
    rfl

/-- What the loop wants of its one parameter. -/
def IsCharset (parameter : PyStr) : Prop :=
  let parts := partition (codePoint '=') (strip parameter)
  parts.2.1 = true ∧ lower (strip parts.1) = text "charset" ∧ lower (strip parts.2.2) = text "utf-8"

theorem parametersRejection_eq_none {parameters : List PyStr} :
    parametersRejection false parameters = none ↔
      parameters = [] ∨ exists parameter, parameters = [parameter] ∧ IsCharset parameter := by
  cases parameters with
  | nil => exact ⟨fun _ => .inl rfl, fun _ => rfl⟩
  | cons parameter rest =>
      unfold parametersRejection
      dsimp only
      constructor
      · intro accepted
        split_ifs at accepted with shape blank name seen charset
        have last := parametersRejection_after.mp accepted
        rw [not_or, Bool.not_eq_false] at shape
        exact .inr ⟨parameter, by rw [last], shape.2, not_not.mp name, not_not.mp charset⟩
      · rintro (impossible | ⟨own, same, separated, name, charset⟩)
        · cases impossible
        · cases same
          have present : strip parameter ≠ [] := by
            intro empty
            rw [empty] at separated
            cases separated
          rw [if_neg, if_neg, if_neg (not_not.mpr name), if_neg Bool.false_ne_true,
            if_neg (not_not.mpr charset)]
          · rfl
          · rw [name, charset]
            decide
          · rw [separated]
            exact fun either => either.elim present Bool.noConfusion

theorem partition_of_not_mem {separator : CodePoint} {before after : Text}
    (absent : separator ∉ before) :
    partition separator (before ++ separator :: after) = (before, true, after) := by
  have different : forall c, c ∈ before -> decide (c ≠ separator) = true := by
    intro c member
    apply decide_eq_true
    intro same
    exact absent (same ▸ member)
  have stop : decide (separator ≠ separator) = false := decide_eq_false fun other => other rfl
  unfold partition
  rw [List.dropWhile_append_of_pos different, List.takeWhile_append_of_pos different]
  simp only [List.dropWhile_cons, List.takeWhile_cons, stop, Bool.false_eq_true, if_false,
    List.append_nil]

/-- A found separator stands between the two parts. -/
theorem eq_of_partition {separator : CodePoint} {s : Text}
    (found : (partition separator s).2.1 = true) :
    s = (partition separator s).1 ++ separator :: (partition separator s).2.2 := by
  have whole := List.takeWhile_append_dropWhile (p := fun c => decide (c ≠ separator)) (l := s)
  unfold partition at found ⊢
  cases rest : s.dropWhile (fun c => decide (c ≠ separator)) with
  | nil =>
      rw [rest] at found
      cases found
  | cons head tail =>
      have stops := List.head?_dropWhile_not (fun c => decide (c ≠ separator)) s
      simp only [rest, List.head?_cons, decide_eq_false_iff_not, not_not] at stops
      rw [rest, stops] at whole
      exact whole.symm

namespace Padded

variable {blank : CodePoint -> Bool} {literal s : Text}

theorem prepend {run : Text} (dropped : Dropped blank run) (padded : Padded blank literal s) :
    Padded blank literal (run ++ s) := by
  rcases padded with ⟨before, core, after, shape, first, last, spelled⟩
  refine ⟨run ++ before, core, after, ?_, dropped.append first, last, spelled⟩
  rw [shape, List.append_assoc]

theorem append {run : Text} (dropped : Dropped blank run) (padded : Padded blank literal s) :
    Padded blank literal (s ++ run) := by
  rcases padded with ⟨before, core, after, shape, first, last, spelled⟩
  refine ⟨before, core, after ++ run, ?_, first, last.append dropped, spelled⟩
  rw [shape, List.append_assoc, List.append_assoc]

/-- Every character is a blank or spells a letter. -/
theorem mem (padded : Padded blank literal s) {c : CodePoint} (member : c ∈ s) :
    blank c = true ∨ exists d, d ∈ literal ∧ SameLetter c d := by
  rcases padded with ⟨before, core, after, shape, first, last, spelled⟩
  rw [shape] at member
  rcases List.mem_append.mp member with inBefore | others
  · exact .inl (first c inBefore)
  · rcases List.mem_append.mp others with inCore | inAfter
    · exact .inr (spelled_mem spelled inCore)
    · exact .inl (last c inAfter)

/-- A character that is no blank, no capital and not in the word is nowhere. -/
theorem not_mem {separator : CodePoint} (padded : Padded blank literal s)
    (visible : blank separator = false) (noCapital : separator.val < 65)
    (absent : literal.contains separator = false) : separator ∉ s := by
  intro member
  rcases padded.mem member with dropped | ⟨d, within, same | ⟨capital, _⟩⟩
  · rw [visible] at dropped
    cases dropped
  · rw [<- same, <- List.contains_iff_mem, absent] at within
    cases within
  · omega

end Padded

/-- The loop wants a padded `charset`, an equals sign and a padded `utf-8`. -/
theorem isCharset_iff {parameter : PyStr} :
    IsCharset parameter ↔ exists name charset, parameter = name ++ codePoint '=' :: charset ∧
      Padded isSpace (text "charset") name ∧ Padded isSpace (text "utf-8") charset := by
  constructor
  · rintro ⟨separated, name, charset⟩
    have token := eq_of_partition separated
    rcases exists_stripBy isSpace parameter with ⟨before, after, shape, first, last⟩
    refine ⟨before ++ (partition (codePoint '=') (strip parameter)).1,
      (partition (codePoint '=') (strip parameter)).2.2 ++ after, ?_, ?_, ?_⟩
    · have stripped : stripBy isSpace parameter = strip parameter := rfl
      rw [stripped, token] at shape
      simpa only [List.append_assoc, List.cons_append] using shape
    · exact ((lower_strip_eq_iff isWord_charset).mp name).prepend first
    · exact ((lower_strip_eq_iff isWord_utf8).mp charset).append last
  · rintro ⟨name, charset, shape, ⟨before, core, inner, nameShape, first, second, spelled⟩,
      ⟨inner', core', after, charsetShape, third, last, spelled'⟩⟩
    have wordsVisible {literal core : Text} (word : IsWord literal)
        (spelled : List.Forall₂ SameLetter core literal) :
        core ≠ [] ∧ forall c, c ∈ core -> isSpace c = false :=
      ⟨spelled_ne_nil word spelled, fun c member => (spelled_visible word spelled member).1⟩
    have front := wordsVisible isWord_charset spelled
    have back := wordsVisible isWord_utf8 spelled'
    have token : strip parameter = (core ++ inner) ++ codePoint '=' :: (inner' ++ core') := by
      have whole : parameter = before ++
          (((core ++ inner) ++ codePoint '=' :: (inner' ++ core')) ++ after) := by
        rw [shape, nameShape, charsetShape]
        simp only [List.append_assoc, List.cons_append]
      rw [whole, strip]
      apply stripBy_of_tight first last
      · constructor
        · intro c head
          rw [List.append_assoc, List.head?_append_of_ne_nil _ front.1] at head
          exact front.2 c (List.mem_of_head? head)
        · intro c final
          rw [<- List.cons_append, <- List.append_assoc,
            List.getLast?_append_of_ne_nil _ back.1] at final
          exact back.2 c (List.mem_of_getLast? final)
      · intro empty
        exact front.1 (List.append_eq_nil_iff.mp (List.append_eq_nil_iff.mp empty).1).1
    have namePadded : Padded isSpace (text "charset") (core ++ inner) :=
      ⟨[], core, inner, rfl, fun _ impossible => absurd impossible List.not_mem_nil, second, spelled⟩
    have charsetPadded : Padded isSpace (text "utf-8") (inner' ++ core') :=
      ⟨inner', core', [], by rw [List.append_nil], third,
        fun _ impossible => absurd impossible List.not_mem_nil, spelled'⟩
    have absent : codePoint '=' ∉ core ++ inner :=
      namePadded.not_mem (by decide) (by decide) (by decide)
    have parts : partition (codePoint '=') (core ++ inner ++ codePoint '=' :: (inner' ++ core')) =
        (core ++ inner, true, inner' ++ core') := partition_of_not_mem absent
    unfold IsCharset
    dsimp only
    rw [token, parts]
    exact ⟨rfl, (lower_strip_eq_iff isWord_charset).mpr namePadded,
      (lower_strip_eq_iff isWord_utf8).mpr charsetPadded⟩

/-- The adapter accepts the grammar over the blanks of `str.strip()`. -/
theorem contentTypeRejection_eq_none {value : PyStr} :
    contentTypeRejection value = none ↔ JsonMediaType isSpace value := by
  have accepted (mediaType : PyStr) (parameters : List PyStr)
      (pieces : split (codePoint ';') value = mediaType :: parameters) :
      contentTypeRejection value = none ↔ Padded isSpace (text "application/json") mediaType ∧
        parametersRejection false parameters = none := by
    have unfolded : contentTypeRejection value =
        if isMalformedMediaType mediaType = true then some 400
        else if lower (strip mediaType) ≠ text "application/json" then some 415
        else parametersRejection false parameters := by
      unfold contentTypeRejection
      rw [pieces]
      rfl
    rw [<- lower_strip_eq_iff isWord_mediaType, unfolded]
    constructor
    · intro none
      split_ifs at none with malformed other
      exact ⟨not_not.mp other, none⟩
    · rintro ⟨json, rest⟩
      rw [wellFormed_mediaType json, if_neg Bool.false_ne_true, if_neg (not_not.mpr json)]
      exact rest
  constructor
  · intro none
    rcases List.exists_cons_of_ne_nil (List.splitOn_ne_nil (codePoint ';') value) with
      ⟨mediaType, parameters, pieces⟩
    rcases (accepted mediaType parameters pieces).mp none with ⟨json, rest⟩
    have joined : [codePoint ';'].intercalate (value.splitOn (codePoint ';')) = value :=
      List.intercalate_splitOn (codePoint ';')
    rw [pieces] at joined
    rcases parametersRejection_eq_none.mp rest with alone | ⟨parameter, single, isCharset⟩
    · rw [alone, List.intercalate_singleton] at joined
      rw [joined] at json
      exact .inl json
    · rcases isCharset_iff.mp isCharset with ⟨name, charset, shape, isName, isUtf8⟩
      refine .inr ⟨mediaType, name, charset, ?_, json, isName, isUtf8⟩
      rw [<- joined, single, shape]
      simp [List.intercalate]
  · intro grammar
    have noSemicolon {literal s : Text} (padded : Padded isSpace literal s)
        (absent : literal.contains (codePoint ';') = false) : codePoint ';' ∉ s :=
      padded.not_mem (by decide) (by decide) absent
    rcases grammar with json | ⟨mediaType, name, charset, shape, json, isName, isUtf8⟩
    · have pieces := List.splitOn_eq_singleton (noSemicolon json (by decide))
      exact (accepted value [] pieces).mpr ⟨json, rfl⟩
    · have absent : codePoint ';' ∉ name ++ codePoint '=' :: charset := by
        intro member
        rcases List.mem_append.mp member with inName | others
        · exact noSemicolon isName (by decide) inName
        · rcases List.mem_cons.mp others with impossible | inCharset
          · exact absurd impossible (by decide)
          · exact noSemicolon isUtf8 (by decide) inCharset
      have pieces : split (codePoint ';') value = mediaType :: [name ++ codePoint '=' :: charset] := by
        rw [shape, split, List.splitOn_append_cons_self_of_not_mem (noSemicolon json (by decide)),
          List.splitOn_eq_singleton absent]
      exact (accepted mediaType _ pieces).mpr ⟨json, parametersRejection_eq_none.mpr
        (.inr ⟨_, rfl, isCharset_iff.mpr ⟨name, charset, rfl, isName, isUtf8⟩⟩)⟩

/-! ## The blanks of HTTP -/

theorem isSpace_of_isOws {c : CodePoint} (ows : isOws c = true) : isSpace c = true := by
  rcases of_decide_eq_true ows with rfl | rfl
  · decide
  · decide

theorem Padded.mono {narrow wide : CodePoint -> Bool} {literal s : Text}
    (weaken : forall c, c ∈ s -> narrow c = true -> wide c = true)
    (padded : Padded narrow literal s) : Padded wide literal s := by
  rcases padded with ⟨before, core, after, shape, first, last, spelled⟩
  refine ⟨before, core, after, shape, ?_, ?_, spelled⟩
  · intro c member
    exact weaken c (by rw [shape]; exact List.mem_append_left _ member) (first c member)
  · intro c member
    have within : c ∈ core ++ after := List.mem_append_right _ member
    exact weaken c (by rw [shape]; exact List.mem_append_right _ within) (last c member)

theorem JsonMediaType.mono {narrow wide : CodePoint -> Bool} {value : Text}
    (weaken : forall c, c ∈ value -> narrow c = true -> wide c = true)
    (grammar : JsonMediaType narrow value) : JsonMediaType wide value := by
  rcases grammar with json | ⟨mediaType, name, charset, shape, json, isName, isUtf8⟩
  · exact .inl (json.mono weaken)
  · rw [shape] at weaken
    refine .inr ⟨mediaType, name, charset, shape, json.mono ?_, isName.mono ?_, isUtf8.mono ?_⟩
    · exact fun c member => weaken c (List.mem_append_left _ member)
    · exact fun c member => weaken c (List.mem_append_right _
        (List.mem_cons_of_mem _ (List.mem_append_left _ member)))
    · exact fun c member => weaken c (List.mem_append_right _
        (List.mem_cons_of_mem _ (List.mem_append_right _ (List.mem_cons_of_mem _ member))))

/-- Every character that stripping drops, read as a space. -/
def narrowChar (c : CodePoint) : CodePoint :=
  if isSpace c = true then codePoint ' ' else c

def narrowed (value : Text) : Text :=
  value.map narrowChar

theorem narrowChar_of_visible {c : CodePoint} (visible : isSpace c = false) : narrowChar c = c := by
  rw [narrowChar, visible, if_neg Bool.false_ne_true]

theorem isSpace_narrowChar (c : CodePoint) : isSpace (narrowChar c) = isSpace c := by
  unfold narrowChar
  split
  · rename_i space
    rw [space]
    decide
  · rfl

/-- A visible character is only read from itself. -/
theorem eq_of_narrowChar {c d : CodePoint} (visible : isSpace d = false) (same : narrowChar c = d) :
    c = d := by
  rw [<- same, isSpace_narrowChar] at visible
  rw [<- same, narrowChar_of_visible visible]

theorem isOws_narrowChar {c : CodePoint} (space : isSpace c = true) : isOws (narrowChar c) = true := by
  rw [narrowChar, if_pos space]
  decide

theorem narrowed_of_visible {s : Text} (visible : forall c, c ∈ s -> isSpace c = false) :
    narrowed s = s := by
  rw [narrowed, List.map_congr_left fun c member => narrowChar_of_visible (visible c member),
    List.map_id']

theorem eq_of_narrowed {s t : Text} (visible : forall c, c ∈ t -> isSpace c = false)
    (same : narrowed s = t) : s = t := by
  have shown : forall c, c ∈ s -> isSpace c = false := by
    intro c member
    have within : narrowChar c ∈ t := by
      rw [<- same]
      exact List.mem_map_of_mem member
    rw [<- isSpace_narrowChar]
    exact visible _ within
  rw [<- same, narrowed_of_visible shown]

theorem padded_narrowed {literal s : Text} (word : IsWord literal) :
    Padded isOws literal (narrowed s) ↔ Padded isSpace literal s := by
  constructor
  · rintro ⟨before, core, after, shape, first, last, spelled⟩
    have dropped {original run : Text} (same : narrowed original = run) (ows : Dropped isOws run) :
        Dropped isSpace original := by
      intro c member
      rw [<- isSpace_narrowChar]
      apply isSpace_of_isOws
      apply ows
      rw [<- same]
      exact List.mem_map_of_mem member
    rcases List.map_eq_append_iff.mp shape with ⟨before', others, whole, isBefore, isOthers⟩
    rcases List.map_eq_append_iff.mp isOthers with ⟨core', after', rest, isCore, isAfter⟩
    have same : core' = core := eq_of_narrowed (fun c member => (spelled_visible word spelled member).1) isCore
    rw [rest, same] at whole
    exact ⟨before', core, after', whole, dropped isBefore first, dropped isAfter last, spelled⟩
  · rintro ⟨before, core, after, shape, first, last, spelled⟩
    have dropped {run : Text} (spaces : Dropped isSpace run) : Dropped isOws (narrowed run) := by
      intro c member
      rcases List.mem_map.mp member with ⟨original, within, rfl⟩
      exact isOws_narrowChar (spaces original within)
    refine ⟨narrowed before, core, narrowed after, ?_, dropped first, dropped last, spelled⟩
    rw [shape, narrowed, List.map_append, List.map_append]
    exact congrArg (fun middle => narrowed before ++ (middle ++ narrowed after))
      (narrowed_of_visible fun c member => (spelled_visible word spelled member).1)

theorem jsonMediaType_narrowed {value : Text} :
    JsonMediaType isOws (narrowed value) ↔ JsonMediaType isSpace value := by
  constructor
  · rintro (json | ⟨mediaType, name, charset, shape, json, isName, isUtf8⟩)
    · exact .inl ((padded_narrowed isWord_mediaType).mp json)
    · rcases List.map_eq_append_iff.mp shape with ⟨mediaType', others, whole, rfl, isOthers⟩
      rcases List.map_eq_cons_iff.mp isOthers with ⟨semicolon, more, tail, isSemicolon, isMore⟩
      rcases List.map_eq_append_iff.mp isMore with ⟨name', rest, parameter, rfl, isRest⟩
      rcases List.map_eq_cons_iff.mp isRest with ⟨equals, charset', last, isEquals, rfl⟩
      have semicolonRead : semicolon = codePoint ';' := eq_of_narrowChar (by decide) isSemicolon
      have equalsRead : equals = codePoint '=' := eq_of_narrowChar (by decide) isEquals
      rw [tail, parameter, last, semicolonRead, equalsRead] at whole
      exact .inr ⟨mediaType', name', charset', whole, (padded_narrowed isWord_mediaType).mp json,
        (padded_narrowed isWord_charset).mp isName, (padded_narrowed isWord_utf8).mp isUtf8⟩
  · rintro (json | ⟨mediaType, name, charset, shape, json, isName, isUtf8⟩)
    · exact .inl ((padded_narrowed isWord_mediaType).mpr json)
    · refine .inr ⟨narrowed mediaType, narrowed name, narrowed charset, ?_,
        (padded_narrowed isWord_mediaType).mpr json, (padded_narrowed isWord_charset).mpr isName,
        (padded_narrowed isWord_utf8).mpr isUtf8⟩
      rw [shape, narrowed, List.map_append, List.map_cons, List.map_append, List.map_cons,
        narrowChar_of_visible (c := codePoint ';') (by decide),
        narrowChar_of_visible (c := codePoint '=') (by decide)]
      rfl

/-- What a refusal answers. -/
theorem contentTypeRejection_status {value : PyStr} {status : Nat}
    (refused : contentTypeRejection value = some status) : status = 400 ∨ status = 415 := by
  have loop : forall (parameters : List PyStr) (seen : Bool),
      parametersRejection seen parameters = some status -> status = 400 ∨ status = 415 := by
    intro parameters
    induction parameters with
    | nil =>
        intro seen impossible
        cases impossible
    | cons parameter rest inductionHypothesis =>
        intro seen answered
        unfold parametersRejection at answered
        dsimp only at answered
        split_ifs at answered
        all_goals first
          | exact inductionHypothesis _ answered
          | exact .inl (Option.some.inj answered).symm
          | exact .inr (Option.some.inj answered).symm
  unfold contentTypeRejection at refused
  dsimp only at refused
  split_ifs at refused
  · exact .inl (Option.some.inj refused).symm
  · exact .inr (Option.some.inj refused).symm
  · exact loop _ _ refused

/-- A value is accepted exactly when it is of the grammar over the blanks of
HTTP, and is refused with one of two statuses. -/
structure ExactlyGrammar (value : PyStr) : Prop where
  accepted : contentTypeRejection value = none ↔ JsonMediaType isOws value
  refused : forall status, contentTypeRejection value = some status -> status = 400 ∨ status = 415

/-- Stripping drops nothing else than spaces and tabs from the value. -/
def HttpBlanksOnly (value : PyStr) : Prop :=
  forall c, c ∈ value -> isSpace c = true -> isOws c = true

theorem httpBlanksOnly_of_grammar {value : PyStr} (grammar : JsonMediaType isOws value) :
    HttpBlanksOnly value := by
  have word {literal s : Text} (isWord : IsWord literal) (padded : Padded isOws literal s) :
      HttpBlanksOnly s := by
    intro c member space
    rcases padded.mem member with ows | ⟨d, within, same⟩
    · exact ows
    · rw [(visible_of_sameLetter same (isWord.chars d within)).1] at space
      cases space
  rcases grammar with json | ⟨mediaType, name, charset, shape, json, isName, isUtf8⟩
  · exact word isWord_mediaType json
  · intro c member space
    rw [shape] at member
    rcases List.mem_append.mp member with inType | others
    · exact word isWord_mediaType json c inType space
    · rcases List.mem_cons.mp others with semicolon | more
      · rw [semicolon] at space
        exact absurd space (by decide)
      · rcases List.mem_append.mp more with inName | rest
        · exact word isWord_charset isName c inName space
        · rcases List.mem_cons.mp rest with equals | inCharset
          · rw [equals] at space
            exact absurd space (by decide)
          · exact word isWord_utf8 isUtf8 c inCharset space

/-- The acceptance is that of the grammar unless a blank beyond those of HTTP
stands where the grammar has room for a space. -/
theorem contentType_exact_iff (value : PyStr) :
    ExactlyGrammar value ↔ HttpBlanksOnly value ∨ ¬ JsonMediaType isOws (narrowed value) := by
  constructor
  · intro faithful
    by_cases fits : JsonMediaType isOws (narrowed value)
    · left
      apply httpBlanksOnly_of_grammar
      exact faithful.accepted.mp (contentTypeRejection_eq_none.mpr (jsonMediaType_narrowed.mp fits))
    · exact .inr fits
  · intro condition
    refine ⟨?_, fun status => contentTypeRejection_status⟩
    rw [contentTypeRejection_eq_none]
    constructor
    · intro wide
      rcases condition with only | misfit
      · exact wide.mono only
      · exact absurd (jsonMediaType_narrowed.mpr wide) misfit
    · intro narrow
      exact narrow.mono fun c _ => isSpace_of_isOws

/-- A media type followed by a no-break space. -/
def unbroken : PyStr :=
  text "application/json" ++ [codePoint '\u00a0']

theorem unbroken_accepted : isMalformedHeaderValue unbroken = false ∧
    contentTypeRejection unbroken = none ∧ ¬ JsonMediaType isOws unbroken := by
  refine ⟨by decide +kernel, by decide +kernel, ?_⟩
  intro grammar
  have noBreak : codePoint '\u00a0' ∈ unbroken := List.mem_append_right _ List.mem_cons_self
  have ows := httpBlanksOnly_of_grammar grammar _ noBreak (by decide)
  exact absurd ows (by decide)

end Heartbeat
end HermesSentinel
