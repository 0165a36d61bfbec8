import HermesSentinel.Foundation.JsonMembers
namespace Foundation
namespace Json

/-!
# Scanning inverts rendering

`Fits` describes the documents whose text is read back as they are: their
strings need no escape, their numbers are well formed, no constant occurs, and
they nest no deeper than the scanner is willing to go.  Each construct of a
document has one lemma that reads it back, given that its parts are; the
mutual induction at the end only supplies the parts.
-/

/-- No character of a number may follow a document. -/
def Closes (rest : Text) : Prop :=
  forall c, rest.head? = some c -> isNumberChar c = false

def SimpleString (s : Text) : Prop :=
  forall c, c ∈ s -> isSimple c = true

instance (s : Text) : Decidable (SimpleString s) :=
  decidable_of_iff (s.all isSimple = true) List.all_eq_true

theorem simple_append {s t : Text} (first : SimpleString s) (second : SimpleString t) :
    SimpleString (s ++ t) := by
  intro c member
  rcases List.mem_append.mp member with left | right
  · exact first c left
  · exact second c right

theorem simple_cons {c : CodePoint} {s : Text} (first : isSimple c = true)
    (rest : SimpleString s) : SimpleString (c :: s) := by
  intro d member
  rcases List.mem_cons.mp member with same | later
  · rw [same]
    exact first
  · exact rest d later

/-- The visible ASCII characters but the quotation mark and the backslash. -/
theorem isSimple_of_val {c : CodePoint} (low : 0x20 ≤ c.val) (high : c.val ≤ 0x7E) (quote : c.val ≠ 34)
    (slash : c.val ≠ 92) : isSimple c = true := by
  refine decide_eq_true ⟨low, high, ?_, ?_⟩
  · rintro rfl
    exact quote rfl
  · rintro rfl
    exact slash rfl

mutual

/-- The documents whose text is read back within a nesting budget. -/
def Fits : Nat -> Json -> Prop
  | _, .null => True
  | _, .bool _ => True
  | _, .int _ => True
  | _, .real literal => literal.all isNumberChar = true ∧ readNumber literal = some (.real literal)
  | _, .constant _ => False
  | _, .str s => SimpleString s
  | 0, .array _ => False
  | depth + 1, .array items => FitItems depth items
  | 0, .object _ => False
  | depth + 1, .object members => FitMembers depth members

def FitItems : Nat -> List Json -> Prop
  | _, [] => True
  | depth, item :: rest => Fits depth item ∧ FitItems depth rest

def FitMembers : Nat -> List (Text × Json) -> Prop
  | _, [] => True
  | depth, (key, value) :: rest => SimpleString key ∧ Fits depth value ∧ FitMembers depth rest

end

theorem fitMembers_iff (depth : Nat) (members : List (Text × Json)) :
    FitMembers depth members ↔
      forall key value, (key, value) ∈ members -> SimpleString key ∧ Fits depth value := by
  induction members with
  | nil => simp [FitMembers]
  | cons head tail inductionHypothesis =>
      rcases head with ⟨headKey, headValue⟩
      simp only [FitMembers, inductionHypothesis, List.mem_cons]
      constructor
      · rintro ⟨simple, fits, rest⟩ key value (same | later)
        · cases same
          exact ⟨simple, fits⟩
        · exact rest key value later
      · intro all
        have first := all headKey headValue (Or.inl rfl)
        exact ⟨first.1, first.2, fun key value member => all key value (Or.inr member)⟩

mutual

/-- Sorting the keys keeps a document within the budget. -/
theorem fits_sortKeys : forall {depth : Nat} {v : Json}, Fits depth v -> Fits depth (sortKeys v) := by
  intro depth v fits
  match v, depth, fits with
  | .null, _, fits => exact fits
  | .bool _, _, fits => exact fits
  | .int _, _, fits => exact fits
  | .real _, _, fits => exact fits
  | .constant _, _, fits => exact fits
  | .str _, _, fits => exact fits
  | .array items, 0, fits => exact fits
  | .array items, depth + 1, fits => exact fitItems_sortKeys fits
  | .object members, 0, fits => exact fits
  | .object members, depth + 1, fits =>
      have sorted := (fitMembers_iff _ _).mp (fitMembers_sortKeys fits)
      refine (fitMembers_iff _ _).mpr fun key value member => sorted key value ?_
      exact (sortMembers_perm _).mem_iff.mp member

theorem fitItems_sortKeys : forall {depth : Nat} {items : List Json}, FitItems depth items ->
    FitItems depth (sortKeysItems items) := by
  intro depth items fits
  match items, fits with
  | [], _ => trivial
  | item :: rest, fits => exact ⟨fits_sortKeys fits.1, fitItems_sortKeys fits.2⟩

theorem fitMembers_sortKeys : forall {depth : Nat} {members : List (Text × Json)},
    FitMembers depth members -> FitMembers depth (sortKeysMembers members) := by
  intro depth members fits
  match members, fits with
  | [], _ => trivial
  | (key, value) :: rest, fits =>
      exact ⟨fits.1, fits_sortKeys fits.2.1, fitMembers_sortKeys fits.2.2⟩

end

/-! ## Rendered documents are ASCII -/

def Ascii (s : Text) : Prop :=
  forall c, c ∈ s -> c.val < 0x80

instance (s : Text) : Decidable (Ascii s) :=
  decidable_of_iff ((s.all fun c => decide (c.val < 0x80)) = true) (by
    rw [List.all_eq_true]
    exact forall₂_congr fun _ _ => decide_eq_true_iff)

theorem ascii_append {s t : Text} (first : Ascii s) (second : Ascii t) : Ascii (s ++ t) := by
  intro c member
  rcases List.mem_append.mp member with left | right
  · exact first c left
  · exact second c right

theorem ascii_cons {c : CodePoint} {s : Text} (first : c.val < 0x80) (rest : Ascii s) :
    Ascii (c :: s) := by
  intro d member
  rcases List.mem_cons.mp member with rfl | later
  · exact first
  · exact rest d later

theorem ascii_nil : Ascii [] := by
  intro c impossible
  cases impossible

theorem ascii_of_isNumberChar {s : Text} (numeric : s.all isNumberChar = true) : Ascii s := by
  intro c member
  have char := List.all_eq_true.mp numeric c member
  simp only [isNumberChar, isDigit, Bool.or_eq_true, decide_eq_true_eq] at char
  rcases char with digit | rfl | rfl | rfl | rfl | rfl
  · omega
  all_goals decide

theorem flatMap_escape {s : Text} (simple : SimpleString s) : s.flatMap escape = s := by
  induction s with
  | nil => rfl
  | cons c s inductionHypothesis =>
      rw [List.flatMap_cons, escape, if_pos (simple c List.mem_cons_self),
        inductionHypothesis fun d member => simple d (List.mem_cons_of_mem c member)]
      rfl

theorem ascii_renderString {s : Text} (simple : SimpleString s) : Ascii (renderString s) := by
  rw [renderString, flatMap_escape simple]
  refine ascii_cons (by decide) (ascii_append ?_ (ascii_cons (by decide) ascii_nil))
  intro c member
  have facts := of_decide_eq_true (simple c member)
  omega

theorem isNumberChar_of_isDigit {c : CodePoint} (h : isDigit c = true) : isNumberChar c = true := by
  simp only [isNumberChar, h, Bool.true_or]

theorem readString_renderString {s : Text} (simple : SimpleString s) (rest : Text) (fuel : Nat)
    (enough : s.length < fuel) :
    readString fuel (s.flatMap escape ++ codePoint '"' :: rest) = some (s, rest) := by
  induction s generalizing fuel with
  | nil =>
      cases fuel with
      | zero => cases enough
      | succ fuel => simp [readString]
  | cons c s inductionHypothesis =>
      have simpleC : isSimple c = true := simple c List.mem_cons_self
      have facts := of_decide_eq_true simpleC
      have alone : escape c = [c] := by rw [escape, if_pos simpleC]
      cases fuel with
      | zero => cases enough
      | succ fuel =>
          have tail := inductionHypothesis (fun d member => simple d (List.mem_cons_of_mem c member))
            fuel (Nat.lt_of_succ_lt_succ enough)
          rw [List.flatMap_cons, alone, List.singleton_append, List.cons_append, readString,
            if_neg facts.2.2.1, if_neg facts.2.2.2, if_neg (Nat.not_lt.mpr facts.1), tail]
          rfl

theorem renderInt_all (i : Int) : (renderInt i).all isNumberChar = true := by
  rw [List.all_eq_true]
  intro c member
  unfold renderInt at member
  split at member
  · rcases List.mem_cons.mp member with sign | digits
    · rw [sign]
      decide
    · exact isNumberChar_of_isDigit (isDigit_of_mem_decimal _ c digits)
  · exact isNumberChar_of_isDigit (isDigit_of_mem_decimal _ c member)

mutual

theorem ascii_render : forall {depth : Nat} {v : Json}, Fits depth v -> Ascii (render v) := by
  intro depth v fits
  match v, depth, fits with
  | .null, _, _ => decide
  | .bool true, _, _ => decide
  | .bool false, _, _ => decide
  | .int i, _, _ => exact ascii_of_isNumberChar (renderInt_all i)
  | .real _, _, fits => exact ascii_of_isNumberChar fits.1
  | .constant _, _, fits => exact fits.elim
  | .str _, _, fits => exact ascii_renderString fits
  | .array _, 0, fits => exact fits.elim
  | .array items, depth + 1, fits =>
      exact ascii_cons (by decide) (ascii_append (ascii_renderItems fits)
        (ascii_cons (by decide) ascii_nil))
  | .object _, 0, fits => exact fits.elim
  | .object members, depth + 1, fits =>
      exact ascii_cons (by decide) (ascii_append (ascii_renderMembers fits)
        (ascii_cons (by decide) ascii_nil))

theorem ascii_renderItems : forall {depth : Nat} {items : List Json}, FitItems depth items ->
    Ascii (renderItems items) := by
  intro depth items fits
  match items, fits with
  | [], _ => exact ascii_nil
  | [item], fits => exact ascii_append (ascii_render fits.1) ascii_nil
  | item :: next :: rest, fits =>
      exact ascii_append (ascii_render fits.1)
        (ascii_cons (by decide) (ascii_renderItems fits.2))

theorem ascii_renderMembers : forall {depth : Nat} {members : List (Text × Json)},
    FitMembers depth members -> Ascii (renderMembers members) := by
  intro depth members fits
  match members, fits with
  | [], _ => exact ascii_nil
  | [(key, value)], fits =>
      exact ascii_append (ascii_renderString fits.1)
        (ascii_cons (by decide) (ascii_append (ascii_render fits.2.1) ascii_nil))
  | (key, value) :: next :: rest, fits =>
      exact ascii_append (ascii_renderString fits.1) (ascii_cons (by decide)
        (ascii_append (ascii_render fits.2.1)
          (ascii_cons (by decide) (ascii_renderMembers fits.2.2))))

end

theorem readNatural_decimal (n : Nat) : readNatural (decimal n) = some n := by
  rcases decimal_head n with ⟨first, rest, shape, zero⟩
  have digits : (decimal n).all isDigit = true := by
    rw [List.all_eq_true]
    exact isDigit_of_mem_decimal n
  have value := decimalValue_decimal n
  rw [shape] at digits value ⊢
  rw [readNatural, if_pos ⟨zero, digits⟩, value]

theorem decimal_head_ne_minus (n : Nat) : (decimal n).head? ≠ some (codePoint '-') := by
  rcases decimal_head n with ⟨first, rest, shape, _⟩
  have isDigitFirst := isDigit_of_mem_decimal n first (by rw [shape]; exact List.mem_cons_self)
  intro minus
  rw [shape, List.head?_cons] at minus
  rw [Option.some.inj minus] at isDigitFirst
  revert isDigitFirst
  decide

theorem readNumber_renderInt (i : Int) : readNumber (renderInt i) = some (.int i) := by
  unfold readNumber renderInt
  by_cases negative : i < 0
  · rw [if_pos negative]
    simp only [List.head?_cons, if_true, List.tail_cons, readNatural_decimal]
    rw [show -(i.natAbs : Int) = i by omega]
  · rw [if_neg negative]
    simp only [if_neg (decimal_head_ne_minus i.natAbs), readNatural_decimal]
    rw [show (i.natAbs : Int) = i by omega]

theorem readWord_ne {word : String} {value : Json} {c d : CodePoint} {rest rest' : Text}
    (first : text word = c :: rest) (other : c ≠ d) : readWord word value (d :: rest') = none := by
  rw [readWord, first, List.isPrefixOf_cons_cons, beq_eq_false_iff_ne.mpr other]
  rfl

/-- The only literal word that starts like a number is a signed constant, and
a sign alone is no number. -/
theorem readScalar_number {number rest : Text} {value : Json}
    (chars : number.all isNumberChar = true) (closes : Closes rest)
    (read : readNumber number = some value) :
    readScalar (number ++ rest) = some (value, rest) := by
  have all : forall c, c ∈ number -> isNumberChar c = true := List.all_eq_true.mp chars
  have number_taken : (number ++ rest).takeWhile isNumberChar = number := by
    rw [List.takeWhile_append_of_pos all]
    cases rest with
    | nil => simp
    | cons c more => simp [closes c rfl]
  have rest_left : (number ++ rest).dropWhile isNumberChar = rest := by
    rw [List.dropWhile_append_of_pos all]
    cases rest with
    | nil => simp
    | cons c more => simp [closes c rfl]
  unfold readScalar
  rw [number_taken, rest_left, read]
  cases number with
  | nil => cases read
  | cons first others =>
      have numeric := all first List.mem_cons_self
      have differs : forall c, isNumberChar c = false -> c ≠ first := by
        intro c letter same
        rw [same, numeric] at letter
        cases letter
      rw [List.cons_append, readWord_ne (c := codePoint 'n') rfl (differs _ rfl),
        readWord_ne (c := codePoint 't') rfl (differs _ rfl),
        readWord_ne (c := codePoint 'f') rfl (differs _ rfl),
        readWord_ne (c := codePoint 'N') rfl (differs _ rfl),
        readWord_ne (c := codePoint 'I') rfl (differs _ rfl)]
      have noSigned : readWord "-Infinity" (.constant (text "-Infinity")) (first :: (others ++ rest)) = none := by
        cases others with
        | nil =>
            by_cases minus : codePoint '-' = first
            · rw [<- minus] at read
              cases read
            · exact readWord_ne rfl minus
        | cons second more =>
            have numericSecond := all second (List.mem_cons_of_mem first List.mem_cons_self)
            have notI : codePoint 'I' ≠ second := by
              intro same
              rw [<- same] at numericSecond
              cases numericSecond
            rw [readWord, show text "-Infinity" = codePoint '-' :: codePoint 'I' :: text "nfinity" from rfl,
              List.cons_append, List.isPrefixOf_cons_cons, List.isPrefixOf_cons_cons,
              beq_eq_false_iff_ne.mpr notI]
            simp
      rw [noSigned]
      rfl

/-- A number starts with a character that starts nothing else. -/
theorem number_head {number : Text} {value : Json} (chars : number.all isNumberChar = true)
    (read : readNumber number = some value) :
    exists c rest, number = c :: rest ∧ isNumberChar c = true := by
  cases number with
  | nil => cases read
  | cons c rest => exact ⟨c, rest, rfl, List.all_eq_true.mp chars c List.mem_cons_self⟩

theorem ne_of_isNumberChar {c d : CodePoint} (numeric : isNumberChar c = true)
    (other : isNumberChar d = false) : c ≠ d := by
  intro same
  rw [same, other] at numeric
  cases numeric

theorem isBlankChar_of_isNumberChar {c : CodePoint} (numeric : isNumberChar c = true) :
    isBlankChar c = false := by
  refine decide_eq_false ?_
  rintro (blank | blank | blank | blank)
  · exact ne_of_isNumberChar (d := 0x20) numeric rfl (Fin.ext blank)
  · exact ne_of_isNumberChar (d := 0x09) numeric rfl (Fin.ext blank)
  · exact ne_of_isNumberChar (d := 0x0A) numeric rfl (Fin.ext blank)
  · exact ne_of_isNumberChar (d := 0x0D) numeric rfl (Fin.ext blank)

/-- A document starts with a character that is neither a blank nor the end of
an array. -/
theorem render_head {depth : Nat} {v : Json} (fits : Fits depth v) :
    exists c rest, render v = c :: rest ∧ isBlankChar c = false ∧ c ≠ codePoint ']' := by
  have number : forall token value, token.all isNumberChar = true -> readNumber token = some value ->
      exists c rest, token = c :: rest ∧ isBlankChar c = false ∧ c ≠ codePoint ']' := by
    intro token value chars read
    rcases number_head chars read with ⟨c, rest, shape, numeric⟩
    exact ⟨c, rest, shape, isBlankChar_of_isNumberChar numeric, ne_of_isNumberChar numeric rfl⟩
  cases v with
  | null => exact ⟨_, _, rfl, rfl, by decide⟩
  | bool value => cases value <;> exact ⟨_, _, rfl, rfl, by decide⟩
  | int i => exact number _ _ (renderInt_all i) (readNumber_renderInt i)
  | real literal =>
      rw [Fits] at fits
      exact number _ _ fits.1 fits.2
  | constant token =>
      rw [Fits] at fits
      exact fits.elim
  | str s => exact ⟨_, _, rfl, rfl, by decide⟩
  | array items => exact ⟨_, _, rfl, rfl, by decide⟩
  | object members => exact ⟨_, _, rfl, rfl, by decide⟩

theorem skipBlanks_cons {c : CodePoint} {rest : Text} (visible : isBlankChar c = false) :
    skipBlanks (c :: rest) = c :: rest := by
  rw [skipBlanks, List.dropWhile_cons_of_neg (by rw [visible]; decide)]

theorem skipBlanks_render {depth : Nat} {v : Json} (fits : Fits depth v) (rest : Text) :
    skipBlanks (render v ++ rest) = render v ++ rest := by
  rcases render_head fits with ⟨c, others, shape, visible, _⟩
  rw [shape, List.cons_append, skipBlanks_cons visible]

theorem closes_cons {c : CodePoint} (rest : Text) (other : isNumberChar c = false) :
    Closes (c :: rest) := by
  intro d head
  cases head
  exact other

/-- A separated item list is a comma and the list from the next item on. -/
theorem renderMoreItems_cons (item : Json) (items : List Json) :
    renderMoreItems (item :: items) = codePoint ',' :: renderItems (item :: items) := rfl

theorem renderMoreMembers_cons (member : Text × Json) (members : List (Text × Json)) :
    renderMoreMembers (member :: members) = codePoint ',' :: renderMembers (member :: members) := by
  cases member
  rfl

/-- What the scanner does with a value, by its first character. -/
theorem scanValue_cons (fuel depth : Nat) (c : CodePoint) (rest : Text) :
    scanValue (fuel + 1) depth (c :: rest) =
      if c = codePoint '"' then
        (ofOption (readString (rest.length + 1) rest)).map fun found => (.str found.1, found.2)
      else if c = codePoint '[' then
        match depth with
        | 0 => .tooDeep
        | depth + 1 =>
            match skipBlanks rest with
            | [] => .malformed
            | c :: more =>
                if c = codePoint ']' then .value (.array [], more)
                else (scanItems fuel depth (c :: more)).map fun found => (.array found.1, found.2)
      else if c = codePoint '{' then
        match depth with
        | 0 => .tooDeep
        | depth + 1 =>
            match skipBlanks rest with
            | [] => .malformed
            | c :: more =>
                if c = codePoint '}' then .value (.object [], more)
                else (scanMembers fuel depth (c :: more)).map fun found => (.object found.1, found.2)
      else ofOption (readScalar (c :: rest)) :=
  scanValue.eq_def (fuel + 1) depth (c :: rest)

/-- A number is read whatever its sign. -/
theorem scanValue_number {number rest : Text} {value : Json}
    (chars : number.all isNumberChar = true) (read : readNumber number = some value)
    (closes : Closes rest) (fuel depth : Nat) :
    scanValue (fuel + 1) depth (number ++ rest) = .value (value, rest) := by
  rcases number_head chars read with ⟨c, others, shape, numeric⟩
  have scalar := readScalar_number chars closes read
  rw [shape, List.cons_append] at scalar ⊢
  rw [scanValue_cons, if_neg (ne_of_isNumberChar numeric rfl), if_neg (ne_of_isNumberChar numeric rfl),
    if_neg (ne_of_isNumberChar numeric rfl), scalar]
  rfl

theorem scanValue_string {s : Text} (simple : SimpleString s) (rest : Text) (fuel depth : Nat) :
    scanValue (fuel + 1) depth (renderString s ++ rest) = .value (.str s, rest) := by
  rw [renderString, List.cons_append, List.append_assoc, List.singleton_append, scanValue_cons,
    if_pos rfl, readString_renderString simple]
  · rfl
  · rw [flatMap_escape simple]
    simp only [List.length_append, List.length_cons]
    omega

theorem render_length_pos {depth : Nat} {v : Json} (fits : Fits depth v) :
    1 ≤ (render v).length := by
  rcases render_head fits with ⟨c, rest, shape, _⟩
  rw [shape]
  exact Nat.succ_le_succ (Nat.zero_le _)

/-- Once the items are read back, so is their array. -/
theorem scanValue_array {depth fuel : Nat} {items : List Json} {rest : Text}
    (fits : FitItems depth items)
    (read : items ≠ [] -> scanItems fuel depth (renderItems items ++ codePoint ']' :: rest) =
      .value (items, rest)) :
    scanValue (fuel + 1) (depth + 1) (render (.array items) ++ rest) = .value (.array items, rest) := by
  rw [render, List.cons_append, List.append_assoc, List.singleton_append, scanValue_cons,
    if_neg (by decide), if_pos rfl]
  cases items with
  | nil => rfl
  | cons item items =>
      have found := read (List.cons_ne_nil item items)
      rw [FitItems] at fits
      rcases render_head fits.1 with ⟨c, others, shape, visible, notEnd⟩
      rw [renderItems, shape, List.cons_append, List.cons_append] at found ⊢
      simp only [skipBlanks_cons visible, if_neg notEnd, found]
      rfl

theorem scanItems_cons {depth fuel : Nat} {item : Json} {items : List Json} {rest : Text}
    (fits : FitItems depth items)
    (first : forall more, Closes more ->
      scanValue fuel depth (render item ++ more) = .value (item, more))
    (others : items ≠ [] -> scanItems fuel depth (renderItems items ++ codePoint ']' :: rest) =
      .value (items, rest)) :
    scanItems (fuel + 1) depth (renderItems (item :: items) ++ codePoint ']' :: rest) =
      .value (item :: items, rest) := by
  rw [scanItems, renderItems, List.append_assoc]
  cases items with
  | nil =>
      rw [renderMoreItems, List.nil_append, first _ (closes_cons _ rfl)]
      rfl
  | cons second items =>
      have found := others (List.cons_ne_nil second items)
      rw [renderMoreItems_cons, List.cons_append, first _ (closes_cons _ rfl)]
      rw [FitItems] at fits
      rw [renderItems, List.append_assoc] at found ⊢
      simp only [Scanned.bind, skipBlanks_cons (c := codePoint ',') rfl, skipBlanks_render fits.1,
        found]
      rfl

theorem scanValue_object {depth fuel : Nat} {members : List (Text × Json)} {rest : Text}
    (read : members ≠ [] -> scanMembers fuel depth (renderMembers members ++ codePoint '}' :: rest) =
      .value (members, rest)) :
    scanValue (fuel + 1) (depth + 1) (render (.object members) ++ rest) =
      .value (.object members, rest) := by
  rw [render, List.cons_append, List.append_assoc, List.singleton_append, scanValue_cons,
    if_neg (by decide), if_neg (by decide), if_pos rfl]
  cases members with
  | nil => rfl
  | cons member members =>
      rcases member with ⟨key, value⟩
      have found := read (List.cons_ne_nil _ members)
      rw [renderMembers, renderString, List.cons_append, List.cons_append] at found ⊢
      simp only [skipBlanks_cons (c := codePoint '"') rfl, found]
      rfl

theorem scanMembers_cons {depth fuel : Nat} {key : Text} {value : Json}
    {members : List (Text × Json)} {rest : Text} (simple : SimpleString key)
    (fits : Fits depth value)
    (first : forall more, Closes more ->
      scanValue fuel depth (render value ++ more) = .value (value, more))
    (others : members ≠ [] -> scanMembers fuel depth (renderMembers members ++ codePoint '}' :: rest) =
      .value (members, rest)) :
    scanMembers (fuel + 1) depth (renderMembers ((key, value) :: members) ++ codePoint '}' :: rest) =
      .value ((key, value) :: members, rest) := by
  have keyRead : forall more : Text,
      readString ((key.flatMap escape ++ codePoint '"' :: more).length + 1)
        (key.flatMap escape ++ codePoint '"' :: more) = some (key, more) := by
    intro more
    exact readString_renderString simple more _ (by
      rw [flatMap_escape simple, List.length_append, List.length_cons]
      omega)
  have named : renderMembers ((key, value) :: members) ++ codePoint '}' :: rest =
      codePoint '"' :: (key.flatMap escape ++ codePoint '"' :: (codePoint ':' ::
        (render value ++ (renderMoreMembers members ++ codePoint '}' :: rest)))) := by
    simp only [renderMembers, renderString, List.cons_append, List.append_assoc, List.nil_append]
  rw [named, scanMembers, if_pos rfl, keyRead]
  simp only [ofOption, Scanned.bind, skipBlanks_cons (c := codePoint ':') rfl, if_true,
    skipBlanks_render fits]
  cases members with
  | nil =>
      rw [renderMoreMembers, List.nil_append, first _ (closes_cons _ rfl)]
      rfl
  | cons second members =>
      rcases second with ⟨secondKey, secondValue⟩
      have found := others (List.cons_ne_nil _ members)
      rw [renderMoreMembers_cons, List.cons_append, first _ (closes_cons _ rfl)]
      rw [renderMembers, renderString, List.cons_append, List.cons_append] at found ⊢
      simp only [skipBlanks_cons (c := codePoint ',') rfl, skipBlanks_cons (c := codePoint '"') rfl,
        found]
      rfl

mutual

/-- Scanning a rendered document gives it back. -/
theorem scanValue_render : forall {v : Json} {depth fuel : Nat} {rest : Text}, Fits depth v ->
    (render v).length ≤ fuel -> Closes rest ->
      scanValue fuel depth (render v ++ rest) = .value (v, rest) := by
  intro v depth fuel rest fits enough closes
  cases fuel with
  | zero => exact absurd enough (Nat.not_le.mpr (render_length_pos fits))
  | succ fuel =>
      match v, depth, fits with
      | .null, _, _ => rfl
      | .bool true, _, _ => rfl
      | .bool false, _, _ => rfl
      | .int i, _, _ => exact scanValue_number (renderInt_all i) (readNumber_renderInt i) closes fuel _
      | .real literal, _, fits =>
          rw [Fits] at fits
          exact scanValue_number fits.1 fits.2 closes fuel _
      | .constant token, _, fits =>
          rw [Fits] at fits
          exact fits.elim
      | .str s, _, fits =>
          rw [Fits] at fits
          exact scanValue_string fits rest fuel _
      | .array items, 0, fits =>
          rw [Fits] at fits
          exact fits.elim
      | .array items, depth + 1, fits =>
          rw [Fits] at fits
          refine scanValue_array fits fun nonempty => scanItems_render fits nonempty ?_
          simp only [render, List.length_cons, List.length_append, List.length_nil] at enough
          omega
      | .object members, 0, fits =>
          rw [Fits] at fits
          exact fits.elim
      | .object members, depth + 1, fits =>
          rw [Fits] at fits
          refine scanValue_object fun nonempty => scanMembers_render fits nonempty ?_
          simp only [render, List.length_cons, List.length_append, List.length_nil] at enough
          omega

theorem scanItems_render : forall {items : List Json} {depth fuel : Nat} {rest : Text},
    FitItems depth items -> items ≠ [] -> (renderItems items).length < fuel ->
      scanItems fuel depth (renderItems items ++ codePoint ']' :: rest) = .value (items, rest) := by
  intro items depth fuel rest fits nonempty enough
  match items, fuel, fits, enough with
  | [], _, _, _ => exact absurd rfl nonempty
  | item :: items, fuel + 1, fits, enough =>
      have parts := fits
      rw [FitItems] at parts
      rw [renderItems, List.length_append] at enough
      refine scanItems_cons parts.2 (fun more closes => scanValue_render parts.1 (by omega) closes)
        fun more => scanItems_render parts.2 more ?_
      rcases List.exists_cons_of_ne_nil more with ⟨next, others, rfl⟩
      rw [renderMoreItems_cons, List.length_cons] at enough
      omega

theorem scanMembers_render : forall {members : List (Text × Json)} {depth fuel : Nat} {rest : Text},
    FitMembers depth members -> members ≠ [] -> (renderMembers members).length < fuel ->
      scanMembers fuel depth (renderMembers members ++ codePoint '}' :: rest) =
        .value (members, rest) := by
  intro members depth fuel rest fits nonempty enough
  match members, fuel, fits, enough with
  | [], _, _, _ => exact absurd rfl nonempty
  | (key, value) :: members, fuel + 1, fits, enough =>
      rw [FitMembers] at fits
      rw [renderMembers, List.length_append, List.length_cons, List.length_append] at enough
      refine scanMembers_cons fits.1 fits.2.1
        (fun more closes => scanValue_render fits.2.1 (by omega) closes)
        fun more => scanMembers_render fits.2.2 more ?_
      rcases List.exists_cons_of_ne_nil more with ⟨next, others, rfl⟩
      rw [renderMoreMembers_cons, List.length_cons] at enough
      omega

end

/-- Scanning inverts rendering on the documents that fit. -/
theorem scan_render {depth : Nat} {v : Json} (fits : Fits depth v) :
    scan depth (render v) = .value v := by
  have whole := skipBlanks_render fits []
  have closes : Closes [] := by
    intro c head
    cases head
  have read := scanValue_render fits (Nat.le_succ (render v).length) closes
  rw [List.append_nil] at whole read
  rw [scan, whole, read]
  rfl

end Json
end Foundation
