import HermesSentinel.Foundation.JsonMembers
import HermesSentinel.Foundation.JsonRoundTrip
import HermesSentinel.Python.Exceptions
import HermesSentinel.Python.Text

namespace HermesSentinel
namespace Python

/-!
# `json.loads` with strict hooks

Every reader of the program passes two hooks to `json.loads`: one refuses an
object with a repeated key, the other the constants that JSON does not have.
The hooks are applied bottom-up, as the scanner completes the values.

The scanner itself is a parameter of which only this is assumed: it ends with
a value, a `ValueError` or a `RecursionError`, and it reads back what
`json.dumps` writes, to a nesting well below the interpreter's default
recursion limit.  It reads integers of any length; the interpreter's cap on
their digits is modelled where the program itself calls `int` or `str`.
-/

open Foundation

/-- The nesting a scanner is trusted with. -/
def nestingBudget : Nat := 900

structure JsonScanner where
  scan : PyStr -> Json.Scanned Json
  reads : forall document, Json.Fits nestingBudget document ->
    scan (Json.render document) = .value document

def JsonScanner.standard : JsonScanner where
  scan := Json.scan nestingBudget
  reads := fun _ fits => Json.scan_render fits

/-- The loop of an `object_pairs_hook`: the dictionary filled so far and the
pairs still to come. -/
def insertPairs (message : String) (result : List (Text × Json)) :
    List (Text × Json) -> Fallible (List (Text × Json))
  | [] => .ok result
  | (key, value) :: rest =>
      if key ∈ Json.keys result then raise .valueError message
      else insertPairs message (result ++ [(key, value)]) rest

/-- The texts of the errors the hooks of a reader raise. -/
structure StrictHooks where
  duplicateKey : String
  nonFinite : String

def StrictHooks.objectPairs (hooks : StrictHooks) (pairs : List (Text × Json)) :
    Fallible (List (Text × Json)) :=
  insertPairs hooks.duplicateKey [] pairs

def StrictHooks.constant (hooks : StrictHooks) (_token : Text) : Fallible Json :=
  raise .valueError hooks.nonFinite

namespace StrictHooks

mutual

/-- What a scanned value becomes under the hooks. -/
def apply (hooks : StrictHooks) : Json -> Fallible Json
  | .constant token => hooks.constant token
  | .array items => do
      let items ← applyItems hooks items
      .ok (.array items)
  | .object members => do
      let members ← applyMembers hooks members
      let dictionary ← hooks.objectPairs members
      .ok (.object dictionary)
  | .null => .ok .null
  | .bool value => .ok (.bool value)
  | .int value => .ok (.int value)
  | .real literal => .ok (.real literal)
  | .str value => .ok (.str value)

def applyItems (hooks : StrictHooks) : List Json -> Fallible (List Json)
  | [] => .ok []
  | item :: rest => do
      let item ← apply hooks item
      let rest ← applyItems hooks rest
      .ok (item :: rest)

def applyMembers (hooks : StrictHooks) : List (Text × Json) -> Fallible (List (Text × Json))
  | [] => .ok []
  | (key, value) :: rest => do
      let value ← apply hooks value
      let rest ← applyMembers hooks rest
      .ok ((key, value) :: rest)

end

end StrictHooks

/-- `json.loads(payload, object_pairs_hook=..., parse_constant=...)`. -/
def loads (scanner : JsonScanner) (hooks : StrictHooks) (payload : PyStr) : Fallible Json :=
  match scanner.scan payload with
  | .value document => hooks.apply document
  | .malformed => raise .valueError "JSONDecodeError"
  | .tooDeep => raise .recursionError "maximum recursion depth exceeded"

/-- The same with a scanner of which nothing is assumed. -/
def loadsBy (scan : PyStr -> Json.Scanned Json) (hooks : StrictHooks) (payload : PyStr) :
    Fallible Json :=
  match scan payload with
  | .value document => hooks.apply document
  | .malformed => raise .valueError "JSONDecodeError"
  | .tooDeep => raise .recursionError "maximum recursion depth exceeded"

theorem loads_eq_loadsBy (scanner : JsonScanner) : loads scanner = loadsBy scanner.scan := rfl

/-! ## What the hooks let through -/

mutual

/-- Every object has distinct keys and no constant occurs. -/
def Strict : Json -> Prop
  | .constant _ => False
  | .array items => StrictItems items
  | .object members => (Json.keys members).Nodup ∧ StrictMembers members
  | .null => True
  | .bool _ => True
  | .int _ => True
  | .real _ => True
  | .str _ => True

def StrictItems : List Json -> Prop
  | [] => True
  | item :: rest => Strict item ∧ StrictItems rest

def StrictMembers : List (Text × Json) -> Prop
  | [] => True
  | (_, value) :: rest => Strict value ∧ StrictMembers rest

end

theorem strictMembers_iff (members : List (Text × Json)) :
    StrictMembers members ↔ forall key value, (key, value) ∈ members -> Strict value := by
  induction members with
  | nil => simp [StrictMembers]
  | cons head tail inductionHypothesis =>
      rcases head with ⟨headKey, headValue⟩
      simp only [StrictMembers, inductionHypothesis, List.mem_cons]
      constructor
      · rintro ⟨first, rest⟩ key value (same | later)
        · cases same
          exact first
        · exact rest key value later
      · intro all
        exact ⟨all headKey headValue (Or.inl rfl), fun key value member =>
          all key value (Or.inr member)⟩

/-- The values of a strict object are strict. -/
theorem Strict.of_lookup {members : List (Text × Json)} (strict : Strict (.object members))
    {key : Text} {value : Json} (found : members.lookup key = some value) : Strict value := by
  rw [Strict, strictMembers_iff] at strict
  exact strict.2 key value (Json.mem_of_lookup found)

mutual

/-- Sorting the keys keeps a document strict. -/
theorem strict_sortKeys : forall {v : Json}, Strict v -> Strict (Json.sortKeys v) := by
  intro v strict
  match v, strict with
  | .null, strict => exact strict
  | .bool _, strict => exact strict
  | .int _, strict => exact strict
  | .real _, strict => exact strict
  | .constant _, strict => exact strict
  | .str _, strict => exact strict
  | .array items, strict => exact strictItems_sortKeys strict
  | .object members, strict =>
      have sorted := (strictMembers_iff _).mp (strictMembers_sortKeys strict.2)
      have perm := Json.sortMembers_perm (Json.sortKeysMembers members)
      refine ⟨(Json.keys_perm perm).nodup_iff.mpr ?_, (strictMembers_iff _).mpr ?_⟩
      · rw [Json.keys_sortKeysMembers]
        exact strict.1
      · intro key value member
        exact sorted key value (perm.mem_iff.mp member)

theorem strictItems_sortKeys : forall {items : List Json}, StrictItems items ->
    StrictItems (Json.sortKeysItems items) := by
  intro items strict
  match items, strict with
  | [], _ => trivial
  | item :: rest, strict => exact ⟨strict_sortKeys strict.1, strictItems_sortKeys strict.2⟩

theorem strictMembers_sortKeys : forall {members : List (Text × Json)}, StrictMembers members ->
    StrictMembers (Json.sortKeysMembers members) := by
  intro members strict
  match members, strict with
  | [], _ => trivial
  | (key, value) :: rest, strict =>
      exact ⟨strict_sortKeys strict.1, strictMembers_sortKeys strict.2⟩

end

theorem insertPairs_eq_ok (message : String) (result pairs dictionary : List (Text × Json))
    (distinct : (Json.keys result).Nodup) :
    insertPairs message result pairs = .ok dictionary ↔
      dictionary = result ++ pairs ∧ (Json.keys (result ++ pairs)).Nodup := by
  induction pairs generalizing result with
  | nil =>
      rw [insertPairs, List.append_nil, Except.ok.injEq]
      exact ⟨fun same => ⟨same.symm, distinct⟩, fun same => same.1.symm⟩
  | cons head tail inductionHypothesis =>
      rcases head with ⟨key, value⟩
      rw [insertPairs]
      have moved : result ++ (key, value) :: tail = (result ++ [(key, value)]) ++ tail := by
        rw [List.append_assoc, List.singleton_append]
      split
      · rename_i repeated
        constructor
        · intro impossible
          exact absurd impossible (raise_ne_ok _ _ _)
        · rintro ⟨_, names⟩
          rw [moved, Json.keys, List.map_append, List.map_append] at names
          have apart := List.nodup_append.mp (List.nodup_append.mp names).1
          exact absurd rfl (apart.2.2 key repeated key List.mem_cons_self)
      · rename_i fresh
        have extended : (Json.keys (result ++ [(key, value)])).Nodup := by
          rw [Json.keys, List.map_append]
          refine List.nodup_append.mpr ⟨distinct, List.nodup_singleton _, ?_⟩
          intro first earlier second last same
          rw [List.map_singleton, List.mem_singleton] at last
          rw [same, last] at earlier
          exact fresh earlier
        rw [inductionHypothesis _ extended, moved]

namespace StrictHooks

mutual

/-- The hooks let exactly the strict documents through, unchanged. -/
theorem apply_eq_ok (hooks : StrictHooks) : forall document result : Json,
    hooks.apply document = .ok result ↔ result = document ∧ Strict document
  | .constant token, result => by simp [apply, constant, Strict]
  | .array items, result => by
      rw [apply, bind_eq_ok]
      simp only [applyItems_eq_ok hooks items, Strict, Except.ok.injEq]
      constructor
      · rintro ⟨middle, ⟨rfl, strict⟩, rfl⟩
        exact ⟨rfl, strict⟩
      · rintro ⟨rfl, strict⟩
        exact ⟨items, ⟨rfl, strict⟩, rfl⟩
  | .object members, result => by
      rw [apply, bind_eq_ok]
      simp only [applyMembers_eq_ok hooks members, bind_eq_ok, objectPairs, Strict,
        insertPairs_eq_ok hooks.duplicateKey [] _ _ List.nodup_nil, List.nil_append,
        Except.ok.injEq]
      constructor
      · rintro ⟨middle, ⟨rfl, strict⟩, dictionary, ⟨rfl, distinct⟩, rfl⟩
        exact ⟨rfl, distinct, strict⟩
      · rintro ⟨rfl, distinct, strict⟩
        exact ⟨members, ⟨rfl, strict⟩, members, ⟨rfl, distinct⟩, rfl⟩
  | .null, result => by simp [apply, Strict, eq_comm]
  | .bool value, result => by simp [apply, Strict, eq_comm]
  | .int value, result => by simp [apply, Strict, eq_comm]
  | .real literal, result => by simp [apply, Strict, eq_comm]
  | .str value, result => by simp [apply, Strict, eq_comm]

theorem applyItems_eq_ok (hooks : StrictHooks) : forall items result : List Json,
    hooks.applyItems items = .ok result ↔ result = items ∧ StrictItems items
  | [], result => by simp [applyItems, StrictItems, eq_comm]
  | item :: rest, result => by
      simp only [applyItems, bind_eq_ok, apply_eq_ok hooks item, applyItems_eq_ok hooks rest,
        StrictItems, Except.ok.injEq]
      constructor
      · rintro ⟨first, ⟨rfl, strict⟩, others, ⟨rfl, stricts⟩, rfl⟩
        exact ⟨rfl, strict, stricts⟩
      · rintro ⟨rfl, strict, stricts⟩
        exact ⟨item, ⟨rfl, strict⟩, rest, ⟨rfl, stricts⟩, rfl⟩

theorem applyMembers_eq_ok (hooks : StrictHooks) : forall members result : List (Text × Json),
    hooks.applyMembers members = .ok result ↔ result = members ∧ StrictMembers members
  | [], result => by simp [applyMembers, StrictMembers, eq_comm]
  | (key, value) :: rest, result => by
      simp only [applyMembers, bind_eq_ok, apply_eq_ok hooks value, applyMembers_eq_ok hooks rest,
        StrictMembers, Except.ok.injEq]
      constructor
      · rintro ⟨first, ⟨rfl, strict⟩, others, ⟨rfl, stricts⟩, rfl⟩
        exact ⟨rfl, strict, stricts⟩
      · rintro ⟨rfl, strict, stricts⟩
        exact ⟨value, ⟨rfl, strict⟩, rest, ⟨rfl, stricts⟩, rfl⟩

end

end StrictHooks

theorem loadsBy_eq_ok {scan : PyStr -> Json.Scanned Json} {hooks : StrictHooks} {payload : PyStr}
    {document : Json} :
    loadsBy scan hooks payload = .ok document ↔ scan payload = .value document ∧ Strict document := by
  unfold loadsBy
  cases scan payload with
  | value scanned =>
      simp only [StrictHooks.apply_eq_ok, Json.Scanned.value.injEq]
      constructor
      · rintro ⟨rfl, strict⟩
        exact ⟨rfl, strict⟩
      · rintro ⟨rfl, strict⟩
        exact ⟨rfl, strict⟩
  | malformed => simp
  | tooDeep => simp

theorem loads_eq_ok {scanner : JsonScanner} {hooks : StrictHooks} {payload : PyStr}
    {document : Json} :
    loads scanner hooks payload = .ok document ↔
      scanner.scan payload = .value document ∧ Strict document := by
  rw [loads_eq_loadsBy]
  exact loadsBy_eq_ok

/-- What is written, strictly, is read back. -/
theorem loads_render (scanner : JsonScanner) (hooks : StrictHooks) {document : Json}
    (fits : Json.Fits nestingBudget document) (strict : Strict document) :
    loads scanner hooks (Json.render document) = .ok document :=
  loads_eq_ok.mpr ⟨scanner.reads document fits, strict⟩

theorem insertPairs_raises (message : String) (result pairs : List (Text × Json)) :
    RaisesOnly (· = .valueError) (insertPairs message result pairs) := by
  induction pairs generalizing result with
  | nil => exact .ok _
  | cons head tail inductionHypothesis =>
      rw [insertPairs]
      split
      · exact .raise _ (Eq.refl _)
      · exact inductionHypothesis _

namespace StrictHooks

mutual

theorem apply_raises (hooks : StrictHooks) : forall document : Json,
    RaisesOnly (· = .valueError) (hooks.apply document)
  | .constant _ => .raise _ (Eq.refl _)
  | .array items => .bind (applyItems_raises hooks items) fun _ _ => .ok _
  | .object members => .bind (applyMembers_raises hooks members) fun _ _ =>
      .bind (insertPairs_raises _ _ _) fun _ _ => .ok _
  | .null => .ok _
  | .bool _ => .ok _
  | .int _ => .ok _
  | .real _ => .ok _
  | .str _ => .ok _

theorem applyItems_raises (hooks : StrictHooks) : forall items : List Json,
    RaisesOnly (· = .valueError) (hooks.applyItems items)
  | [] => .ok _
  | item :: rest => .bind (apply_raises hooks item) fun _ _ =>
      .bind (applyItems_raises hooks rest) fun _ _ => .ok _

theorem applyMembers_raises (hooks : StrictHooks) : forall members : List (Text × Json),
    RaisesOnly (· = .valueError) (hooks.applyMembers members)
  | [] => .ok _
  | (_, value) :: rest => .bind (apply_raises hooks value) fun _ _ =>
      .bind (applyMembers_raises hooks rest) fun _ _ => .ok _

end

end StrictHooks

/-- Reading fails only in the ways the callers of `json.loads` catch. -/
theorem loadsBy_raises (scan : PyStr -> Json.Scanned Json) (hooks : StrictHooks) (payload : PyStr) :
    RaisesOnly (fun kind => kind = .valueError ∨ kind = .recursionError)
      (loadsBy scan hooks payload) := by
  unfold loadsBy
  cases scan payload with
  | value document => exact (hooks.apply_raises document).mono fun _ => Or.inl
  | malformed => exact .raise _ (Or.inl rfl)
  | tooDeep => exact .raise _ (Or.inr rfl)

theorem loads_raises (scanner : JsonScanner) (hooks : StrictHooks) (payload : PyStr) :
    RaisesOnly (fun kind => kind = .valueError ∨ kind = .recursionError)
      (loads scanner hooks payload) := by
  rw [loads_eq_loadsBy]
  exact loadsBy_raises scanner.scan hooks payload

end Python
end HermesSentinel
