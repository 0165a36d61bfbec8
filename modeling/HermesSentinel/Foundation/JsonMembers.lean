import HermesSentinel.Foundation.Json

namespace Foundation
namespace Json

/-!
# Objects as finite maps

A reader that looks members up by key does not see their order.  For members
with distinct keys, exactly the order is lost: two such lists answer every
lookup alike when they are permutations of each other, and then they also have
one sorted form.
-/

def keys (members : List (Text × Json)) : List Text :=
  members.map Prod.fst

theorem mem_keys {members : List (Text × Json)} {key : Text} {value : Json}
    (member : (key, value) ∈ members) : key ∈ keys members :=
  List.mem_map.mpr ⟨(key, value), member, rfl⟩

theorem mem_of_lookup {members : List (Text × Json)} {key : Text} {value : Json}
    (found : members.lookup key = some value) : (key, value) ∈ members := by
  rcases List.lookup_eq_some_iff.mp found with ⟨before, after, rfl, _⟩
  exact List.mem_append_right before List.mem_cons_self

theorem lookup_of_mem {members : List (Text × Json)} (distinct : (keys members).Nodup)
    {key : Text} {value : Json} (member : (key, value) ∈ members) :
    members.lookup key = some value := by
  induction members with
  | nil => cases member
  | cons head tail inductionHypothesis =>
      rcases head with ⟨headKey, headValue⟩
      have parts := List.nodup_cons.mp distinct
      rcases List.mem_cons.mp member with same | later
      · cases same
        exact List.lookup_cons_self
      · have differs : key ≠ headKey := by
          intro same
          exact parts.1 (same ▸ mem_keys later)
        rw [List.lookup_cons, beq_false_of_ne differs]
        exact inductionHypothesis parts.2 later

theorem exists_lookup {members : List (Text × Json)} {key : Text} (member : key ∈ keys members) :
    exists value, members.lookup key = some value := by
  rcases List.mem_map.mp member with ⟨⟨otherKey, value⟩, present, rfl⟩
  apply Option.isSome_iff_exists.mp
  exact List.lookup_isSome_iff.mpr ⟨_, present, beq_self_eq_true _⟩

theorem nodup_of_keys {members : List (Text × Json)} (distinct : (keys members).Nodup) :
    members.Nodup :=
  List.Nodup.of_map Prod.fst distinct

theorem keys_perm {members named : List (Text × Json)} (perm : members.Perm named) :
    (keys members).Perm (keys named) :=
  perm.map Prod.fst

/-- Members that answer the lookups of a list of distinct names, and have no
other key, are that list in some order. -/
theorem perm_of_lookups {members named : List (Text × Json)} (distinct : (keys members).Nodup)
    (names : (keys named).Nodup) (only : forall key, key ∈ keys members -> key ∈ keys named)
    (found : forall key value, (key, value) ∈ named -> members.lookup key = some value) :
    members.Perm named := by
  apply (List.perm_ext_iff_of_nodup (nodup_of_keys distinct) (nodup_of_keys names)).mpr
  rintro ⟨key, value⟩
  constructor
  · intro member
    rcases List.mem_map.mp (only key (mem_keys member)) with ⟨⟨_, other⟩, present, rfl⟩
    have answers := found _ other present
    rw [lookup_of_mem distinct member] at answers
    cases answers
    exact present
  · intro present
    exact mem_of_lookup (found key value present)

/-- A permutation of distinctly named members answers their lookups. -/
theorem lookup_of_perm {members named : List (Text × Json)} (perm : members.Perm named)
    (names : (keys named).Nodup) (key : Text) (value : Json) (present : (key, value) ∈ named) :
    members.lookup key = some value :=
  lookup_of_mem ((keys_perm perm).nodup_iff.mpr names) (perm.mem_iff.mpr present)

theorem sortMembers_perm (members : List (Text × Json)) : (sortMembers members).Perm members :=
  List.perm_insertionSort _ members

/-- Distinctly named members have one sorted form, whatever their order. -/
theorem sortMembers_eq_of_perm {members named : List (Text × Json)} (perm : members.Perm named)
    (names : (keys named).Nodup) : sortMembers members = sortMembers named := by
  have sorted : forall list : List (Text × Json),
      (sortMembers list).Pairwise fun first second => first.1 ≤ second.1 :=
    List.pairwise_insertionSort _
  have same : (sortMembers members).Perm (sortMembers named) :=
    (sortMembers_perm members).trans (perm.trans (sortMembers_perm named).symm)
  refine same.eq_of_pairwise ?_ (sorted members) (sorted named)
  rintro ⟨key, value⟩ ⟨otherKey, other⟩ left right below above
  have sameKey : key = otherKey := le_antisymm below above
  have first := (sortMembers_perm members).mem_iff.mp left
  have second := (sortMembers_perm named).mem_iff.mp right
  rw [sameKey, perm.mem_iff] at first
  rw [sameKey, Option.some.inj ((lookup_of_mem names first).symm.trans (lookup_of_mem names second))]

theorem sortKeysMembers_eq_map (members : List (Text × Json)) :
    sortKeysMembers members = members.map fun member => (member.1, sortKeys member.2) := by
  induction members with
  | nil => rfl
  | cons head tail inductionHypothesis =>
      rcases head with ⟨key, value⟩
      rw [sortKeysMembers, inductionHypothesis]
      rfl

theorem keys_sortKeysMembers (members : List (Text × Json)) :
    keys (sortKeysMembers members) = keys members := by
  rw [sortKeysMembers_eq_map, keys, List.map_map]
  rfl

/-- The members of a sorted object are a permutation of the sorted members. -/
theorem exists_sortKeys_object (members : List (Text × Json)) :
    exists sorted, sortKeys (.object members) = .object sorted ∧
      sorted.Perm (sortKeysMembers members) := by
  refine ⟨sortMembers (sortKeysMembers members), ?_, sortMembers_perm _⟩
  rw [sortKeys]

/-- An object has the sorted form of any other order of its members, and of
members with equal sorted forms. -/
theorem sortKeys_object_eq {members named other : List (Text × Json)} (perm : members.Perm named)
    (names : (keys named).Nodup) (values : sortKeysMembers named = sortKeysMembers other) :
    sortKeys (.object members) = sortKeys (.object other) := by
  have sorted : (sortKeysMembers members).Perm (sortKeysMembers named) := by
    rw [sortKeysMembers_eq_map, sortKeysMembers_eq_map]
    exact perm.map _
  rw [sortKeys, sortKeys, sortMembers_eq_of_perm sorted (by rwa [keys_sortKeysMembers]), values]

end Json
end Foundation
