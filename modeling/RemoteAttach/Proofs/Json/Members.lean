import Mathlib.Data.List.Sort
import RemoteAttach.Proofs.Json.Ensures

/-! Members as a map from names to values, and values up to the order in which the members of their
objects stand. -/

namespace RemoteAttach

namespace Members

variable {α β : Type} {name : String}

theorem lookup_cons (first : String × α) (rest : Members α) (name : String) :
    List.lookup name (first :: rest) = if first.1 = name then some first.2 else rest.lookup name := by
  rw [List.lookup_cons]
  by_cases same : first.1 = name
  · rw [if_pos same, same, beq_self_eq_true]
  · rw [if_neg same, beq_false_of_ne (Ne.symm same)]

theorem lookup_insert (name other : String) (value : α) (members : Members α) :
    (members.insert name value).lookup other =
      if name = other then some value else members.lookup other := by
  induction members with
  | nil => exact lookup_cons _ _ _
  | cons first rest ih =>
    rw [insert]
    split
    · rename_i same
      rw [lookup_cons, lookup_cons, ← same]
      split <;> rfl
    · split
      · rw [lookup_cons]
      · rename_i differ _
        rw [lookup_cons, lookup_cons, ih]
        by_cases here : first.1 = other
        · rw [if_pos here, if_pos here, if_neg (here ▸ differ)]
        · rw [if_neg here, if_neg here]

theorem map_insert (f : α → β) (name : String) (value : α) (members : Members α) :
    (members.insert name value).map (fun member => (member.1, f member.2)) =
      Members.insert name (f value) (members.map fun member => (member.1, f member.2)) := by
  induction members with
  | nil => rfl
  | cons first rest ih =>
    rw [insert, List.map_cons, insert]
    split
    · rfl
    · split
      · rfl
      · rw [List.map_cons, ih]

theorem lookup_map (f : α → β) (name : String) (members : Members α) :
    (members.map fun member => (member.1, f member.2)).lookup name =
      (members.lookup name).map f := by
  induction members with
  | nil => rfl
  | cons first rest ih =>
    rw [List.map_cons, lookup_cons, lookup_cons, ih]
    split <;> rfl

theorem mem_of_lookup {members : Members α} {value : α}
    (found : members.lookup name = some value) : (name, value) ∈ members := by
  obtain ⟨before, after, rfl, -⟩ := List.lookup_eq_some_iff.mp found
  simp

theorem lookup_of_mem {members : Members α} (nodup : (members.map Prod.fst).Nodup) {value : α}
    (there : (name, value) ∈ members) : members.lookup name = some value := by
  induction members with
  | nil => simp at there
  | cons first rest ih =>
    obtain ⟨new, nodup⟩ := List.nodup_cons.mp nodup
    rw [lookup_cons]
    rcases List.mem_cons.mp there with rfl | there
    · simp
    · have differ : first.1 ≠ name := fun same => new (same ▸ List.mem_map_of_mem there)
      rw [if_neg differ, ih nodup there]

theorem lookup_eq_none_iff {members : Members α} :
    members.lookup name = none ↔ name ∉ members.map Prod.fst := by
  simp only [List.lookup_eq_none_iff, bne_iff_ne, ne_comm (a := name), List.mem_map, not_exists,
    not_and, ne_eq]

/-! ### Members by rising name -/

theorem Sorted.ext {members others : Members α} (sorted : members.Sorted) (sorted' : others.Sorted)
    (same : ∀ name, members.lookup name = others.lookup name) : members = others := by
  have perm : members.Perm others := by
    refine (List.perm_ext_iff_of_nodup (.of_map _ sorted.nodup) (.of_map _ sorted'.nodup)).mpr ?_
    rintro ⟨name, value⟩
    exact ⟨fun there => mem_of_lookup (same name ▸ lookup_of_mem sorted.nodup there), fun there =>
      mem_of_lookup ((same name).trans (lookup_of_mem sorted'.nodup there))⟩
  exact perm.eq_of_pairwise (fun _ _ _ _ below above => (below.asymm above).elim) sorted sorted'

/-- The members by rising name. -/
def sort (members : Members α) : Members α :=
  members.insertionSort fun first second => ¬ second.1 < first.1

theorem perm_sort (members : Members α) : members.sort.Perm members :=
  List.perm_insertionSort _ members

theorem Sorted.sort_eq {members : Members α} (sorted : members.Sorted) : members.sort = members :=
  List.Pairwise.insertionSort_eq (sorted.imp fun below => below.asymm)

theorem nodup_sort {members : Members α} (nodup : (members.map Prod.fst).Nodup) :
    (members.sort.map Prod.fst).Nodup :=
  (members.perm_sort.map Prod.fst).nodup_iff.mpr nodup

theorem sorted_sort {members : Members α} (nodup : (members.map Prod.fst).Nodup) :
    members.sort.Sorted := by
  have : Std.Total fun first second : String × α => ¬ second.1 < first.1 :=
    ⟨fun first second => by simpa only [not_lt] using le_total first.1 second.1⟩
  have : IsTrans (String × α) fun first second => ¬ second.1 < first.1 :=
    ⟨fun _ _ _ => by simpa only [not_lt] using le_trans⟩
  have distinct := nodup_sort nodup
  rw [List.nodup_iff_pairwise_ne, List.pairwise_map] at distinct
  exact (List.pairwise_insertionSort _ members).imp₂
    (fun _ _ notBelow differ => lt_of_le_of_ne (not_lt.mp notBelow) differ) distinct

theorem lookup_sort {members : Members α} (nodup : (members.map Prod.fst).Nodup) (name : String) :
    members.sort.lookup name = members.lookup name := by
  cases found : members.lookup name with
  | none =>
    rw [lookup_eq_none_iff] at found ⊢
    rwa [(members.perm_sort.map Prod.fst).mem_iff]
  | some value =>
    exact lookup_of_mem (nodup_sort nodup) (members.perm_sort.mem_iff.mpr (mem_of_lookup found))

/-! ### Members that are left out -/

/-- The members, each with what `change` makes of its value, or left out. -/
def amend (change : String → α → Option β) (members : Members α) : Members β :=
  members.filterMap fun member => (change member.1 member.2).map fun value => (member.1, value)

theorem amend_cons (change : String → α → Option β) (first : String × α) (rest : Members α) :
    amend change (first :: rest) = match change first.1 first.2 with
      | some value => (first.1, value) :: rest.amend change
      | none => rest.amend change := by
  rw [amend, List.filterMap_cons]
  cases change first.1 first.2 <;> rfl

theorem Sorted.amend {members : Members α} (sorted : members.Sorted)
    (change : String → α → Option β) : (members.amend change).Sorted := by
  refine List.Pairwise.filterMap _ (fun first second below first' there second' there' => ?_) sorted
  obtain ⟨-, -, rfl⟩ := Option.map_eq_some_iff.mp there
  obtain ⟨-, -, rfl⟩ := Option.map_eq_some_iff.mp there'
  exact below

theorem lookup_amend {members : Members α} (nodup : (members.map Prod.fst).Nodup)
    (change : String → α → Option β) (name : String) :
    (members.amend change).lookup name = (members.lookup name).bind (change name) := by
  induction members with
  | nil => rfl
  | cons first rest ih =>
    obtain ⟨new, nodup⟩ := List.nodup_cons.mp nodup
    rw [amend_cons, lookup_cons]
    by_cases same : first.1 = name
    · subst same
      have gone : rest.lookup first.1 = none := lookup_eq_none_iff.mpr new
      cases changed : change first.1 first.2 with
      | none => simp [ih nodup, gone, changed]
      | some value => simp [changed]
    · cases changed : change first.1 first.2 with
      | none => simp [ih nodup, same]
      | some value => simp [lookup_cons, ih nodup, same]

/-- Two changes come to the same exactly if they do for each member. -/
theorem amend_eq_amend_iff {members : Members α} (nodup : (members.map Prod.fst).Nodup)
    {change change' : String → α → Option β} :
    members.amend change = members.amend change' ↔
      ∀ member ∈ members, change member.1 member.2 = change' member.1 member.2 := by
  constructor
  · intro same member there
    have found := lookup_of_mem nodup there
    have changed := lookup_amend nodup change member.1
    rwa [same, lookup_amend nodup, found, Option.bind_some, Option.bind_some, eq_comm] at changed
  · intro same
    exact List.filterMap_congr fun member there => by rw [same member there]

/-- The members, and those of `others` whose names are missing. -/
def complete (members others : Members α) : Members α :=
  others.foldl (fun members other =>
    if (members.lookup other.1).isSome then members else members.insert other.1 other.2) members

theorem complete_cons (members : Members α) (other : String × α) (others : Members α) :
    members.complete (other :: others) =
      (if (members.lookup other.1).isSome then members
        else members.insert other.1 other.2).complete others :=
  rfl

theorem lookup_complete (members others : Members α) (name : String) :
    (members.complete others).lookup name = (members.lookup name).or (others.lookup name) := by
  induction others generalizing members with
  | nil => exact Option.or_none.symm
  | cons other others ih =>
    rw [complete_cons, ih, lookup_cons]
    by_cases same : other.1 = name
    · subst same
      cases found : members.lookup other.1 <;> simp [found, lookup_insert]
    · rw [if_neg same]
      split
      · rfl
      · rw [lookup_insert, if_neg same]

theorem Sorted.complete {members : Members α} (sorted : members.Sorted) (others : Members α) :
    (members.complete others).Sorted := by
  induction others generalizing members with
  | nil => exact sorted
  | cons other others ih =>
    rw [complete_cons]
    split
    · exact ih sorted
    · exact ih (sorted.insert _ _)

end Members

namespace Json

/-! ### Parts of values -/

/-- The items of an array, and none of any other value. -/
def items : Json → List Json
  | array items => items
  | _ => []

/-- The value, unless it is null. -/
def unlessNull : Json → Option Json
  | null => none
  | v => some v

theorem unlessNull_eq {v : Json} (set : v ≠ .null) : v.unlessNull = some v := by
  cases v with
  | null => exact absurd rfl set
  | _ => rfl

/-- The value, unless it is an object without members. -/
def unlessEmpty : Json → Option Json
  | object [] => none
  | v => some v

/-- The members of an object, and none of any other value. -/
def members : Json → Members Json
  | object members => members
  | _ => []

/-- The value is an array. -/
def isArray : Json → Bool
  | array _ => true
  | _ => false

/-- An object with what `change` makes of its members, and any other value as it is. -/
def amend (change : String → Json → Option Json) : Json → Json
  | object members => object (Members.amend change members)
  | v => v

theorem Fits.sorted_members {room : Nat} {v : Json} (fits : Fits room v) : v.members.Sorted := by
  cases fits with
  | object _ sorted => exact sorted
  | _ => exact .nil

theorem Fits.of_mem_members {room : Nat} {v : Json} (fits : Fits room v) :
    ∀ member ∈ v.members, ∃ room, Fits room member.2 := by
  cases fits with
  | object each _ => exact fun member there => ⟨_, each member there⟩
  | _ => exact nofun

theorem Fits.of_mem_items {room : Nat} {v : Json} (fits : Fits room v) :
    ∀ item ∈ v.items, ∃ room, Fits room item := by
  cases fits with
  | array each => exact fun item there => ⟨_, each item there⟩
  | _ => exact nofun

/-- Two changes of an object come to the same exactly if they do for its members. -/
theorem amend_eq_amend_iff {v : Json} {change change' : String → Json → Option Json} :
    v.unlessNull.map (amend change) = v.unlessNull.map (amend change') ↔
      v.members.amend change = v.members.amend change' := by
  cases v with
  | object _ => simp [unlessNull, amend, members]
  | _ => simp [unlessNull, amend, members, Members.amend]

/-! ### The order of members -/

mutual

/-- The value with the members of all its objects by rising name. -/
def ordered : Json → Json
  | array items => array (orderedItems items)
  | object members => object (Members.sort (orderedMembers members))
  | value => value

/-- The items, each with the members of its objects by rising name. -/
def orderedItems : List Json → List Json
  | [] => []
  | item :: rest => item.ordered :: orderedItems rest

/-- The members, each with those of the objects in its value by rising name. -/
def orderedMembers : List (String × Json) → List (String × Json)
  | [] => []
  | (name, value) :: rest => (name, value.ordered) :: orderedMembers rest

end

theorem orderedItems_eq (items : List Json) : orderedItems items = items.map ordered := by
  induction items with
  | nil => rfl
  | cons item items ih => rw [orderedItems, ih, List.map_cons]

theorem orderedMembers_eq (members : List (String × Json)) :
    orderedMembers members = members.map fun member => (member.1, member.2.ordered) := by
  induction members with
  | nil => rfl
  | cons member members ih => rw [orderedMembers, ih, List.map_cons]

/-- A value that has been read is in order. -/
theorem Fits.ordered_eq {room : Nat} {v : Json} (fits : Fits room v) : v.ordered = v := by
  induction fits with
  | array each ih =>
    rw [ordered, orderedItems_eq, List.map_congr_left ih, List.map_id']
  | @object room members each sorted ih =>
    have same : (members.map fun member => (member.1, member.2.ordered)) = members.map id :=
      List.map_congr_left fun member there => Prod.ext rfl (ih member there)
    rw [ordered, orderedMembers_eq, same, List.map_id, sorted.sort_eq]
  | _ => rfl

theorem nodup_orderedMembers {members : Members Json} (nodup : (members.map Prod.fst).Nodup) :
    ((orderedMembers members).map Prod.fst).Nodup := by
  rwa [orderedMembers_eq, List.map_map]

theorem lookup_orderedMembers {members : Members Json} (nodup : (members.map Prod.fst).Nodup)
    (name : String) :
    (Members.sort (orderedMembers members)).lookup name = (members.lookup name).map ordered := by
  rw [Members.lookup_sort (nodup_orderedMembers nodup), orderedMembers_eq, Members.lookup_map]

theorem ordered_object {members target : Members Json} (nodup : (members.map Prod.fst).Nodup)
    (sorted : target.Sorted)
    (same : ∀ name, (members.lookup name).map ordered = target.lookup name) :
    (object members).ordered = object target :=
  congrArg object ((Members.sorted_sort (nodup_orderedMembers nodup)).ext sorted fun name =>
    (lookup_orderedMembers nodup name).trans (same name))

/-- An object without the members of some names. -/
def without (names : List String) : Json → Json :=
  amend fun name v => if name ∈ names then none else some v

theorem without_object_iff {names : List String} {members others : Members Json}
    (sorted : members.Sorted) (sorted' : others.Sorted) :
    (object members).without names = (object others).without names ↔
      ∀ name ∉ names, members.lookup name = others.lookup name := by
  unfold without amend
  rw [object.injEq]
  constructor
  · intro same name kept
    have looked := congrArg (List.lookup name) same
    rw [Members.lookup_amend sorted.nodup, Members.lookup_amend sorted'.nodup] at looked
    simpa only [if_neg kept, Option.bind_fun_some] using looked
  · intro same
    refine (sorted.amend _).ext (sorted'.amend _) fun name => ?_
    rw [Members.lookup_amend sorted.nodup, Members.lookup_amend sorted'.nodup]
    by_cases gone : name ∈ names
    · simp only [if_pos gone, Option.bind_fun_none]
    · rw [same name gone]

/-- What is written of two objects is the same without the members in which they differ. -/
theorem without_congr {names : List String} {members others : Members Json}
    (nodup : (members.map Prod.fst).Nodup) (nodup' : (others.map Prod.fst).Nodup)
    (same : ∀ name ∉ names, members.lookup name = others.lookup name) :
    (object members).ordered.without names = (object others).ordered.without names := by
  refine (without_object_iff (Members.sorted_sort (nodup_orderedMembers nodup))
    (Members.sorted_sort (nodup_orderedMembers nodup'))).mpr fun name kept => ?_
  rw [lookup_orderedMembers nodup, lookup_orderedMembers nodup', same name kept]

end Json

end RemoteAttach
