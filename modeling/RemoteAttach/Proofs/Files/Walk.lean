import Mathlib.Data.List.Nodup
import RemoteAttach.Files.Facts
import RemoteAttach.Proofs.Text.Pieces

/-! Where texts lead in a tree of files. A name behind a text leads to what has that name in the
folder that the text leads to, through whatever links. A text that leads somewhere still leads there
when files are gone. -/

namespace RemoteAttach

open RemoteAttach.Text

/-- The node is a file. -/
def Node.isFile : Node → Bool
  | file .. | program _ => true
  | _ => false

namespace Path

/-- A name that a folder may hold. -/
structure IsName (name : String) : Prop where
  some_ : name ≠ ""
  here : name ≠ "."
  above : name ≠ ".."
  solidus : '/' ∉ name.toList
  zero : '\x00' ∉ name.toList
  fits : name.utf8ByteSize ≤ maxName

instance (name : String) : Decidable (IsName name) :=
  decidable_of_iff (name ≠ "" ∧ name ≠ "." ∧ name ≠ ".." ∧ '/' ∉ name.toList ∧
      '\x00' ∉ name.toList ∧ name.utf8ByteSize ≤ maxName)
    ⟨fun h => ⟨h.1, h.2.1, h.2.2.1, h.2.2.2.1, h.2.2.2.2.1, h.2.2.2.2.2⟩,
      fun h => ⟨h.some_, h.here, h.above, h.solidus, h.zero, h.fits⟩⟩

theorem names_append (before after : String) :
    names (before ++ "/" ++ after) = names before ++ names after := by
  have text : (before ++ "/" ++ after).toList = before.toList ++ '/' :: after.toList := by simp
  rw [names, names, names, text, pieces_append_cons, List.map_append]

theorem IsName.names {name : String} (h : IsName name) : Path.names name = [name] := by
  have free : ¬ ['/'] <:+: name.toList := fun held => h.solidus (held.subset List.mem_cons_self)
  rw [Path.names, pieces_of_free free, List.map_singleton, String.ofList_toList]

/-- A name that is joined to a text stands behind a solidus, which the text may end in. -/
theorem join_eq {text : String} (some_ : text ≠ "") (name : String) :
    ∃ before, join text name = before ++ "/" ++ name ∧
      (text = before ∨ text = before ++ "/") := by
  rw [join, if_neg (by simpa using some_)]
  split
  · rename_i ends
    rw [String.endsWith_char_eq_getLast?, beq_iff_eq, List.getLast?_eq_some_iff] at ends
    obtain ⟨before, whole⟩ := ends
    have same : text = String.ofList before ++ "/" := by
      rw [← String.toList_inj, whole]
      simp
    exact ⟨String.ofList before, by rw [same], .inr same⟩
  · exact ⟨text, rfl, .inl rfl⟩

/-- A name that is joined to a text does not change whether it begins at the root. -/
theorem startsWith_join {text : String} (some_ : text ≠ "") (name : String) :
    (join text name).startsWith "/" = text.startsWith "/" := by
  obtain ⟨before, joined, ends⟩ := join_eq some_ name
  rw [joined, Bool.eq_iff_iff, String.startsWith_string_iff, String.startsWith_string_iff]
  rcases ends with rfl | rfl
  · cases chars : text.toList with
    | nil => exact absurd (String.toList_eq_nil_iff.mp chars) some_
    | cons c rest => simp [chars]
  · cases chars : before.toList <;> simp [chars]

end Path

namespace FileTree

variable {tree : FileTree} {start here folder path : Path} {names more : List String}
  {followLast : Bool}

/-! ### A name behind a text -/

/-- A walk goes on where its first part ends, and follows every link in that. -/
theorem walk_append (some_ : more ≠ []) :
    tree.walk followLast here (names ++ more) =
      match tree.walk true here names with
      | .reached path => tree.walk followLast path more
      | .met target here rest => .met target here (rest ++ more)
      | .refused e => .refused e := by
  induction names generalizing here with
  | nil => rfl
  | cons name names ih =>
    have further : (names ++ more).isEmpty = false := by simp [some_]
    rw [List.cons_append, walk, walk]
    cases tree.lookup here with
    | none => rfl
    | some node =>
      cases node with
      | folder mode =>
        simp only [further, Bool.false_and, Bool.not_true, Bool.and_false, ih]
        split
        · rfl
        split
        · rfl
        split
        · rfl
        cases tree.lookup (here ++ [name]) with
        | none => rfl
        | some node => cases node <;> rfl
      | _ => rfl

/-- In a folder, a name leads to what has it, unless that is a link that is followed. -/
theorem walk_name {mode : Nat} {name : String} (there : tree.lookup folder = some (.folder mode))
    (isName : Path.IsName name)
    (plain : followLast = true → ∀ target, tree.lookup (folder ++ [name]) ≠ some (.link target)) :
    tree.walk followLast folder [name] = .reached (folder ++ [name]) := by
  have short : ¬ Path.maxName < name.utf8ByteSize := Nat.not_lt.mpr isName.fits
  have some_ : ¬ (name = "" ∨ name = ".") := by simp [isName.some_, isName.here]
  simp only [walk, there, short, if_false, Bool.or_eq_true, decide_eq_true_eq]
  rw [if_neg (by simpa using some_), if_neg isName.above]
  cases node : tree.lookup (folder ++ [name]) with
  | none => rfl
  | some node' =>
    cases node' with
    | link target =>
      cases followLast with
      | false => rfl
      | true => exact absurd node (plain rfl target)
    | _ => rfl

theorem follow_append {links : Nat} (reached : tree.follow true links here names = .ok path)
    {place : Path} (further : tree.walk followLast path more = .reached place) (some_ : more ≠ []) :
    tree.follow followLast links here (names ++ more) = .ok place := by
  induction links generalizing here names with
  | zero => cases reached
  | succ links ih =>
    rw [follow] at reached ⊢
    rw [walk_append some_]
    cases walked : tree.walk true here names with
    | reached path' =>
      rw [walked] at reached
      obtain rfl := Except.ok.inj reached
      simp only [further]
    | met target here' rest =>
      rw [walked] at reached
      simp only at reached ⊢
      rw [← List.append_assoc]
      exact ih reached
    | refused e =>
      rw [walked] at reached
      cases reached

/-- A solidus at the end leads no further. -/
theorem follow_of_append_empty {links : Nat}
    (reached : tree.follow true links here (names ++ [""]) = .ok path) :
    tree.follow true links here names = .ok path := by
  induction links generalizing here names with
  | zero => cases reached
  | succ links ih =>
    rw [follow] at reached ⊢
    rw [walk_append (List.cons_ne_nil _ _)] at reached
    cases walked : tree.walk true here names with
    | reached path' =>
      rw [walked] at reached
      have stays : tree.walk true path' [""] = .reached path' ∨
          ∃ e, tree.walk true path' [""] = .refused e := by
        rw [walk]
        cases tree.lookup path' with
        | none => exact .inr ⟨_, rfl⟩
        | some node => cases node <;> first | exact .inl rfl | exact .inr ⟨_, rfl⟩
      rcases stays with stays | ⟨e, stays⟩
      · simpa only [stays] using reached
      · simp only [stays] at reached
        cases reached
    | met target here' rest =>
      rw [walked] at reached
      simp only at reached ⊢
      rw [← List.append_assoc] at reached
      exact ih reached
    | refused e =>
      rw [walked] at reached
      cases reached

/-- A text leads somewhere only if it is one for the system. -/
theorem resolve_eq_ok_iff {text : String} :
    tree.resolve start text followLast = .ok path ↔
      '\x00' ∉ text.toList ∧ text ≠ "" ∧ text.utf8ByteSize ≤ Path.maxText ∧
        tree.follow followLast (maxLinks + 1) (if text.startsWith "/" then [] else start)
          (Path.names text) = .ok path := by
  rw [resolve, String.contains_char_eq]
  by_cases zero : '\x00' ∈ text.toList
  · simp [zero]
  by_cases empty : text = ""
  · simp [empty]
  by_cases long : Path.maxText < text.utf8ByteSize
  · simp [zero, empty, long, Nat.not_le.mpr long]
  · simp [zero, empty, long, Nat.not_lt.mp long]

/-- A name that is joined to the text of a folder leads to what has that name there, unless that is
a link that is followed. -/
theorem resolve_join {text name : String} {mode : Nat}
    (reached : tree.resolve start text = .ok folder)
    (there : tree.lookup folder = some (.folder mode)) (isName : Path.IsName name)
    (fits : (Path.join text name).utf8ByteSize ≤ Path.maxText)
    (plain : followLast = true → ∀ target, tree.lookup (folder ++ [name]) ≠ some (.link target)) :
    tree.resolve start (Path.join text name) followLast = .ok (folder ++ [name]) := by
  obtain ⟨zero, some_, -, followed⟩ := resolve_eq_ok_iff.mp reached
  have further := walk_name there isName plain
  have begins := Path.startsWith_join some_ name
  obtain ⟨before, joined, ends⟩ := Path.join_eq some_ name
  refine resolve_eq_ok_iff.mpr ⟨?_, ?_, fits, ?_⟩
  · rw [joined]
    rcases ends with rfl | rfl <;> simp_all [isName.zero]
  · rw [joined]
    simp
  · rw [begins, joined, Path.names_append, isName.names]
    rcases ends with rfl | rfl
    · exact follow_append followed further (List.cons_ne_nil _ _)
    · have bare : Path.names (before ++ "/") = Path.names before ++ [""] := by
        have := Path.names_append before ""
        rwa [String.append_empty] at this
      rw [bare] at followed
      exact follow_append (follow_of_append_empty followed) further (List.cons_ne_nil _ _)

/-- The facts about what a text leads to are those of its entry. -/
theorem facts_eq {text : String} (reached : tree.resolve start text followLast = .ok path)
    (some_ : path ≠ []) :
    tree.facts start text followLast = match tree.entries.find? (·.path = path) with
      | some entry => .ok (.ofEntry entry)
      | none => .error .notFound := by
  rw [facts, reached]
  exact if_neg (by simpa using some_)

/-! ### Trees with fewer files -/

/-- Each path of the tree stands for one entry. -/
def Distinct (tree : FileTree) : Prop :=
  (tree.entries.map (·.path)).Nodup

instance (tree : FileTree) : Decidable tree.Distinct :=
  inferInstanceAs (Decidable (List.Nodup _))

/-- The tree without the entries of a kind. -/
def without (tree : FileTree) (gone : Entry → Bool) : FileTree :=
  ⟨tree.entries.filter (!gone ·)⟩

theorem without_congr {gone more : Entry → Bool}
    (same : ∀ entry ∈ tree.entries, gone entry = more entry) :
    tree.without gone = tree.without more := by
  have kept : tree.entries.filter (!gone ·) = tree.entries.filter (!more ·) :=
    List.filter_congr fun entry there => by rw [same entry there]
  rw [without, without, kept]

theorem without_of_forall {gone : Entry → Bool}
    (none_ : ∀ entry ∈ tree.entries, gone entry = false) : tree.without gone = tree := by
  have kept : tree.entries.filter (!gone ·) = tree.entries :=
    List.filter_eq_self.mpr fun entry there => by simp [none_ entry there]
  rw [without, kept]

theorem without_without (tree : FileTree) (gone more : Entry → Bool) :
    (tree.without gone).without more = tree.without fun entry => gone entry || more entry := by
  simp only [without, List.filter_filter, Bool.not_or, Bool.and_comm]

theorem erase_eq_without (tree : FileTree) (path : Path) :
    tree.erase path = tree.without (·.path = path) := by
  simp only [erase, without, decide_not]

theorem Distinct.without (distinct : tree.Distinct) (gone : Entry → Bool) :
    (tree.without gone).Distinct :=
  distinct.sublist (List.filter_sublist.map _)

/-- The entry at a path is the only one there. -/
theorem Distinct.find?_eq_some_iff (distinct : tree.Distinct) {entry : Entry} :
    tree.entries.find? (·.path = path) = some entry ↔ entry ∈ tree.entries ∧ entry.path = path := by
  constructor
  · intro found
    exact ⟨List.mem_of_find?_eq_some found, by simpa using List.find?_some found⟩
  · rintro ⟨there, place⟩
    cases found : tree.entries.find? (·.path = path) with
    | none => exact absurd place (by simpa using List.find?_eq_none.mp found entry there)
    | some other =>
      have place' : other.path = path := by simpa using List.find?_some found
      have there' := List.mem_of_find?_eq_some found
      rw [List.inj_on_of_nodup_map distinct there' there (place'.trans place.symm)]

theorem Distinct.countP_path (distinct : tree.Distinct) {entry : Entry}
    (there : entry ∈ tree.entries) : tree.entries.countP (·.path = entry.path) = 1 := by
  have one : (tree.entries.map (·.path)).count entry.path = 1 :=
    List.count_eq_one_of_mem distinct (List.mem_map_of_mem there)
  rw [List.count, List.countP_map] at one
  rw [← one]
  exact List.countP_congr fun other _ => by simp

theorem Distinct.find?_without (distinct : tree.Distinct) (gone : Entry → Bool) (path : Path) :
    (tree.without gone).entries.find? (·.path = path) =
      (tree.entries.find? (·.path = path)).filter (!gone ·) := by
  refine Option.ext fun entry => ?_
  rw [(distinct.without gone).find?_eq_some_iff, Option.filter_eq_some_iff,
    distinct.find?_eq_some_iff, FileTree.without, List.mem_filter]
  exact and_right_comm

section Without

variable {gone : Entry → Bool} (distinct : tree.Distinct)
  (files : ∀ entry ∈ tree.entries, gone entry = true → entry.node.isFile = true)
include distinct files

/-- What stands at a path is still there when files are gone, unless it is one of them. -/
theorem lookup_without (path : Path) :
    (tree.without gone).lookup path = tree.lookup path ∨
      (tree.without gone).lookup path = none ∧
        ∃ node, tree.lookup path = some node ∧ node.isFile = true := by
  rw [lookup, lookup, distinct.find?_without]
  split
  · exact .inl rfl
  cases found : tree.entries.find? (·.path = path) with
  | none => exact .inl rfl
  | some entry =>
    cases lost : gone entry with
    | false => exact .inl (by simp [lost])
    | true =>
      have file := files entry (List.mem_of_find?_eq_some found) lost
      exact .inr ⟨by simp [lost], entry.node, rfl, file⟩

theorem lookup_without_of_not_isFile {node : Node} (there : tree.lookup path = some node)
    (other : node.isFile = false) : (tree.without gone).lookup path = some node := by
  rcases lookup_without distinct files path with same | ⟨-, node', there', file⟩
  · exact same.trans there
  · rw [there] at there'
    obtain rfl := Option.some.inj there'
    exact absurd (file.symm.trans other) (by decide)

/-- A walk meets no file before its end. -/
theorem walk_without (accepted : ∀ e, tree.walk followLast here names ≠ .refused e) :
    (tree.without gone).walk followLast here names = tree.walk followLast here names := by
  have kept (path : Path) {node : Node} (there : tree.lookup path = some node)
      (other : node.isFile = false) : (tree.without gone).lookup path = some node :=
    lookup_without_of_not_isFile distinct files there other
  fun_induction tree.walk followLast here names with
  | case1 => rfl
  | case2 => exact absurd rfl (accepted _)
  | case3 => exact absurd rfl (accepted _)
  | case4 here name rest mode there long point ih =>
    simp only [walk, kept here there rfl, long, point, if_false, if_true, ih accepted]
  | case5 here rest mode there long point ih =>
    simp only [walk, kept here there rfl, long, point, Bool.false_eq_true, if_false, if_true,
      ih accepted]
  | case6 here name rest mode there long point above target link last =>
    simp only [walk, kept here there rfl, kept _ link rfl, long, point, above, last,
      Bool.false_eq_true, if_false, if_true]
  | case7 here name rest mode there long point above target link last =>
    simp only [walk, kept here there rfl, kept _ link rfl, long, point, above, last,
      Bool.false_eq_true, if_false]
  | case8 here name rest mode there long point above other ih =>
    have other' : ∀ target, (tree.without gone).lookup (here ++ [name]) ≠ some (.link target) := by
      rcases lookup_without distinct files (here ++ [name]) with same | ⟨lost, -⟩
      · exact fun target => same ▸ other target
      · simp [lost]
    simp only [walk, kept here there rfl, long, point, above, Bool.false_eq_true, if_false,
      ih accepted]
  | case9 => exact absurd rfl (accepted _)

theorem follow_without {links : Nat}
    (reached : tree.follow followLast links here names = .ok path) :
    (tree.without gone).follow followLast links here names = .ok path := by
  induction links generalizing here names with
  | zero => cases reached
  | succ links ih =>
    rw [follow] at reached ⊢
    have accepted : ∀ e, tree.walk followLast here names ≠ .refused e := by
      intro e refused
      rw [refused] at reached
      cases reached
    rw [walk_without distinct files accepted]
    cases walked : tree.walk followLast here names with
    | reached path' => simpa only [walked] using reached
    | met target here' rest =>
      rw [walked] at reached
      exact ih reached
    | refused e => exact absurd walked (accepted e)

/-- A text that leads somewhere still leads there when files are gone. -/
theorem resolve_without {text : String} (reached : tree.resolve start text followLast = .ok path) :
    (tree.without gone).resolve start text followLast = .ok path := by
  obtain ⟨zero, some_, fits, followed⟩ := resolve_eq_ok_iff.mp reached
  exact resolve_eq_ok_iff.mpr ⟨zero, some_, fits, follow_without distinct files followed⟩

end Without

end FileTree

end RemoteAttach
