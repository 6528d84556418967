import Mathlib.Data.List.Perm.Subperm
import Mathlib.Logic.Relation
import ServerScaffold.Interface.Alias
import ServerScaffold.Proofs.Tables

/-!
Which references are left when aliases are put in place. `Leaves` says it without a depth: a name is
left where it is no alias, or where it is met again below its own target. No path passes an alias
twice, so the depth that `inlineAliases` allows is never used up before an alias is.
-/
namespace ServerScaffold.Interface

namespace Node

/-- Induction over nodes; the branches of a union come as members of their list. -/
theorem induct {motive : Node → Prop} (leaf : ∀ kind value, motive (.leaf kind value))
    (ref : ∀ name value, motive (.ref name value))
    (holder : ∀ container element value, motive element → motive (.holder container element value))
    (union : ∀ branches value, (∀ branch ∈ branches, motive branch) → motive (.union branches value))
    (node : Node) : motive node :=
  @Node.rec motive (fun branches => ∀ branch ∈ branches, motive branch) leaf ref holder union
    (fun _ member => absurd member List.not_mem_nil)
    (fun _ _ first rest => List.forall_mem_cons.mpr ⟨first, rest⟩) node

@[simp] theorem refs_leaf (kind : Leaf) (value : Option Literal) : (Node.leaf kind value).refs = [] := rfl

@[simp] theorem refs_ref (name : String) (value : Option Literal) :
    (Node.ref name value).refs = [name] := rfl

@[simp] theorem refs_holder (container : Container) (element : Node) (value : Option Literal) :
    (Node.holder container element value).refs = element.refs := rfl

@[simp] theorem refs_union (branches : List Node) (value : Option Literal) :
    (Node.union branches value).refs = branches.flatMap refs := branch_refs branches

@[simp] theorem refs_setDefault (value : Option Literal) (node : Node) :
    (node.setDefault value).refs = node.refs := by
  cases node <;> rfl

@[simp] theorem refs_override (value : Option Literal) (node : Node) :
    (node.override value).refs = node.refs := by
  cases value <;> simp [override]

section

variable {target : String → Option Literal → Node}

@[simp] theorem replace_ref (name : String) (value : Option Literal) :
    (Node.ref name value).replace target = target name value := rfl

@[simp] theorem replace_holder (container : Container) (element : Node) (value : Option Literal) :
    (Node.holder container element value).replace target = .holder container (element.replace target) value := rfl

@[simp] theorem replace_union (branches : List Node) (value : Option Literal) :
    (Node.union branches value).replace target = .union (branches.map (replace target)) value :=
  congrArg (Node.union · value) (replace_all target branches)

end

/-- If what takes the place of a reference refers to the same names whatever the default, the names
after replacing are those of what took the places, one after the other. -/
theorem refs_replace {target : String → Option Literal → Node}
    (same : ∀ name value, (target name value).refs = (target name none).refs) (node : Node) :
    (node.replace target).refs = node.refs.flatMap fun name => (target name none).refs := by
  induction node using induct with
  | leaf kind value => rfl
  | ref name value => simp [same name value]
  | holder container element value ih => simpa using ih
  | union branches value ih =>
    simp only [replace_union, refs_union, List.flatMap_map, List.flatMap_assoc]
    exact List.flatMap_congr ih

theorem replace_congr {target other : String → Option Literal → Node} (node : Node)
    (same : ∀ name ∈ node.refs, ∀ value, target name value = other name value) :
    node.replace target = node.replace other := by
  induction node using induct with
  | leaf kind value => rfl
  | ref name value => exact same name (List.mem_singleton_self name) value
  | holder container element value ih => rw [replace_holder, replace_holder, ih same]
  | union branches value ih =>
    rw [replace_union, replace_union]
    congr 1
    refine List.map_congr_left fun branch listed => ih branch listed fun name mentioned => ?_
    rw [refs_union] at same
    exact same name (List.mem_flatMap.mpr ⟨branch, listed, mentioned⟩)

theorem replace_by_itself (node : Node) : node.replace ref = node := by
  induction node using induct with
  | leaf kind value => rfl
  | ref name value => rfl
  | holder container element value ih => rw [replace_holder, ih]
  | union branches value ih =>
    rw [replace_union]
    congr 1
    exact (List.map_congr_left ih).trans (List.map_id' branches)

end Node

variable {aliases : Table Node} {depth : Nat} {path : List String} {start name : String}

/-- What takes the place of a reference below the aliases of `path`. -/
def placed (aliases : Table Node) (depth : Nat) (path : List String) (name : String)
    (value : Option Literal) : Node :=
  if path.contains name then .ref name value
  else
    match aliases.get? name with
    | none => .ref name value
    | some target => expand aliases depth (name :: path) (target.override value)

@[simp] theorem expand_zero (node : Node) : expand aliases 0 path node = node := rfl

theorem expand_succ (node : Node) :
    expand aliases (depth + 1) path node = node.replace (placed aliases depth path) := rfl

theorem refs_placed (aliases : Table Node) (depth : Nat) (path : List String) (name : String)
    (value : Option Literal) :
    (placed aliases depth path name value).refs = (placed aliases depth path name none).refs := by
  induction depth generalizing path name value with
  | zero =>
    unfold placed
    split
    · rfl
    · split <;> simp
  | succ depth ih =>
    unfold placed
    split
    · rfl
    · split
      · rfl
      · simp only [expand_succ, Node.refs_replace (ih _), Node.refs_override]

/-- The aliases of a path are distinct, and together with the depth that is left they are enough. -/
structure Within (aliases : Table Node) (depth : Nat) (path : List String) : Prop where
  distinct : path.Nodup
  known : path ⊆ aliases.keys
  budget : aliases.keys.length ≤ depth + path.length

theorem within_start (aliases : Table Node) : Within aliases aliases.entries.length [] where
  distinct := List.nodup_nil
  known := List.nil_subset _
  budget := by simp [Table.keys]

theorem within_next (within : Within aliases (depth + 1) path) (fresh : name ∉ path)
    (key : name ∈ aliases.keys) : Within aliases depth (name :: path) where
  distinct := List.nodup_cons.mpr ⟨fresh, within.distinct⟩
  known := List.cons_subset.mpr ⟨key, within.known⟩
  budget := by
    have budget := within.budget
    rw [List.length_cons]
    omega

theorem within_end (within : Within aliases 0 path) (key : name ∈ aliases.keys) : name ∈ path := by
  have part := List.subperm_of_subset within.distinct within.known
  have budget := within.budget
  rw [Nat.zero_add] at budget
  exact (part.perm_of_length_le budget).mem_iff.mpr key

/-- Depth beyond what the aliases need changes nothing. -/
theorem expand_enough (within : Within aliases depth path) (extra : Nat) (node : Node) :
    expand aliases (depth + extra) path node = expand aliases depth path node := by
  induction depth generalizing path node with
  | zero =>
    rw [Nat.zero_add]
    cases extra with
    | zero => rfl
    | succ extra =>
      have kept : ∀ name ∈ node.refs, ∀ value, placed aliases extra path name value = .ref name value := by
        intro name _ value
        unfold placed
        split
        · rfl
        · next outside =>
          split
          · rfl
          · next target found =>
            have key := Table.key_of_entry (Table.get_eq_some.mp found)
            exact absurd (by simpa using within_end within key) outside
      rw [expand_succ, Node.replace_congr node kept, Node.replace_by_itself]
      rfl
  | succ depth ih =>
    rw [Nat.add_right_comm, expand_succ, expand_succ]
    refine Node.replace_congr node fun name _ value => ?_
    unfold placed
    split
    · rfl
    · next outside =>
      split
      · rfl
      · next target found =>
        have key := Table.key_of_entry (Table.get_eq_some.mp found)
        exact ih (within_next within (by simpa using outside) key) _

def Mentions (aliases : Table Node) (first second : String) : Prop :=
  ∃ target, aliases.get? first = some target ∧ second ∈ target.refs

theorem mentions_key {other : String} (step : Mentions aliases name other) : name ∈ aliases.keys := by
  obtain ⟨target, found, _⟩ := step
  exact Table.key_of_entry (Table.get_eq_some.mp found)

/-- A reference to `start` below the aliases of `path` leaves a reference to a name. -/
inductive Leaves (aliases : Table Node) : List String → String → String → Prop where
  | stays {path : List String} {name : String} (kept : name ∈ path ∨ name ∉ aliases.keys) :
      Leaves aliases path name name
  | enters {path : List String} {start next name : String} (fresh : start ∉ path)
      (step : Mentions aliases start next) (rest : Leaves aliases (start :: path) next name) :
      Leaves aliases path start name

theorem leaves_of_kept (kept : start ∈ path ∨ start ∉ aliases.keys) :
    Leaves aliases path start name ↔ name = start := by
  constructor
  · intro leaves
    cases leaves with
    | stays _ => rfl
    | enters fresh step _ =>
      rcases kept with inPath | absent
      · exact absurd inPath fresh
      · exact absurd (mentions_key step) absent
  · rintro rfl
    exact .stays kept

theorem leaves_of_target {target : Node} (fresh : start ∉ path)
    (found : aliases.get? start = some target) :
    Leaves aliases path start name ↔
      ∃ next ∈ target.refs, Leaves aliases (start :: path) next name := by
  constructor
  · intro leaves
    cases leaves with
    | stays kept =>
      have key := Table.key_of_entry (Table.get_eq_some.mp found)
      rcases kept with inPath | absent
      · exact absurd inPath fresh
      · exact absurd key absent
    | enters _ step rest =>
      obtain ⟨target', found', member⟩ := step
      obtain rfl := Option.some.inj (found.symm.trans found')
      exact ⟨_, member, rest⟩
  · rintro ⟨next, member, rest⟩
    exact .enters fresh ⟨target, found, member⟩ rest

theorem mem_refs_expand (within : Within aliases depth path) (node : Node) :
    name ∈ (expand aliases depth path node).refs ↔
      ∃ start ∈ node.refs, Leaves aliases path start name := by
  induction depth generalizing path node with
  | zero =>
    have kept (start : String) : start ∈ path ∨ start ∉ aliases.keys := by
      by_cases key : start ∈ aliases.keys
      · exact Or.inl (within_end within key)
      · exact Or.inr key
    have same (start : String) : Leaves aliases path start name ↔ name = start :=
      leaves_of_kept (kept start)
    -- No depth is left, and every alias is on the path: each reference stays, as `expand` has it.
    simp [same]
  | succ depth ih =>
    rw [expand_succ, Node.refs_replace (refs_placed aliases depth path), List.mem_flatMap]
    refine exists_congr fun start => and_congr_right fun _ => ?_
    unfold placed
    by_cases inPath : start ∈ path
    · simp [inPath, leaves_of_kept (Or.inl inPath)]
    · simp only [List.contains_eq_mem, inPath, decide_false, Bool.false_eq_true, ↓reduceIte]
      cases found : aliases.get? start with
      | none =>
        have absent := Table.get_eq_none.mp found
        simp [leaves_of_kept (Or.inr absent)]
      | some target =>
        have key := Table.key_of_entry (Table.get_eq_some.mp found)
        rw [leaves_of_target inPath found, ih (within_next within inPath key)]
        simp

/-- The names that are left in a node after its aliases are put in place. -/
theorem mem_refs_inlined (aliases : Table Node) (node : Node) :
    name ∈ (inlineAliases aliases node).refs ↔ ∃ start ∈ node.refs, Leaves aliases [] start name :=
  mem_refs_expand (within_start aliases) node

open Relation (ReflTransGen TransGen)

theorem leaves_reaches (leaves : Leaves aliases path start name) :
    ReflTransGen (Mentions aliases) start name := by
  induction leaves with
  | stays _ => exact .refl
  | enters _ step _ ih => exact .head step ih

/-- An alias that is left without being on the path mentions itself, if need be through others. -/
theorem leaves_recursive (leaves : Leaves aliases path start name) :
    name ∈ path ∨ name ∉ aliases.keys ∨ TransGen (Mentions aliases) name name := by
  induction leaves with
  | stays kept => exact kept.imp_right Or.inl
  | @enters path start next name fresh step rest ih =>
    rcases ih with onPath | other
    · rcases List.mem_cons.mp onPath with rfl | earlier
      · exact Or.inr (Or.inr (TransGen.head' step (leaves_reaches rest)))
      · exact Or.inl earlier
    · exact Or.inr other

/-- A walk can be cut so that it leaves `start` at most once, as its first step. -/
theorem walk_shortened {α : Type} {step : α → α → Prop} (start : α) {first last : α}
    (walk : ReflTransGen step first last) :
    ReflTransGen (fun a b => step a b ∧ a ≠ start) first last ∨
      ∃ next, step start next ∧ ReflTransGen (fun a b => step a b ∧ a ≠ start) next last := by
  induction walk using ReflTransGen.head_induction_on with
  | refl => exact Or.inl .refl
  | @head a b here _ ih =>
    rcases ih with direct | cut
    · by_cases same : a = start
      · exact Or.inr ⟨b, same ▸ here, direct⟩
      · exact Or.inl (.head ⟨here, same⟩ direct)
    · exact Or.inr cut

/-- From the aliases that avoid a path, step and walk can be chosen to avoid the first one as well. -/
theorem walk_avoids {next : String} (step : Mentions aliases start next)
    (walk : ReflTransGen (fun a b => Mentions aliases a b ∧ a ∉ path) next name) :
    ∃ other, Mentions aliases start other ∧
      ReflTransGen (fun a b => Mentions aliases a b ∧ a ∉ start :: path) other name := by
  have narrower : ∀ a b, (Mentions aliases a b ∧ a ∉ path) ∧ a ≠ start →
      Mentions aliases a b ∧ a ∉ start :: path := by
    rintro a b ⟨⟨step, outside⟩, different⟩
    exact ⟨step, by simp [different, outside]⟩
  rcases walk_shortened start walk with direct | ⟨other, ⟨step', _⟩, cut⟩
  · exact ⟨next, step, ReflTransGen.mono narrower _ _ direct⟩
  · exact ⟨other, step', ReflTransGen.mono narrower _ _ cut⟩

theorem walk_leaves (within : Within aliases depth path)
    (kept : name ∈ path ∨ name ∉ aliases.keys)
    (walk : ReflTransGen (fun a b => Mentions aliases a b ∧ a ∉ path) start name) :
    Leaves aliases path start name := by
  -- On the depth and not on the walk: the cut of a walk below `start` is not a part of the walk.
  induction depth generalizing path start with
  | zero =>
    rcases ReflTransGen.cases_head walk with rfl | ⟨next, ⟨step, fresh⟩, _⟩
    · exact .stays kept
    · exact absurd (within_end within (mentions_key step)) fresh
  | succ depth ih =>
    rcases ReflTransGen.cases_head walk with rfl | ⟨next, ⟨step, fresh⟩, rest⟩
    · exact .stays kept
    · obtain ⟨other, step', cut⟩ := walk_avoids step rest
      have kept' : name ∈ start :: path ∨ name ∉ aliases.keys :=
        kept.imp_left (List.mem_cons_of_mem start)
      exact .enters fresh step' (ih (within_next within fresh (mentions_key step)) kept' cut)

theorem walk_avoids_nothing (walk : ReflTransGen (Mentions aliases) start name) :
    ReflTransGen (fun a b => Mentions aliases a b ∧ a ∉ []) start name :=
  ReflTransGen.mono (fun _ _ step => ⟨step, List.not_mem_nil⟩) _ _ walk

theorem reached_is_left (reached : ReflTransGen (Mentions aliases) start name)
    (absent : name ∉ aliases.keys) : Leaves aliases [] start name :=
  walk_leaves (within_start aliases) (Or.inr absent) (walk_avoids_nothing reached)

/-- A reference to an alias leaves a reference to the same alias just if the alias is recursive. -/
theorem alias_left_iff (key : name ∈ aliases.keys) :
    Leaves aliases [] name name ↔ TransGen (Mentions aliases) name name := by
  constructor
  · intro leaves
    rcases leaves_recursive leaves with onPath | absent | recursive
    · exact absurd onPath List.not_mem_nil
    · exact absurd key absent
    · exact recursive
  · intro recursive
    obtain ⟨next, step, rest⟩ := TransGen.head'_iff.mp recursive
    obtain ⟨other, step', cut⟩ := walk_avoids step (walk_avoids_nothing rest)
    have within : Within aliases aliases.entries.length [name] :=
      ⟨List.nodup_singleton name, List.cons_subset.mpr ⟨key, List.nil_subset _⟩, by simp [Table.keys]⟩
    -- Below the alias itself the path holds one name, so the budget is not used to the full.
    exact .enters List.not_mem_nil step' (walk_leaves within (Or.inl List.mem_cons_self) cut)

end ServerScaffold.Interface
