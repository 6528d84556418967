import Mathlib.Algebra.GroupWithZero.Nat
import ServerScaffold.Proofs.Expansion
import ServerScaffold.Proofs.Verdict

/-!
Putting aliases in place, without a depth. `Inlines` follows a node and enters an alias unless it is being
put in place already. It comes to an end with one result, which is that of `inlineAliases`, and what it
passes on a way down are distinct aliases. So the result is not deeper than the node and all targets
together, and of the aliases only those that lead back to themselves are left.
-/
namespace ServerScaffold.Interface

open Relation (ReflTransGen TransGen)

namespace Node

mutual

/-- How many collections and unions stand around the innermost part. -/
def depth : Node → Nat
  | .leaf _ _ | .ref _ _ => 0
  | .holder _ element _ => element.depth + 1
  | .union branches _ => branchDepth branches + 1

def branchDepth : List Node → Nat
  | [] => 0
  | branch :: rest => max branch.depth (branchDepth rest)

end

theorem branchDepth_le_iff {branches : List Node} {bound : Nat} :
    branchDepth branches ≤ bound ↔ ∀ branch ∈ branches, branch.depth ≤ bound := by
  induction branches with
  | nil => simp [branchDepth]
  | cons branch rest ih => rw [branchDepth, Nat.max_le, ih, List.forall_mem_cons]

@[simp] theorem depth_override (value : Option Literal) (node : Node) :
    (node.override value).depth = node.depth := by
  cases value with
  | none => rfl
  | some value => cases node <;> rfl

end Node

/-- Putting aliases in place below those of `path`: a reference stays if its name is one of these or no
alias, and else the alias is entered. -/
inductive Inlines (aliases : Table Node) : List String → Node → Node → Prop where
  | leaf {path : List String} {kind : Leaf} {value : Option Literal} :
      Inlines aliases path (.leaf kind value) (.leaf kind value)
  | stays {path : List String} {name : String} {value : Option Literal}
      (kept : name ∈ path ∨ name ∉ aliases.keys) :
      Inlines aliases path (.ref name value) (.ref name value)
  | enters {path : List String} {name : String} {value : Option Literal} {target result : Node}
      (fresh : name ∉ path) (found : aliases.get? name = some target)
      (below : Inlines aliases (name :: path) (target.override value) result) :
      Inlines aliases path (.ref name value) result
  | holder {path : List String} {container : Container} {element result : Node}
      {value : Option Literal} (inside : Inlines aliases path element result) :
      Inlines aliases path (.holder container element value) (.holder container result value)
  | union {path : List String} {branches : List Node} {put : Node → Node} {value : Option Literal}
      (each : ∀ branch ∈ branches, Inlines aliases path branch (put branch)) :
      Inlines aliases path (.union branches value) (.union (branches.map put) value)

/-- What has to be put in place first: for a reference the target, below one alias more, and else the parts. -/
inductive Calls (aliases : Table Node) : List String × Node → List String × Node → Prop where
  | target {path : List String} {name : String} {value : Option Literal} {target : Node}
      (fresh : name ∉ path) (found : aliases.get? name = some target) :
      Calls aliases (path, .ref name value) (name :: path, target.override value)
  | element {path : List String} {container : Container} {element : Node} {value : Option Literal} :
      Calls aliases (path, .holder container element value) (path, element)
  | branch {path : List String} {branches : List Node} {branch : Node} {value : Option Literal}
      (listed : branch ∈ branches) : Calls aliases (path, .union branches value) (path, branch)

variable {aliases : Table Node} {depth : Nat} {path : List String} {name : String}
  {node target result : Node}

theorem found_is_key (found : aliases.get? name = some target) : name ∈ aliases.keys :=
  Table.key_of_entry (Table.get_eq_some.mp found)

section Result

/-- The walk through a node, given the walk below each reference. -/
theorem inlines_replace {put : String → Option Literal → Node}
    (each : ∀ name value, Inlines aliases path (.ref name value) (put name value)) (node : Node) :
    Inlines aliases path node (node.replace put) := by
  induction node using Node.induct with
  | leaf kind value => exact .leaf
  | ref name value => exact each name value
  | holder container element value ih => exact .holder ih
  | union branches value ih =>
    rw [Node.replace_union]
    exact .union ih

theorem inlines_itself (kept : ∀ name ∈ node.refs, name ∈ path ∨ name ∉ aliases.keys) :
    Inlines aliases path node node := by
  induction node using Node.induct with
  | leaf kind value => exact .leaf
  | ref name value => exact .stays (kept name (List.mem_singleton_self name))
  | holder container element value ih => exact .holder (ih kept)
  | union branches value ih =>
    rw [Node.refs_union, List.forall_mem_flatMap] at kept
    have each : ∀ branch ∈ branches, Inlines aliases path branch (id branch) :=
      fun branch listed => ih branch listed (kept branch listed)
    simpa using Inlines.union each

/-- The depth is never used up before the walk ends. -/
theorem inlines_expand (within : Within aliases depth path) (node : Node) :
    Inlines aliases path node (expand aliases depth path node) := by
  induction depth generalizing path node with
  | zero =>
    refine inlines_itself fun name _ => ?_
    by_cases key : name ∈ aliases.keys
    · exact Or.inl (within_end within key)
    · exact Or.inr key
  | succ depth ih =>
    rw [expand_succ]
    refine inlines_replace (fun name value => ?_) node
    unfold placed
    by_cases inPath : name ∈ path
    · simpa [inPath] using Inlines.stays (Or.inl inPath)
    · simp only [List.contains_eq_mem, inPath, decide_false, Bool.false_eq_true, ↓reduceIte]
      cases found : aliases.get? name with
      | none => exact .stays (Or.inr (Table.get_eq_none.mp found))
      | some target =>
        have next := within_next within inPath (found_is_key found)
        exact .enters inPath found (ih next (target.override value))

theorem inlines_unique {other : Node} (inlines : Inlines aliases path node result)
    (again : Inlines aliases path node other) : result = other := by
  induction inlines generalizing other with
  | leaf =>
    cases again with
    | leaf => rfl
  | stays kept =>
    cases again with
    | stays _ => rfl
    | enters fresh found _ =>
      rcases kept with inPath | absent
      · exact absurd inPath fresh
      · exact absurd (found_is_key found) absent
  | enters fresh found _ ih =>
    cases again with
    | stays kept =>
      rcases kept with inPath | absent
      · exact absurd inPath fresh
      · exact absurd (found_is_key found) absent
    | enters _ found' below =>
      obtain rfl := Option.some.inj (found.symm.trans found')
      exact ih below
  | holder _ ih =>
    cases again with
    | holder inside => rw [ih inside]
  | union _ ih =>
    cases again with
    | union each =>
      congr 1
      exact List.map_congr_left fun branch listed => ih branch listed (each branch listed)

/-- The walk from an empty path has one result, and `inlineAliases` computes it. -/
theorem inlines_iff : Inlines aliases [] node result ↔ result = inlineAliases aliases node := by
  have computed : Inlines aliases [] node (inlineAliases aliases node) :=
    inlines_expand (within_start aliases) node
  constructor
  · intro inlines
    exact inlines_unique inlines computed
  · rintro rfl
    exact computed

theorem reference_stays (absent : name ∉ aliases.keys) (value : Option Literal) :
    inlineAliases aliases (.ref name value) = .ref name value :=
  (inlines_iff.mp (.stays (Or.inr absent))).symm

/-- Names that the node does not lead to may stand on the path as well. -/
theorem inlines_apart {wider : List String} (inlines : Inlines aliases path node result)
    (one : ∀ other, other ∈ wider ↔ other = name ∨ other ∈ path)
    (apart : ∀ start ∈ node.refs, ¬ ReflTransGen (Mentions aliases) start name) :
    Inlines aliases wider node result := by
  induction inlines generalizing wider with
  | leaf => exact .leaf
  | stays kept => exact .stays (kept.imp_left fun inPath => (one _).mpr (Or.inr inPath))
  | @enters path entered value target result fresh found _ ih =>
    have different : entered ≠ name := by
      intro same
      exact apart entered (List.mem_singleton_self entered) (same ▸ .refl)
    have outside : entered ∉ wider := by
      intro listed
      rcases (one entered).mp listed with same | inPath
      · exact different same
      · exact fresh inPath
    refine .enters outside found (ih (fun other => ?_) ?_)
    · rw [List.mem_cons, List.mem_cons, one]
      exact or_left_comm
    · rw [Node.refs_override]
      intro start mentioned leads
      exact apart entered (List.mem_singleton_self entered) (.head ⟨target, found, mentioned⟩ leads)
  | holder _ ih => exact .holder (ih one apart)
  | union _ ih =>
    rw [Node.refs_union, List.forall_mem_flatMap] at apart
    exact .union fun branch listed => ih branch listed one (apart branch listed)

/-- A reference to an alias that does not lead back to itself comes to the same as its target. -/
theorem inlined_reference (found : aliases.get? name = some target)
    (noWayBack : ¬ TransGen (Mentions aliases) name name) (value : Option Literal) :
    inlineAliases aliases (.ref name value) = inlineAliases aliases (target.override value) := by
  have inTarget : Inlines aliases [] (target.override value) (inlineAliases aliases (target.override value)) :=
    inlines_iff.mpr rfl
  have apart : ∀ start ∈ (target.override value).refs, ¬ ReflTransGen (Mentions aliases) start name := by
    rw [Node.refs_override]
    intro start mentioned leads
    exact noWayBack (.head' ⟨target, found, mentioned⟩ leads)
  have below := inlines_apart inTarget (fun other => List.mem_cons) apart
  exact (inlines_iff.mp (.enters List.not_mem_nil found below)).symm

/-- Where every reference of a target falls in rank, no alias leads back to itself. -/
theorem no_way_back (rank : String → Nat)
    (falls : ∀ entry ∈ aliases.entries, ∀ name ∈ entry.2.refs, rank name < rank entry.1) (name : String) :
    ¬ TransGen (Mentions aliases) name name := by
  have step {first second : String} (mentions : Mentions aliases first second) :
      rank second < rank first := by
    obtain ⟨target, found, mentioned⟩ := mentions
    exact falls _ (Table.get_eq_some.mp found) second mentioned
  have walk {first second : String} (leads : TransGen (Mentions aliases) first second) :
      rank second < rank first := by
    induction leads with
    | single mentions => exact step mentions
    | tail _ mentions ih => exact Nat.lt_trans (step mentions) ih
  intro back
  exact Nat.lt_irrefl _ (walk back)

end Result

section Calls

/-- The names entered on the way to a call: they are aliases, and none of them comes twice. -/
structure Entered (aliases : Table Node) (path : List String) : Prop where
  distinct : path.Nodup
  known : path ⊆ aliases.keys

theorem calls_entered {call next : List String × Node} (step : Calls aliases call next)
    (entered : Entered aliases call.1) : Entered aliases next.1 := by
  cases step with
  | target fresh found =>
    exact ⟨List.nodup_cons.mpr ⟨fresh, entered.distinct⟩,
      List.cons_subset.mpr ⟨found_is_key found, entered.known⟩⟩
  | element => exact entered
  | branch _ => exact entered

theorem reached_entered {first last : List String × Node} (walk : ReflTransGen (Calls aliases) first last)
    (entered : Entered aliases first.1) : Entered aliases last.1 := by
  induction walk with
  | refl => exact entered
  | tail _ step ih => exact calls_entered step ih

/-- A call ends if the calls below its references do. -/
theorem call_ends
    (below : ∀ name target value, name ∉ path → aliases.get? name = some target →
      Acc (fun next call => Calls aliases call next) (name :: path, target.override value))
    (node : Node) : Acc (fun next call => Calls aliases call next) (path, node) := by
  induction node using Node.induct with
  | leaf kind value =>
    refine ⟨_, fun next step => ?_⟩
    cases step
  | ref name value =>
    refine ⟨_, fun next step => ?_⟩
    cases step with
    | target fresh found => exact below name _ value fresh found
  | holder container element value ih =>
    refine ⟨_, fun next step => ?_⟩
    cases step with
    | element => exact ih
  | union branches value ih =>
    refine ⟨_, fun next step => ?_⟩
    cases step with
    | branch listed => exact ih _ listed

theorem calls_end (within : Within aliases depth path) (node : Node) :
    Acc (fun next call => Calls aliases call next) (path, node) := by
  induction depth generalizing path node with
  | zero =>
    refine call_ends (fun name target value fresh found => ?_) node
    exact absurd (within_end within (found_is_key found)) fresh
  | succ depth ih =>
    refine call_ends (fun name target value fresh found => ?_) node
    exact ih (within_next within fresh (found_is_key found)) _

end Calls

section Depth

/-- The depths of the targets that are not entered yet. -/
def depthLeft (aliases : Table Node) (path : List String) : Nat :=
  ((aliases.entries.filter fun entry => entry.1 ∉ path).map fun entry => entry.2.depth).sum

theorem depthLeft_start (aliases : Table Node) :
    depthLeft aliases [] = (aliases.values.map Node.depth).sum := by
  simp [depthLeft, Table.values, Function.comp_def]

/-- Entering an alias takes the depth of its target from what is left. -/
theorem depthLeft_enter (fresh : name ∉ path) (found : aliases.get? name = some target) :
    depthLeft aliases path = target.depth + depthLeft aliases (name :: path) := by
  obtain ⟨before, after, split⟩ := List.append_of_mem (Table.get_eq_some.mp found)
  obtain ⟨absentBefore, absentAfter⟩ := Table.absent_around split
  have same {part : List (String × Node)} (absent : name ∉ part.map Prod.fst) :
      part.filter (fun entry => entry.1 ∉ name :: path) = part.filter fun entry => entry.1 ∉ path := by
    refine List.filter_congr fun entry listed => ?_
    have different : entry.1 ≠ name := fun same => absent (same ▸ List.mem_map_of_mem listed)
    simp [different]
  unfold depthLeft
  rw [split, List.filter_append, List.filter_append, List.filter_cons, List.filter_cons,
    same absentBefore, same absentAfter]
  simp [fresh]
  omega

theorem inlines_depth (inlines : Inlines aliases path node result) :
    result.depth ≤ node.depth + depthLeft aliases path := by
  induction inlines with
  | leaf => exact Nat.le_add_right _ _
  | stays _ => exact Nat.le_add_right _ _
  | enters fresh found _ ih =>
    rw [Node.depth_override] at ih
    rw [depthLeft_enter fresh found]
    exact Nat.le_trans ih (Nat.le_add_left _ _)
  | holder _ ih =>
    simp only [Node.depth]
    omega
  | @union path branches put value _ ih =>
    have ofBranches : ∀ branch ∈ branches, branch.depth ≤ Node.branchDepth branches :=
      Node.branchDepth_le_iff.mp (Nat.le_refl _)
    have ofResults : Node.branchDepth (branches.map put) ≤
        Node.branchDepth branches + depthLeft aliases path := by
      rw [Node.branchDepth_le_iff, List.forall_mem_map]
      intro branch listed
      exact Nat.le_trans (ih branch listed) (Nat.add_le_add_right (ofBranches branch listed) _)
    simp only [Node.depth]
    omega

end Depth

/-- The walk that puts aliases in place ends: no chain of calls is endless, and the one result is that of
`inlineAliases`. On a way down it enters distinct aliases, so the result is at most as deep as the node and
the targets of all aliases together. -/
theorem inlining_ends_within_bound (aliases : Table Node) (node : Node) :
    Acc (fun next call => Calls aliases call next) ([], node) ∧
    (∀ result, Inlines aliases [] node result ↔ result = inlineAliases aliases node) ∧
    (∀ path inner, ReflTransGen (Calls aliases) ([], node) (path, inner) →
      path.Nodup ∧ path ⊆ aliases.keys) ∧
    (inlineAliases aliases node).depth ≤ node.depth + (aliases.values.map Node.depth).sum := by
  refine ⟨calls_end (within_start aliases) node, fun result => inlines_iff, ?_, ?_⟩
  · intro path inner walk
    have entered := reached_entered walk ⟨List.nodup_nil, List.nil_subset _⟩
    exact ⟨entered.distinct, entered.known⟩
  · rw [← depthLeft_start]
    exact inlines_depth (inlines_iff.mpr rfl)

/-- Two collections that hold each other, and a text. -/
def herds : Table Api.Schema where
  entries := [
    ("Herd", .inline { type := some (.single .array), items := some (.ref "#/components/schemas/Flock") }),
    ("Flock", .inline { additional := some (.schema (.ref "#/components/schemas/Herd")) }),
    ("Name", .inline { type := some (.single .string) })]
  distinct := by decide

theorem herds_within_bound :
    inlineAliases (aliasTable herds) (.ref "Herd" none) =
      .holder .array (.holder .map (.ref "Herd" none) none) none ∧
    (inlineAliases (aliasTable herds) (.ref "Herd" none)).depth ≤ 0 + 2 ∧
    ∀ path inner, ReflTransGen (Calls (aliasTable herds)) ([], .ref "Herd" none) (path, inner) →
      path.Nodup := by
  obtain ⟨-, results, entered, bound⟩ := inlining_ends_within_bound (aliasTable herds) (.ref "Herd" none)
  refine ⟨rfl, bound, fun path inner walk => (entered path inner walk).1⟩

/-- An alias that is left in a node leads back to itself. So where no alias does, none is left, and putting
aliases in place once more changes nothing. -/
theorem alias_left_leads_back (aliases : Table Node) :
    (∀ node name, (inlineAliases aliases node).RefersTo name →
      name ∉ aliases.keys ∨ TransGen (Mentions aliases) name name) ∧
    ((∀ name, ¬ TransGen (Mentions aliases) name name) → ∀ node,
      (∀ name, (inlineAliases aliases node).RefersTo name → name ∉ aliases.keys) ∧
      inlineAliases aliases (inlineAliases aliases node) = inlineAliases aliases node) := by
  have left (node : Node) (name : String) (refers : (inlineAliases aliases node).RefersTo name) :
      name ∉ aliases.keys ∨ TransGen (Mentions aliases) name name := by
    obtain ⟨start, -, leaves⟩ := mem_refs_inlined aliases node |>.mp ((mem_refs_iff _).mpr refers)
    rcases leaves_recursive leaves with onPath | other
    · exact absurd onPath List.not_mem_nil
    · exact other
  refine ⟨left, fun noneLeadsBack node => ?_⟩
  have absent (name : String) (refers : (inlineAliases aliases node).RefersTo name) :
      name ∉ aliases.keys := (left node name refers).resolve_right (noneLeadsBack name)
  have itself : Inlines aliases [] (inlineAliases aliases node) (inlineAliases aliases node) :=
    inlines_itself fun name mentioned => Or.inr (absent name ((mem_refs_iff _).mp mentioned))
  exact ⟨absent, (inlines_iff.mp itself).symm⟩

/-- A list of names, and a second name for the name. -/
def roster : Table Api.Schema where
  entries := [
    ("Names", .inline { type := some (.single .array), items := some (.ref "#/components/schemas/Nick") }),
    ("Nick", .ref "#/components/schemas/Name"),
    ("Name", .inline { type := some (.single .string) })]
  distinct := by decide

theorem roster_names_left :
    inlineAliases (aliasTable roster) (.ref "Names" none) = .holder .array (.leaf .string none) none ∧
    (∀ name, (inlineAliases (aliasTable roster) (.ref "Names" none)).RefersTo name →
      name ∉ (aliasTable roster).keys) ∧
    (inlineAliases (aliasTable herds) (.ref "Herd" none)).RefersTo "Herd" ∧
    TransGen (Mentions (aliasTable herds)) "Herd" "Herd" := by
  let rank (name : String) : Nat := ["Name", "Nick", "Names"].idxOf name
  have falls : ∀ entry ∈ (aliasTable roster).entries, ∀ name ∈ entry.2.refs, rank name < rank entry.1 := by
    decide
  have herd : (inlineAliases (aliasTable herds) (.ref "Herd" none)).RefersTo "Herd" :=
    .element (.element .here)
  refine ⟨rfl, ?_, herd, ?_⟩
  · exact ((alias_left_leads_back (aliasTable roster)).2 (no_way_back rank falls) (.ref "Names" none)).1
  · have key : "Herd" ∈ (aliasTable herds).keys := by decide
    exact ((alias_left_leads_back (aliasTable herds)).1 (.ref "Herd" none) "Herd" herd).resolve_left
      (not_not_intro key)

end ServerScaffold.Interface
