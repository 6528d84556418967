import Mathlib.Data.List.Induction
import ServerScaffold.Proofs.ModelImports

/-!
What the directives for a list of symbols are. Each symbol gives at most one: a directive gives itself, as it
stands, and what is left of any other symbol without the blanks around it gives the one that is found for it. The
list has each of them once, in the order of the first symbols that give them, so it is its own list of directives.
-/
namespace ServerScaffold

section Distinct

variable {σ α : Type} [DecidableEq α] {list : List α}

theorem eraseDups_concat (list : List α) (item : α) :
    (list ++ [item]).eraseDups = if item ∈ list then list.eraseDups else list.eraseDups ++ [item] := by
  rw [List.eraseDups_append, List.removeAll]
  split
  · next there => simp [there]
  · next new => simp [new, List.eraseDups_cons]

theorem nodup_eraseDups (list : List α) : list.eraseDups.Nodup := by
  induction list using List.reverseRecOn with
  | nil => exact List.nodup_nil
  | append_singleton list item ih =>
    rw [eraseDups_concat]
    split
    · exact ih
    · next new =>
      have apart : ∀ other ∈ list, other ≠ item := fun other there same => new (same ▸ there)
      simpa [List.nodup_append, ih] using apart

theorem eraseDups_of_nodup (distinct : list.Nodup) : list.eraseDups = list := by
  induction list using List.reverseRecOn with
  | nil => rfl
  | append_singleton list item ih =>
    obtain ⟨before, -, apart⟩ := List.nodup_append.mp distinct
    have new : item ∉ list := fun there => apart item there item (List.mem_singleton_self item) rfl
    rw [eraseDups_concat, if_neg new, ih before]

/-- Results that are kept once stand in the order of the first items that have them. -/
theorem eraseDups_order (result : σ → Option α) (given : List σ) :
    (given.filterMap result).eraseDups.Pairwise fun first second =>
      given.findIdx (fun item => decide (result item = some first)) <
        given.findIdx fun item => decide (result item = some second) := by
  induction given using List.reverseRecOn with
  | nil => exact List.Pairwise.nil
  | append_singleton given item ih =>
    have early {value : α} (listed : value ∈ (given.filterMap result).eraseDups) :
        given.findIdx (fun item => decide (result item = some value)) < given.length := by
      obtain ⟨source, member, has⟩ := List.mem_filterMap.mp (List.mem_eraseDups.mp listed)
      exact List.findIdx_lt_length_of_exists ⟨source, member, decide_eq_true has⟩
    have kept {value : α} (listed : value ∈ (given.filterMap result).eraseDups) :
        (given ++ [item]).findIdx (fun item => decide (result item = some value)) =
          given.findIdx fun item => decide (result item = some value) := by
      rw [List.findIdx_append, if_pos (early listed)]
    have old : (given.filterMap result).eraseDups.Pairwise fun first second =>
        (given ++ [item]).findIdx (fun item => decide (result item = some first)) <
          (given ++ [item]).findIdx fun item => decide (result item = some second) := by
      refine ih.imp_of_mem fun first second before => ?_
      rw [kept first, kept second]
      exact before
    rw [List.filterMap_append]
    cases has : result item with
    | none => simpa [has] using old
    | some value =>
      rw [List.filterMap_cons_some has, List.filterMap_nil, eraseDups_concat]
      split
      · exact old
      · next new =>
        -- a result that no item had before is first had by the last item
        refine List.pairwise_append.mpr ⟨old, List.pairwise_singleton _ _, ?_⟩
        intro other listed last same
        obtain rfl := List.mem_singleton.mp same
        have unseen : given.findIdx (fun item => decide (result item = some last)) = given.length := by
          refine List.findIdx_eq_length.mpr fun source member => decide_eq_false fun had => ?_
          exact new (List.mem_filterMap.mpr ⟨source, member, had⟩)
        rw [kept listed, List.findIdx_append, unseen, if_neg (Nat.lt_irrefl _)]
        exact Nat.lt_of_lt_of_le (early listed) (Nat.le_add_left _ _)

end Distinct

namespace Text

/-- Trimming leaves a word that a text begins with as it is. -/
theorem trim_behind_word {word : List Char} (some : word ≠ []) (solid : ∀ c ∈ word, isBlank c = false)
    (rest : List Char) : ∃ kept, trim (word ++ rest) = word ++ kept := by
  have front : (word ++ rest).dropWhile isBlank = word ++ rest := by
    obtain ⟨c, more, rfl⟩ := List.exists_cons_of_ne_nil some
    simp [solid c List.mem_cons_self]
  have back : word.reverse.dropWhile isBlank = word.reverse := by
    obtain ⟨c, more, reversed⟩ := List.exists_cons_of_ne_nil (List.reverse_ne_nil_iff.mpr some)
    have last : isBlank c = false := solid c (List.mem_reverse.mp (reversed ▸ List.mem_cons_self))
    simp [reversed, last]
  unfold trim
  rw [front, List.reverse_append, List.dropWhile_append, back]
  split
  · exact ⟨[], by simp⟩
  · exact ⟨(rest.reverse.dropWhile isBlank).reverse, by simp⟩

end Text

namespace Cpp

variable {settings : Settings} {symbol directive : String}

def trimmed (symbol : String) : String := String.ofList (Text.trim symbol.toList)

/-- Something is left of the symbol without the blanks around it, which is neither a directive nor a primitive. -/
def NeedsDirective (settings : Settings) (symbol : String) : Prop :=
  trimmed symbol ≠ "" ∧ isDirective (trimmed symbol) = false ∧ settings.isPrimitive (trimmed symbol) = false

/-- A directive gives itself, and a symbol that needs a directive gives the one that is found for it. -/
def Gives (settings : Settings) (symbol directive : String) : Prop :=
  isDirective symbol = true ∧ directive = symbol ∨
    NeedsDirective settings symbol ∧ directive? settings symbol = some directive

instance : Decidable (NeedsDirective settings symbol) := inferInstanceAs (Decidable (_ ∧ _))

instance : Decidable (Gives settings symbol directive) := inferInstanceAs (Decidable (_ ∨ _))

theorem directive_of_needed (needed : NeedsDirective settings symbol) :
    directive? settings symbol =
      some ((settings.importMapping.get? (trimmed symbol)).getD (header (trimmed symbol))) := by
  obtain ⟨some, noDirective, noPrimitive⟩ := needed
  unfold trimmed at some noDirective noPrimitive ⊢
  simp [directive?, some, noDirective, noPrimitive, header]

theorem needed_of_directive (found : directive? settings symbol = some directive) :
    NeedsDirective settings symbol := by
  unfold directive? at found
  simp only at found
  split at found
  · contradiction
  · next asked => simpa [NeedsDirective, trimmed, and_assoc] using asked

/-- What begins as a directive still does so without the blanks around it. -/
theorem trimmed_directive (already : isDirective symbol = true) : isDirective (trimmed symbol) = true := by
  have tested : includeWord.toList.all (fun c => !Text.isBlank c) = true := by decide
  have solid : ∀ c ∈ includeWord.toList, Text.isBlank c = false := by simpa using tested
  obtain ⟨rest, begun⟩ := List.isPrefixOf_iff_prefix.mp already
  obtain ⟨kept, same⟩ := Text.trim_behind_word (by decide) solid rest
  rw [isDirective, trimmed, String.toList_ofList, ← begun, same]
  exact List.isPrefixOf_iff_prefix.mpr (List.prefix_append _ _)

theorem needed_no_directive (needed : NeedsDirective settings symbol) : isDirective symbol = false := by
  refine Bool.eq_false_iff.mpr fun already => ?_
  rw [NeedsDirective, trimmed_directive already] at needed
  exact absurd needed.2.1 (by decide)

theorem directiveFor_eq_some : directiveFor settings symbol = some directive ↔ Gives settings symbol directive := by
  unfold directiveFor Gives
  split
  · next already =>
    have settled : ¬ NeedsDirective settings symbol := fun needed => by
      rw [needed_no_directive needed] at already
      contradiction
    simp [already, settled, eq_comm]
  · next other =>
    have needed : directive? settings symbol = some directive → NeedsDirective settings symbol :=
      needed_of_directive
    simpa [other] using needed

/-- The directives for some symbols: each once, in the order of the first symbols that give them, just those that
some symbol gives. A symbol that is a directive or needs one gives that one alone. -/
structure Resolution (settings : Settings) (symbols resolved : List String) : Prop where
  distinct : resolved.Nodup
  directives : ∀ directive ∈ resolved, isDirective directive = true
  order : resolved.Pairwise fun first second =>
    symbols.findIdx (fun symbol => decide (Gives settings symbol first)) <
      symbols.findIdx fun symbol => decide (Gives settings symbol second)
  given : ∀ directive, directive ∈ resolved ↔ ∃ symbol ∈ symbols, Gives settings symbol directive
  verbatim : ∀ symbol, isDirective symbol = true →
    ∀ directive, Gives settings symbol directive ↔ directive = symbol
  found : ∀ symbol, NeedsDirective settings symbol → ∃ found, directive? settings symbol = some found ∧
    ∀ directive, Gives settings symbol directive ↔ directive = found

theorem header_isDirective (classname : String) : isDirective (header classname) = true := by
  rw [isDirective, header_text, List.isPrefixOf_iff_prefix]
  exact ⟨" \"".toList ++ (classname.toList ++ ".h\"".toList), by rw [← List.append_assoc]; rfl⟩

theorem library_isDirective : ∀ value ∈ includeDirectives.values, isDirective value = true := by
  decide

theorem gives_isDirective {config : Config}
    (mapped : ∀ value ∈ config.importMappings.values, isDirective value = true)
    (given : Gives (.ofConfig config) symbol directive) : isDirective directive = true := by
  rcases given with ⟨already, rfl⟩ | ⟨needed, found⟩
  · exact already
  · rw [directive_of_needed needed, Option.some.injEq] at found
    subst found
    cases entry : (Settings.ofConfig config).importMapping.get? (trimmed symbol) with
    | none => exact header_isDirective _
    | some value =>
      have listed : value ∈ (Settings.ofConfig config).importMapping.values :=
        List.mem_map_of_mem (Table.get_eq_some.mp entry)
      exact (Table.value_given_or_there listed).elim (mapped value) (library_isDirective value)

theorem directives_again {resolved : List String} (distinct : resolved.Nodup)
    (already : ∀ directive ∈ resolved, isDirective directive = true) : directives settings resolved = resolved := by
  have each : ∀ directive ∈ resolved, directiveFor settings directive = some directive :=
    fun directive member => if_pos (already directive member)
  have itself : resolved.filterMap (directiveFor settings) = resolved := by
    rw [List.filterMap_congr each, List.filterMap_some]
  exact (congrArg List.eraseDups itself).trans (eraseDups_of_nodup distinct)

/-- The directives for a list of symbols lose no symbol that needs one, double none, and are their own directives. -/
theorem directives_resolve_symbols {config : Config}
    (mapped : ∀ value ∈ config.importMappings.values, isDirective value = true) (symbols : List String) :
    Resolution (.ofConfig config) symbols (directives (.ofConfig config) symbols) ∧
      directives (.ofConfig config) (directives (.ofConfig config) symbols) =
        directives (.ofConfig config) symbols := by
  have distinct : (directives (.ofConfig config) symbols).Nodup := nodup_eraseDups _
  have given : ∀ directive, directive ∈ directives (.ofConfig config) symbols ↔
      ∃ symbol ∈ symbols, Gives (.ofConfig config) symbol directive := by
    simp only [mem_directives, directiveFor_eq_some, implies_true]
  have already : ∀ directive ∈ directives (.ofConfig config) symbols, isDirective directive = true := by
    intro directive listed
    obtain ⟨symbol, -, gives⟩ := (given directive).mp listed
    exact gives_isDirective mapped gives
  refine ⟨⟨distinct, already, ?_, given, ?_, ?_⟩, directives_again distinct already⟩
  · have order := eraseDups_order (directiveFor (.ofConfig config)) symbols
    simp only [directiveFor_eq_some] at order
    exact order
  · intro symbol isOne directive
    rw [← directiveFor_eq_some, directiveFor, if_pos isOne, Option.some.injEq, eq_comm]
  · intro symbol needed
    refine ⟨_, directive_of_needed needed, fun directive => ?_⟩
    rw [← directiveFor_eq_some, directiveFor, needed_no_directive needed, if_neg (by decide),
      directive_of_needed needed, Option.some.injEq, eq_comm]

/-- A class and a token of the options with blanks around them, a directive, a primitive, a blank symbol, and two
symbols that give what others have given. -/
theorem timed_symbols_resolved :
    let config := timed ⟨[("std::chrono::system_clock::time_point", "#include <chrono>")], by decide⟩
    let given := [" Pet", "std::chrono::system_clock::time_point ", "#include <map>", "bool", "Pet", " ", "std::map"]
    let resolved := ["#include \"Pet.h\"", "#include <chrono>", "#include <map>"]
    (∀ value ∈ config.importMappings.values, isDirective value = true) ∧
      Resolution (.ofConfig config) given resolved ∧ directives (.ofConfig config) resolved = resolved := by
  intro config given resolved
  have mapped : ∀ value ∈ config.importMappings.values, isDirective value = true := by decide
  have found : directives (.ofConfig config) given = resolved := by decide
  have both := directives_resolve_symbols mapped given
  rw [found] at both
  exact ⟨mapped, both⟩

end Cpp

end ServerScaffold
