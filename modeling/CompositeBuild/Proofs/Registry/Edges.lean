import CompositeBuild.Registry.Dependencies
import Mathlib.Data.List.Nodup
import Mathlib.Order.RelClasses

/-!
# Edges, added and taken away

A table is determined by what its names are bound to (`NameMap.ext_get?`).  So taking away an edge
that has just been added gives back the very dependencies that were there before, provided that no
build was listed without targets (`Dependencies.remove_add`).
-/

namespace CompositeBuild

/-! ### Tables and their lookups -/

namespace NameMap

variable {α : Type}

/-- A name is bound to a value exactly if the table has that entry. -/
theorem get?_eq_some_iff {table : NameMap α} {name : String} {value : α} :
    table.get? name = some value ↔ (name, value) ∈ table.entries := by
  constructor
  · intro found
    obtain ⟨entry, here, rfl⟩ := Option.map_eq_some_iff.mp found
    have named : entry.1 = name := by simpa using List.find?_some here
    rw [← named]
    exact List.mem_of_find?_eq_some here
  · intro member
    have first : table.entries.find? (fun entry => entry.1 = name) = some (name, value) := by
      obtain ⟨front, back, split⟩ := List.append_of_mem member
      refine List.find?_eq_some_iff_append.mpr ⟨by simp, front, back, split, ?_⟩
      intro earlier before
      have increasing := table.increasing
      rw [split] at increasing
      have less := (List.pairwise_append.mp increasing).2.2 earlier before _ (List.mem_cons_self ..)
      simpa using fun same : earlier.1 = name => String.lt_irrefl name (same ▸ less)
    simp [get?, first]

/-- Tables in which every name is bound to the same are the same. -/
theorem ext_get? {table other : NameMap α} (same : ∀ name, table.get? name = other.get? name) :
    table = other := by
  have members : ∀ entry, entry ∈ table.entries ↔ entry ∈ other.entries := by
    rintro ⟨name, value⟩
    rw [← get?_eq_some_iff, ← get?_eq_some_iff, same]
  have irreflexive : ∀ entry : String × α, ¬entry.1 < entry.1 := fun entry => String.lt_irrefl _
  have unrepeated (table : NameMap α) : table.entries.Nodup := by
    refine table.increasing.imp ?_
    rintro entry _ less rfl
    exact irreflexive entry less
  have shuffled : table.entries.Perm other.entries :=
    (List.perm_ext_iff_of_nodup (unrepeated table) (unrepeated other)).mpr members
  have entries : table.entries = other.entries :=
    shuffled.eq_of_pairwise
      (fun a b _ _ less greater => absurd (String.lt_trans less greater) (irreflexive a))
      table.increasing other.increasing
  cases table
  cases other
  simpa using entries

/-- Binding a new name adds one entry. -/
theorem insertEntry_perm {name : String} (value : α) {entries : List (String × α)}
    (new : ∀ entry ∈ entries, entry.1 ≠ name) :
    (insertEntry name value entries).Perm ((name, value) :: entries) := by
  induction entries with
  | nil => exact .refl _
  | cons head rest ih =>
    unfold insertEntry
    split
    · exact .refl _
    · next notLess =>
      split
      · have behind := ih fun entry member => new entry (List.mem_cons_of_mem _ member)
        exact (behind.cons head).trans (.swap _ _ _)
      · next notGreater =>
        have same : head.1 = name :=
          String.le_antisymm (String.not_lt.1 notLess) (String.not_lt.1 notGreater)
        exact absurd same (new head (List.mem_cons_self ..))

/-- Binding a new name adds one value. -/
theorem values_insert_perm {table : NameMap α} {name : String} (new : table.get? name = none)
    (value : α) :
    (table.insert name value).values.Perm (value :: table.values) := by
  refine (insertEntry_perm value fun entry member same => ?_).map (·.2)
  rw [get?_eq_some_iff.mpr (same ▸ member : (name, entry.2) ∈ table.entries)] at new
  cases new

/-- A value is listed if it is bound to some name. -/
theorem mem_values_iff {table : NameMap α} {value : α} :
    value ∈ table.values ↔ ∃ name, table.get? name = some value := by
  simp [values, get?_eq_some_iff]

end NameMap

namespace Dependencies

variable {deps : Dependencies} {source target : BuildId}

/-! ### Sources -/

/-- A build with targets is listed as a source. -/
theorem mem_sources_of_hasEdge (edge : deps.HasEdge source target) : source ∈ deps.sources := by
  have bound : ∃ targets, deps.edges.get? source.text = some targets := by
    cases found : deps.edges.get? source.text with
    | none => simp [HasEdge, targets, found] at edge
    | some targets => exact ⟨targets, rfl⟩
  obtain ⟨targets, found⟩ := bound
  refine List.mem_map.mpr ⟨source.text, ?_, rfl⟩
  exact List.mem_map.mpr ⟨_, NameMap.get?_eq_some_iff.mp found, rfl⟩

/-- The sources are listed once. -/
theorem nodup_sources (deps : Dependencies) : deps.sources.Nodup := by
  refine List.Nodup.map (fun a b same => ?_) ?_
  · simpa using congrArg BuildId.text same
  · refine deps.edges.names_pairwise.imp ?_
    rintro name _ less rfl
    exact String.lt_irrefl name less

/-! ### Withdrawing an edge -/

/-- No build is listed without targets, and none of its targets is listed twice. -/
def Tidy (deps : Dependencies) : Prop :=
  ∀ name targets, deps.edges.get? name = some targets → targets ≠ [] ∧ targets.Nodup

namespace Tidy

/-- The targets of a build never repeat. -/
theorem nodup (tidy : deps.Tidy) (source : BuildId) : (deps.targets source).Nodup := by
  unfold targets
  cases found : deps.edges.get? source.text with
  | none => simp
  | some targets => exact (tidy source.text targets found).2

/-- A build is listed exactly if it has targets. -/
theorem get?_edges (tidy : deps.Tidy) (source : BuildId) :
    deps.edges.get? source.text =
      if deps.targets source = [] then none else some (deps.targets source) := by
  cases found : deps.edges.get? source.text with
  | none => simp [targets, found]
  | some targets => simp [Dependencies.targets, found, (tidy source.text targets found).1]

/-- An added edge leaves no list empty and repeats nothing. -/
theorem add (tidy : deps.Tidy) (source target : BuildId) : (deps.add source target).Tidy := by
  by_cases old : deps.HasEdge source target
  · simpa [Dependencies.add, old] using tidy
  · intro name targets found
    simp only [Dependencies.add, old, if_false, NameMap.get?_insert] at found
    split at found
    · obtain rfl : deps.targets source ++ [target] = targets := by simpa using found
      refine ⟨by simp, List.nodup_append.mpr ⟨tidy.nodup source, by simp, ?_⟩⟩
      intro known member added single
      rw [List.mem_singleton.mp single]
      exact fun same => old (same ▸ member)
    · exact tidy name targets found

/-- Taking a new edge away again undoes adding it. -/
theorem remove_add (tidy : deps.Tidy) (new : ¬deps.HasEdge source target) :
    (deps.add source target).remove source target = deps := by
  have extended : (deps.add source target).edges =
      deps.edges.insert source.text (deps.targets source ++ [target]) := by
    simp [Dependencies.add, new]
  have found : (deps.add source target).edges.get? source.text =
      some (deps.targets source ++ [target]) := by
    rw [extended, NameMap.get?_insert, if_pos rfl]
  have kept : (deps.targets source ++ [target]).filter (· ≠ target) = deps.targets source := by
    have others : (deps.targets source).filter (· ≠ target) = deps.targets source := by
      refine List.filter_eq_self.mpr fun known member => ?_
      simpa using fun same : known = target => new (same ▸ member)
    rw [List.filter_append, others]
    simp
  have before := tidy.get?_edges source
  suffices edges : ((deps.add source target).remove source target).edges = deps.edges from
    congrArg Dependencies.mk edges
  refine NameMap.ext_get? fun name => ?_
  simp only [remove, found, kept]
  cases targets : deps.targets source with
  | nil =>
    rw [targets] at before
    rw [extended, NameMap.get?_erase, NameMap.get?_insert]
    by_cases own : source.text = name
    · subst own
      simp [before]
    · simp [own]
  | cons first rest =>
    rw [targets] at before
    rw [extended, NameMap.get?_insert, NameMap.get?_insert]
    by_cases own : source.text = name
    · subst own
      simp [before]
    · simp [own]

end Tidy

end Dependencies

end CompositeBuild
