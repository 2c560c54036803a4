/-!
# Tables in name order

Builds, their dependencies and the tasks of a build are all tables from names to values that are
listed in name order.  A `NameMap` keeps its entries in strictly increasing name order, so a name
has at most one entry and the list of entries is determined by what each name is bound to.
-/

namespace CompositeBuild

/-- A table from names to values, with its entries in strictly increasing name order. -/
structure NameMap (α : Type) where
  entries : List (String × α) := []
  increasing : entries.Pairwise fun a b => a.1 < b.1 := by exact .nil

namespace NameMap

variable {α : Type}

/-- The table without entries. -/
def empty : NameMap α := {}

instance : Inhabited (NameMap α) := ⟨empty⟩

/-- The value bound to `name`. -/
def get? (table : NameMap α) (name : String) : Option α :=
  (table.entries.find? fun entry => entry.1 = name).map (·.2)

/-- Whether `name` has an entry. -/
def contains (table : NameMap α) (name : String) : Bool :=
  table.entries.any fun entry => entry.1 = name

/-- The names with an entry, in increasing order. -/
def names (table : NameMap α) : List String :=
  table.entries.map (·.1)

/-- The bound values, in the order of their names. -/
def values (table : NameMap α) : List α :=
  table.entries.map (·.2)

/-- Bind `name` in a list of entries that is in name order, keeping the order. -/
def insertEntry (name : String) (value : α) : List (String × α) → List (String × α)
  | [] => [(name, value)]
  | entry :: rest =>
    if name < entry.1 then (name, value) :: entry :: rest
    else if entry.1 < name then entry :: insertEntry name value rest
    else (name, value) :: rest

/-- The entries after an insertion are the new one and old ones. -/
theorem mem_of_mem_insertEntry {name : String} {value : α} {entries : List (String × α)}
    {entry : String × α} (h : entry ∈ insertEntry name value entries) :
    entry = (name, value) ∨ entry ∈ entries := by
  induction entries with
  | nil => simp_all [insertEntry]
  | cons head rest ih =>
    unfold insertEntry at h
    split at h
    · simp_all
    · split at h
      · rcases List.mem_cons.1 h with rfl | h
        · simp
        · rcases ih h with h | h <;> simp [h]
      · rcases List.mem_cons.1 h with h | h <;> simp [h]

/-- An insertion keeps the entries in increasing order. -/
theorem pairwise_insertEntry (name : String) (value : α) {entries : List (String × α)}
    (h : entries.Pairwise fun a b => a.1 < b.1) :
    (insertEntry name value entries).Pairwise fun a b => a.1 < b.1 := by
  induction entries with
  | nil => simp [insertEntry]
  | cons head rest ih =>
    have ⟨hhead, hrest⟩ := List.pairwise_cons.1 h
    unfold insertEntry
    split
    · next hlt =>
      refine List.pairwise_cons.2 ⟨fun b hb => ?_, h⟩
      rcases List.mem_cons.1 hb with rfl | hb
      · exact hlt
      · exact String.lt_trans hlt (hhead b hb)
    · next hnlt =>
      split
      · next hgt =>
        refine List.pairwise_cons.2 ⟨fun b hb => ?_, ih hrest⟩
        rcases mem_of_mem_insertEntry hb with rfl | hb
        · exact hgt
        · exact hhead b hb
      · next hngt =>
        have heq : name = head.1 :=
          String.le_antisymm (String.not_lt.1 hngt) (String.not_lt.1 hnlt)
        exact List.pairwise_cons.2 ⟨fun b hb => heq ▸ hhead b hb, hrest⟩

/-- Bind `name` to `value`, in place of what it was bound to before. -/
def insert (table : NameMap α) (name : String) (value : α) : NameMap α where
  entries := insertEntry name value table.entries
  increasing := pairwise_insertEntry name value table.increasing

/-- Forget what `name` is bound to. -/
def erase (table : NameMap α) (name : String) : NameMap α where
  entries := table.entries.filter fun entry => entry.1 ≠ name
  increasing := table.increasing.filter _

/-- The names are in strictly increasing order. -/
theorem names_pairwise (table : NameMap α) : table.names.Pairwise (· < ·) :=
  List.pairwise_map.2 table.increasing

/-- The empty table binds no name. -/
@[simp] theorem get?_empty (name : String) : (empty : NameMap α).get? name = none := rfl

/-- Looking a name up in the entries after an insertion finds the new value under the inserted
name and what was there before under every other one. -/
theorem find?_insertEntry (name : String) (value : α) (entries : List (String × α))
    (sought : String) (h : entries.Pairwise fun a b => a.1 < b.1) :
    ((insertEntry name value entries).find? fun entry => entry.1 = sought) =
      if name = sought then some (name, value)
      else entries.find? fun entry => entry.1 = sought := by
  induction entries with
  | nil => simp [insertEntry, List.find?_cons]; split <;> simp_all
  | cons head rest ih =>
    have ⟨hhead, hrest⟩ := List.pairwise_cons.1 h
    unfold insertEntry
    split
    · by_cases hs : name = sought <;> simp [List.find?_cons, hs]
    · next hnlt =>
      split
      · next hgt =>
        by_cases hh : head.1 = sought
        · have hne : name ≠ sought := fun e => String.lt_irrefl name (by
            have := hgt; rw [hh, ← e] at this; exact this)
          simp [hh, hne]
        · simp [hh, ih hrest]
      · next hngt =>
        have heq : name = head.1 :=
          String.le_antisymm (String.not_lt.1 hngt) (String.not_lt.1 hnlt)
        by_cases hs : name = sought
        · simp [hs]
        · have : ¬head.1 = sought := heq ▸ hs
          simp [hs, this]

/-- A binding is found under its own name and hides nothing under another one. -/
theorem get?_insert (table : NameMap α) (name : String) (value : α) (sought : String) :
    (table.insert name value).get? sought =
      if name = sought then some value else table.get? sought := by
  unfold get? insert
  rw [find?_insertEntry name value table.entries sought table.increasing]
  split <;> rfl

/-- An erased name is bound to nothing, and no other name is touched. -/
theorem get?_erase (table : NameMap α) (name sought : String) :
    (table.erase name).get? sought = if name = sought then none else table.get? sought := by
  unfold get? erase
  rw [List.find?_filter]
  split
  · next h => simp [h]
  · next h =>
    have same : (fun entry : String × α =>
        decide (decide (entry.1 ≠ name) = true ∧ decide (entry.1 = sought) = true)) =
        fun entry => decide (entry.1 = sought) := by
      funext entry
      by_cases he : entry.1 = sought
      · simp [he, Ne.symm h]
      · simp [he]
    rw [same]

/-- A name has an entry exactly when it is bound to something. -/
theorem contains_eq_isSome_get? (table : NameMap α) (name : String) :
    table.contains name = (table.get? name).isSome := by
  rw [contains, get?, Option.isSome_map, Bool.eq_iff_iff, List.any_eq_true, List.find?_isSome]

end NameMap

end CompositeBuild
