import CompositeBuild.Substitution.Rules

/-!
# Reading and writing module coordinates

The coordinates of a module are written as its group, the separator and its name.  Reading undoes
that: a text is read as coordinates exactly if it is the written form of well-formed ones
(`ModuleId.parse?_eq_some_iff`).  Everything else follows from this, in both directions of the round
trip: which texts are read (`ModuleId.isCoordinates_iff`), that no two of them are read alike, and
that well-formed coordinates are read back.
-/

namespace CompositeBuild.ModuleId

variable {text : String} {id : ModuleId}

/-- A text is coordinates if the separator occurs in it once, with something on both sides. -/
def IsCoordinates (text : String) : Prop :=
  text.toList.count separator = 1 ∧
    ∃ before after, text.toList = before ++ separator :: after ∧ before ≠ [] ∧ after ≠ []

/-- Coordinates are well formed if there are a group and a name, both without separators. -/
structure WellFormed (id : ModuleId) : Prop where
  group_ne : id.group ≠ ""
  name_ne : id.name ≠ ""
  group_free : separator ∉ id.group.toList
  name_free : separator ∉ id.name.toList

/-- The characters of written coordinates. -/
theorem toList_toString (id : ModuleId) :
    (toString id).toList = id.group.toList ++ separator :: id.name.toList := by
  simp [ToString.toString, separator]

/-- Well-formed coordinates are cut at their separator into group and name. -/
theorem WellFormed.segments (formed : id.WellFormed) :
    Text.segments separator (toString id).toList = [id.group.toList, id.name.toList] := by
  rw [toList_toString, Text.segments_append_cons formed.group_free,
    Text.segments_of_not_mem formed.name_free]

/-- **A text is read as coordinates exactly if it is their written form**, and only well-formed
coordinates are read. -/
theorem parse?_eq_some_iff : parse? text = some id ↔ id.WellFormed ∧ toString id = text := by
  constructor
  · intro parsed
    unfold parse? at parsed
    split at parsed
    · next group name cut =>
      split at parsed
      · next present =>
        obtain rfl := Option.some.inj parsed
        have free {part : List Char} (member : part ∈ [group, name]) : separator ∉ part :=
          Text.not_mem_of_mem_segments (cut ▸ member)
        refine ⟨⟨?_, ?_, ?_, ?_⟩, String.toList_inj.mp ?_⟩
        · simpa using present.1
        · simpa using present.2
        · simpa using free (List.mem_cons_self ..)
        · simpa using free (List.mem_cons_of_mem _ (List.mem_cons_self ..))
        · rw [← Text.join_segments separator text.toList, cut, toList_toString]
          simp [Text.join]
      · cases parsed
    · cases parsed
  · rintro ⟨formed, rfl⟩
    have present : id.group.toList ≠ [] ∧ id.name.toList ≠ [] := by
      simpa using And.intro formed.group_ne formed.name_ne
    simp only [parse?, formed.segments, if_pos present, String.ofList_toList]

/-- Coordinates are the texts that well-formed ones are written as. -/
theorem isCoordinates_iff :
    IsCoordinates text ↔ ∃ id : ModuleId, id.WellFormed ∧ toString id = text := by
  constructor
  · rintro ⟨once, before, after, split, something, more⟩
    -- The one occurrence is the one that the text is split at.
    have free : separator ∉ before ∧ separator ∉ after := by
      rw [split, List.count_append, List.count_cons_self] at once
      constructor <;> refine List.count_eq_zero.mp ?_ <;> omega
    refine ⟨⟨.ofList before, .ofList after⟩, ⟨?_, ?_, ?_, ?_⟩, String.toList_inj.mp ?_⟩
    · simpa using something
    · simpa using more
    · simpa using free.1
    · simpa using free.2
    · rw [toList_toString, split, String.toList_ofList, String.toList_ofList]
  · rintro ⟨id, formed, rfl⟩
    refine ⟨?_, id.group.toList, id.name.toList, toList_toString id, ?_, ?_⟩
    · rw [toList_toString, List.count_append, List.count_cons_self,
        List.count_eq_zero.mpr formed.group_free, List.count_eq_zero.mpr formed.name_free]
    · simpa using formed.group_ne
    · simpa using formed.name_ne

/-- Reading coordinates succeeds as it does without an error to report. -/
theorem parse_eq_ok_iff : parse text = .ok id ↔ parse? text = some id := by
  unfold parse
  cases parse? text <;> simp

/-- The error of a refused text carries the text. -/
theorem parse_eq_error_iff {error : SubstitutionError} :
    parse text = .error error ↔ parse? text = none ∧ error = .invalidModule text := by
  unfold parse
  cases parse? text with
  | none => simp [eq_comm]
  | some id => simp

/-- **Coordinates are read exactly as they are written.**

* A text is read exactly if the separator occurs in it once, with something on both sides.  Any
  other text is refused, with an error that carries the text.
* What is read from a text is written as that text, and so two texts that are read give the same
  coordinates only if they are the same.
* Coordinates with a group and a name, both without separators, are read back from what they are
  written as. -/
theorem read_iff_written (text : String) :
    ((∃ id, parse text = .ok id) ↔ IsCoordinates text) ∧
    (¬IsCoordinates text ↔ parse text = .error (.invalidModule text)) ∧
    (∀ error, parse text = .error error → error = .invalidModule text) ∧
    (∀ id, parse text = .ok id → toString id = text) ∧
    (∀ other id another, parse text = .ok id → parse other = .ok another →
      (id = another ↔ text = other)) ∧
    ∀ id : ModuleId, id.group ≠ "" → id.name ≠ "" → separator ∉ id.group.toList →
      separator ∉ id.name.toList → parse (toString id) = .ok id := by
  have read : (∃ id, parse text = .ok id) ↔ IsCoordinates text := by
    simp only [parse_eq_ok_iff, parse?_eq_some_iff, isCoordinates_iff]
  have refused : ¬IsCoordinates text ↔ parse text = .error (.invalidModule text) := by
    rw [← read, parse_eq_error_iff]
    simp [parse_eq_ok_iff, Option.eq_none_iff_forall_ne_some]
  have written {text : String} {id : ModuleId} (parsed : parse text = .ok id) :
      toString id = text := (parse?_eq_some_iff.mp (parse_eq_ok_iff.mp parsed)).2
  refine ⟨read, refused, fun error failed => (parse_eq_error_iff.mp failed).2,
    fun id parsed => written parsed, fun other id another parsed parsed' => ⟨?_, ?_⟩,
    fun id someGroup someName groupFree nameFree => ?_⟩
  · rintro rfl
    exact (written parsed).symm.trans (written parsed')
  · rintro rfl
    exact Except.ok.inj (parsed.symm.trans parsed')
  · exact parse_eq_ok_iff.mpr
      (parse?_eq_some_iff.mpr ⟨⟨someGroup, someName, groupFree, nameFree⟩, rfl⟩)

/-- A second separator, a missing group and a missing name are refused. -/
example : ["org:core:api", ":core", "org:", "core"].map parse? = [none, none, none, none] := by
  decide

end CompositeBuild.ModuleId
