/-!
# Texts cut at a separator

Module coordinates, task paths and file paths are all texts whose parts stand between separators.
`segments` cuts such a text and `join` writes the parts back.  The two are inverse to each other:
`join_segments` for every text, `segments_join` for every list of parts that do not hold the
separator themselves.
-/

namespace CompositeBuild.Text

/-- The parts of a text between the occurrences of `sep`, one more than there are occurrences. -/
def segments (sep : Char) : List Char → List (List Char)
  | [] => [[]]
  | c :: rest =>
    if c = sep then [] :: segments sep rest
    else
      match segments sep rest with
      | [] => [[c]]
      | part :: parts => (c :: part) :: parts

/-- The parts one after the other, with `sep` between neighbours. -/
def join (sep : Char) : List (List Char) → List Char
  | [] => []
  | [part] => part
  | part :: parts => part ++ sep :: join sep parts

/-- Cutting a text always leaves at least one part. -/
theorem segments_ne_nil (sep : Char) (text : List Char) : segments sep text ≠ [] := by
  cases text with
  | nil => simp [segments]
  | cons c rest =>
    unfold segments
    split
    · simp
    · split <;> simp

/-- Putting a non-empty list of parts behind a separator puts an empty part in front of it. -/
theorem join_nil_cons (sep : Char) (parts : List (List Char)) (h : parts ≠ []) :
    join sep ([] :: parts) = sep :: join sep parts := by
  cases parts with
  | nil => exact absurd rfl h
  | cons part parts => rfl

/-- A character put in front of the first part is put in front of the whole text. -/
theorem join_cons_cons (sep c : Char) (part : List Char) (parts : List (List Char)) :
    join sep ((c :: part) :: parts) = c :: join sep (part :: parts) := by
  cases parts <;> rfl

/-- A part behind others stands behind a separator. -/
theorem join_concat (sep : Char) {parts : List (List Char)} (some : parts ≠ [])
    (part : List Char) : join sep (parts ++ [part]) = join sep parts ++ sep :: part := by
  induction parts with
  | nil => exact absurd rfl some
  | cons first parts ih =>
    cases parts with
    | nil => rfl
    | cons next parts =>
      have rest := ih (List.cons_ne_nil next parts)
      simp only [List.cons_append] at rest
      simp [join, rest]

/-- Nothing is lost by cutting: the parts, joined again, are the text. -/
theorem join_segments (sep : Char) (text : List Char) : join sep (segments sep text) = text := by
  induction text with
  | nil => rfl
  | cons c rest ih =>
    unfold segments
    split
    · next h => rw [join_nil_cons sep _ (segments_ne_nil sep rest), ih, h]
    · split
      · next h => exact absurd h (segments_ne_nil sep rest)
      · next part parts h => rw [join_cons_cons, ← h, ih]

/-- No part of a cut text holds the separator. -/
theorem not_mem_of_mem_segments {sep : Char} {text part : List Char}
    (h : part ∈ segments sep text) : sep ∉ part := by
  induction text generalizing part with
  | nil => simp_all [segments]
  | cons c rest ih =>
    unfold segments at h
    split at h
    · rcases List.mem_cons.1 h with rfl | h
      · simp
      · exact ih h
    · next hc =>
      split at h
      · have hp : part = [c] := by simpa using h
        simpa [hp] using Ne.symm hc
      · next head tail hs =>
        rcases List.mem_cons.1 h with rfl | h
        · have hhead := ih (hs ▸ List.mem_cons_self : head ∈ segments sep rest)
          simpa [hhead] using Ne.symm hc
        · exact ih (hs ▸ List.mem_cons_of_mem _ h)

/-- A part without separators, followed by a separator, is cut off as it is. -/
theorem segments_append_cons {sep : Char} {part : List Char} (h : sep ∉ part)
    (text : List Char) : segments sep (part ++ sep :: text) = part :: segments sep text := by
  induction part with
  | nil => simp [segments]
  | cons c rest ih =>
    have hc : c ≠ sep := fun e => h (e ▸ List.mem_cons_self)
    have hr : sep ∉ rest := fun e => h (List.mem_cons_of_mem _ e)
    simp [segments, hc, ih hr]

/-- The parts of two texts with a separator between them are those of the first text and behind
them those of the second. -/
theorem segments_append_sep (sep : Char) (first second : List Char) :
    segments sep (first ++ sep :: second) = segments sep first ++ segments sep second := by
  induction first with
  | nil => simp [segments]
  | cons c rest ih =>
    by_cases cuts : c = sep
    · simp [segments, cuts, ih]
    · obtain ⟨part, parts, split⟩ := List.exists_cons_of_ne_nil (segments_ne_nil sep rest)
      simp [segments, cuts, ih, split]

/-- A text without separators is its own single part. -/
theorem segments_of_not_mem {sep : Char} {part : List Char} (h : sep ∉ part) :
    segments sep part = [part] := by
  induction part with
  | nil => rfl
  | cons c rest ih =>
    have hc : c ≠ sep := fun e => h (e ▸ List.mem_cons_self)
    have hr : sep ∉ rest := fun e => h (List.mem_cons_of_mem _ e)
    simp [segments, hc, ih hr]

/-- Parts that do not hold the separator are found again in the text they are joined to. -/
theorem segments_join (sep : Char) (parts : List (List Char)) (hne : parts ≠ [])
    (h : ∀ part ∈ parts, sep ∉ part) : segments sep (join sep parts) = parts := by
  induction parts with
  | nil => exact absurd rfl hne
  | cons part parts ih =>
    cases parts with
    | nil => exact segments_of_not_mem (h part List.mem_cons_self)
    | cons next parts =>
      have hp := h part List.mem_cons_self
      have hr : ∀ p ∈ next :: parts, sep ∉ p := fun p hp => h p (List.mem_cons_of_mem _ hp)
      simp [join, segments_append_cons hp, ih (by simp) hr]

end CompositeBuild.Text
