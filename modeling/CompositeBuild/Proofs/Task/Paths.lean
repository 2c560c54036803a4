import CompositeBuild.Config.Decode
import CompositeBuild.TaskPath

/-!
# Task paths and their texts

There are three ways to make a task path: to read a text, to convert one, and to decode a value of a
data format.  All of them take the qualified texts and no others, and keep the text as it is.  The
name of a path is what stands behind its last separator, however many separators there are and
wherever they stand; so a path that is put together of segments is named like the last one.
-/

namespace CompositeBuild

variable {α ε : Type}

/-- A text is qualified if it is something behind a separator. -/
theorem isQualified_iff {text : String} :
    IsQualified text ↔ ∃ rest, text.toList = pathSeparator :: rest := by
  simp [IsQualified, List.head?_eq_some_iff]

/-- What is said about a text that is no task path holds the text. -/
theorem UnqualifiedPath.isInfix_message (error : UnqualifiedPath) :
    error.text.toList <:+: error.message.toList := by
  simp only [message, String.toList_append]
  exact ⟨_, _, rfl⟩

namespace TaskPath

/-! ### Making task paths -/

/-- A text is read exactly if it is qualified. -/
theorem exists_parse_iff {text : String} : (∃ path, parse text = .ok path) ↔ IsQualified text := by
  simp only [parse_eq_ok_iff]
  exact ⟨fun ⟨path, same⟩ => same ▸ path.qualified, fun qualified => ⟨⟨text, qualified⟩, rfl⟩⟩

/-- A value that is a text is decoded as the text is read. -/
theorem decode_of_read {format : Text.Format α ε} {value : α} {text : String}
    (found : format.read value = .ok text) :
    decode format value = (parse text).mapError fun error => format.reject error.message := by
  simp [decode, ofText, found]
  rfl

/-- A task path is decoded exactly from the values that are its text. -/
theorem decode_eq_ok_iff {format : Text.Format α ε} {value : α} {path : TaskPath} :
    decode format value = .ok path ↔ format.read value = .ok path.text := by
  cases found : format.read value with
  | error error =>
    have failed : decode format value = .error error := by simp [decode, found]; rfl
    simp [failed]
  | ok text =>
    rw [decode_of_read found, Except.ok.injEq, eq_comm (a := text), ← parse_eq_ok_iff]
    cases parse text with
    | error error => exact ⟨nofun, nofun⟩
    | ok made =>
      change Except.ok made = Except.ok path ↔ _
      rw [Except.ok.injEq, Except.ok.injEq]

/-- A value that is an unqualified text is not decoded, and the error tells the text. -/
theorem decode_of_not_isQualified {format : Text.Format α ε} (lawful : format.Lawful) {value : α}
    {text : String} (found : format.read value = .ok text) (unqualified : ¬IsQualified text) :
    ∃ error, decode format value = .error error ∧
      text.toList <:+: (format.describe error).toList := by
  have refused : parse text = .error { text } := parse_eq_error_iff.mpr ⟨unqualified, rfl⟩
  refine ⟨format.reject (UnqualifiedPath.message { text }), ?_, ?_⟩
  · rw [decode_of_read found, refused]
    rfl
  · exact (UnqualifiedPath.isInfix_message { text }).trans (lawful.describe_reject _)

/-! ### The name of a task -/

/-- The name is what stands behind the last separator. -/
theorem name_of_text {path : TaskPath} {before name : List Char}
    (split : path.text.toList = before ++ pathSeparator :: name) (free : pathSeparator ∉ name) :
    path.name.toList = name := by
  unfold TaskPath.name
  rw [split, Text.segments_append_sep, Text.segments_of_not_mem free, List.getLastD_concat,
    String.toList_ofList]

/-- There is no separator in the name, and one in front of it. -/
theorem exists_name (path : TaskPath) :
    ∃ before, path.text.toList = before ++ pathSeparator :: path.name.toList ∧
      pathSeparator ∉ path.name.toList := by
  obtain ⟨rest, starts⟩ := isQualified_iff.mp path.qualified
  -- What is behind the first separator is cut at its own last one, if there is any.
  obtain ⟨parts, last, cut⟩ : ∃ parts last, Text.segments pathSeparator rest = parts ++ [last] :=
    ⟨_, _, (List.dropLast_concat_getLast (Text.segments_ne_nil _ rest)).symm⟩
  have among : last ∈ Text.segments pathSeparator rest := by simp [cut]
  have free : pathSeparator ∉ last := Text.not_mem_of_mem_segments among
  have split : path.text.toList =
      Text.join pathSeparator ([] :: parts) ++ pathSeparator :: last := by
    rw [starts, ← Text.join_segments pathSeparator rest, cut,
      ← Text.join_nil_cons _ _ (by simp), ← Text.join_concat _ (by simp)]
    rfl
  have name : path.name.toList = last := name_of_text split free
  rw [name]
  exact ⟨_, split, free⟩

/-- The segments one after the other, each behind a separator. -/
def ofSegments (segments : List String) : String :=
  String.join (segments.map fun segment => String.singleton pathSeparator ++ segment)

/-- A path that is put together of segments without separators is named like the last one. -/
theorem exists_parse_ofSegments {segments : List String} (some : segments ≠ [])
    (free : ∀ segment ∈ segments, pathSeparator ∉ segment.toList) :
    ∃ path, parse (ofSegments segments) = .ok path ∧ path.name = segments.getLast some := by
  obtain ⟨front, last, rfl⟩ : ∃ front last, segments = front ++ [last] :=
    ⟨_, _, (List.dropLast_concat_getLast some).symm⟩
  have split : (ofSegments (front ++ [last])).toList =
      (ofSegments front).toList ++ pathSeparator :: last.toList := by
    simp [ofSegments, String.join_append]
  have qualified : IsQualified (ofSegments (front ++ [last])) := by
    rw [isQualified_iff, split]
    cases front <;> simp [ofSegments, String.join_cons]
  obtain ⟨path, read⟩ := exists_parse_iff.mpr qualified
  refine ⟨path, read, String.toList_inj.mp ?_⟩
  rw [List.getLast_concat]
  rw [← parse_eq_ok_iff.mp read] at split
  exact name_of_text split (free last (by simp))

/-- **Task paths cannot be forged, and their name is the last segment.**

* However a path is made of a text, by reading it, by converting it or by decoding a value of a data
  format that is the text, it is made exactly if the text is qualified, and the text is kept.  Any
  other text is refused, with an error that carries it.  A value that is no text is not decoded.
* A path is stored as its text, and is decoded from what it is stored as.
* The name of a path holds no separator, and is the only such thing that the text ends in behind a
  separator.
* So segments without separators, each of them behind one, make a path that is named like the last
  segment. -/
theorem made_of_qualified_texts {format : Text.Format α ε} (lawful : format.Lawful) :
    (∀ text value, format.read value = .ok text →
      ((∃ path, parse text = .ok path) ↔ IsQualified text) ∧
      ((∃ path, ofText text = .ok path) ↔ IsQualified text) ∧
      ((∃ path, decode format value = .ok path) ↔ IsQualified text) ∧
      (∀ path, parse text = .ok path ∨ ofText text = .ok path ∨ decode format value = .ok path →
        path.text = text ∧ path.encode format = format.write text) ∧
      (¬IsQualified text → parse text = .error { text } ∧ ofText text = .error { text } ∧
        ∃ error, decode format value = .error error ∧
          text.toList <:+: (format.describe error).toList)) ∧
    (∀ value error, format.read value = .error error → decode format value = .error error) ∧
    (∀ path : TaskPath, format.read (path.encode format) = .ok path.text ∧
      decode format (path.encode format) = .ok path) ∧
    (∀ path : TaskPath, pathSeparator ∉ path.name.toList ∧
      (∃ before, path.text = before ++ String.singleton pathSeparator ++ path.name) ∧
      ∀ before name : String, pathSeparator ∉ name.toList →
        path.text = before ++ String.singleton pathSeparator ++ name → name = path.name) ∧
    ∀ (segments : List String) (some : segments ≠ []),
      (∀ segment ∈ segments, pathSeparator ∉ segment.toList) →
      ∃ path, parse (ofSegments segments) = .ok path ∧ path.name = segments.getLast some := by
  refine ⟨fun text value found => ⟨exists_parse_iff, exists_parse_iff, ?_, fun path made => ?_,
    fun unqualified => ?_⟩, fun value error failed => ?_, fun path => ?_, fun path => ?_,
    fun segments some free => exists_parse_ofSegments some free⟩
  · simp only [← exists_parse_iff, decode_eq_ok_iff, found, parse_eq_ok_iff, Except.ok.injEq]
    exact exists_congr fun path => eq_comm
  · have kept : path.text = text := by
      obtain read | read | decoded := made
      · exact parse_eq_ok_iff.mp read
      · exact parse_eq_ok_iff.mp read
      · exact (Except.ok.inj (found.symm.trans (decode_eq_ok_iff.mp decoded))).symm
    exact ⟨kept, congrArg format.write kept⟩
  · have refused : parse text = .error { text } := parse_eq_error_iff.mpr ⟨unqualified, rfl⟩
    exact ⟨refused, refused, decode_of_not_isQualified lawful found unqualified⟩
  · simp [decode, failed]
    rfl
  · have stored : format.read (path.encode format) = .ok path.text := lawful.read_write path.text
    exact ⟨stored, decode_eq_ok_iff.mpr stored⟩
  · obtain ⟨before, split, free⟩ := path.exists_name
    refine ⟨free, ⟨.ofList before, ?_⟩, fun before name free split => ?_⟩
    · rw [← String.toList_inj, split]
      simp
    · have chars : path.text.toList = before.toList ++ pathSeparator :: name.toList := by
        simp [split]
      exact (String.toList_inj.mp (name_of_text chars free)).symm

/-- TOML values as a data format.  The text of an error is a line. -/
def tomlTexts : Text.Format Toml.Value String where
  read value := (decodeText "a string" value).mapError DecodeError.message
  write := .string
  reject := id
  describe error := error ++ "\n"

/-- A task of a project is decoded from a TOML string, and a path without its first separator is
not. -/
theorem made_of_qualified_texts_toml :
    tomlTexts.Lawful ∧
    (∃ path, decode tomlTexts (.string ":app::jar") = .ok path ∧ path.text = ":app::jar" ∧
      path.name = "jar") ∧
    ∃ error, decode tomlTexts (.string "app:jar") = .error error ∧
      "app:jar".toList <:+: (tomlTexts.describe error).toList := by
  have lawful : tomlTexts.Lawful := by
    refine ⟨fun text => rfl, fun message => ?_⟩
    simp only [tomlTexts, String.toList_append]
    exact (List.prefix_append _ _).isInfix
  obtain ⟨making, -, -, naming, -⟩ := made_of_qualified_texts lawful
  obtain ⟨-, -, made, kept, -⟩ := making ":app::jar" (.string ":app::jar") rfl
  obtain ⟨-, -, -, -, refused⟩ := making "app:jar" (.string "app:jar") rfl
  obtain ⟨path, decoded⟩ := made.mpr (by decide)
  have text : path.text = ":app::jar" := (kept path (.inr (.inr decoded))).1
  obtain ⟨-, -, only⟩ := naming path
  exact ⟨lawful, ⟨path, decoded, text, (only ":app:" "jar" (by decide) text).symm⟩,
    (refused (by decide)).2.2⟩

end TaskPath

end CompositeBuild
