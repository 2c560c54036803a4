import CompositeBuild.Config.Load
import Mathlib.Data.List.DropRight
import Mathlib.Data.List.Forall2

/-!
# Where the directories of a configuration lead

Parents and appended paths are found on the spelling of paths, with its empty parts, its dots and
its separators at the end.  What a path means are its components, and for these both operations are
simple: a parent is without the last component (`FilePath.components_parent?`), and a path that is
appended to a base brings its own components behind those of the base
(`FilePath.components_append`).

Whether a path is absolute is the one thing that the spelling of its beginning decides.  A parent
begins as the path itself does, because what is above the last component is a first stretch of the
same parts (`FilePath.of_partsAbove?`), and so it is absolute exactly if the path is.

So every directory of a loaded configuration leads to where the file says, seen from the directory
that holds the file, however the two paths are spelled
(`CompositeConfig.directories_follow_the_file`).
-/

namespace CompositeBuild

namespace FilePath

variable {path base : List Char} {parts above : List (List Char)} {part : List Char}

/-! ### Parts that name something -/

/-- The parts that name something. -/
def named (parts : List (List Char)) : List (List Char) := parts.filter fun part => !isIdle part

theorem named_append (first second : List (List Char)) :
    named (first ++ second) = named first ++ named second :=
  List.filter_append ..

theorem named_concat (parts : List (List Char)) (part : List Char) :
    named (parts ++ [part]) = if isIdle part then named parts else named parts ++ [part] := by
  rw [named_append]
  cases idle : isIdle part <;> simp [named, idle]

/-- Idle parts at the end name nothing. -/
theorem named_rdropWhile (parts : List (List Char)) :
    named (parts.rdropWhile isIdle) = named parts := by
  induction parts using List.reverseRecOn with
  | nil => rfl
  | append_singleton parts part ih =>
    rw [List.rdropWhile_concat, named_concat]
    split
    · exact ih
    · next busy => rw [named_concat, if_neg busy]

/-- A part at the end is passed over if it names nothing, else all before it is above. -/
theorem partsAbove?_concat (parts : List (List Char)) (part : List Char) :
    partsAbove? (parts ++ [part]) =
      if isIdle part then partsAbove? parts else some (parts.rdropWhile isIdle) := by
  unfold partsAbove?
  rw [List.reverse_append, List.reverse_singleton, List.singleton_append]
  cases idle : isIdle part with
  | true => rw [List.dropWhile_cons_of_pos idle, if_pos rfl]
  | false =>
    rw [List.dropWhile_cons_of_neg (by simp [idle])]
    rfl

/-- Something lies above parts if one of them names something. -/
theorem partsAbove?_eq_none_iff : partsAbove? parts = none ↔ named parts = [] := by
  induction parts using List.reverseRecOn with
  | nil => exact iff_of_true rfl rfl
  | append_singleton parts part ih =>
    rw [partsAbove?_concat, named_concat]
    split
    · exact ih
    · simp

/-- What lies above parts is a first stretch of them, and names all that they name but the last. -/
theorem of_partsAbove? (found : partsAbove? parts = some above) :
    above <+: parts ∧ named above = (named parts).dropLast := by
  induction parts using List.reverseRecOn with
  | nil => cases found
  | append_singleton parts part ih =>
    rw [partsAbove?_concat] at found
    rw [named_concat]
    split at found
    · next idle =>
      obtain ⟨first, names⟩ := ih found
      exact ⟨first.trans (List.prefix_append ..), by rw [if_pos idle, names]⟩
    · next busy =>
      obtain rfl := Option.some.inj found
      refine ⟨(List.rdropWhile_prefix ..).trans (List.prefix_append ..), ?_⟩
      rw [named_rdropWhile, if_neg busy, List.dropLast_concat]

/-! ### Components -/

/-- A path with the separator in front is absolute, and names what stands behind it. -/
theorem components_cons_separator (body : List Char) :
    components (separator :: body) = (true, named (Text.segments separator body)) := by
  simp [components, isAbsolute, Text.segments, named, isIdle]

/-- A path with a dot and the separator in front is relative, and names what stands behind them. -/
theorem components_dot_cons (body : List Char) :
    components ('.' :: separator :: body) = (false, named (Text.segments separator body)) := by
  have free : separator ∉ ['.'] := by decide
  have cut : Text.segments separator ('.' :: separator :: body) =
      ['.'] :: Text.segments separator body := Text.segments_append_cons free body
  rw [components, cut]
  rfl

/-- A path that does not begin with the separator is relative, and names what its parts name. -/
theorem components_of_relative (relative : isAbsolute path = false) :
    components path = (false, named (Text.segments separator path)) := by
  rw [components, relative, named]

/-- The parts of joined parts name what the parts do. -/
theorem named_segments_join (free : ∀ part ∈ parts, separator ∉ part) :
    named (Text.segments separator (Text.join separator parts)) = named parts := by
  cases parts with
  | nil => rfl
  | cons part parts => rw [Text.segments_join separator _ (by simp) free]

/-- The parts above the last one that names something hold no separator. -/
theorem separator_free (found : partsAbove? (Text.segments separator path) = some above) :
    ∀ part ∈ above, separator ∉ part := fun _ member =>
  Text.not_mem_of_mem_segments ((of_partsAbove? found).1.subset member)

/-- Text that is joined from a first stretch of the parts of a path begins as the path does. -/
theorem isAbsolute_join (first : above <+: Text.segments separator path)
    (relative : isAbsolute path = false) : isAbsolute (Text.join separator above) = false := by
  cases above with
  | nil => rfl
  | cons head rest =>
    obtain ⟨others, cut⟩ := first
    cases path with
    | nil =>
      obtain ⟨rfl, nothing⟩ := List.cons.inj cut
      rw [(List.append_eq_nil_iff.mp nothing).1]
      rfl
    | cons c body =>
      have other : c ≠ separator := by simpa [isAbsolute] using relative
      obtain ⟨part, parts, behind⟩ :=
        List.exists_cons_of_ne_nil (Text.segments_ne_nil separator body)
      rw [Text.segments, if_neg other, behind] at cut
      obtain ⟨rfl, -⟩ := List.cons.inj cut
      rw [Text.join_cons_cons]
      exact relative

/-- The parts of a relative path above its last name, joined, are relative and name the same. -/
theorem components_join_above (found : partsAbove? (Text.segments separator path) = some above)
    (relative : isAbsolute path = false) :
    components (Text.join separator above) =
      (false, (named (Text.segments separator path)).dropLast) := by
  obtain ⟨first, names⟩ := of_partsAbove? found
  rw [components_of_relative (isAbsolute_join first relative),
    named_segments_join (separator_free found), names]

/-- **A parent has all components but the last**, and is absolute exactly if the path is. -/
theorem components_parent? (found : parent? path = some base) :
    components base = ((components path).1, (components path).2.dropLast) := by
  unfold parent? at found
  split at found
  · cases found
  · next body =>
    -- The path is absolute.
    obtain ⟨above, there, rfl⟩ := Option.map_eq_some_iff.mp found
    obtain ⟨-, names⟩ := of_partsAbove? there
    have path : components ('/' :: body) = _ := components_cons_separator body
    rw [path, components_cons_separator, named_segments_join (separator_free there), names]
  · obtain rfl := Option.some.inj found
    rfl
  · next body =>
    -- A dot in front is a component of the spelling, and names nothing.
    have path : components ('.' :: '/' :: body) = _ := components_dot_cons body
    split at found
    · next nothing =>
      obtain rfl := Option.some.inj found
      rw [path, partsAbove?_eq_none_iff.mp nothing]
      rfl
    · next there =>
      obtain rfl := Option.some.inj found
      rw [path, ← (of_partsAbove? there).2]
      rfl
    · next above _ there =>
      obtain rfl := Option.some.inj found
      rw [path, components_dot_cons, named_segments_join (separator_free there),
        (of_partsAbove? there).2]
  · next _ absolute _ _ =>
    obtain rfl := Option.some.inj found
    have relative : isAbsolute path = false := by
      cases path with
      | nil => rfl
      | cons c body =>
        have other : c ≠ '/' := fun same => absolute body (by rw [same])
        simpa [isAbsolute, separator] using other
    cases there : partsAbove? (Text.segments separator path) with
    | none =>
      rw [components_of_relative relative, partsAbove?_eq_none_iff.mp there]
      rfl
    | some above =>
      rw [Option.getD_some, components_join_above there relative, components_of_relative relative]

/-- Only the root and the empty path have no parent. -/
theorem eq_of_parent?_eq_none (absent : parent? path = none) :
    path = [] ∨ components path = (true, []) := by
  unfold parent? at absent
  split at absent
  · exact .inl rfl
  · next body =>
    have path : components ('/' :: body) = _ := components_cons_separator body
    rw [path, partsAbove?_eq_none_iff.mp (Option.map_eq_none_iff.mp absent)]
    exact .inr rfl
  · cases absent
  · split at absent <;> cases absent
  · cases absent

/-- A path that is absolute stays as it is. -/
theorem append_of_isAbsolute (base : List Char) (absolute : isAbsolute path = true) :
    append base path = path := by
  rw [append, if_pos absolute]

/-- **A relative path that is appended to a base** has the components of the base and behind them
its own, and is absolute exactly if the base is. -/
theorem components_append (base : List Char) (relative : isAbsolute path = false) :
    components (append base path) =
      ((components base).1, (components base).2 ++ (components path).2) := by
  have behind : components path = _ := components_of_relative relative
  have absolute (more : List Char) (something : base ≠ []) :
      isAbsolute (base ++ more) = isAbsolute base := by
    rw [isAbsolute, isAbsolute, List.head?_append_of_ne_nil _ something]
  unfold append
  rw [if_neg (by simp [relative])]
  split
  · next ready =>
    rcases eq_or_ne base [] with rfl | something
    · rw [List.nil_append, behind]
      rfl
    · -- The base ends with a separator, and so its last part is empty.
      obtain ⟨front, rfl⟩ := List.getLast?_eq_some_iff.mp (ready.resolve_left something)
      rw [components, components, absolute path something, behind, List.append_assoc,
        List.singleton_append, Text.segments_append_sep, Text.segments_append_sep]
      simp [named, Text.segments, isIdle]
  · next unready =>
    have something : base ≠ [] := fun nothing => unready (.inl nothing)
    rw [components, components, absolute _ something, behind, Text.segments_append_sep]
    simp [named]

end FilePath

open FilePath (isAbsolute components)

/-! ### Loading -/

/-- A build of a configuration file at a path, as it is written there and as it is loaded: nothing
but its directory may differ.  An absolute one is as it is written; a relative one leads on from the
directory that holds the file. -/
structure IncludedBuildConfig.LocatedBy (path : String) (written loaded : IncludedBuildConfig) :
    Prop where
  name_eq : loaded.name = written.name
  substitute_eq : loaded.substitute = written.substitute
  dir_eq : isAbsolute written.dir.toList = true → loaded.dir = written.dir
  components_dir : isAbsolute written.dir.toList = false →
    components loaded.dir.toList = (isAbsolute path.toList,
      (components path.toList).2.dropLast ++ (components written.dir.toList).2)

namespace IncludedBuildConfig.LocatedBy

variable {path : String} {build : IncludedBuildConfig}

/-- A build whose directory is taken from the parent of the path is located by it. -/
theorem relativeTo {base : List Char} (parent : FilePath.parent? path.toList = some base) :
    LocatedBy path build (build.relativeTo base) where
  name_eq := rfl
  substitute_eq := rfl
  dir_eq absolute := by
    rw [IncludedBuildConfig.relativeTo, FilePath.append_of_isAbsolute base absolute,
      String.ofList_toList]
  components_dir relative := by
    rw [IncludedBuildConfig.relativeTo, String.toList_ofList,
      FilePath.components_append base relative, FilePath.components_parent? parent]
    rfl

/-- A build that is left alone is located by the empty path. -/
theorem of_empty (nothing : path.toList = []) : LocatedBy path build build where
  name_eq := rfl
  substitute_eq := rfl
  dir_eq _ := rfl
  components_dir relative := by
    rw [nothing, FilePath.components_of_relative relative]
    rfl

end IncludedBuildConfig.LocatedBy

namespace CompositeConfig

/-- A file that is read and holds a configuration is loaded, with its builds where the path says. -/
theorem exists_loaded {documents : DocumentReader} {files : FileReader} {path text : String}
    {config : CompositeConfig} (readable : files.readText path.toList = .ok text)
    (parsed : parseThrough documents text = .ok config) :
    ∃ loaded, (loadThrough documents files path).value = .ok loaded ∧
      List.Forall₂ (IncludedBuildConfig.LocatedBy path) config.builds loaded.builds := by
  cases parent : FilePath.parent? path.toList with
  | some base =>
    refine ⟨config.relativeTo base, ?_, ?_⟩
    · simp only [loadThrough, readable, parsed, parent, Logged.bind_value, Logged.pure_value]
    · rw [relativeTo, List.forall₂_map_right_iff, List.forall₂_same]
      exact fun build _ => .relativeTo parent
  | none =>
    refine ⟨config, ?_, ?_⟩
    · simp only [loadThrough, readable, parsed, parent, Logged.bind_value, Logged.pure_value]
    · rw [List.forall₂_same]
      rcases FilePath.eq_of_parent?_eq_none parent with nothing | root
      · exact fun build _ => .of_empty nothing
      · obtain ⟨error, failed⟩ := files.root_unreadable path.toList root
        rw [readable] at failed
        cases failed

/-- **Directories follow the file that names them.**  Take any way to read documents, any way to
read files and any path.

* If the file cannot be read, loading fails with the path and the reason.
* If its text is no configuration that can be used, loading fails exactly as reading the text does.
* Else loading succeeds.  The builds are those of the text, in the same order, with their names and
  their rules, and absolute directories as they are written.  A relative directory comes to have the
  components of the path without the last one and behind them its own, and is absolute exactly if
  the path is. -/
theorem directories_follow_the_file (documents : DocumentReader) (files : FileReader)
    (path : String) :
    (∀ error, files.readText path.toList = .error error →
      (loadThrough documents files path).value = .error (.unreadable path error)) ∧
    ∀ text, files.readText path.toList = .ok text →
      (∀ error, parseThrough documents text = .error error →
        (loadThrough documents files path).value = .error error) ∧
      ∀ config, parseThrough documents text = .ok config →
        ∃ loaded, (loadThrough documents files path).value = .ok loaded ∧
          List.Forall₂ (IncludedBuildConfig.LocatedBy path) config.builds loaded.builds := by
  refine ⟨fun error failed => ?_, fun text readable =>
    ⟨fun error refused => ?_, fun config parsed => exists_loaded readable parsed⟩⟩
  · simp only [loadThrough, failed, Logged.pure_value]
  · simp only [loadThrough, readable, refused, Logged.pure_value]

/-- The text of a configuration of three builds, in directories of different kinds. -/
def shelved : String :=
  "build = [[\"lib\", \"../lib/\"], [\"tools\", \"/opt//tools\"], [\"site\", \"\"]]"

/-- A single file, at an absolute path that is not spelled in the shortest way. -/
def shelf : FileReader where
  readText path :=
    if path = "/srv//work/./builds.toml".toList then .ok shelved else .error .notFound
  root_unreadable path root := by
    refine ⟨.notFound, if_neg ?_⟩
    rintro rfl
    revert root
    decide

/-- The directory of `lib` is found from the one that holds the file, that of `tools` is as it is
written, and that of `site` is the one that holds the file. -/
theorem directories_follow_the_file_shelf :
    let path := "/srv//work/./builds.toml"
    shelf.readText path.toList = .ok shelved ∧
    parse shelved =
      .ok ⟨[⟨"lib", "../lib/", []⟩, ⟨"tools", "/opt//tools", []⟩, ⟨"site", "", []⟩]⟩ ∧
    ∃ lib tools site, (loadThrough Toml.parse? shelf path).value = .ok ⟨[lib, tools, site]⟩ ∧
      components lib.dir.toList =
        (true, ["srv".toList, "work".toList, "..".toList, "lib".toList]) ∧
      tools.dir = "/opt//tools" ∧
      components site.dir.toList = (true, ["srv".toList, "work".toList]) := by
  intro path
  have readable : shelf.readText path.toList = .ok shelved := if_pos rfl
  have parsed : parse shelved = .ok
      ⟨[⟨"lib", "../lib/", []⟩, ⟨"tools", "/opt//tools", []⟩, ⟨"site", "", []⟩]⟩ := by
    have read : (parse shelved).toOption = some
        ⟨[⟨"lib", "../lib/", []⟩, ⟨"tools", "/opt//tools", []⟩, ⟨"site", "", []⟩]⟩ := by
      decide +kernel
    cases result : parse shelved with
    | error error => simp [result, Except.toOption] at read
    | ok config => simpa [result, Except.toOption] using read
  obtain ⟨⟨builds⟩, loaded, located⟩ :=
    ((directories_follow_the_file Toml.parse? shelf path).2 shelved readable).2 _ parsed
  obtain ⟨lib, behind, isLib, others, rfl⟩ := List.forall₂_cons_left_iff.mp located
  obtain ⟨tools, behind, isTools, last, rfl⟩ := List.forall₂_cons_left_iff.mp others
  obtain ⟨site, behind, isSite, nothing, rfl⟩ := List.forall₂_cons_left_iff.mp last
  obtain rfl := List.forall₂_nil_left_iff.mp nothing
  refine ⟨readable, parsed, lib, tools, site, loaded, ?_, isTools.dir_eq (by decide), ?_⟩
  · rw [isLib.components_dir (by decide)]
    decide
  · rw [isSite.components_dir (by decide)]
    decide

end CompositeConfig

end CompositeBuild
