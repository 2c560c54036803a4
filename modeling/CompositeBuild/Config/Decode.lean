import CompositeBuild.Config.Basic
import CompositeBuild.Decimal.Shortest
import CompositeBuild.Toml.Document

/-!
# Configurations from documents

A configuration is a record of records and lists.  Each record is decoded from a table, or from a
list that gives its fields in order.  The first problem in the order of the document is reported; a
missing field is noticed at the end of its table.

Which document a text says is up to a `DocumentReader`.
-/

namespace CompositeBuild

open Toml

/-- The kind of a value, and the value itself where it is a scalar. -/
def Toml.Value.describe : Value → String
  | .string text => s!"string {Text.quoted text}"
  | .integer value => s!"integer {DecodeError.field (toString value)}"
  | .float value => s!"floating point {DecodeError.field (Decimal.render value)}"
  | .boolean value => s!"boolean {DecodeError.field (toString value)}"
  | .moment => "map"
  | .array _ => "sequence"
  | .table _ => "map"

/-- What decoding returns. -/
abbrev Decoded := Except DecodeError

/-- A text, where `expected` names what is wanted. -/
def decodeText (expected : String) : Value → Decoded String
  | .string text => .ok text
  | value => .error (.invalidType value.describe expected)

/-- A list of things that are decoded one by one. -/
def decodeList {α : Type} (decodeItem : Value → Decoded α) : Value → Decoded (List α)
  | .array items => items.mapM decodeItem
  | value => .error (.invalidType value.describe "a sequence")

/-- The only key of a date or time that is read as a table. -/
def momentKey : String := "$__toml_private_datetime"

/-- How a record is decoded: from the entries of a table, or from the items of a list. -/
structure RecordDecoder (α : Type) where
  name : String
  ofEntries : List (String × Value) → Decoded α
  ofItems : List Value → Decoded α

/-- Decode a record.  A date or time counts as a table with a single key. -/
def RecordDecoder.decode {α : Type} (decoder : RecordDecoder α) : Value → Decoded α
  | .table entries => decoder.ofEntries entries
  | .array items => decoder.ofItems items
  | .moment => decoder.ofEntries [(momentKey, .moment)]
  | value => .error (.invalidType value.describe decoder.name)

/-- A field that must have been given. -/
def required {α : Type} (name : String) : Option α → Decoded α
  | some value => .ok value
  | none => .error (.missingField name)

/-- The error for a list that ends before the field at a position. -/
def tooShort {α : Type} (record : String) (fields position : Nat) : Decoded α :=
  .error (.invalidLength position s!"{record} with {fields} elements")

/-! ### Substitution entries -/

namespace SubstitutionConfig

/-- The fields of an entry that have been seen so far. -/
structure Fields where
  module : Option String := none
  project : Option String := none

/-- Take one field of an entry. -/
def Fields.take (fields : Fields) (field : String × Value) : Decoded Fields :=
  match field.1 with
  | "module" => do return { fields with module := some (← decodeText "a string" field.2) }
  | "project" => do return { fields with project := some (← decodeText "a string" field.2) }
  | name => .error (.unknownField name ["module", "project"])

/-- A substitution entry.  Its project is the root project unless it says otherwise. -/
def decoder : RecordDecoder SubstitutionConfig where
  name := "struct SubstitutionConfig"
  ofEntries entries := do
    let fields ← entries.foldlM Fields.take {}
    let module ← required "module" fields.module
    return { module, project := fields.project.getD ":" }
  ofItems
    | [] => tooShort "struct SubstitutionConfig" 2 0
    | [module] => do return { module := ← decodeText "a string" module }
    | module :: project :: _ => do
      let module ← decodeText "a string" module
      return { module, project := ← decodeText "a string" project }

end SubstitutionConfig

/-! ### Builds -/

namespace IncludedBuildConfig

/-- The fields of a build that have been seen so far. -/
structure Fields where
  name : Option String := none
  dir : Option String := none
  substitute : Option (List SubstitutionConfig) := none

/-- The substitution entries of a build. -/
def decodeEntries : Value → Decoded (List SubstitutionConfig) :=
  decodeList SubstitutionConfig.decoder.decode

/-- Take one field of a build. -/
def Fields.take (fields : Fields) (field : String × Value) : Decoded Fields :=
  match field.1 with
  | "name" => do return { fields with name := some (← decodeText "a string" field.2) }
  | "dir" => do return { fields with dir := some (← decodeText "path string" field.2) }
  | "substitute" => do return { fields with substitute := some (← decodeEntries field.2) }
  | name => .error (.unknownField name ["name", "dir", "substitute"])

/-- A build of a configuration. -/
def decoder : RecordDecoder IncludedBuildConfig where
  name := "struct IncludedBuildConfig"
  ofEntries entries := do
    let fields ← entries.foldlM Fields.take {}
    let name ← required "name" fields.name
    let dir ← required "dir" fields.dir
    return { name, dir, substitute := fields.substitute.getD [] }
  ofItems
    | [] => tooShort "struct IncludedBuildConfig" 3 0
    | [name] => do
      let _ ← decodeText "a string" name
      tooShort "struct IncludedBuildConfig" 3 1
    | name :: dir :: rest => do
      let name ← decodeText "a string" name
      let dir ← decodeText "path string" dir
      match rest with
      | [] => return { name, dir }
      | substitute :: _ => return { name, dir, substitute := ← decodeEntries substitute }

end IncludedBuildConfig

/-- A way to read documents: what a text says, if it says anything. -/
abbrev DocumentReader := String → Option Value

namespace CompositeConfig

/-- Decode a whole document. -/
def decode : Value → Decoded CompositeConfig
  | .table entries =>
    entries.foldlM (fun _ field =>
      match field.1 with
      | "build" => do
        return { builds := ← decodeList IncludedBuildConfig.decoder.decode field.2 }
      | name => .error (.unknownField name ["build"])) {}
  | value => .error (.invalidType value.describe "struct CompositeConfig")

/-- Read a configuration and check that it can be used, whatever reads its document. -/
def parseThrough (documents : DocumentReader) (text : String) :
    Except ConfigError CompositeConfig := do
  match documents text with
  | none => throw .malformed
  | some document =>
    match decode document with
    | .error error => throw (.undecodable error)
    | .ok config =>
      config.validate
      return config

/-- Read a configuration and check that it can be used. -/
def parse (text : String) : Except ConfigError CompositeConfig := parseThrough Toml.parse? text

end CompositeConfig

end CompositeBuild
