/-!
# Data formats

What is stored as a text is stored in some data format.  Little is asked of the format: which of its
values are texts, which value a text is written as, and how an error of its user is reported.
-/

namespace CompositeBuild.Text

variable {α ε : Type}

/-- A data format with values `α` and errors `ε`, as far as texts are concerned. -/
structure Format (α ε : Type) where
  /-- The text that a value is. -/
  read : α → Except ε String
  write : String → α
  /-- The error of a text that is not what its reader takes, from the message of the reader. -/
  reject : String → ε
  /-- The text of an error. -/
  describe : ε → String

/-- A written text is read back, and the text of an error holds the message it was made of. -/
structure Format.Lawful (format : Format α ε) : Prop where
  read_write : ∀ text, format.read (format.write text) = .ok text
  describe_reject : ∀ message, message.toList <:+: (format.describe (format.reject message)).toList

end CompositeBuild.Text
