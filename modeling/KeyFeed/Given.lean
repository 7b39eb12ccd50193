/-
This file says what a user gives for a value: the value itself, or a blank. A blank
counts as given, is never read or checked, and is written as an empty pair of
brackets; what it cannot be used for comes out where it is used.
-/

namespace KeyFeed

/-- What is given for a value. -/
inductive Given (Value : Type) where
  | value (value : Value)
  | blank
  deriving Repr, BEq

namespace Given

variable {First Second Refusal Value : Type}

instance : Coe Value (Given Value) := ⟨value⟩

/-- The value, if it is no blank. -/
def value? : Given Value → Option Value
  | value given => some given
  | blank => none

/-- Converts a value. A blank stays one. -/
def map (convert : First → Second) : Given First → Given Second
  | value given => value (convert given)
  | blank => blank

/-- Reads a value, which may be refused. A blank is never refused. -/
def read (reader : First → Except Refusal Second) : Given First → Except Refusal (Given Second)
  | value given => (reader given).map value
  | blank => .ok blank

/-- What is given as a text, for which a value is written by a function of its own. -/
def text (write : Value → String) : Given Value → String
  | value given => write given
  | blank => "[]"

end Given

end KeyFeed
