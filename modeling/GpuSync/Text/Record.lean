/-!
# Structured text

Values are described by one small grammar: records with named fields, variants with one argument,
optional values and lists. Every description in this library is put together from these forms.

## Main definitions

* `GpuSync.Text.record`, `GpuSync.Text.variant`, `GpuSync.Text.optional`, `GpuSync.Text.listing`.
-/

namespace GpuSync.Text

/-- A name with fields in braces, `Name { first: 1, second: 2 }`. -/
def record (name : String) (fields : List (String × String)) : String :=
  name ++ " \x7b " ++ ", ".intercalate (fields.map fun f => f.1 ++ ": " ++ f.2) ++ " \x7d"

/-- A name with one argument in parentheses, `Name(1)`. -/
def variant (name argument : String) : String :=
  name ++ "(" ++ argument ++ ")"

/-- A value that may be absent, `Some(1)` or `None`. -/
def optional (value : Option String) : String :=
  match value with
  | none => "None"
  | some text => variant "Some" text

/-- A list in square brackets, `[1, 2]`. -/
def listing (items : List String) : String :=
  "[" ++ ", ".intercalate items ++ "]"

/-- A truth value, `true` or `false`. -/
def truth (b : Bool) : String :=
  if b then "true" else "false"

end GpuSync.Text
