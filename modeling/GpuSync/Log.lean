/-!
# Log entries

Operations do not print: what they have to say is part of their result, as a list of entries. A
reader chooses how much of it to see.

## Main definitions

* `GpuSync.Log.Level` orders entries from urgent to detailed.
* `GpuSync.Log.Entry` is one message; `GpuSync.Log.Entry.text` is its written form.
* `GpuSync.Log.shown` keeps the entries a reader asked for.
-/

namespace GpuSync.Log

/-- How detailed an entry is. -/
inductive Level
  /-- Something the caller should look at. -/
  | warn
  /-- A step of the frame. -/
  | debug
  /-- A single barrier or completion. -/
  | trace
  deriving DecidableEq, Repr

/-- The rank of a level, growing with detail. -/
def Level.rank : Level → Nat
  | .warn => 1
  | .debug => 2
  | .trace => 3

/-- The word a level is written with. -/
def Level.name : Level → String
  | .warn => "WARN"
  | .debug => "DEBUG"
  | .trace => "TRACE"

/-- The limit that a word stands for: none at all, or a level. Without a known word only warnings
are of interest. -/
def limitNamed : String → Option Level
  | "off" => none
  | "debug" => some .debug
  | "trace" => some .trace
  | _ => some .warn

/-- One logged message. -/
structure Entry where
  /-- How detailed the message is. -/
  level : Level
  /-- The message itself. -/
  message : String
  deriving DecidableEq, Repr

/-- A warning. -/
def warn (message : String) : Entry := ⟨.warn, message⟩

/-- A step of the frame. -/
def debug (message : String) : Entry := ⟨.debug, message⟩

/-- A single barrier or completion. -/
def trace (message : String) : Entry := ⟨.trace, message⟩

/-- An entry is written as its level and its message. -/
def Entry.text (entry : Entry) : String :=
  entry.level.name ++ " " ++ entry.message

/-- The entries up to a level of detail; without a level the log is off. -/
def shown (limit : Option Level) (entries : List Entry) : List Entry :=
  match limit with
  | none => []
  | some level => entries.filter fun entry => entry.level.rank ≤ level.rank

end GpuSync.Log
