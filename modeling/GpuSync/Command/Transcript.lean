import GpuSync.Command.Basic

/-!
# Transcripts

A transcript carries commands out by writing them down: the groups of barriers recorded so far,
the barriers queued since, and the labels.

## Main definitions

* `GpuSync.Transcript` with `apply` for one command and `run` for several.
-/

namespace GpuSync

/-- The commands carried out so far. -/
structure Transcript where
  /-- The barriers queued and not yet recorded. -/
  pending : List Barrier := []
  /-- The recorded groups, none of them empty. -/
  groups : List (List Barrier) := []
  /-- The labels. -/
  labels : List String := []
  deriving DecidableEq, Repr

namespace Transcript

/-- Carries out one command. Recording no barriers at all does nothing. -/
def apply (transcript : Transcript) : Command → Transcript
  | .barrier barrier => { transcript with pending := transcript.pending ++ [barrier] }
  | .flush =>
    match transcript.pending with
    | [] => transcript
    | pending => { transcript with pending := [], groups := transcript.groups ++ [pending] }
  | .label text => { transcript with labels := transcript.labels ++ [text] }

/-- Carries out commands in order. -/
def run (transcript : Transcript) (commands : List Command) : Transcript :=
  commands.foldl apply transcript

/-- Whether there is no barrier, recorded or not. -/
def isEmpty (transcript : Transcript) : Bool :=
  transcript.pending.isEmpty && transcript.groups.isEmpty

/-- All recorded barriers, in order. -/
def barriers (transcript : Transcript) : List Barrier := transcript.groups.flatten

end Transcript

end GpuSync
