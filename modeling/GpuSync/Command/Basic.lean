import GpuSync.Command.Barrier

/-!
# Commands

What recording a batch asks of a command buffer is a list of commands: a barrier to be queued, the
request to record the queued barriers as one group, or a label. Where the commands go is up to
whoever carries them out.

## Main definitions

* `GpuSync.Command`.
* `GpuSync.Command.barriers` lists the barriers among some commands.
-/

namespace GpuSync

/-- One request to a command buffer. -/
inductive Command where
  /-- Queues a barrier for the next group. -/
  | barrier (queued : Barrier)
  /-- Records the queued barriers as one group. -/
  | flush
  /-- Marks the place with a label. -/
  | label (text : String)
  deriving DecidableEq, Repr

/-- The barrier a command queues, if it does. -/
def Command.barrier? : Command → Option Barrier
  | .barrier queued => some queued
  | .flush | .label _ => none

/-- The barriers among some commands, in order. -/
def Command.barriers (commands : List Command) : List Barrier :=
  commands.filterMap Command.barrier?

end GpuSync
