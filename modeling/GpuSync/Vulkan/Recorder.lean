import GpuSync.Command.Basic
import GpuSync.Vulkan.Barriers

/-!
# Command buffers in Vulkan

A recorder carries commands out on a command buffer. Barriers take Vulkan's form as they are queued
and recorded together, in one call to the device; labels are recorded if the device has the
debugging extension. A recorder that is closed records what is still queued.

## Main definitions

* `GpuSync.Vulkan.Recorder` with `apply`, `run` and `close`.
* `GpuSync.Vulkan.Call` is a call to the device.
-/

namespace GpuSync.Vulkan

/-- A call to the device. -/
inductive Call where
  /-- Records a group of barriers. -/
  | pipelineBarrier (buffer : UInt64) (barriers : Barriers)
  /-- Records a label. -/
  | insertLabel (buffer : UInt64) (text : String)
  deriving DecidableEq, Repr

/-- What a recorder is set up with. -/
structure Recorder.Setup where
  /-- The device. -/
  device : UInt64
  /-- The command buffer. -/
  buffer : UInt64
  /-- The objects behind handles. -/
  lookup : Lookup
  /-- Whether the device takes labels. -/
  labels : Bool

/-- A command buffer being recorded. -/
structure Recorder where
  /-- What it was set up with. -/
  setup : Recorder.Setup
  /-- The barriers queued and not yet recorded. -/
  pending : Barriers := {}

namespace Recorder

/-- What carrying a command out yields. -/
structure Step where
  /-- The recorder afterwards. -/
  recorder : Recorder
  /-- The calls made, in order. -/
  calls : List Call := []
  /-- What was logged, in order. -/
  notes : List Log.Entry := []

/-- Records the queued barriers in one call. There is no call without barriers. -/
def flush (recorder : Recorder) : Step :=
  if recorder.pending.isEmpty then { recorder }
  else
    { recorder := { recorder with pending := {} }
      calls := [.pipelineBarrier recorder.setup.buffer recorder.pending] }

/-- Records a label. The device cannot take a label with a zero character in it. -/
def label (recorder : Recorder) (text : String) : Step :=
  if recorder.setup.labels && !text.toList.contains '\x00' then
    { recorder, calls := [.insertLabel recorder.setup.buffer text] }
  else { recorder }

/-- Carries out one command. -/
def apply (recorder : Recorder) : Command → Step
  | .barrier queued =>
    let pushed := recorder.pending.push queued recorder.setup.lookup
    { recorder := { recorder with pending := pushed.barriers }, notes := pushed.notes }
  | .flush => recorder.flush
  | .label text => recorder.label text

/-- Carries out commands in order. -/
def run (recorder : Recorder) : List Command → Step
  | [] => { recorder }
  | command :: rest =>
    let first := recorder.apply command
    let others := first.recorder.run rest
    { recorder := others.recorder
      calls := first.calls ++ others.calls
      notes := first.notes ++ others.notes }

/-- Closes the recorder. Barriers that are still queued are recorded, which is logged. -/
def close (recorder : Recorder) : Step :=
  if recorder.pending.isEmpty then { recorder }
  else
    { recorder.flush with
      notes := [Log.warn
        "AshCommandContext dropped with uncommitted barriers, recording them now"] }

end Recorder

end GpuSync.Vulkan
