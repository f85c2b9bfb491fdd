import GpuSync.Attempts
import GpuSync.Batch.Basic
import GpuSync.Batch.Commit
import GpuSync.Batch.Declare
import GpuSync.Batch.Error
import GpuSync.Batch.Id
import GpuSync.Batch.KeyTable
import GpuSync.Batch.Record
import GpuSync.Batch.TaskSet
import GpuSync.Command.Barrier
import GpuSync.Command.Basic
import GpuSync.Command.Transcript
import GpuSync.Completion
import GpuSync.Completion.Watched
import GpuSync.Handle.Basic
import GpuSync.Handle.Pool
import GpuSync.Lock.Exclusive
import GpuSync.Lock.Shared
import GpuSync.Log
import GpuSync.Queue
import GpuSync.RadixMap
import GpuSync.Resource.Key
import GpuSync.Resource.Layout
import GpuSync.Resource.PerKind
import GpuSync.Resource.Registry
import GpuSync.Resource.Usage
import GpuSync.Ring.Basic
import GpuSync.Ring.Batches
import GpuSync.Ring.Config
import GpuSync.Ring.Error
import GpuSync.Ring.FrameId
import GpuSync.Ring.Frames
import GpuSync.Session.Basic
import GpuSync.Session.Frames
import GpuSync.Slot.Chunk
import GpuSync.Slot.Pool
import GpuSync.Slot.Shape
import GpuSync.Slot.Word
import GpuSync.Span
import GpuSync.Submission.Basic
import GpuSync.Submission.Recording
import GpuSync.Surface
import GpuSync.Text.Hidden
import GpuSync.Text.Quoted
import GpuSync.Text.Record
import GpuSync.Tracker.Basic
import GpuSync.Tracker.Entry
import GpuSync.Vulkan.Access
import GpuSync.Vulkan.Barriers
import GpuSync.Vulkan.Recorder
import GpuSync.Proofs.Batch.Calls
import GpuSync.Proofs.Batch.Effect
import GpuSync.Proofs.Batch.Chain
import GpuSync.Proofs.Batch.Script
import GpuSync.Proofs.Batch.Steady
import GpuSync.Proofs.Batch.Thread
import GpuSync.Proofs.Batch.Weave
import GpuSync.Proofs.Batch.Continuity
import GpuSync.Proofs.RadixMap
import GpuSync.Proofs.Slot.Word
import GpuSync.Proofs.Slot.Chunk
import GpuSync.Proofs.Slot.Pool
import GpuSync.Proofs.Tracker.WellFormed
import GpuSync.Proofs.Tracker.Refinement
import GpuSync.Proofs.Tracker.Changes
import GpuSync.Proofs.Batch.Publication
import GpuSync.Proofs.Slot.Closure
import GpuSync.Proofs.Slot.Settled
import GpuSync.Proofs.Slot.Nesting
import GpuSync.Proofs.Slot.Conservation
import GpuSync.Proofs.Slot.Allocation
import GpuSync.Proofs.Batch.Footprint
import GpuSync.Proofs.Batch.Interleaving
import GpuSync.Proofs.Submission.Bench
import GpuSync.Proofs.Ring.Accounts
import GpuSync.Proofs.Submission.AutoCommit
import GpuSync.Proofs.Ring.Retirement
import GpuSync.Proofs.Handle.Parts
import GpuSync.Proofs.Handle.Pool
import GpuSync.Proofs.Batch.Compound
import GpuSync.Proofs.Batch.LastTask
import GpuSync.Proofs.Batch.Fleet
import GpuSync.Proofs.Ring.Submissions
import GpuSync.Proofs.Ring.Heap
import GpuSync.Proofs.Ring.Identity
import GpuSync.Proofs.Batch.Refusal
import GpuSync.Proofs.Batch.Relaxed
import GpuSync.Proofs.Batch.Stations
import GpuSync.Proofs.Batch.Justified
import GpuSync.Proofs.Batch.Hazards
import GpuSync.Proofs.Batch.Undeclared
import GpuSync.Proofs.Submission.Baggage
import GpuSync.Proofs.Submission.Preparation
import GpuSync.Proofs.Batch.Discards
import GpuSync.Proofs.Completion
import GpuSync.Proofs.Vulkan.Recording
import GpuSync.Proofs.Resource.Lifetime
import GpuSync.Proofs.Ring.Surfaces
import GpuSync.Proofs.Batch.HostMemory
import GpuSync.Proofs.Vulkan.Halves
import GpuSync.Proofs.Ring.Recycling
import GpuSync.Proofs.Batch.Sealed
import GpuSync.Proofs.Ring.Refusal
import GpuSync.Proofs.Lock.Guards
import GpuSync.Proofs.Handle.Order
import GpuSync.Proofs.Ring.Walk
import GpuSync.Proofs.Batch.Briefs
import GpuSync.Proofs.Batch.Tables
