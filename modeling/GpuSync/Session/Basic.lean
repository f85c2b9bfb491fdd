import GpuSync.Attempts
import GpuSync.Resource.Registry
import GpuSync.Ring.Batches
import GpuSync.Ring.Frames
import GpuSync.Vulkan.Barriers

/-!
# Sessions

A session is all that one application works with: the tracker and the registry, a ring of frames
if there is one, and under names of the application's choice, batches, transcripts, tasks and
futures. Its operations find things by their names.

## Main definitions

* `GpuSync.Session`, and `GpuSync.Session.Action` for what may be done with it; an action that
  names something unknown has no result.
* `GpuSync.Session.adopt` takes over the outcome of an operation on a batch, and
  `GpuSync.Session.commit` publishes a batch.
* `GpuSync.Session.carryOut` and `GpuSync.Session.look` act on transcripts.
-/

namespace GpuSync

/-! ## Names

An application knows batches, tasks and resources by names of its own. A name may be given again,
and then stands for the new thing only. -/

/-- Things by their names, the name given first coming first. -/
structure Names (α : Type) where
  /-- The names with what they stand for. -/
  entries : List (String × α) := []

namespace Names

variable {α : Type}

/-- What a name stands for. -/
def find? (names : Names α) (name : String) : Option α := names.entries.lookup name

/-- Removes a name. -/
def erase (names : Names α) (name : String) : Names α :=
  ⟨names.entries.filter fun entry => entry.1 != name⟩

/-- Gives a name to something, whatever it stood for before. -/
def insert (names : Names α) (name : String) (value : α) : Names α :=
  if (names.find? name).isSome then
    ⟨names.entries.map fun entry => if entry.1 == name then (name, value) else entry⟩
  else ⟨names.entries ++ [(name, value)]⟩

end Names

namespace Session

/-- What the name of a batch stands for. -/
inductive BatchRef where
  /-- A batch outside of any frame. -/
  | loose (batch : Batch)
  /-- A submission of the ring. -/
  | submitted (id : BatchId)

/-- A transcript that is looked at from time to time. -/
structure Reel where
  /-- The transcript. -/
  transcript : Transcript := {}
  /-- How many of its groups were looked at. -/
  seen : Nat := 0

end Session

/-- All that one application works with. -/
structure Session where
  /-- The tracker. -/
  tracker : Tracker := .empty
  /-- The registry of resources. -/
  registry : Registry Registry.small := .empty
  /-- The ring of frames. -/
  ring : Option FrameRing := none
  /-- The batches in use. -/
  batches : Names Session.BatchRef := {}
  /-- The batches begun under each name, in use or not. -/
  issued : Names BatchId := {}
  /-- The transcripts. -/
  reels : Names Session.Reel := {}
  /-- The tasks that are not finished. -/
  tasks : Names (BatchId × Submission.Task) := {}
  /-- The batches whose completion is watched. -/
  futures : Names BatchId := {}
  /-- How often a future's waker was woken. -/
  wakes : Nat := 0
  /-- What was logged since it was last read, the newest first. -/
  notes : List Log.Entry := []
  /-- The resources mentioned so far, the newest first. -/
  mentioned : List Key := []
  /-- Where the searches of the application's thread start. -/
  seed : Nat := 0

namespace Session

/-- Something done with a session; there is no result if it names something unknown. -/
abbrev Action (α : Type) := StateT Session Option α

variable {α : Type}

/-- Adds to the log. -/
def log (notes : List Log.Entry) : Action Unit :=
  modify fun session => { session with notes := notes.reverse ++ session.notes }

/-- Reads what was logged since it was last read, in order. -/
def takeNotes : Action (List Log.Entry) :=
  modifyGet fun session => (session.notes.reverse, { session with notes := [] })

/-- Remembers that resources were mentioned. -/
def mention (keys : List Key) : Action Unit :=
  modify fun session => { session with mentioned := keys ++ session.mentioned }

/-- Changes the tracker. -/
def onTracker (change : Tracker → α × Tracker) : Action α := do
  let (answer, tracker) := change (← get).tracker
  modify fun session => { session with tracker }
  return answer

/-! ## Batches

A batch may stand alone or belong to a submission of the ring. Operations on batches do not care
which, so a reference leads to either. -/

/-- The batch that a reference leads to. -/
def batchOf? (session : Session) : BatchRef → Option Batch
  | .loose batch => some batch
  | .submitted id => do return (← (← session.ring).submission? id).batch

/-- The batches that use a resource, by name, each with the passage of the resource. -/
def users (session : Session) (key : Key) : List (String × Batch.Passage) :=
  session.batches.entries.filterMap fun (name, ref) => do
    return (name, ← (← session.batchOf? ref).passage? key)

/-- The ring. -/
def theRing : Action FrameRing := do (← get).ring

/-- Replaces the ring. -/
def setRing (ring : FrameRing) : Action Unit :=
  modify fun session => { session with ring := some ring }

/-- The submission of a batch. -/
def submission (id : BatchId) : Action Submission := do (← theRing).submission? id

/-- Replaces the submission of a batch. -/
def setSubmission (submission : Submission) : Action Unit := do
  setRing ((← theRing).setSubmission submission)

/-- The submission that a name stands for. -/
def submittedId (name : String) : Action BatchId := do
  match ← (← get).batches.find? name with
  | .loose _ => failure
  | .submitted id => return id

/-- The batch that a name stands for. -/
def batch (name : String) : Action Batch := do
  match ← (← get).batches.find? name with
  | .loose batch => return batch
  | .submitted id => return (← submission id).batch

/-- Replaces the batch that a name stands for. -/
def setBatch (name : String) (batch : Batch) : Action Unit := do
  match ← (← get).batches.find? name with
  | .loose _ =>
    modify fun session => { session with batches := session.batches.insert name (.loose batch) }
  | .submitted id => setSubmission { ← submission id with batch }

/-- Gives a name to a batch outside of any frame. -/
def nameBatch (name : String) (batch : Batch) : Action Unit :=
  modify fun session => { session with batches := session.batches.insert name (.loose batch) }

/-- Clears a batch outside of any frame for another use. -/
def resetBatch (name : String) (id : BatchId) (queue : Queue) : Action Batch := do
  match ← (← get).batches.find? name with
  | .submitted _ => failure
  | .loose batch => do
    nameBatch name (batch.reset id queue)
    return batch.reset id queue

/-- Takes over the outcome of an operation on a batch. Yields the answer and the commands
recorded, which the caller carries out. -/
def adopt (name : String) (outcome : Batch.Outcome α) :
    Action (Except BatchError α × List Command) := do
  setBatch name outcome.batch
  log outcome.notes
  return (outcome.answer, outcome.commands)

/-- Publishes the final usages of a batch. -/
def commit (name : String) : Action (Except BatchError Nat) := do
  let result := (← batch name).commit (← get).tracker
  setBatch name result.batch
  modify fun session => { session with tracker := result.tracker }
  log result.notes
  return result.answer

/-! ## Transcripts

Commands are written into transcripts, one for each command buffer. What was seen of a transcript is
remembered, so that each look shows what is new. -/

/-- The transcript with a name, which is begun as it is named first. -/
def reel (name : String) : Action Reel := do
  match (← get).reels.find? name with
  | some reel => return reel
  | none => do
    modify fun session => { session with reels := session.reels.insert name {} }
    return {}

/-- Replaces a transcript. -/
def setReel (name : String) (reel : Reel) : Action Unit :=
  modify fun session => { session with reels := session.reels.insert name reel }

/-- Throws a transcript away; the next use of its name makes an empty one. -/
def dropReel (name : String) : Action Unit :=
  modify fun session => { session with reels := session.reels.erase name }

/-- Carries commands out in a transcript. -/
def carryOut (name : String) (commands : List Command) : Action Unit := do
  let reel ← reel name
  setReel name { reel with transcript := reel.transcript.run commands }

/-- Looks at a transcript: the groups recorded since it was last looked at, and the barriers
queued. -/
def look (name : String) : Action (List (List Barrier) × List Barrier) := do
  let reel ← reel name
  setReel name { reel with seen := reel.transcript.groups.length }
  return (reel.transcript.groups.drop reel.seen, reel.transcript.pending)

/-- Collects the recorded barriers of a transcript in Vulkan's form. Tells for each whether it was
added. -/
def collect (name : String) (add : Vulkan.Barriers → Barrier → Vulkan.Barriers.Push) :
    Action (List Bool × Vulkan.Barriers) := do
  let (results, all, notes) := Vulkan.Barriers.addAll add (← reel name).transcript.barriers {}
  log notes
  return (results, all)

/-! ## Resources

Resources are created with the registry, which registers them with the tracker; or keys are
registered directly, for resources that others made. -/

/-- Registers a key with the tracker. -/
def register (key : Key) (entry : Tracker.Entry) : Action (Except Slot.PoolError Bool) := do
  let session ← get
  let (result, notes) := session.tracker.add session.seed key entry
  log notes
  attempt fun session => result.map fun (added, tracker) => (added, { session with tracker })

/-- Registers a key with the tracker, unless it is registered already. -/
def registerIfUntracked (key : Key) (resting : Usage) : Action (Except Slot.PoolError Bool) :=
  attempt fun session => (session.tracker.addIfUntracked session.seed key resting).map
    fun (added, tracker) => (added, { session with tracker })

/-- Creates a resource. -/
def create (kind : Kind) (resting : Usage) (queues : QueueMask) :
    Action (Except ResourceError Key) := do
  let session ← get
  let creation := session.registry.create session.tracker session.seed kind resting queues
  set { session with
    registry := creation.registry
    tracker := creation.tracker }
  log creation.notes
  return creation.answer

/-- Releases a resource. -/
def release (key : Key) : Action Bool := do
  let session ← get
  let (freed, registry, tracker) := session.registry.release session.tracker key
  set { session with registry, tracker }
  return freed

end Session

end GpuSync
