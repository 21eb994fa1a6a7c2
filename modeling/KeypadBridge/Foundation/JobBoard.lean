import Mathlib.Data.List.Induction

/-! A job board shared by three parties. A starter puts a job with an id on the board,
launches a task for it and afterwards arms the observer with the id. The task works the job
and ends it. The observer reads what is armed, the job's progress and the job's result at
four separate moments, and reports the job it was armed with when it finds it succeeded. It
can also check that no job is running.

Nothing here fixes what ids, names, requests and results are.
-/

namespace KeypadBridge.Foundation.JobBoard

inductive Progress where
  | idle
  | running
  | succeeded
  | failed
  deriving DecidableEq

variable {Id Name Request Result : Type}

/-- How far the starter is with the job it is starting. -/
inductive Starter (Id Name Request : Type) where
  | resting
  | occupied (id : Id) (name : Name) (request : Request)
  | launched (id : Id) (name : Name)

/-- How far the observer is with its current pass. -/
inductive Observer (Id Name Result : Type) where
  | resting
  | snapped (id : Id) (name : Name)
  | saw (id : Id) (name : Name)
  | copied (id : Id) (name : Name) (result : Result)

/-- The job on the board, what is armed, and where the parties stand. The name is what the
starter captured for the observer, the request what it handed to the task.
-/
structure Board (Id Name Request Result : Type) where
  progress : Progress := .idle
  jobId : Option Id := none
  result : Result
  task : Option Request := none
  starter : Starter Id Name Request := .resting
  armed : Option (Id × Name) := none
  notified : Bool := false
  observer : Observer Id Name Result := .resting

/-- What is seen of one step. -/
inductive Label (Id Name Request Result : Type) where
  | started (id : Id) (name : Name) (request : Request)
  | abandoned (id : Id)
  | launched (id : Id) (name : Name) (request : Request)
  | worked
  | succeeded (id : Id)
  | failed (id : Id)
  | armed (id : Id)
  | snapshot
  | looked
  | copied
  | fired (id : Id) (name : Name) (result : Result)
  | passed
  | checked
  deriving DecidableEq

/-- What a pass starts with: an armed job that was not reported yet. -/
def Board.snapshot (board : Board Id Name Request Result) : Observer Id Name Result :=
  match board.armed, board.notified with
  | some (id, name), false => .snapped id name
  | _, _ => .resting

section

variable [DecidableEq Id]

/-- The steps of the three parties; a task succeeds with what its request yields. -/
inductive Step (yields : Request → Result)
    : Board Id Name Request Result → Label Id Name Request Result
      → Board Id Name Request Result → Prop
  | start {board id name request blank} (free : board.progress ≠ .running)
    (resting : board.starter = .resting)
    : Step yields board (.started id name request)
        { board with
          progress := .running
          jobId := some id
          result := blank
          starter := .occupied id name request }
  | abandon {board id name request} (occupied : board.starter = .occupied id name request)
    : Step yields board (.abandoned id)
        { board with progress := .failed, starter := .resting }
  | launch {board id name request} (occupied : board.starter = .occupied id name request)
    : Step yields board (.launched id name request)
        { board with task := some request, starter := .launched id name }
  | work {board request result} (busy : board.task = some request)
    : Step yields board .worked { board with result := result }
  | succeed {board id request} (busy : board.task = some request)
    (named : board.jobId = some id)
    : Step yields board (.succeeded id)
        { board with progress := .succeeded, result := yields request, task := none }
  | fail {board id request} (busy : board.task = some request)
    (named : board.jobId = some id)
    : Step yields board (.failed id) { board with progress := .failed, task := none }
  | arm {board id name} (launched : board.starter = .launched id name)
    : Step yields board (.armed id)
        { board with armed := some (id, name), notified := false, starter := .resting }
  | snapshot {board} (resting : board.observer = .resting)
    : Step yields board .snapshot { board with observer := board.snapshot }
  | look {board id name} (snapped : board.observer = .snapped id name)
    : Step yields board .looked
        { board with
          observer := if board.progress = .succeeded then .saw id name else .resting }
  | copy {board id name} (saw : board.observer = .saw id name)
    : Step yields board .copied
        { board with
          observer :=
            if board.jobId = some id then .copied id name board.result else .resting }
  | fire {board id name other result} (copied : board.observer = .copied id name result)
    (fresh : board.notified = false) (same : board.armed = some (id, other))
    : Step yields board (.fired id name result)
        { board with notified := true, observer := .resting }
  | pass {board id name result} (copied : board.observer = .copied id name result)
    (stale : board.notified = true ∨ ∀ other, board.armed ≠ some (id, other))
    : Step yields board .passed { board with observer := .resting }
  | check {board} (free : board.progress ≠ .running) : Step yields board .checked board

/-- A run with the labels seen along it. -/
inductive Run (yields : Request → Result) (start : Board Id Name Request Result)
    : List (Label Id Name Request Result) → Board Id Name Request Result → Prop
  | refl : Run yields start [] start
  | snoc {labels middle label finish} (run : Run yields start labels middle)
    (step : Step yields middle label finish)
    : Run yields start (labels ++ [label]) finish

variable {yields : Request → Result} {start finish : Board Id Name Request Result}

/-- A step shown by one label, up to how the board after it is written. -/
theorem Run.step {label : Label Id Name Request Result} {board : Board Id Name Request Result}
    (step : Step yields start label board) (same : board = finish)
    : Run yields start [label] finish :=
  same ▸ .snoc .refl step

/-- A step that leaves the board alone. -/
theorem Run.quiet (same : finish = start) : Run yields start [] finish := same ▸ .refl

theorem Run.append {first second : List (Label Id Name Request Result)}
    {middle : Board Id Name Request Result} (hl : Run yields start first middle)
    (hr : Run yields middle second finish)
    : Run yields start (first ++ second) finish := by
  induction hr with
  | refl => simpa using hl
  | snoc _ step ih => simpa using ih.snoc step

/-- A run split around one label exposes the step that showed it. -/
theorem Run.split_at {before after : List (Label Id Name Request Result)}
    {label : Label Id Name Request Result}
    (run : Run yields start (before ++ label :: after) finish)
    : ∃ earlier later, Run yields start before earlier ∧ Step yields earlier label later := by
  generalize seen : before ++ label :: after = labels at run
  induction run generalizing after with
  | refl => simp at seen
  | @snoc labels middle last finish run step ih =>
      rcases List.eq_nil_or_concat after with rfl | ⟨more, other, rfl⟩
      · obtain ⟨rfl, same⟩ := List.append_inj' seen rfl
        obtain rfl := (List.cons.inj same).1
        exact ⟨_, _, run, step⟩
      · rw [show before ++ label :: more.concat other = (before ++ label :: more) ++ [other] by
          simp] at seen
        exact ih (List.append_inj' seen rfl).1

/-- What holds at the start and survives each labelled step relates every run's labels to
the board it ends with.
-/
theorem Run.history_invariant {labels : List (Label Id Name Request Result)}
    (run : Run yields start labels finish)
    (invariant : List (Label Id Name Request Result) → Board Id Name Request Result → Prop)
    (initial : invariant [] start)
    (preserved
      : ∀ {labels before label after},
          invariant labels before
          → Step yields before label after
          → invariant (labels ++ [label]) after)
    : invariant labels finish := by
  induction run with
  | refl => exact initial
  | snoc _ step ih => exact preserved ih step

end

/-- A board on which nothing was ever started, with whatever result it holds. -/
structure Board.Blank (board : Board Id Name Request Result) : Prop where
  progress : board.progress = .idle
  task : board.task = none
  starter : board.starter = .resting
  armed : board.armed = none
  observer : board.observer = .resting

end KeypadBridge.Foundation.JobBoard
