import KeypadBridge.Foundation.JobBoard

/-! When a job on the board is sure to have been reported: as soon as the observer has ended a
pass that began after the job was armed and looked at the board after the job succeeded.
The pass is followed through the labels alone.
-/

namespace KeypadBridge.Foundation.JobBoard

variable {Id Name Request Result : Type}

/-- What the labels tell about the job that was started last. -/
structure Watch where
  progress : Progress := .idle
  /-- The observer was armed with the job. -/
  armed : Bool := false
  /-- The current pass began after that. -/
  snapped : Bool := false
  /-- The pass then found that the job had succeeded. -/
  looked : Bool := false
  /-- And such a pass has ended. -/
  observed : Bool := false
  /-- A check that no job runs was made since the start. -/
  checked : Bool := true
  deriving DecidableEq

def Watch.after (watch : Watch) : Label Id Name Request Result → Watch
  | .started .. => { progress := .running, checked := false }
  | .abandoned _ | .failed _ => { watch with progress := .failed }
  | .succeeded _ => { watch with progress := .succeeded }
  | .armed _ => { watch with armed := true }
  | .snapshot => { watch with snapped := watch.armed, looked := false }
  | .looked =>
      { watch with
        snapped := false
        looked := watch.snapped && watch.progress = .succeeded }
  | .fired .. | .passed =>
      { watch with looked := false, observed := watch.observed || watch.looked }
  | .checked => { watch with checked := true }
  | .launched .. | .worked | .copied => watch

/-- The watch over a whole history. -/
def watch (labels : List (Label Id Name Request Result)) : Watch :=
  labels.foldl Watch.after {}

@[simp] theorem watch_nil : watch ([] : List (Label Id Name Request Result)) = {} := rfl

@[simp] theorem watch_snoc (labels : List (Label Id Name Request Result))
    (label : Label Id Name Request Result)
    : watch (labels ++ [label]) = (watch labels).after label :=
  List.foldl_append ..

/-- A label that starts no job and arms no observer. -/
def Label.Later : Label Id Name Request Result → Prop
  | .started .. | .armed _ => False
  | _ => True

/-- The observer was armed with the job `id`, and nothing was started or armed since. -/
structure ArmedWith (labels since : List (Label Id Name Request Result)) (id : Id)
    : Prop where
  split : ∃ before, labels = before ++ .armed id :: since
  later : ∀ label ∈ since, label.Later

/-- The job `id` was reported after the observer was armed with it, and nothing was started
since.
-/
def Reported (labels : List (Label Id Name Request Result)) (id : Id) : Prop :=
  ∃ since, ArmedWith labels since id ∧ ∃ name result, .fired id name result ∈ since

variable {yields : Request → Result} {labels since : List (Label Id Name Request Result)}
  {board : Board Id Name Request Result} {label : Label Id Name Request Result}

theorem ArmedWith.snoc {id : Id} (armed : ArmedWith labels since id) (later : label.Later)
    : ArmedWith (labels ++ [label]) (since ++ [label]) id := by
  obtain ⟨⟨before, rfl⟩, still⟩ := armed
  refine ⟨⟨before, by simp⟩, ?_⟩
  intro other member
  rcases List.mem_append.mp member with old | new
  · exact still other old
  · exact List.mem_singleton.mp new ▸ later

/-- The job on the board is the one that is armed, and a set flag means that it was
reported.
-/
structure Armed (labels : List (Label Id Name Request Result))
    (board : Board Id Name Request Result) (id : Id)
    : Prop where
  current : board.jobId = some id
  resting : board.starter = .resting
  armed : ∃ name, board.armed = some (id, name)
  reported
    : ∃ since,
        ArmedWith labels since id
        ∧ (board.notified = true → ∃ name result, .fired id name result ∈ since)

/-- What relates the watch to the board. -/
structure Watched (labels : List (Label Id Name Request Result))
    (board : Board Id Name Request Result)
    : Prop where
  progress : (watch labels).progress = board.progress
  checked : (watch labels).checked = true → board.progress ≠ .running
  occupied : ∀ {id name request}, board.starter = .occupied id name request → board.jobId = some id
  starting : ∀ {id name}, board.starter = .launched id name → board.jobId = some id
  armed : (watch labels).armed = true → ∃ id, Armed labels board id
  snapped
    : (watch labels).snapped = true
      → ∃ id,
          Armed labels board id
          ∧ (board.notified = true ∨ ∃ name, board.observer = .snapped id name)
  looked
    : (watch labels).looked = true
      → ∃ id,
          Armed labels board id
          ∧ (board.notified = true
            ∨ ∃ name,
                board.observer = .saw id name
                ∨ ∃ result, board.observer = .copied id name result)
  observed
    : (watch labels).observed = true → ∃ id, Armed labels board id ∧ board.notified = true

/-- A step that leaves the job and the arming alone keeps the job armed. -/
theorem Armed.snoc {id : Id} {next : Board Id Name Request Result}
    (armed : Armed labels board id) (later : label.Later)
    (jobId : next.jobId = board.jobId) (starter : next.starter = board.starter)
    (same : next.armed = board.armed)
    (notified
      : next.notified = true
        → board.notified = true ∨ ∃ name result, label = .fired id name result)
    : Armed (labels ++ [label]) next id := by
  obtain ⟨since, armedWith, reported⟩ := armed.reported
  refine {
    current := jobId.trans armed.current
    resting := starter.trans armed.resting
    armed := armed.armed.imp fun _ => same.trans
    reported := ⟨since ++ [label], armedWith.snoc later, ?_⟩
  }
  intro set
  rcases notified set with earlier | ⟨name, result, rfl⟩
  · obtain ⟨name, result, fired⟩ := reported earlier
    exact ⟨name, result, List.mem_append_left _ fired⟩
  · exact ⟨name, result, by simp⟩

theorem Board.Blank.watched (blank : board.Blank) : Watched [] board := by
  refine {
    progress := by simp [blank.progress]
    checked := by simp [blank.progress]
    occupied := by simp [blank.starter]
    starting := by simp [blank.starter]
    armed := by simp
    snapped := by simp
    looked := by simp
    observed := by simp
  }

section

variable [DecidableEq Id] {next : Board Id Name Request Result}

omit [DecidableEq Id] in
/-- While the starter is busy the watch knows of no armed job. -/
theorem Watched.unarmed (watched : Watched labels board) (busy : board.starter ≠ .resting)
    : (watch labels).armed = false
      ∧ (watch labels).snapped = false
      ∧ (watch labels).looked = false
      ∧ (watch labels).observed = false := by
  have notArmed {id} (armed : Armed labels board id) : False := busy armed.resting
  refine ⟨?_, ?_, ?_, ?_⟩ <;> rw [Bool.eq_false_iff] <;> intro set
  · exact notArmed (watched.armed set).choose_spec
  · exact notArmed (watched.snapped set).choose_spec.1
  · exact notArmed (watched.looked set).choose_spec.1
  · exact notArmed (watched.observed set).choose_spec.1

omit [DecidableEq Id] in
/-- A step of the task, or a check, leaves arming and observer as they are. -/
theorem Watched.aside (watched : Watched labels board) (later : label.Later)
    (flags
      : (watch labels).after label
        = { watch labels with
            progress := next.progress
            checked := ((watch labels).after label).checked })
    (checked : ((watch labels).after label).checked = true → next.progress ≠ .running)
    (jobId : next.jobId = board.jobId) (starter : next.starter = board.starter)
    (same : next.armed = board.armed) (notified : next.notified = board.notified)
    (observer : next.observer = board.observer)
    : Watched (labels ++ [label]) next := by
  have keep {id} (armed : Armed labels board id) : Armed (labels ++ [label]) next id :=
    armed.snoc later jobId starter same (fun set => .inl (notified ▸ set))
  refine {
    progress := by rw [watch_snoc, flags]
    checked := by rwa [watch_snoc]
    occupied := by simpa only [starter, jobId] using @watched.occupied
    starting := by simpa only [starter, jobId] using @watched.starting
    armed := ?_
    snapped := ?_
    looked := ?_
    observed := ?_
  } <;> rw [watch_snoc, flags]
  · exact fun set => (watched.armed set).imp fun _ => keep
  · rw [notified, observer]
    exact fun set => (watched.snapped set).imp fun _ => .imp_left keep
  · rw [notified, observer]
    exact fun set => (watched.looked set).imp fun _ => .imp_left keep
  · rw [notified]
    exact fun set => (watched.observed set).imp fun _ => .imp_left keep

omit [DecidableEq Id] in
/-- A step of the observer leaves the job and its arming as they are. -/
theorem Watched.observing (watched : Watched labels board) (later : label.Later)
    (progress : ((watch labels).after label).progress = (watch labels).progress)
    (checked : ((watch labels).after label).checked = (watch labels).checked)
    (flag : ((watch labels).after label).armed = (watch labels).armed)
    (running : next.progress = board.progress) (jobId : next.jobId = board.jobId)
    (starter : next.starter = board.starter) (same : next.armed = board.armed)
    (notified
      : ∀ {id},
          Armed labels board id
          → next.notified = true
          → board.notified = true ∨ ∃ name result, label = .fired id name result)
    (snapped
      : ((watch labels).after label).snapped = true
        → ∃ id,
            Armed labels board id
            ∧ (next.notified = true ∨ ∃ name, next.observer = .snapped id name))
    (looked
      : ((watch labels).after label).looked = true
        → ∃ id,
            Armed labels board id
            ∧ (next.notified = true
              ∨ ∃ name,
                  next.observer = .saw id name
                  ∨ ∃ result, next.observer = .copied id name result))
    (observed
      : ((watch labels).after label).observed = true
        → ∃ id, Armed labels board id ∧ next.notified = true)
    : Watched (labels ++ [label]) next := by
  have keep {id} (armed : Armed labels board id) : Armed (labels ++ [label]) next id :=
    armed.snoc later jobId starter same (notified armed)
  refine {
    progress := by rw [watch_snoc, progress, running, watched.progress]
    checked := by simpa only [watch_snoc, checked, running] using watched.checked
    occupied := by simpa only [starter, jobId] using @watched.occupied
    starting := by simpa only [starter, jobId] using @watched.starting
    armed := ?_
    snapped := ?_
    looked := ?_
    observed := ?_
  } <;> rw [watch_snoc]
  · rw [flag]
    exact fun set => (watched.armed set).imp fun _ => keep
  · exact fun set => (snapped set).imp fun _ => .imp_left keep
  · exact fun set => (looked set).imp fun _ => .imp_left keep
  · exact fun set => (observed set).imp fun _ => .imp_left keep

/-- Each step keeps what relates the watch to the board. -/
theorem Watched.step (watched : Watched labels board) (step : Step yields board label next)
    : Watched (labels ++ [label]) next := by
  cases step with
  | start free resting =>
      refine {
        progress := by simp [Watch.after]
        checked := by simp [Watch.after]
        occupied := ?_
        starting := by simp
        armed := by simp [Watch.after]
        snapped := by simp [Watch.after]
        looked := by simp [Watch.after]
        observed := by simp [Watch.after]
      }
      intro id name request same
      exact congrArg some (Starter.occupied.inj same).1
  | abandon occupied =>
      obtain ⟨armed, snapped, looked, observed⟩ := watched.unarmed (by simp [occupied])
      refine {
        progress := by simp [Watch.after]
        checked := by simp
        occupied := by simp
        starting := by simp
        armed := by simp [Watch.after, armed]
        snapped := by simp [Watch.after, snapped]
        looked := by simp [Watch.after, looked]
        observed := by simp [Watch.after, observed]
      }
  | launch occupied =>
      obtain ⟨armed, snapped, looked, observed⟩ := watched.unarmed (by simp [occupied])
      have current := watched.occupied occupied
      refine {
        progress := by simpa [Watch.after] using watched.progress
        checked := by simpa [Watch.after] using watched.checked
        occupied := by simp
        starting := ?_
        armed := by simp [Watch.after, armed]
        snapped := by simp [Watch.after, snapped]
        looked := by simp [Watch.after, looked]
        observed := by simp [Watch.after, observed]
      }
      intro id name same
      exact (Starter.launched.inj same).1 ▸ current
  | work busy =>
      refine watched.aside trivial ?_ ?_ rfl rfl rfl rfl rfl
      · simp [Watch.after, ← watched.progress]
      · simpa [Watch.after] using watched.checked
  | succeed busy named =>
      exact watched.aside trivial rfl (by simp) rfl rfl rfl rfl rfl
  | fail busy named =>
      exact watched.aside trivial rfl (by simp) rfl rfl rfl rfl rfl
  | check free =>
      refine watched.aside trivial ?_ (fun _ => free) rfl rfl rfl rfl rfl
      simp [Watch.after, ← watched.progress]
  | arm launched =>
      obtain ⟨_, snapped, looked, observed⟩ := watched.unarmed (by simp [launched])
      have current := watched.starting launched
      refine {
        progress := by simpa [Watch.after] using watched.progress
        checked := by simpa [Watch.after] using watched.checked
        occupied := by simp
        starting := by simp
        armed := ?_
        snapped := by simp [Watch.after, snapped]
        looked := by simp [Watch.after, looked]
        observed := by simp [Watch.after, observed]
      }
      exact fun _ => ⟨_, current, rfl, ⟨_, rfl⟩, [], ⟨⟨labels, rfl⟩, by simp⟩, by simp⟩
  | snapshot resting =>
      refine watched.observing trivial rfl rfl rfl rfl rfl rfl rfl (fun _ => .inl) ?_
        (by simp [Watch.after]) ?_
      · intro set
        obtain ⟨id, armed⟩ := watched.armed set
        obtain ⟨name, same⟩ := armed.armed
        refine ⟨id, armed, ?_⟩
        cases notified : board.notified with
        | true => exact .inl rfl
        | false => exact .inr ⟨name, by simp [Board.snapshot, same, notified]⟩
      · exact watched.observed
  | look snapped =>
      refine watched.observing trivial rfl rfl rfl rfl rfl rfl rfl (fun _ => .inl)
        (by simp [Watch.after]) ?_ watched.observed
      intro set
      obtain ⟨began, succeeded⟩ := Bool.and_eq_true_iff.mp set
      have succeeded : board.progress = .succeeded := by
        simpa [watched.progress] using succeeded
      obtain ⟨id, armed, found⟩ := watched.snapped began
      refine ⟨id, armed, found.imp_right ?_⟩
      rintro ⟨name, same⟩
      obtain ⟨rfl, rfl⟩ := Observer.snapped.inj (same.symm.trans snapped)
      exact ⟨name, .inl (by simp [succeeded])⟩
  | copy saw =>
      refine watched.observing trivial rfl rfl rfl rfl rfl rfl rfl (fun _ => .inl) ?_ ?_
        watched.observed
      · intro set
        obtain ⟨id, armed, found⟩ := watched.snapped set
        exact ⟨id, armed, .inl (found.resolve_right (by simp [saw]))⟩
      · intro set
        obtain ⟨id, armed, found⟩ := watched.looked set
        refine ⟨id, armed, found.imp_right ?_⟩
        rintro ⟨name, same | ⟨result, same⟩⟩
        · obtain ⟨rfl, rfl⟩ := Observer.saw.inj (same.symm.trans saw)
          exact ⟨name, .inr ⟨board.result, by simp [armed.current]⟩⟩
        · simp [saw] at same
  | @fire id name other result copied _ same =>
      have report {id'} (armed : Armed labels board id')
          : ∃ name' result',
              (.fired id name result : Label Id Name Request Result)
                = .fired id' name' result' := by
        obtain ⟨_, armed⟩ := armed.armed
        obtain ⟨rfl, _⟩ := Prod.mk.inj (Option.some.inj (same.symm.trans armed))
        exact ⟨name, result, rfl⟩
      refine watched.observing trivial rfl rfl rfl rfl rfl rfl rfl
        (fun armed _ => .inr (report armed))
        (fun set => (watched.snapped set).imp fun _ found => ⟨found.1, .inl rfl⟩)
        (by simp [Watch.after]) ?_
      intro set
      rcases Bool.or_eq_true_iff.mp set with before | now
      · exact (watched.observed before).imp fun _ found => ⟨found.1, rfl⟩
      · exact (watched.looked now).imp fun _ found => ⟨found.1, rfl⟩
  | pass copied stale =>
      refine watched.observing trivial rfl rfl rfl rfl rfl rfl rfl (fun _ => .inl) ?_
        (by simp [Watch.after]) ?_
      · intro set
        obtain ⟨id, armed, found⟩ := watched.snapped set
        exact ⟨id, armed, .inl (found.resolve_right (by simp [copied]))⟩
      · intro set
        rcases Bool.or_eq_true_iff.mp set with before | now
        · exact watched.observed before
        · -- The job that was copied is the armed one, so the flag alone can have stopped it.
          obtain ⟨id, armed, found⟩ := watched.looked now
          refine ⟨id, armed, found.elim (fun notified => notified) ?_⟩
          rintro ⟨name, same | ⟨result, same⟩⟩
          · simp [copied] at same
          · obtain ⟨rfl, rfl, rfl⟩ := Observer.copied.inj (copied.symm.trans same)
            obtain ⟨_, same⟩ := armed.armed
            exact stale.resolve_right fun other => other _ same

/-- What the watch tells at the end of a run. -/
theorem Run.watched {start finish : Board Id Name Request Result}
    (run : Run yields start labels finish) (blank : start.Blank)
    : Watched labels finish :=
  run.history_invariant Watched blank.watched fun watched step => watched.step step

end

/-- A job that the watch calls observed was reported since it was armed. -/
theorem Watched.reported (watched : Watched labels board)
    (observed : (watch labels).observed = true)
    : ∃ id, board.jobId = some id ∧ Reported labels id := by
  obtain ⟨id, armed, notified⟩ := watched.observed observed
  obtain ⟨since, armedWith, reported⟩ := armed.reported
  exact ⟨id, armed.current, since, armedWith, reported notified⟩

def Label.reports : Label Id Name Request Result → Bool
  | .fired .. => true
  | _ => false

theorem Reported.exists_reports {id : Id} (reported : Reported labels id)
    : ∃ label ∈ labels, label.reports = true := by
  obtain ⟨since, ⟨⟨before, rfl⟩, _⟩, name, result, fired⟩ := reported
  exact ⟨_, List.mem_append_right _ (List.mem_cons_of_mem _ fired), rfl⟩

/-- No job runs, and a job that has succeeded was reported since the observer was armed with
it.
-/
def Settled (labels : List (Label Id Name Request Result))
    (board : Board Id Name Request Result)
    : Prop :=
  board.progress ≠ .running
  ∧ (board.progress = .succeeded → ∃ id, board.jobId = some id ∧ Reported labels id)

/-- If the last job has succeeded, a pass that met it has ended. -/
def Watch.Attended (watch : Watch) : Prop := watch.progress = .succeeded → watch.observed = true

instance (watch : Watch) : Decidable watch.Attended := inferInstanceAs (Decidable (_ → _))

theorem Watched.settled (watched : Watched labels board)
    (attended : (watch labels).Attended) (free : board.progress ≠ .running)
    : Settled labels board := by
  refine ⟨free, fun succeeded => watched.reported (attended ?_)⟩
  rw [watched.progress, succeeded]

end KeypadBridge.Foundation.JobBoard
