import KeypadBridge.Foundation.JobBoard

/-! Reports on the job board belong to their jobs: while ids are fresh, a report is about one
launched job that succeeded, carries that job's own name and result, and is made once.
-/

namespace KeypadBridge.Foundation.JobBoard

variable {Id Name Request Result : Type} {yields : Request → Result}

/-- A task was launched for the job `id`. -/
def Launched (labels : List (Label Id Name Request Result)) (id : Id) : Prop :=
  ∃ name request, .launched id name request ∈ labels

/-- The job `id` was reported. -/
def Fired (labels : List (Label Id Name Request Result)) (id : Id) : Prop :=
  ∃ name result, .fired id name result ∈ labels

/-- No start takes the id of a job that was launched before it. -/
def Fresh (labels : List (Label Id Name Request Result)) : Prop :=
  ∀ before id name request after,
    labels = before ++ .started id name request :: after → ¬ Launched before id

/-- A job that succeeded, with the request it was launched for. -/
structure Succeeded (labels : List (Label Id Name Request Result)) (id : Id) (name : Name)
    (request : Request)
    : Prop where
  launched : .launched id name request ∈ labels
  succeeded : .succeeded id ∈ labels

/-- What relates the board to the labels seen so far while ids are fresh. -/
structure Attributed (yields : Request → Result)
    (labels : List (Label Id Name Request Result)) (board : Board Id Name Request Result)
    : Prop where
  reported : ∀ {id}, Fired labels id → Launched labels id
  unique
    : ∀ {id name other request request'},
        .launched id name request ∈ labels
        → .launched id other request' ∈ labels
        → name = other ∧ request = request'
  occupied
    : ∀ {id name request},
        board.starter = .occupied id name request
        → board.progress = .running
          ∧ board.jobId = some id
          ∧ board.task = none
          ∧ ¬ Launched labels id
  starting
    : ∀ {id name},
        board.starter = .launched id name
        → (∃ request, .launched id name request ∈ labels)
          ∧ ¬ Fired labels id
          ∧ ∀ other, board.armed ≠ some (id, other)
  working
    : ∀ {request},
        board.task = some request
        → board.progress = .running
          ∧ ∃ id name, board.jobId = some id ∧ .launched id name request ∈ labels
  finished
    : board.progress = .succeeded
      → ∃ id name request,
          board.jobId = some id
          ∧ Succeeded labels id name request
          ∧ board.result = yields request
  armed
    : ∀ {id name},
        board.armed = some (id, name)
        → (∃ request, .launched id name request ∈ labels)
          ∧ (board.notified = false → ¬ Fired labels id)
  snapped
    : ∀ {id name},
        board.observer = .snapped id name → ∃ request, .launched id name request ∈ labels
  saw
    : ∀ {id name},
        board.observer = .saw id name
        → (∃ request, .launched id name request ∈ labels)
          ∧ (board.jobId = some id → board.progress = .succeeded)
  copied
    : ∀ {id name result},
        board.observer = .copied id name result
        → ∃ request, Succeeded labels id name request ∧ result = yields request

/-- A label that neither launches a task nor reports a job. -/
def Label.Silent : Label Id Name Request Result → Prop
  | .launched .. | .fired .. => False
  | _ => True

variable {labels : List (Label Id Name Request Result)}
  {board : Board Id Name Request Result} {label : Label Id Name Request Result}

theorem launched_snoc {id : Id} (silent : label.Silent)
    : Launched (labels ++ [label]) id ↔ Launched labels id := by
  cases label <;> simp_all [Launched, Label.Silent]

theorem fired_snoc {id : Id} (silent : label.Silent)
    : Fired (labels ++ [label]) id ↔ Fired labels id := by
  cases label <;> simp_all [Fired, Label.Silent]

theorem mem_launched_snoc {id : Id} {name : Name} {request : Request} (silent : label.Silent)
    : .launched id name request ∈ labels ++ [label] ↔ .launched id name request ∈ labels := by
  cases label <;> simp_all [Label.Silent]

theorem Succeeded.snoc {id : Id} {name : Name} {request : Request}
    (done : Succeeded labels id name request) (label : Label Id Name Request Result)
    : Succeeded (labels ++ [label]) id name request :=
  ⟨List.mem_append_left _ done.launched, List.mem_append_left _ done.succeeded⟩

/-- A silent label leaves the facts about an unchanged board as they are. -/
theorem Attributed.silent (attributed : Attributed yields labels board)
    (silent : label.Silent)
    : Attributed yields (labels ++ [label]) board := by
  refine {
    reported := ?_
    unique := ?_
    occupied := ?_
    starting := ?_
    working := ?_
    finished := ?_
    armed := ?_
    snapped := ?_
    saw := ?_
    copied := ?_
  }
  · simpa only [launched_snoc silent, fired_snoc silent] using @attributed.reported
  · simpa only [mem_launched_snoc silent] using @attributed.unique
  · simpa only [launched_snoc silent] using @attributed.occupied
  · simpa only [mem_launched_snoc silent, fired_snoc silent] using @attributed.starting
  · simpa only [mem_launched_snoc silent] using @attributed.working
  · intro succeeded
    obtain ⟨id, name, request, named, done, result⟩ := attributed.finished succeeded
    exact ⟨id, name, request, named, done.snoc label, result⟩
  · simpa only [mem_launched_snoc silent, fired_snoc silent] using @attributed.armed
  · simpa only [mem_launched_snoc silent] using @attributed.snapped
  · simpa only [mem_launched_snoc silent] using @attributed.saw
  · intro id name result copied
    obtain ⟨request, done, same⟩ := attributed.copied copied
    exact ⟨request, done.snoc label, same⟩

/-- The facts about a board on which nothing was ever started. -/
theorem Board.Blank.attributed (blank : board.Blank) : Attributed yields [] board := by
  refine {
    reported := by simp [Fired]
    unique := by simp
    occupied := by simp [blank.starter]
    starting := by simp [blank.starter]
    working := by simp [blank.task]
    finished := by simp [blank.progress]
    armed := by simp [blank.armed]
    snapped := by simp [blank.observer]
    saw := by simp [blank.observer]
    copied := by simp [blank.observer]
  }

theorem Board.snapshot_snapped {id : Id} {name : Name}
    (snapped : board.snapshot = .snapped id name)
    : board.armed = some (id, name) ∧ board.notified = false := by
  unfold Board.snapshot at snapped
  split at snapped
  · next armed notified =>
      obtain ⟨rfl, rfl⟩ := Observer.snapped.inj snapped
      exact ⟨armed, notified⟩
  · cases snapped

theorem Board.snapshot_cases (board : Board Id Name Request Result)
    : board.snapshot = .resting ∨ ∃ id name, board.snapshot = .snapped id name := by
  unfold Board.snapshot
  split
  · exact .inr ⟨_, _, rfl⟩
  · exact .inl rfl

/-- A launched task is the first of its id, for the starter was told a fresh one. -/
theorem Attributed.launch {id : Id} {name : Name} {request : Request}
    (attributed : Attributed yields labels board)
    (occupied : board.starter = .occupied id name request)
    : Attributed yields (labels ++ [.launched id name request])
        { board with task := some request, starter := .launched id name } := by
  obtain ⟨running, named, idle, unused⟩ := attributed.occupied occupied
  have here : .launched id name request ∈ labels ++ [.launched id name request] := by simp
  have earlier {other name' request'}
      (launched : .launched other name' request' ∈ labels)
      : .launched other name' request' ∈ labels ++ [.launched id name request] :=
    List.mem_append_left _ launched
  have fired {other}
      : Fired (labels ++ [.launched id name request]) other ↔ Fired labels other := by
    simp [Fired]
  refine {
    reported := ?_
    unique := ?_
    occupied := by simp
    starting := ?_
    working := ?_
    finished := ?_
    armed := ?_
    snapped := fun snapped => (attributed.snapped snapped).imp fun _ => earlier
    saw := fun saw => (attributed.saw saw).imp_left (·.imp fun _ => earlier)
    copied := fun copied => (attributed.copied copied).imp fun _ done => ⟨done.1.snoc _, done.2⟩
  }
  · intro other report
    obtain ⟨name', request', launched⟩ := attributed.reported (fired.mp report)
    exact ⟨name', request', earlier launched⟩
  · intro other name₁ name₂ request₁ request₂ first second
    rcases List.mem_append.mp first with old | new
    · rcases List.mem_append.mp second with old' | new'
      · exact attributed.unique old old'
      · obtain ⟨rfl, rfl, rfl⟩ := Label.launched.inj (List.mem_singleton.mp new')
        exact absurd ⟨_, _, old⟩ unused
    · obtain ⟨rfl, rfl, rfl⟩ := Label.launched.inj (List.mem_singleton.mp new)
      rcases List.mem_append.mp second with old' | new'
      · exact absurd ⟨_, _, old'⟩ unused
      · obtain ⟨_, rfl, rfl⟩ := Label.launched.inj (List.mem_singleton.mp new')
        exact ⟨rfl, rfl⟩
  · intro other name' same
    obtain ⟨rfl, rfl⟩ := Starter.launched.inj same
    refine ⟨⟨request, here⟩, ?_, ?_⟩
    · rw [fired]
      exact fun report => unused (attributed.reported report)
    · intro other armed
      obtain ⟨request', launched⟩ := (attributed.armed armed).1
      exact unused ⟨_, _, launched⟩
  · intro request' same
    obtain rfl := Option.some.inj same
    exact ⟨running, id, name, named, here⟩
  · intro succeeded
    exact absurd succeeded (by simp [running])
  · intro other name' armed
    obtain ⟨known, unreported⟩ := attributed.armed armed
    exact ⟨known.imp fun _ => earlier, fun notified => fired.not.mpr (unreported notified)⟩

/-- A report uses up what is armed. -/
theorem Attributed.fire {id : Id} {name other : Name} {result : Result}
    (attributed : Attributed yields labels board)
    (copied : board.observer = .copied id name result) (same : board.armed = some (id, other))
    : Attributed yields (labels ++ [.fired id name result])
        { board with notified := true, observer := .resting } := by
  have launched {id' name' request}
      : .launched id' name' request ∈ labels ++ [.fired id name result]
        ↔ .launched id' name' request ∈ labels := by
    simp
  have fired {other} (different : other ≠ id)
      : Fired (labels ++ [.fired id name result]) other ↔ Fired labels other := by
    simp [Fired, different]
  refine {
    reported := ?_
    unique := by simpa only [launched] using @attributed.unique
    occupied := ?_
    starting := ?_
    working := by simpa only [launched] using @attributed.working
    finished := ?_
    armed := ?_
    snapped := by simp
    saw := by simp
    copied := by simp
  }
  · intro other' report
    simp only [Launched, launched]
    by_cases reported : other' = id
    · obtain ⟨request, done, _⟩ := attributed.copied copied
      exact ⟨name, request, reported ▸ done.launched⟩
    · exact attributed.reported ((fired reported).mp report)
  · simpa only [Launched, launched] using @attributed.occupied
  · intro other' name' starting
    obtain ⟨known, unreported, unarmed⟩ := attributed.starting starting
    have different : other' ≠ id := fun equal => unarmed other (equal ▸ same)
    simp only [launched, fired different]
    exact ⟨known, unreported, unarmed⟩
  · intro succeeded
    obtain ⟨other', name', request, named, done, yielded⟩ := attributed.finished succeeded
    exact ⟨other', name', request, named, done.snoc _, yielded⟩
  · intro other' name' armed
    simp only [launched]
    exact ⟨(attributed.armed armed).1, by simp⟩

/-- Freshness decided label by label, behind the labels seen before. -/
def freshBehind [DecidableEq Id] (seen : List (Label Id Name Request Result))
    : List (Label Id Name Request Result) → Bool
  | [] => true
  | label :: rest =>
      (match label with
        | .started id .. =>
            seen.all fun
              | .launched other .. => other ≠ id
              | _ => true
        | _ => true)
        && freshBehind (seen ++ [label]) rest

theorem fresh_of_freshBehind [DecidableEq Id] {seen : List (Label Id Name Request Result)}
    (decided : freshBehind seen labels = true) {before : List (Label Id Name Request Result)}
    {id : Id} {name : Name} {request : Request} {after : List (Label Id Name Request Result)}
    (split : labels = before ++ .started id name request :: after)
    : ¬ Launched (seen ++ before) id := by
  induction labels generalizing seen before with
  | nil => simp at split
  | cons label rest ih =>
      obtain ⟨here, later⟩ := Bool.and_eq_true_iff.mp decided
      cases before with
      | nil =>
          obtain ⟨rfl, rfl⟩ := List.cons.inj split
          rintro ⟨other, request', launched⟩
          rw [List.append_nil] at launched
          simpa using List.all_eq_true.mp here _ launched
      | cons first more =>
          obtain ⟨rfl, tail⟩ := List.cons.inj split
          simpa using ih later tail

/-- Freshness of a concrete history can be decided. -/
theorem Fresh.of_check [DecidableEq Id] (decided : freshBehind [] labels = true)
    : Fresh labels :=
  fun _ _ _ _ _ split => fresh_of_freshBehind decided split

/-- Freshness of a longer history is freshness of its beginning and of its last start. -/
theorem Fresh.of_snoc (fresh : Fresh (labels ++ [label]))
    : Fresh labels
      ∧ ∀ {id name request}, label = .started id name request → ¬ Launched labels id := by
  refine ⟨?_, ?_⟩
  · rintro before id name request after rfl
    exact fresh before id name request (after ++ [label]) (by simp)
  · rintro id name request rfl
    exact fresh labels id name request [] (by simp)

section

variable [DecidableEq Id] {next : Board Id Name Request Result}

/-- While ids are fresh, each step keeps the facts. -/
theorem Attributed.step (attributed : Attributed yields labels board)
    (step : Step yields board label next)
    (fresh : ∀ {id name request}, label = .started id name request → ¬ Launched labels id)
    : Attributed yields (labels ++ [label]) next := by
  have silent (silent : label.Silent) := attributed.silent silent
  cases step with
  | @start job handle asked _ free resting =>
      have kept := silent trivial
      have unused := fresh rfl
      have idle : board.task = none := by
        cases task : board.task with
        | none => rfl
        | some => exact absurd (attributed.working task).1 free
      refine { kept with
        occupied := ?_
        starting := by simp
        working := by simp [idle]
        finished := by simp
        saw := ?_
      }
      · intro id name request same
        obtain ⟨rfl, rfl, rfl⟩ := Starter.occupied.inj same
        have starts : Label.Silent (.started job handle asked : Label Id Name Request Result) :=
          trivial
        exact ⟨rfl, rfl, idle, (launched_snoc starts).not.mpr unused⟩
      · intro id name saw
        obtain ⟨⟨request, launched⟩, _⟩ := attributed.saw saw
        refine ⟨(kept.saw saw).1, fun same => ?_⟩
        exact absurd ⟨name, request, launched⟩ (Option.some.inj same ▸ unused)
  | abandon occupied =>
      have kept := silent trivial
      obtain ⟨running, named, idle, _⟩ := attributed.occupied occupied
      refine { kept with
        occupied := by simp
        starting := by simp
        working := by simp [idle]
        finished := by simp
        saw := ?_
      }
      intro id name saw
      refine ⟨(kept.saw saw).1, fun same => ?_⟩
      exact absurd ((attributed.saw saw).2 same) (by simp [running])
  | launch occupied => exact attributed.launch occupied
  | work busy =>
      have kept := silent trivial
      refine { kept with finished := ?_ }
      intro succeeded
      exact absurd succeeded (by simp [(attributed.working busy).1])
  | succeed busy named =>
      have kept := silent trivial
      obtain ⟨_, id, name, same, launched⟩ := attributed.working busy
      obtain rfl := Option.some.inj (named.symm.trans same)
      refine { kept with
        occupied := ?_
        working := by simp
        finished := ?_
        saw := fun saw => ⟨(kept.saw saw).1, fun _ => rfl⟩
      }
      · intro id name request occupied
        exact absurd busy (by simp [(attributed.occupied occupied).2.2.1])
      · intro _
        exact ⟨_, name, _, named,
          ⟨List.mem_append_left _ launched, List.mem_append_right _ (List.mem_singleton_self _)⟩,
          rfl⟩
  | fail busy named =>
      have kept := silent trivial
      have running := (attributed.working busy).1
      refine { kept with
        occupied := ?_
        working := by simp
        finished := by simp
        saw := ?_
      }
      · intro id name request occupied
        exact absurd busy (by simp [(attributed.occupied occupied).2.2.1])
      · intro id name saw
        refine ⟨(kept.saw saw).1, fun same => ?_⟩
        exact absurd ((attributed.saw saw).2 same) (by simp [running])
  | arm launched =>
      have kept := silent trivial
      obtain ⟨known, unreported, _⟩ := kept.starting launched
      refine { kept with
        occupied := by simp
        starting := by simp
        armed := ?_
      }
      intro id name armed
      obtain ⟨rfl, rfl⟩ := Prod.mk.inj (Option.some.inj armed)
      exact ⟨known, fun _ => unreported⟩
  | snapshot resting =>
      have kept := silent trivial
      refine { kept with
        snapped := fun snapped => (kept.armed (Board.snapshot_snapped snapped).1).1
        saw := ?_
        copied := ?_
      }
      · intro id name saw
        rcases board.snapshot_cases with rest | ⟨_, _, snapped⟩ <;> simp_all
      · intro id name result copied
        rcases board.snapshot_cases with rest | ⟨_, _, snapped⟩ <;> simp_all
  | look snapped =>
      have kept := silent trivial
      have known := kept.snapped snapped
      refine { kept with
        snapped := by simp only; split <;> simp
        saw := ?_
        copied := by simp only; split <;> simp
      }
      intro id name
      simp only
      split
      · next succeeded =>
          intro same
          obtain ⟨rfl, rfl⟩ := Observer.saw.inj same
          exact ⟨known, fun _ => succeeded⟩
      · simp
  | copy saw =>
      have kept := silent trivial
      obtain ⟨⟨request, launched⟩, succeeded⟩ := kept.saw saw
      refine { kept with
        snapped := by simp only; split <;> simp
        saw := by simp only; split <;> simp
        copied := ?_
      }
      intro id name result
      simp only
      split
      · next same =>
          intro copied
          obtain ⟨rfl, rfl, rfl⟩ := Observer.copied.inj copied
          obtain ⟨id, name, other, named, done, result⟩ := kept.finished (succeeded same)
          obtain rfl := Option.some.inj (same.symm.trans named)
          obtain ⟨rfl, rfl⟩ := kept.unique launched done.launched
          exact ⟨_, done, result⟩
      · simp
  | fire copied unreported same => exact attributed.fire copied same
  | pass copied stale =>
      have kept := silent trivial
      exact { kept with snapped := by simp, saw := by simp, copied := by simp }
  | check free => exact silent trivial

theorem Run.attributed {start finish : Board Id Name Request Result}
    (run : Run yields start labels finish) (blank : start.Blank) (fresh : Fresh labels)
    : Attributed yields labels finish := by
  refine run.history_invariant (fun labels board => Fresh labels → Attributed yields labels board)
    (fun _ => blank.attributed) ?_ fresh
  intro labels before label after attributed step fresh
  exact (attributed fresh.of_snoc.1).step step fresh.of_snoc.2

/-- A report belongs to a job that was launched and succeeded, carries the name captured for
that job and the result of its request, and is the job's first report.
-/
theorem Run.fired_once {start finish : Board Id Name Request Result}
    {before after : List (Label Id Name Request Result)} {id : Id} {name : Name}
    {result : Result}
    (run : Run yields start (before ++ .fired id name result :: after) finish)
    (blank : start.Blank) (fresh : Fresh (before ++ .fired id name result :: after))
    : (∃ request, Succeeded before id name request ∧ result = yields request)
      ∧ ¬ Fired before id := by
  obtain ⟨board, next, earlier, step⟩ := run.split_at
  have freshBefore : Fresh before := by
    rintro first id' name' request rest rfl
    exact fresh first id' name' request (rest ++ .fired id name result :: after) (by simp)
  have attributed := earlier.attributed blank freshBefore
  cases step with
  | fire copied unreported same =>
      exact ⟨attributed.copied copied, (attributed.armed same).2 unreported⟩

end

end KeypadBridge.Foundation.JobBoard
