import KeypadBridge.Foundation.Rekeying

/-! Laws of re-keying receivers over whole runs: only the newest generation and the one
before it are ever accepted, effects never go back to an older generation, and the late
action is a one-shot capability.
-/

namespace KeypadBridge.Foundation.Rekeying

variable {Message : Type} {policy : Policy Message}

-----------------------------------------------------------------------------------------
-- Held generations are recent
-----------------------------------------------------------------------------------------

/-- A receiver holds nothing but the newest drawn generation and its predecessor. -/
def Receiver.Recent (receiver : Receiver) : Prop :=
  match receiver.phase with
  | .idle => True
  | .offered next => next + 1 = receiver.drawn
  | .settled current => current + 1 = receiver.drawn
  | .rotating current next _ => current + 1 = next ∧ next + 1 = receiver.drawn
  | .overlapped previous current => previous + 1 = current ∧ current + 1 = receiver.drawn

/-- Every step keeps the held generations recent, by cases on the step. -/
theorem Step.recent {before after : Receiver} {label : Label Message}
    (recent : before.Recent) (step : Step policy before label after)
    : after.Recent := by
  cases step with
  | boundary =>
      rename_i drawn phase
      cases phase <;> simp_all [Receiver.Recent, Phase.afterBoundary]
  | _ => simp_all [Receiver.Recent]

/-- An accepted message is under the newest generation or its predecessor. -/
theorem Step.accept_recent {before after : Receiver} {generation : Nat} {message : Message}
    (recent : before.Recent) (step : Step policy before (.accept generation message) after)
    : generation + 1 = before.drawn ∨ generation + 2 = before.drawn := by
  cases step <;> simp only [Receiver.Recent] at recent ⊢ <;> omega

/-- Only a draw advances the count, and it draws the generation the count names. -/
theorem Step.drawn_eq {before after : Receiver} {label : Label Message}
    (step : Step policy before label after)
    : (∃ arms, label = .draw before.drawn arms ∧ after.drawn = before.drawn + 1)
      ∨ (∀ generation arms, label ≠ .draw generation arms)
        ∧ after.drawn = before.drawn := by
  cases step <;> simp

-----------------------------------------------------------------------------------------
-- Effects never go back
-----------------------------------------------------------------------------------------

/-- Nothing older than `generation` is held or can be drawn any more. -/
def Receiver.AtLeast (generation : Nat) (receiver : Receiver) : Prop :=
  generation ≤ receiver.drawn
  ∧ match receiver.phase with
    | .idle => True
    | .offered next => generation ≤ next
    | .settled current => generation ≤ current
    | .rotating current next _ => generation ≤ current ∧ generation ≤ next
    | .overlapped previous current => generation ≤ previous ∧ generation ≤ current

/-- Steps never bring an older generation back, by cases on the step. -/
theorem Step.atLeast {before after : Receiver} {label : Label Message} {generation : Nat}
    (floor : before.AtLeast generation) (step : Step policy before label after)
    : after.AtLeast generation := by
  cases step with
  | boundary =>
      rename_i drawn phase
      cases phase <;> simp_all [Receiver.AtLeast, Phase.afterBoundary]
  | _ => simp_all [Receiver.AtLeast] <;> omega

/-- An accepted message is at or above every floor. -/
theorem Step.accept_atLeast {before after : Receiver} {floor generation : Nat}
    {message : Message} (atLeast : before.AtLeast floor)
    (step : Step policy before (.accept generation message) after)
    : floor ≤ generation := by
  cases step <;> simp only [Receiver.AtLeast] at atLeast <;> omega

/-- An effect under a generation closes everything older: a rotation committed by an effect
drops the predecessor, and so does the next message under the current generation.
-/
theorem Step.atLeast_of_effect {before after : Receiver} {generation : Nat}
    {message : Message} (recent : before.Recent)
    (effect : policy.idempotent message = false)
    (step : Step policy before (.accept generation message) after)
    : after.AtLeast generation := by
  cases step <;> simp_all [Receiver.Recent, Receiver.AtLeast] <;> omega

/-- Once an effect was accepted under a generation, nothing older is accepted in the rest
of the run.
-/
theorem Run.effects_monotone {start finish : Receiver}
    {before between after : List (Label Message)} {first later : Nat}
    {effect message : Message}
    (run
      : Run policy start
          (before ++ .accept first effect :: (between ++ .accept later message :: after))
          finish)
    (recent : start.Recent) (hasEffect : policy.idempotent effect = false)
    : first ≤ later := by
  obtain ⟨atEffect, afterEffect, head, step, tail⟩ := run.split_at
  have recentThen : atEffect.Recent := head.invariant recent Step.recent
  have floor : afterEffect.AtLeast first := step.atLeast_of_effect recentThen hasEffect
  obtain ⟨atLater, _, middle, laterStep, _⟩ := tail.split_at
  exact laterStep.accept_atLeast (middle.invariant floor Step.atLeast)

-----------------------------------------------------------------------------------------
-- The late action is a one-shot capability
-----------------------------------------------------------------------------------------

namespace Label

/-- An effect accepted under a generation older than `newest`. -/
def lateAction (policy : Policy Message) (newest : Nat) : Label Message → Bool
  | .accept generation message => generation < newest && !policy.idempotent message
  | _ => false

/-- An effect tried under an older generation, whether it was accepted or refused. -/
def lateAttempt (policy : Policy Message) (newest : Nat) : Label Message → Bool
  | .accept generation message
  | .refuse generation message => generation < newest && !policy.idempotent message
  | _ => false

/-- An idempotent message accepted under an older generation. -/
def latePoll (policy : Policy Message) (newest : Nat) : Label Message → Bool
  | .accept generation message => generation < newest && policy.idempotent message
  | _ => false

/-- A message accepted under the newest generation. -/
def underNewest (newest : Nat) : Label Message → Bool
  | .accept generation _ => generation = newest
  | _ => false

/-- An effect accepted under the newest generation. -/
def newestEffect (policy : Policy Message) (newest : Nat) : Label Message → Bool
  | .accept generation message => generation = newest && !policy.idempotent message
  | _ => false

/-- The label revokes the overlap outright. -/
def revokes : Label Message → Bool
  | .boundary | .restart => true
  | _ => false

def isDraw : Label Message → Bool
  | .draw _ _ => true
  | _ => false

end Label

/-- What has not happened since a draw while its late action is still available: no attempt
under the predecessor, no revocation, at most `polls` predecessor polls, and at most
`commits` messages under the newest generation, none of them an effect.
-/
structure Unspent (policy : Policy Message) (newest polls commits : Nat)
    (labels : List (Label Message))
    : Prop where
  noAttempt : labels.countP (Label.lateAttempt policy newest) = 0
  notRevoked : labels.countP Label.revokes = 0
  fewPolls : labels.countP (Label.latePoll policy newest) ≤ polls
  fewCommits : labels.countP (Label.underNewest newest) ≤ commits
  noEffect : labels.countP (Label.newestEffect policy newest) = 0

/-- The state of the capability after `labels`, observed since `newest` was drawn. -/
structure SinceDraw (policy : Policy Message) (newest : Nat) (arms : Bool)
    (labels : List (Label Message)) (receiver : Receiver)
    : Prop where
  newest_eq : newest + 1 = receiver.drawn
  recent : receiver.Recent
  rotating
    : ∀ {current next pollSeen},
        receiver.phase = .rotating current next (.armed pollSeen)
        → arms = true ∧ Unspent policy newest pollSeen.toNat 0 labels
  overlapped
    : ∀ {previous current},
        receiver.phase = .overlapped previous current
        → arms = true ∧ Unspent policy newest 1 1 labels
  once : labels.countP (Label.lateAction policy newest) ≤ 1

/-- An unused capability has admitted no late action. -/
theorem Unspent.no_lateAction {newest polls commits : Nat} {labels : List (Label Message)}
    (unspent : Unspent policy newest polls commits labels)
    : labels.countP (Label.lateAction policy newest) = 0 := by
  rw [List.countP_eq_zero]
  intro label member action
  refine List.countP_eq_zero.mp unspent.noAttempt label member ?_
  cases label <;> simp_all [Label.lateAction, Label.lateAttempt]

/-- One more label keeps the capability unused when it neither tries an effect under the
predecessor nor revokes nor commits an effect; polls and commits are counted on.
-/
theorem Unspent.snoc {newest polls commits morePolls moreCommits : Nat}
    {labels : List (Label Message)} {label : Label Message}
    (unspent : Unspent policy newest polls commits labels)
    (noAttempt : label.lateAttempt policy newest = false)
    (notRevoked : label.revokes = false)
    (noEffect : label.newestEffect policy newest = false)
    (pollCount : polls + (label.latePoll policy newest).toNat ≤ morePolls)
    (commitCount : commits + (label.underNewest newest).toNat ≤ moreCommits)
    : Unspent policy newest morePolls moreCommits (labels ++ [label]) where
  noAttempt := by simp [unspent.noAttempt, noAttempt]
  notRevoked := by simp [unspent.notRevoked, notRevoked]
  fewPolls := by
    have := unspent.fewPolls
    cases h : label.latePoll policy newest <;> simp_all [List.countP_append] <;> omega
  fewCommits := by
    have := unspent.fewCommits
    cases h : label.underNewest newest <;> simp_all [List.countP_append] <;> omega
  noEffect := by simp [unspent.noEffect, noEffect]

/-- An idempotent message under the predecessor counts as one poll. -/
theorem Unspent.snoc_latePoll {newest polls commits generation : Nat} {message : Message}
    {labels : List (Label Message)} (unspent : Unspent policy newest polls commits labels)
    (older : generation < newest) (idempotent : policy.idempotent message = true)
    : Unspent policy newest (polls + 1) commits (labels ++ [.accept generation message]) := by
  have different : generation ≠ newest := Nat.ne_of_lt older
  apply unspent.snoc <;>
    simp [Label.lateAttempt, Label.revokes, Label.newestEffect, Label.latePoll,
      Label.underNewest, idempotent, older, different]

/-- An idempotent message under the newest generation counts as one commit. -/
theorem Unspent.snoc_commit {newest polls commits : Nat} {message : Message}
    {labels : List (Label Message)} (unspent : Unspent policy newest polls commits labels)
    (idempotent : policy.idempotent message = true)
    : Unspent policy newest polls (commits + 1) (labels ++ [.accept newest message]) := by
  apply unspent.snoc <;>
    simp [Label.lateAttempt, Label.revokes, Label.newestEffect, Label.latePoll,
      Label.underNewest, idempotent]

/-- A draw starts the account: the capability is available only if the draw armed it. -/
theorem Step.sinceDraw {before after : Receiver} {newest : Nat} {arms : Bool}
    (recent : before.Recent) (step : Step policy before (.draw newest arms) after)
    : SinceDraw policy newest arms [] after := by
  have fresh : Unspent policy newest 0 0 [] := by constructor <;> simp
  have recentAfter := step.recent recent
  cases step with
  | drawAlone => exact ⟨rfl, recentAfter, by simp, by simp, by simp⟩
  | drawSettled | drawOverlapped =>
      refine ⟨rfl, recentAfter, ?_, by simp, by simp⟩
      intro current next pollSeen same
      cases arms <;> simp only [Allowance.initial, Phase.rotating.injEq] at same
      · simp at same
      · obtain ⟨_, _, unseen⟩ := same
        obtain rfl : false = pollSeen := by simpa using unseen
        exact ⟨rfl, fresh⟩

theorem Unspent.mono {newest polls commits morePolls moreCommits : Nat}
    {labels : List (Label Message)} (unspent : Unspent policy newest polls commits labels)
    (morePolls_ge : polls ≤ morePolls) (moreCommits_ge : commits ≤ moreCommits)
    : Unspent policy newest morePolls moreCommits labels :=
  { unspent with
    fewPolls := Nat.le_trans unspent.fewPolls morePolls_ge
    fewCommits := Nat.le_trans unspent.fewCommits moreCommits_ge }

/-- A late action needs the capability: armed by the draw, unused since, and urgent. -/
theorem SinceDraw.lateAction_needs {before after : Receiver} {newest generation : Nat}
    {arms : Bool} {labels : List (Label Message)} {message : Message}
    (since : SinceDraw policy newest arms labels before)
    (step : Step policy before (.accept generation message) after)
    (older : generation < newest) (effect : policy.idempotent message = false)
    : arms = true
      ∧ policy.urgent message = true
      ∧ Unspent policy newest 1 1 labels := by
  have recent := since.recent
  have count := since.newest_eq
  cases step with
  | lateAction _ urgent =>
      obtain ⟨armed, unspent⟩ := since.rotating rfl
      exact ⟨armed, urgent, unspent.mono (Bool.toNat_le _) (Nat.zero_le _)⟩
  | overlapLateAction _ urgent =>
      obtain ⟨armed, unspent⟩ := since.overlapped rfl
      exact ⟨armed, urgent, unspent⟩
  | predecessorPoll idempotent | overlapPoll idempotent => simp [idempotent] at effect
  | _ => simp only [Receiver.Recent] at recent count; omega

/-- A capability still open after a step was open before it, and the step only polled. -/
theorem SinceDraw.rotating_step {before after : Receiver} {newest current next : Nat}
    {arms pollSeen : Bool} {labels : List (Label Message)} {label : Label Message}
    (since : SinceDraw policy newest arms labels before)
    (step : Step policy before label after) (noDraw : label.isDraw = false)
    (phase : after.phase = .rotating current next (.armed pollSeen))
    : arms = true ∧ Unspent policy newest pollSeen.toNat 0 (labels ++ [label]) := by
  have recent := since.recent
  have count := since.newest_eq
  cases step with
  | drawAlone | drawSettled | drawOverlapped => simp [Label.isDraw] at noDraw
  | reoffer | ignore =>
      obtain ⟨armed, unspent⟩ := since.rotating phase
      exact ⟨armed, unspent.snoc rfl rfl rfl (Nat.le_refl _) (Nat.le_refl _)⟩
  | @predecessorPoll _ _ _ allowance message idempotent =>
      -- The tolerated poll is the one that turns a fresh allowance into a used one.
      cases allowance with
      | spent => simp [Allowance.afterPoll] at phase
      | armed seen =>
          cases seen <;> simp [Allowance.afterPoll] at phase
          obtain ⟨rfl, rfl, rfl⟩ := phase
          obtain ⟨armed, unspent⟩ := since.rotating rfl
          simp only [Receiver.Recent] at recent count
          exact ⟨armed, unspent.snoc_latePoll (by omega) idempotent⟩
  | @boundary _ earlier => cases earlier <;> simp [Phase.afterBoundary] at phase
  | _ => simp at phase

/-- An overlap was opened by the single poll that committed the newest generation. -/
theorem SinceDraw.overlapped_step {before after : Receiver} {newest previous current : Nat}
    {arms : Bool} {labels : List (Label Message)} {label : Label Message}
    (since : SinceDraw policy newest arms labels before)
    (step : Step policy before label after) (noDraw : label.isDraw = false)
    (phase : after.phase = .overlapped previous current)
    : arms = true ∧ Unspent policy newest 1 1 (labels ++ [label]) := by
  have recent := since.recent
  have count := since.newest_eq
  cases step with
  | drawAlone | drawSettled | drawOverlapped => simp [Label.isDraw] at noDraw
  | reoffer | ignore =>
      obtain ⟨armed, unspent⟩ := since.overlapped phase
      exact ⟨armed, unspent.snoc rfl rfl rfl (Nat.le_refl _) (Nat.le_refl _)⟩
  | @commitRetaining _ _ next pollSeen message idempotent =>
      obtain ⟨armed, unspent⟩ := since.rotating rfl
      simp only [Receiver.Recent] at recent count
      obtain rfl : next = newest := by omega
      exact ⟨armed, (unspent.mono (Bool.toNat_le _) (Nat.le_refl _)).snoc_commit idempotent⟩
  | @boundary _ earlier => cases earlier <;> simp [Phase.afterBoundary] at phase
  | _ => simp at phase

/-- The account survives every step that draws nothing. -/
theorem SinceDraw.step {before after : Receiver} {newest : Nat} {arms : Bool}
    {labels : List (Label Message)} {label : Label Message}
    (since : SinceDraw policy newest arms labels before)
    (step : Step policy before label after) (noDraw : label.isDraw = false)
    : SinceDraw policy newest arms (labels ++ [label]) after where
  newest_eq := by
    rcases step.drawn_eq with ⟨arms, rfl, _⟩ | ⟨_, same⟩
    · simp [Label.isDraw] at noDraw
    · exact since.newest_eq.trans same.symm
  recent := step.recent since.recent
  rotating := since.rotating_step step noDraw
  overlapped := since.overlapped_step step noDraw
  once := by
    rw [List.countP_append, List.countP_singleton]
    split
    · rename_i action
      cases label with
      | accept generation message =>
          simp only [Label.lateAction, Bool.and_eq_true, decide_eq_true_eq,
            Bool.not_eq_eq_eq_not, Bool.not_true] at action
          have unspent := (since.lateAction_needs step action.1 action.2).2.2
          simp [unspent.no_lateAction]
      | _ => simp [Label.lateAction] at action
    · exact since.once

/-- The account of a run that begins with a draw and draws nothing else, by induction on
its steps.
-/
theorem Run.sinceDraw {start drawn finish : Receiver} {newest : Nat} {arms : Bool}
    {labels : List (Label Message)} (recent : start.Recent)
    (draw : Step policy start (.draw newest arms) drawn)
    (run : Run policy drawn labels finish)
    (noDraw : labels.countP Label.isDraw = 0)
    : SinceDraw policy newest arms labels finish := by
  induction run with
  | refl => exact draw.sinceDraw recent
  | snoc earlier step ih =>
      simp only [List.countP_append, List.countP_singleton, Nat.add_eq_zero_iff,
        ite_eq_right_iff, Nat.one_ne_zero, imp_false, Bool.not_eq_true] at noDraw
      exact (ih noDraw.1).step step noDraw.2

/-- Between two draws at most one late action is accepted. -/
theorem Run.lateAction_once {start finish : Receiver} {newest : Nat} {arms : Bool}
    {before since : List (Label Message)}
    (run : Run policy start (before ++ .draw newest arms :: since) finish)
    (recent : start.Recent) (noDraw : since.countP Label.isDraw = 0)
    : since.countP (Label.lateAction policy newest) ≤ 1 := by
  obtain ⟨_, _, head, draw, tail⟩ := run.split_at
  exact (Run.sinceDraw (head.invariant recent Step.recent) draw tail noDraw).once

/-- An accepted late action found the capability armed by the last draw and unused since. -/
theorem Run.lateAction_needs {start finish : Receiver} {newest generation : Nat}
    {arms : Bool} {before since after : List (Label Message)} {message : Message}
    (run
      : Run policy start
          (before ++ .draw newest arms :: (since ++ .accept generation message :: after))
          finish)
    (recent : start.Recent) (noDraw : since.countP Label.isDraw = 0)
    (older : generation < newest) (effect : policy.idempotent message = false)
    : arms = true
      ∧ policy.urgent message = true
      ∧ Unspent policy newest 1 1 since := by
  obtain ⟨_, _, head, draw, tail⟩ := run.split_at
  obtain ⟨_, _, middle, step, _⟩ := tail.split_at
  exact (Run.sinceDraw (head.invariant recent Step.recent) draw middle noDraw).lateAction_needs
    step older effect

end KeypadBridge.Foundation.Rekeying
