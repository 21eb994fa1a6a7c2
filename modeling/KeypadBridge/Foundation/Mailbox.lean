import KeypadBridge.Foundation.Machine

/-! A mailbox between two tasks. Producers append messages to a shared queue; the consumer
swaps the whole queue out and then handles the batch message by message. What it handles is an
input of the machine behind it, which other tasks may move in between.
-/

namespace KeypadBridge.Foundation

/-- The machine behind a mailbox, the shared queue, and the batch that the consumer has
swapped out and not handled yet.
-/
structure Mailbox (State Message : Type) where
  state : State
  queue : List Message := []
  batch : List Message := []

/-- A step of one of the tasks around a mailbox. -/
inductive MailboxOp (Message Env Input : Type) where
  | push (message : Message)
  /-- The consumer begins a batch. -/
  | swap
  /-- The consumer handles the next message of its batch. -/
  | handle (env : Env)
  /-- An input of the machine that is no message. -/
  | other (input : Input)

/-- What one step shows: the message that was handled, and what the machine did. -/
structure MailboxStep (Message Input Output : Type) where
  handled : Option Message := none
  moved : Option (Input × Output) := none

/-- How a mailbox is read: when the consumer may begin a batch, which input a message is, which
inputs are no messages, and which of these come from the consumer's own task, which is busy
until its batch is empty.
-/
structure MailboxRules (State Message Env Input : Type) where
  serves : State → Bool
  deliver : Message → Env → Input
  besides : Input → Bool
  ownTask : Input → Bool

namespace Mailbox

variable {State Message Env Input Output : Type}

def move (machine : Machine State Input Output) (mailbox : Mailbox State Message)
    (handled : Option Message) (input : Input)
    : Mailbox State Message × MailboxStep Message Input Output :=
  let (state, output) := machine.step mailbox.state input
  ({ mailbox with state }, { handled, moved := some (input, output) })

/-- One step. -/
def perform (rules : MailboxRules State Message Env Input)
    (machine : Machine State Input Output) (mailbox : Mailbox State Message)
    : MailboxOp Message Env Input → Mailbox State Message × MailboxStep Message Input Output
  | .push message => ({ mailbox with queue := mailbox.queue ++ [message] }, {})
  | .swap =>
      if mailbox.batch.isEmpty && rules.serves mailbox.state then
        ({ mailbox with batch := mailbox.queue, queue := [] }, {})
      else (mailbox, {})
  | .handle env =>
      match mailbox.batch with
      | [] => (mailbox, {})
      | message :: rest =>
          { mailbox with batch := rest }.move machine (some message) (rules.deliver message env)
  | .other input =>
      if rules.besides input && (mailbox.batch.isEmpty || !rules.ownTask input) then
        mailbox.move machine none input
      else (mailbox, {})

end Mailbox

def mailboxMachine {State Message Env Input Output : Type}
    (rules : MailboxRules State Message Env Input) (machine : Machine State Input Output)
    : Machine (Mailbox State Message) (MailboxOp Message Env Input)
        (MailboxStep Message Input Output) where
  step := Mailbox.perform rules machine

namespace Mailbox

variable {State Message Env Input Output : Type}

/-- The messages that were pushed, in their order. -/
def pushed (ops : List (MailboxOp Message Env Input)) : List Message :=
  ops.filterMap fun
    | .push message => some message
    | _ => none

/-- The messages that were handled, in their order. -/
def handled (steps : List (MailboxStep Message Input Output)) : List Message :=
  steps.filterMap MailboxStep.handled

/-- What the machine was fed, in its order. -/
def inputs (steps : List (MailboxStep Message Input Output)) : List Input :=
  steps.filterMap fun step => step.moved.map Prod.fst

/-- What the machine showed, in its order. -/
def outputs (steps : List (MailboxStep Message Input Output)) : List Output :=
  steps.filterMap fun step => step.moved.map Prod.snd

/-- The messages that wait, those of the running batch first. -/
def waiting (mailbox : Mailbox State Message) : List Message := mailbox.batch ++ mailbox.queue

variable (rules : MailboxRules State Message Env Input) (machine : Machine State Input Output)

/-- One step moves a message from one place to the next, and loses none. -/
theorem perform_conserves (mailbox : Mailbox State Message) (op : MailboxOp Message Env Input)
    : (mailbox.perform rules machine op).2.handled.toList
        ++ (mailbox.perform rules machine op).1.waiting
      = mailbox.waiting ++ pushed [op] := by
  cases op with
  | push message => simp [perform, waiting, pushed]
  | swap =>
      simp only [perform]
      split
      · rename_i begins
        have finished : mailbox.batch = [] := by simp_all
        simp [waiting, pushed, finished]
      · simp [pushed]
  | handle env =>
      simp only [perform]
      split
      · simp [pushed]
      · rename_i message rest batch
        simp [move, waiting, pushed, batch]
  | other input =>
      simp only [perform]
      split
      · simp [move, waiting, pushed]
      · simp [pushed]

/-- One step leaves the machine alone, or feeds it one input: the message that is handled, or
an input that is no message.
-/
theorem perform_moves (mailbox : Mailbox State Message) (op : MailboxOp Message Env Input)
    : let after := mailbox.perform rules machine op
      (after.2.handled = none ∧ after.2.moved = none ∧ after.1.state = mailbox.state)
      ∨ ∃ input output,
          after.2.moved = some (input, output)
          ∧ machine.step mailbox.state input = (after.1.state, output)
          ∧ ((∃ message env, after.2.handled = some message ∧ input = rules.deliver message env)
            ∨ (after.2.handled = none ∧ rules.besides input = true)) := by
  cases op with
  | push => exact .inl ⟨rfl, rfl, rfl⟩
  | swap =>
      simp only [perform]
      split <;> exact .inl ⟨rfl, rfl, rfl⟩
  | handle env =>
      simp only [perform]
      split
      · exact .inl ⟨rfl, rfl, rfl⟩
      · exact .inr ⟨_, _, rfl, rfl, .inl ⟨_, env, rfl, rfl⟩⟩
  | other input =>
      simp only [perform]
      split
      · rename_i taken
        exact .inr ⟨_, _, rfl, rfl, .inr ⟨rfl, (Bool.and_eq_true _ _ ▸ taken).1⟩⟩
      · exact .inl ⟨rfl, rfl, rfl⟩

/-- Every message is handled once and in order, whatever comes between: what was handled and
what still waits is what was there and what was pushed.
-/
theorem handled_in_order (mailbox : Mailbox State Message)
    (ops : List (MailboxOp Message Env Input))
    : handled ((mailboxMachine rules machine).history mailbox ops)
        ++ ((mailboxMachine rules machine).run mailbox ops).waiting
      = mailbox.waiting ++ pushed ops := by
  induction ops generalizing mailbox with
  | nil => simp [handled, pushed]
  | cons op rest ih =>
      have first := mailbox.perform_conserves rules machine op
      have later := ih (mailbox.perform rules machine op).1
      have pushes : pushed (op :: rest) = pushed [op] ++ pushed rest := by
        rw [← List.singleton_append, pushed, List.filterMap_append]
        rfl
      have handles
          : handled ((mailboxMachine rules machine).history mailbox (op :: rest))
            = (mailbox.perform rules machine op).2.handled.toList
              ++ handled ((mailboxMachine rules machine).history
                (mailbox.perform rules machine op).1 rest) := by
        simp only [handled, Machine.history, List.filterMap_cons, mailboxMachine]
        cases (mailbox.perform rules machine op).2.handled <;> rfl
      rw [pushes, handles, ← List.append_assoc, ← first, List.append_assoc, List.append_assoc]
      exact congrArg _ later

/-- The tasks around the mailbox drive the machine like one task that feeds it the inputs one
by one.
-/
theorem run_state (mailbox : Mailbox State Message) (ops : List (MailboxOp Message Env Input))
    : let steps := (mailboxMachine rules machine).history mailbox ops
      ((mailboxMachine rules machine).run mailbox ops).state
          = machine.run mailbox.state (inputs steps)
      ∧ machine.history mailbox.state (inputs steps) = outputs steps := by
  induction ops generalizing mailbox with
  | nil => exact ⟨rfl, rfl⟩
  | cons op rest ih =>
      obtain ⟨state, shown⟩ := ih (mailbox.perform rules machine op).1
      simp only [Machine.history, Machine.run, inputs, outputs, List.filterMap_cons,
        mailboxMachine] at state shown ⊢
      rcases mailbox.perform_moves rules machine op with
        ⟨_, still, same⟩ | ⟨input, output, moved, made, _⟩
      · rw [same] at state shown
        simp only [still, Option.map_none]
        exact ⟨state, shown⟩
      · simp only [moved, Option.map_some, Machine.run, Machine.history, made]
        exact ⟨state, congrArg _ shown⟩

/-- Where a message can be read back from the input it is delivered as, the messages among
the inputs are the handled ones.
-/
theorem messages_of_inputs (read : Input → Option Message)
    (delivered : ∀ message env, read (rules.deliver message env) = some message)
    (others : ∀ input, rules.besides input = true → read input = none)
    (mailbox : Mailbox State Message) (ops : List (MailboxOp Message Env Input))
    : let steps := (mailboxMachine rules machine).history mailbox ops
      (inputs steps).filterMap read = handled steps := by
  induction ops generalizing mailbox with
  | nil => rfl
  | cons op rest ih =>
      have later := ih (mailbox.perform rules machine op).1
      simp only [Machine.history, inputs, handled, List.filterMap_cons, mailboxMachine]
        at later ⊢
      rcases mailbox.perform_moves rules machine op with
        ⟨unhandled, still, _⟩ | ⟨input, output, moved, _, kind⟩
      · simpa only [unhandled, still, Option.map_none] using later
      · simp only [moved, Option.map_some, List.filterMap_cons]
        rcases kind with ⟨message, env, seen, rfl⟩ | ⟨unhandled, besides⟩
        · simp only [seen, delivered, later]
        · simp only [unhandled, others input besides, later]

/-- A consumer that finishes its batch has handled all of it. -/
theorem handle_all (env : Env) (mailbox : Mailbox State Message) (count : Nat)
    (enough : count = mailbox.batch.length)
    : let ops := List.replicate count (MailboxOp.handle env)
      let after := (mailboxMachine rules machine).run mailbox ops
      handled ((mailboxMachine rules machine).history mailbox ops) = mailbox.batch
      ∧ after.batch = []
      ∧ after.queue = mailbox.queue
      ∧ after.state = machine.run mailbox.state (mailbox.batch.map (rules.deliver · env)) := by
  induction count generalizing mailbox with
  | zero =>
      have finished : mailbox.batch = [] := List.length_eq_zero_iff.mp enough.symm
      simp [handled, finished]
  | succ count ih =>
      cases batch : mailbox.batch with
      | nil => simp [batch] at enough
      | cons message rest =>
          have step
              : mailbox.perform rules machine (.handle env)
                = ({ mailbox with batch := rest }.move machine (some message)
                    (rules.deliver message env)) := by
            simp only [perform, batch]
          have shorter : count = rest.length := by simpa [batch] using enough
          obtain ⟨seen, emptied, kept, reached⟩ :=
            ih (mailbox.perform rules machine (.handle env)).1 (by rw [step]; exact shorter)
          rw [step] at seen emptied kept reached
          simp only [List.replicate_succ, Machine.history, Machine.run, mailboxMachine, step]
          exact ⟨congrArg (message :: ·) seen, emptied, kept, reached⟩

/-- The rest of the consumer's turn: the batch, the queue as the next batch, and that batch. -/
def restOfTurn (mailbox : Mailbox State Message) (env : Env)
    : List (MailboxOp Message Env Input) :=
  List.replicate mailbox.batch.length (.handle env)
    ++ .swap :: List.replicate mailbox.queue.length (.handle env)

/-- One turn of a consumer that serves handles all that waits. -/
theorem restOfTurn_handles (env : Env) (mailbox : Mailbox State Message)
    (serves : rules.serves mailbox.state = true)
    (goesOn
      : ∀ state message,
          rules.serves (machine.step state (rules.deliver message env)).1 = rules.serves state)
    : let ops := mailbox.restOfTurn env
      handled ((mailboxMachine rules machine).history mailbox ops) = mailbox.waiting
      ∧ ((mailboxMachine rules machine).run mailbox ops).waiting = [] := by
  obtain ⟨first, emptied, kept, reached⟩ :=
    handle_all rules machine env mailbox mailbox.batch.length rfl
  have stillServes
      : rules.serves
          (machine.run mailbox.state (mailbox.batch.map (rules.deliver · env))) = true := by
    have onward (messages : List Message) (state : State)
        : rules.serves (machine.run state (messages.map (rules.deliver · env)))
          = rules.serves state := by
      induction messages generalizing state with
      | nil => rfl
      | cons message rest ih => exact (ih _).trans (goesOn state message)
    rw [onward, serves]
  simp only [restOfTurn, Machine.run_append, Machine.history_append]
  generalize (mailboxMachine rules machine).run mailbox _ = middle at emptied kept reached ⊢
  have swapped
      : middle.perform rules machine .swap
        = ({ middle with batch := middle.queue, queue := [] }, {}) := by
    simp [perform, emptied, reached, stillServes]
  obtain ⟨second, emptiedAgain, keptAgain, _⟩ :=
    handle_all rules machine env { middle with batch := middle.queue, queue := [] }
      mailbox.queue.length (by rw [kept])
  simp only [Machine.history, Machine.run, mailboxMachine, swapped] at *
  constructor
  · simp only [handled, List.filterMap_append, List.filterMap_cons, waiting] at first second ⊢
    rw [first, second, kept]
  · simp only [waiting, emptiedAgain, keptAgain, List.append_nil]

end Mailbox

end KeypadBridge.Foundation
