import Tftp.Proofs.Asks
import Tftp.Proofs.Network

/-!
# Two sides on which nothing goes wrong

A transfer in which only the network may do harm: every call of a side succeeds, nothing is
cancelled, and what is delivered arrives before any deadline passes.

* `SenderMoves` and `ReceiverMoves` are the steps of one side whose call goes well.
* `Prompt` lets either side move. A wait ends without a datagram only when neither side can move:
  then nothing is on its way, and nothing will be sent before a deadline has passed.
* `Inevitable` says that every run comes to a goal.

Results:
* `Prompt.steps`: these are steps of the system, so what holds of all steps holds of them.
* `inevitable_of_rank`: a run that makes progress by a rank comes to its goal.
* `leads_sender`, `leads_receiver`, `leads_prompt` and `leads_still`: what there is to show about a
  step.

Deadlines are the only timers of the protocol (specification §5), and nothing here measures time.
That a wait ends without a datagram only when nothing can arrive any more is what "nothing arrives
late" means without a clock; it is as much as two sides with equal deadlines can hope for.

Out of scope: sides that are slow. A transfer in which a deadline passes although its datagram is on
the way is a run of the system, and is safe, but it is not prompt.
-/

namespace Tftp

/-! ## Runs that come to a goal -/

section Inevitable

variable {σ : Type} {step : σ → σ → Prop} {goal : σ → Prop} {s : σ}

/-- There is a step from `s`, and every one leads to the goal. -/
def Leads (step : σ → σ → Prop) (s : σ) (goal : σ → Prop) : Prop :=
  (∃ t, step s t) ∧ ∀ t, step s t → goal t

/-- `Inevitable step goal s`: from `s`, every run comes to the goal after finitely many steps and
does not get stuck before. -/
inductive Inevitable (step : σ → σ → Prop) (goal : σ → Prop) : σ → Prop where
  | now {s : σ} (reached : goal s) : Inevitable step goal s
  | later {s : σ} (goes : ∃ t, step s t) (rest : ∀ t, step s t → Inevitable step goal t) :
      Inevitable step goal s

/-- Every run comes to the goal if each step before it advances the first rank, or else lowers the
second. -/
theorem inevitable_of_rank (invariant : σ → Nat → Nat → Prop) (bound : Nat)
    (progress : ∀ s n e, invariant s n e → goal s ∨ n < bound ∧ Leads step s fun t =>
      ∃ n' e', invariant t n' e' ∧ (n < n' ∨ n' = n ∧ e' < e))
    {n e : Nat} (h : invariant s n e) : Inevitable step goal s := by
  -- Outside, on what is left of the first rank, and inside on the second.
  induction hd : bound - n using Nat.strong_induction_on generalizing s n e with
  | _ d outer =>
    induction e using Nat.strong_induction_on generalizing s with
    | _ e inner =>
      rcases progress s n e h with hgoal | ⟨hlt, goes, hnext⟩
      · exact .now hgoal
      · refine .later goes fun t moves => ?_
        obtain ⟨n', e', ht, hn | ⟨rfl, he⟩⟩ := hnext t moves
        · exact outer (bound - n') (by omega) ht rfl
        · exact inner e' he ht

end Inevitable

/-! ## Moves -/

/-- The call succeeds, and nothing is cancelled. -/
def Event.GoesWell : Event → Prop
  | ⟨.readBytes _, .ok _⟩ => True
  | ⟨.writeBytes _, .ok ()⟩ => True
  | ⟨.flush, .ok ()⟩ => True
  | ⟨.sendDatagram _, .ok ()⟩ => True
  | ⟨.receiveDatagram _, .ok _⟩ => True
  | ⟨.pollCancelled, cancelled⟩ => cancelled = false
  | _ => False

/-- A step of the sender whose call goes well. -/
inductive SenderMoves (net : Network) : System net → System net → Prop where
  | intro {s : System net} {call : Call} {resume : call.Answer → Sender} {answer : call.Answer}
      {source : Bytes} {network : net.State} (asks : s.sender.ask? = some ⟨call, resume⟩)
      (reads : Reads s.source ⟨call, answer⟩ source)
      (answers : net.Answers .sender s.network ⟨call, answer⟩ network)
      (well : Event.GoesWell ⟨call, answer⟩) :
      SenderMoves net s { s with sender := resume answer, source, network }

/-- A step of the receiver whose call goes well. -/
inductive ReceiverMoves (net : Network) : System net → System net → Prop where
  | intro {s : System net} {call : Call} {resume : call.Answer → Receiver} {answer : call.Answer}
      {file : OutputFile} {network : net.State} (asks : s.receiver.ask? = some ⟨call, resume⟩)
      (writes : Writes s.file ⟨call, answer⟩ file)
      (answers : net.Answers .receiver s.network ⟨call, answer⟩ network)
      (well : Event.GoesWell ⟨call, answer⟩) :
      ReceiverMoves net s { s with receiver := resume answer, file, network }

/-- The sender's deadline passes. -/
inductive SenderLapses (net : Network) : System net → System net → Prop where
  | intro {s : System net} {room : Nat} {resume : Except SystemError Datagram → Sender}
      (waits : s.sender.ask? = some ⟨.receiveDatagram room, resume⟩) :
      SenderLapses net s { s with sender := resume (.error .wouldBlock) }

/-- The receiver's deadline passes. -/
inductive ReceiverLapses (net : Network) : System net → System net → Prop where
  | intro {s : System net} {room : Nat} {resume : Except SystemError Datagram → Receiver}
      (waits : s.receiver.ask? = some ⟨.receiveDatagram room, resume⟩) :
      ReceiverLapses net s { s with receiver := resume (.error .wouldBlock) }

variable {net : Network} {s t : System net} {goal : System net → Prop}

/-- Neither side can move. -/
structure Still (net : Network) (s : System net) : Prop where
  sender : ∀ t, ¬ SenderMoves net s t
  receiver : ∀ t, ¬ ReceiverMoves net s t

/-- **A step of a prompt transfer** whose sides have equal deadlines. Where both wait in vain, the
sender has waited longer, since the receiver has answered its block in between; `tie` tells whether
both deadlines may pass before either side moves again. -/
inductive Prompt (net : Network) (tie : Bool) : System net → System net → Prop where
  | sender {s t : System net} (moves : SenderMoves net s t) : Prompt net tie s t
  | receiver {s t : System net} (moves : ReceiverMoves net s t) : Prompt net tie s t
  | senderLapses {s t : System net} (still : Still net s) (lapses : SenderLapses net s t) :
      Prompt net tie s t
  | bothLapse {s t u : System net} (ties : tie = true) (still : Still net s)
      (lapses : SenderLapses net s t) (follows : ReceiverLapses net t u) : Prompt net tie s u
  | receiverLapses {s t : System net} (still : Still net s)
      (alone : s.sender.outcome?.isSome = true) (lapses : ReceiverLapses net s t) :
      Prompt net tie s t

/-! ## Steps of the system -/

theorem SenderMoves.step (h : SenderMoves net s t) : Step net s t := by
  cases h with
  | intro asks reads answers => exact .sender asks reads answers

theorem ReceiverMoves.step (h : ReceiverMoves net s t) : Step net s t := by
  cases h with
  | intro asks writes answers => exact .receiver asks writes answers

theorem SenderLapses.step (h : SenderLapses net s t) : Step net s t := by
  cases h with
  | intro waits => exact .sender waits rfl rfl

theorem ReceiverLapses.step (h : ReceiverLapses net s t) : Step net s t := by
  cases h with
  | intro waits => exact .receiver waits rfl rfl

/-- A step of a prompt transfer is a step or two of the system. -/
theorem Prompt.steps {tie : Bool} (h : Prompt net tie s t) : Steps net s t := by
  cases h with
  | sender moves => exact .single moves.step
  | receiver moves => exact .single moves.step
  | senderLapses _ lapses => exact .single lapses.step
  | bothLapse _ _ lapses follows => exact .tail (.single lapses.step) follows.step
  | receiverLapses _ _ lapses => exact .single lapses.step

theorem SenderMoves.receiver_eq (h : SenderMoves net s t) : t.receiver = s.receiver := by
  cases h
  rfl

theorem ReceiverMoves.sender_eq (h : ReceiverMoves net s t) :
    t.sender = s.sender ∧ t.source = s.source := by
  cases h
  exact ⟨rfl, rfl⟩

/-- A receiver that has ended does not move. -/
theorem ReceiverMoves.underway (h : ReceiverMoves net s t) : s.receiver.outcome? = none := by
  cases h with
  | intro asks => exact Receiver.outcome?_eq_none_of_asks asks

/-- The deadline of a receiver that has ended does not pass. -/
theorem ReceiverLapses.underway (h : ReceiverLapses net s t) : s.receiver.outcome? = none := by
  cases h with
  | intro waits => exact Receiver.outcome?_eq_none_of_asks waits

/-! ## What there is to show about a step -/

theorem leads_sender {call : Call} {resume : call.Answer → Sender}
    (asks : s.sender.Asks call resume)
    (possible : ∃ answer source network, Event.GoesWell ⟨call, answer⟩ ∧
      Reads s.source ⟨call, answer⟩ source ∧
      net.Answers .sender s.network ⟨call, answer⟩ network)
    (all : ∀ answer source network, Event.GoesWell ⟨call, answer⟩ →
      Reads s.source ⟨call, answer⟩ source →
      net.Answers .sender s.network ⟨call, answer⟩ network →
      goal { s with sender := resume answer, source, network }) :
    Leads (SenderMoves net) s goal := by
  obtain ⟨answer, source, network, well, reads, answers⟩ := possible
  refine ⟨⟨_, .intro asks.ask? reads answers well⟩, fun t moves => ?_⟩
  cases moves with
  | intro asks' reads answers well =>
    rw [asks.ask?] at asks'
    cases asks'
    exact all _ _ _ well reads answers

theorem leads_receiver {call : Call} {resume : call.Answer → Receiver}
    (asks : s.receiver.Asks call resume)
    (possible : ∃ answer file network, Event.GoesWell ⟨call, answer⟩ ∧
      Writes s.file ⟨call, answer⟩ file ∧
      net.Answers .receiver s.network ⟨call, answer⟩ network)
    (all : ∀ answer file network, Event.GoesWell ⟨call, answer⟩ →
      Writes s.file ⟨call, answer⟩ file →
      net.Answers .receiver s.network ⟨call, answer⟩ network →
      goal { s with receiver := resume answer, file, network }) :
    Leads (ReceiverMoves net) s goal := by
  obtain ⟨answer, file, network, well, writes, answers⟩ := possible
  refine ⟨⟨_, .intro asks.ask? writes answers well⟩, fun t moves => ?_⟩
  cases moves with
  | intro asks' writes answers well =>
    rw [asks.ask?] at asks'
    cases asks'
    exact all _ _ _ well writes answers

/-- As long as a side can move, no deadline passes. -/
theorem leads_prompt {tie : Bool}
    (goes : (∃ t, SenderMoves net s t) ∨ ∃ t, ReceiverMoves net s t)
    (sender : ∀ t, SenderMoves net s t → goal t)
    (receiver : ∀ t, ReceiverMoves net s t → goal t) : Leads (Prompt net tie) s goal := by
  have hmoving : ¬ Still net s := by
    rintro ⟨nosender, noreceiver⟩
    rcases goes with ⟨t, moves⟩ | ⟨t, moves⟩
    · exact nosender t moves
    · exact noreceiver t moves
  refine ⟨?_, fun t moves => ?_⟩
  · rcases goes with ⟨t, moves⟩ | ⟨t, moves⟩
    · exact ⟨t, .sender moves⟩
    · exact ⟨t, .receiver moves⟩
  · cases moves with
    | sender moves => exact sender t moves
    | receiver moves => exact receiver t moves
    | senderLapses still => exact absurd still hmoving
    | bothLapse _ still => exact absurd still hmoving
    | receiverLapses still => exact absurd still hmoving

/-- Where neither side can move and the sender is under way, its deadline passes first. -/
theorem leads_still {tie : Bool} (still : Still net s) (underway : s.sender.outcome? = none)
    (sender : Leads (SenderLapses net) s goal)
    (both : tie = true → ∀ t u, SenderLapses net s t → ReceiverLapses net t u → goal u) :
    Leads (Prompt net tie) s goal := by
  obtain ⟨⟨t, lapses⟩, hsender⟩ := sender
  refine ⟨⟨t, .senderLapses still lapses⟩, fun u moves => ?_⟩
  cases moves with
  | sender moves => exact absurd moves (still.sender u)
  | receiver moves => exact absurd moves (still.receiver u)
  | senderLapses _ lapses => exact hsender u lapses
  | bothLapse ties _ lapses follows => exact both ties _ u lapses follows
  | receiverLapses _ alone =>
    rw [underway] at alone
    cases alone

end Tftp
