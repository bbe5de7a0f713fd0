import Tftp.Proofs.Receiving.Cancelling
import Tftp.Proofs.Sending.Cancelling

/-!
# Cancelling

A cancellation that comes before a transfer, or while it waits for a datagram, takes effect before
the next wait.

* `firstAckTrace` and `lastDataTrace` are runs that are cancelled while they wait for what ends the
  attempt.

Results:
* **`cancellation_halts`**: what follows a cancellation, in every run of both sides, and that the
  call ends.

The specification asks for a cancellation token that is checked before every attempt (§9 and §10.5).
This says what that check is worth: how many calls are left from the moment a cancellation comes,
which outcomes it gives way to, and that no block is lost from the count. The sides have modules of
their own, since a sender is left with a block to count and one to read, a receiver with one to
store and to acknowledge.

Out of scope: a cancellation that is withdrawn. From its moment on every look finds it
(`StaysCancelled`), which is what the flag of a started transfer does (`Tftp.Job`).
-/

namespace Tftp

/-- **Cancellation.** If a cancellation comes before a call that sends or receives a file, or during
one of its waits, and stays, then whatever the peer does and whichever calls fail:

* no wait begins any more. A sender hands nothing out; a receiver hands out at most one datagram,
  which acknowledges what the last wait brought or tells the peer that it cannot be stored;
* the call ends as cancelled, unless what the last wait brought and what becomes of it end it, or
  the next block cannot be read. In each of these cases the call has the outcome of that case;
* the acknowledged or accepted blocks are counted, also the one that the last wait was about.

And the call ends, whatever the surroundings answer. -/
theorem cancellation_halts {before : List Event} (moment : Moment before) :
    (∀ (s t : Sender) (after : List Event), Runs Sender.ask? s.sendFile (before ++ after) t →
      StaysCancelled after → s.Halts before after t) ∧
      (∀ (r t : Receiver) (after : List Event),
        Runs Receiver.ask? r.receiveFile (before ++ after) t →
        StaysCancelled after → r.Halts before after t) ∧
      ∀ surroundings : List Event → (call : Call) → call.Answer, Follows surroundings before →
        (∀ after, surroundings (before ++ after) .pollCancelled = true) →
        (∀ s u : Sender, Runs Sender.ask? s.sendFile before u →
          ∃ after t, Follows surroundings (before ++ after) ∧
            Runs Sender.ask? s.sendFile (before ++ after) t ∧ t.outcome?.isSome) ∧
        ∀ r u : Receiver, Runs Receiver.ask? r.receiveFile before u →
          ∃ after t, Follows surroundings (before ++ after) ∧
            Runs Receiver.ask? r.receiveFile (before ++ after) t ∧ t.outcome?.isSome := by
  refine ⟨fun s t after run => Sender.halts_of_runs run moment,
    fun r t after run => Receiver.halts_of_runs run moment, ?_⟩
  intro surroundings follows cancelled
  constructor
  · intro s u hbefore
    obtain ⟨after, t, hfollows, hafter, hended⟩ := ends_of_bounded follows
      fun after t hfollows hafter => (Sender.halts_of_runs (hbefore.append hafter) moment
        (staysCancelled_of_follows hfollows cancelled)).calls
    exact ⟨after, t, hfollows, hbefore.append hafter, Sender.ask?_eq_none_iff.mp hended⟩
  · intro r u hbefore
    obtain ⟨after, t, hfollows, hafter, hended⟩ := ends_of_bounded follows
      fun after t hfollows hafter => (Receiver.halts_of_runs (hbefore.append hafter) moment
        (staysCancelled_of_follows hfollows cancelled)).calls
    exact ⟨after, t, hfollows, hbefore.append hafter, Receiver.ask?_eq_none_iff.mp hended⟩

/-- A trace whose last wait brings the acknowledgement of a first block of two bytes. -/
def firstAckTrace : List Event :=
  [⟨.readBytes 2, .ok [7, 8]⟩, ⟨.pollCancelled, false⟩, ⟨.sendDatagram [0, 3, 0, 1, 7, 8], .ok ()⟩,
    ⟨.receiveDatagram datagramRoom, .ok ⟨.unspecified, [0, 4, 0, 1]⟩⟩]

/-- A trace whose wait brings a block of one byte, which is the last one. -/
def lastDataTrace : List Event :=
  [⟨.pollCancelled, false⟩, ⟨.receiveDatagram 6, .ok ⟨.unspecified, [0, 3, 0, 1, 7]⟩⟩]

/-- Surroundings in which nobody answers and the transfer is cancelled. -/
def cancelledAtOnce (es : List Event) : (call : Call) → call.Answer
  | .pollCancelled => true
  | call => unanswered es call

/-- A sender cancelled during that wait has sent two bytes and reads on, but sends no more. A
receiver cancelled during that wait stores and acknowledges the block, and returns. A sender
cancelled before the call ends as well. -/
theorem lastDataTrace_halts :
    (∃ t, Runs Sender.ask? (Sender.new 2 2 .zero).sendFile
        (firstAckTrace ++ [⟨.readBytes 2, .ok [9]⟩, ⟨.pollCancelled, true⟩]) t ∧
      t.outcome? = some (.error .cancelled) ∧ t.transferred = 2 ∧
      handed firstAckTrace = [[0, 3, 0, 1, 7, 8]] ∧
      handed [⟨.readBytes 2, .ok [9]⟩, ⟨.pollCancelled, true⟩] = []) ∧
      (∃ t, Runs Receiver.ask? (Receiver.new 2 2 .zero).receiveFile
        (lastDataTrace ++ [⟨.writeBytes [7], .ok ()⟩, ⟨.flush, .ok ()⟩,
          ⟨.sendDatagram [0, 4, 0, 1], .ok ()⟩]) t ∧
        t.outcome? = some (.ok ()) ∧ t.transferred = 1) ∧
      ∃ es t, Follows cancelledAtOnce es ∧
        Runs Sender.ask? (Sender.new 2 2 .zero).sendFile es t ∧ t.outcome?.isSome := by
  refine ⟨?_, ?_, ?_⟩
  · have run : Runs Sender.ask? (Sender.new 2 2 .zero).sendFile
        (firstAckTrace ++ [⟨.readBytes 2, .ok [9]⟩, ⟨.pollCancelled, true⟩]) _ :=
      .cons _ rfl (.cons _ rfl (.cons _ rfl (.cons _ rfl (.cons _ rfl (.cons _ rfl (.nil _))))))
    obtain ⟨hsend, -⟩ := cancellation_halts
      (.inr ⟨firstAckTrace.take 3, _, datagramRoom, .ok ⟨.unspecified, [0, 4, 0, 1]⟩, rfl, rfl⟩)
    have h := hsend _ _ _ run (by simp [StaysCancelled])
    refine ⟨_, run, rfl, ?_, by decide, h.sends⟩
    rw [h.transferred]
    decide
  · have run : Runs Receiver.ask? (Receiver.new 2 2 .zero).receiveFile
        (lastDataTrace ++ [⟨.writeBytes [7], .ok ()⟩, ⟨.flush, .ok ()⟩,
          ⟨.sendDatagram [0, 4, 0, 1], .ok ()⟩]) _ :=
      .cons _ rfl (.cons _ rfl (.cons _ rfl (.cons _ rfl (.cons _ rfl (.nil _)))))
    have wait : LastWait [⟨.pollCancelled, false⟩] (.packet .unspecified (.data 1 [7]))
        lastDataTrace := ⟨6, .ok ⟨.unspecified, [0, 3, 0, 1, 7]⟩, rfl, rfl⟩
    obtain ⟨-, hreceive, -⟩ := cancellation_halts (.inr ⟨_, _, wait⟩)
    have h := hreceive _ _ _ run (by simp [StaysCancelled])
    refine ⟨_, run, ?_, ?_⟩
    · exact h.otherwise rfl _ (.accepted ⟨_, _, wait, rfl⟩ (by decide)
        (by simp [Event.IsWriteFailure]) (by simp [Event.IsSocketFailure]))
    · rw [h.transferred]
      decide
  · obtain ⟨-, -, hends⟩ := cancellation_halts (.inl rfl)
    obtain ⟨hsend, -⟩ := hends cancelledAtOnce .nil fun _ => rfl
    exact hsend _ _ (.nil _)

end Tftp
