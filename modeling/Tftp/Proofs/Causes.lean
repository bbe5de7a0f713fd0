import Tftp.Arrival
import Tftp.Proofs.Trace

/-!
# What shows a failure

A failure has a kind, and the kind names something that happened. `Event.Shows` says which single
events show a failure of a kind: a call on the file that failed, a call on the socket that failed,
an error packet that came, or the answer that the transfer was cancelled. Refused options, waits
that brought nothing useful and a wrong first answer are not shown by one event alone.

Results:
* `Arrival.ofAnswer_eq_failed_iff`: a wait fails exactly if the socket did.
* `Event.bringsError_of_arrival` and `Event.shows_of_failed`: what an arrival shows.

The kinds are those of the specification (§7 and §10.3). What a single event cannot show is told by
more than one: see `Tftp.Proofs.Transfer.Outcome` for timeouts, wrong first answers and refused
options.

Out of scope: the words of a message. Two failures of one kind are told apart by their causes, not
by their wording.
-/

namespace Tftp

/-- A call on the file failed. -/
def Event.FailsFile : Event → Prop
  | ⟨.openForReading _, .error _⟩ | ⟨.openForWriting _, .error _⟩ | ⟨.fileSize, .error _⟩
  | ⟨.readBytes _, .error _⟩ | ⟨.writeBytes _, .error _⟩ | ⟨.flush, .error _⟩ => True
  | _ => False

/-- A call on the socket failed. It has not failed if a wait only brought no datagram. -/
def Event.FailsSocket : Event → Prop
  | ⟨.createSocket, .error _⟩ | ⟨.bindSocket _, .error _⟩ | ⟨.connectSocket _, .error _⟩
  | ⟨.setReadDeadline _, .error _⟩ | ⟨.setWriteDeadline _, .error _⟩
  | ⟨.sendDatagram _, .error _⟩ => True
  | ⟨.receiveDatagram _, .error reason⟩ => reason.isNoDatagram = false
  | _ => False

/-- A wait brought an error packet. -/
def Event.BringsError (e : Event) : Prop :=
  ∃ room source bytes code text, e = ⟨.receiveDatagram room, .ok ⟨source, bytes⟩⟩ ∧
    bytes.length ≤ room ∧ Packet.decode bytes = .ok (.error code text)

/-- The event shows a failure of a kind. -/
def Event.Shows (e : Event) : ErrorKind → Prop
  | .fileAccess => e.FailsFile
  | .peerError => e.BringsError
  | .socket => e.FailsSocket
  | .cancelled => e = ⟨.pollCancelled, true⟩
  | .none | .invalidOption | .timedOut | .illegalResponse => False

theorem Event.bringsError_of_arrival {room : Nat} {answer : Except SystemError Datagram}
    {source : Address} {code : ErrorCode} {text : Bytes}
    (h : Arrival.ofAnswer room answer = .packet source (.error code text)) :
    Event.BringsError ⟨.receiveDatagram room, answer⟩ := by
  obtain ⟨bytes, rfl, hlength, hdecode⟩ := Arrival.ofAnswer_eq_packet_iff.mp h
  exact ⟨room, source, bytes, code, text, rfl, hlength, hdecode⟩

/-- A wait fails exactly if the socket did, unless it only brought no datagram. -/
theorem Arrival.ofAnswer_eq_failed_iff {room : Nat} {answer : Except SystemError Datagram}
    {failure : Failure} :
    ofAnswer room answer = .failed failure ↔
      ∃ reason, answer = .error reason ∧ reason.isNoDatagram = false ∧
        failure = .socketFailed .receive reason := by
  cases answer with
  | error reason =>
    cases hreason : reason.isNoDatagram with
    | true => simp [ofAnswer, hreason]
    | false =>
      simp only [ofAnswer, hreason]
      constructor
      · rintro ⟨⟩
        exact ⟨reason, rfl, hreason, rfl⟩
      · rintro ⟨_, ⟨⟩, -, rfl⟩
        rfl
  | ok datagram =>
    unfold ofAnswer
    dsimp only
    split
    · simp
    · split <;> simp

theorem Event.shows_of_failed {room : Nat} {answer : Except SystemError Datagram}
    {failure : Failure} (h : Arrival.ofAnswer room answer = .failed failure) :
    Event.Shows ⟨.receiveDatagram room, answer⟩ failure.kind := by
  obtain ⟨reason, rfl, hreason, rfl⟩ := Arrival.ofAnswer_eq_failed_iff.mp h
  exact hreason

/-- Some event of a trace shows a failure of a kind. -/
def Shown (kind : ErrorKind) (es : List Event) : Prop := ∃ e ∈ es, e.Shows kind

theorem shown_snoc {kind : ErrorKind} {es : List Event} {e : Event} (h : e.Shows kind) :
    Shown kind (es ++ [e]) :=
  ⟨e, List.mem_append_right _ (List.mem_singleton_self _), h⟩

theorem Shown.mono {kind : ErrorKind} {es fs : List Event} (h : Shown kind es) (sub : es ⊆ fs) :
    Shown kind fs := by
  obtain ⟨e, he, hshows⟩ := h
  exact ⟨e, sub he, hshows⟩

theorem Shown.within {kind : ErrorKind} {es : List Event} (h : Shown kind es)
    (before after : List Event) : Shown kind (before ++ (es ++ after)) :=
  h.mono fun _ he => List.mem_append_right _ (List.mem_append_left _ he)

end Tftp
