import Tftp.Call

/-!
# What a wait for a datagram brings

A wait ends with a packet, a malformed datagram, no datagram at all, or a failure of the socket.
`Arrival.ofAnswer` tells which (`receive` and `receive_data`, specification §4.3). Exactly one
datagram is read, in one call that the deadline bounds.

Of a datagram that is longer than the room for it only the first bytes are at hand, so it is refused
by its true length before anything of it is read: what was cut short is never taken for a packet.
The specification wants oversized datagrams rejected (§4.3). That takes precedence over what they
hold, also over an error packet (§8, Scenario D): see `Tftp.Proofs.PeerError`.

`Traffic` counts the datagrams of a socket, modulo 2³², whatever is in them.

Results:
* `ofAnswer_of_length_le` and `ofAnswer_of_longer`: a datagram that fits is decoded whole, and one
  that is longer is not decoded.
* `ofAnswer_eq_packet_iff`: a packet comes exactly from a datagram that fits and decodes to it.

Out of scope: where a datagram comes from. The socket is connected to one peer, and the system keeps
those of others away (§6); the source is recorded and not looked at.
-/

namespace Tftp

/-- The number of bytes that any datagram fits into. -/
def datagramRoom : Nat := 65536

/-- The length of what precedes the payload of a data packet. -/
def headerLength : Nat := 4

/-- How a wait for a datagram ended. -/
inductive Arrival where
  | packet (source : Address) (packet : Packet)
  | malformed (fault : Malformed)
  | nothing
  | failed (failure : Failure)
  deriving DecidableEq, Repr

/-- The bytes of a datagram that there is room for. -/
def Datagram.received (datagram : Datagram) (room : Nat) : Bytes := datagram.bytes.take room

namespace Arrival

/-- What the answer to a wait with a given room means. -/
def ofAnswer (room : Nat) : Except SystemError Datagram → Arrival
  | .error reason => if reason.isNoDatagram then nothing else failed (.socketFailed .receive reason)
  | .ok datagram =>
    if room < datagram.bytes.length then malformed (.tooLarge datagram.bytes.length)
    else
      match Packet.decode (datagram.received room) with
      | .ok p => packet datagram.source p
      | .error fault => malformed fault

/-- A datagram that fits is decoded whole. -/
theorem ofAnswer_of_length_le {room : Nat} {datagram : Datagram}
    (h : datagram.bytes.length ≤ room) :
    ofAnswer room (.ok datagram) =
      match Packet.decode datagram.bytes with
      | .ok p => packet datagram.source p
      | .error fault => malformed fault := by
  simp only [ofAnswer, Datagram.received, Nat.not_lt.2 h, if_false, List.take_of_length_le h]

/-- A datagram that is longer than the room for it is refused, whatever is in it. -/
theorem ofAnswer_of_longer {room : Nat} {datagram : Datagram}
    (long : room < datagram.bytes.length) :
    ofAnswer room (.ok datagram) = malformed (.tooLarge datagram.bytes.length) :=
  if_pos long

/-- A packet comes exactly from a datagram that fits and decodes to it. -/
theorem ofAnswer_eq_packet_iff {room : Nat} {answer : Except SystemError Datagram}
    {source : Address} {p : Packet} :
    ofAnswer room answer = packet source p ↔
      ∃ bytes, answer = .ok ⟨source, bytes⟩ ∧ bytes.length ≤ room ∧
        Packet.decode bytes = .ok p := by
  cases answer with
  | error reason => simp only [ofAnswer]; split <;> simp
  | ok datagram =>
    by_cases h : datagram.bytes.length ≤ room
    · rw [ofAnswer_of_length_le h]
      constructor
      · intro hp
        split at hp
        · cases hp
          exact ⟨datagram.bytes, rfl, h, by assumption⟩
        · cases hp
      · rintro ⟨bytes, he, _, hd⟩
        cases he
        simp only [hd]
    · constructor
      · intro hp
        simp only [ofAnswer, Nat.lt_of_not_le h, if_true, reduceCtorEq] at hp
      · rintro ⟨bytes, he, hl, _⟩
        cases he
        exact absurd hl h

end Arrival

/-- How many datagrams were handed to a socket and obtained from it, modulo 2³². -/
structure Traffic where
  sent : UInt32
  received : UInt32
  deriving DecidableEq, Repr

namespace Traffic

/-- The counts of a new socket. -/
def zero : Traffic := ⟨0, 0⟩

/-- Counts an attempt to send. -/
def countSent (t : Traffic) : Traffic := { t with sent := t.sent + 1 }

/-- Counts the datagram that a wait obtained, if it obtained one. -/
def countAnswer (t : Traffic) : Except SystemError Datagram → Traffic
  | .ok _ => { t with received := t.received + 1 }
  | .error _ => t

end Traffic

end Tftp
