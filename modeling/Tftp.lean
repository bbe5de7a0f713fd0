import Tftp.Packet.Summary
import Tftp.Job
import Tftp.Simulation.Testbed
import Tftp.Main
import Tftp.Proofs.RoundTrip
import Tftp.Proofs.Packet.Canonical
import Tftp.Proofs.PeerError
import Tftp.Proofs.Negotiation
import Tftp.Proofs.Stage
import Tftp.Proofs.Sending.Order
import Tftp.Proofs.Receiving.Contents
import Tftp.Proofs.Receiving.Acknowledging
import Tftp.Proofs.Transfer.Confirmed
import Tftp.Proofs.Transfer.Truthful
import Tftp.Proofs.Transfer.Notifying
import Tftp.Proofs.Transfer.Socket
import Tftp.Proofs.Network.Fifo
import Tftp.Proofs.Network.Reordering
import Tftp.Proofs.Network.Recovery
import Tftp.Proofs.Transfer.Fitting
import Tftp.Proofs.Job
import Tftp.Proofs.Negotiation.Specification
import Tftp.Proofs.Sending.Retrying
import Tftp.Proofs.Receiving.Retrying
import Tftp.Proofs.Cancelling
import Tftp.Proofs.Packet.Truncated
import Tftp.Proofs.Sending.Unreadable
import Tftp.Proofs.Receiving.Unstored
import Tftp.Proofs.CommandLine.Numbers
import Tftp.Proofs.Endpoint.Accounting
import Tftp.Proofs.Endpoint.Oversized
import Tftp.Proofs.CommandLine.Status
import Tftp.Proofs.Packet.Position
import Tftp.Proofs.Packet.Arithmetic
