import Tftp.Failure

/-!
# Option negotiation

A request may carry options. `negotiate` turns them into the parameters of the transfer and into the
list that is acknowledged to the peer, or refuses the first value that is out of range
(specification §4.2 and §10.7).

* The last value of an option counts; its place in the acknowledgement is that of its first.
* A sender answers a transfer size with the length of its file, a receiver accepts the given one,
  which is for information only.
* Options of other kinds are passed over.
* Without a timeout option the deadline is that of the configuration (§10.4).

The requested list is left as it is, and the acknowledged list is part of the result. So the
question in which order the two are looked at does not arise (§9, open question): a size is put
right before anybody can acknowledge it.

A block size must be in the range that RFC 2348 gives. The specification refuses only a timeout of
0; here one of more than 255 seconds is refused as well, because RFC 2349 knows no longer one.

Out of scope: the moment of negotiation. A sender negotiates after it has opened and measured its
file, a receiver before it creates its own; `Tftp.Transfer` has that order.
-/

namespace Tftp

/-- Which way the file goes. A sender knows the length of its file. -/
inductive Direction where
  | send (total : UInt64)
  | receive
  deriving DecidableEq, Repr

/-- The parameters of one transfer. The transfer size is for information only. -/
structure Parameters where
  blockSize : Nat
  transferSize : UInt64
  /-- The deadline of each wait, in milliseconds. -/
  timeout : Int
  /-- The options to acknowledge, in the order in which they were first requested. -/
  acknowledged : List OptionEntry
  deriving DecidableEq, Repr

/-! ## Limits -/

def defaultBlockSize : Nat := 512
def minBlockSize : UInt64 := 8
def maxBlockSize : UInt64 := 65464
def maxTimeoutSeconds : UInt64 := 255

/-- A block size that a request may ask for. -/
def ValidBlockSize (value : UInt64) : Prop := minBlockSize ≤ value ∧ value ≤ maxBlockSize

/-- A timeout in seconds that a request may ask for. -/
def ValidTimeout (value : UInt64) : Prop := 1 ≤ value ∧ value ≤ maxTimeoutSeconds

instance : DecidablePred ValidBlockSize := fun _ => inferInstanceAs (Decidable (_ ∧ _))
instance : DecidablePred ValidTimeout := fun _ => inferInstanceAs (Decidable (_ ∧ _))

/-! ## The acknowledged options -/

/-- Records an option: it takes the place of an earlier one of its kind, or comes last. -/
def acknowledge (option : OptionEntry) : List OptionEntry → List OptionEntry
  | [] => [option]
  | earlier :: others =>
    if earlier.kind = option.kind then option :: others
    else earlier :: acknowledge option others

/-! ## Negotiation -/

namespace Parameters

/-- The parameters of a request without options. -/
def default (timeout : Int) : Parameters := ⟨defaultBlockSize, 0, timeout, []⟩

/-- Takes one requested option into account. -/
def accept (direction : Direction) (p : Parameters) (option : OptionEntry) :
    Except Failure Parameters :=
  match option.kind with
  | .blockSize =>
    if ValidBlockSize option.value then
      .ok { p with
        blockSize := option.value.toNat
        acknowledged := acknowledge option p.acknowledged }
    else .error (.invalidBlockSize option.value)
  | .transferSize =>
    let size := match direction with
      | .send total => total
      | .receive => option.value
    .ok { p with
      transferSize := size
      acknowledged := acknowledge ⟨.transferSize, size⟩ p.acknowledged }
  | .timeout =>
    if ValidTimeout option.value then
      .ok { p with
        timeout := option.value.toNat * 1000
        acknowledged := acknowledge option p.acknowledged }
    else .error (.invalidTimeout option.value)
  | .other _ => .ok p

end Parameters

/-- The parameters that requested options lead to. Without a timeout option the deadline is
`timeout` milliseconds. -/
def negotiate (requested : List OptionEntry) (direction : Direction) (timeout : Int) :
    Except Failure Parameters :=
  requested.foldlM (Parameters.accept direction) (Parameters.default timeout)

end Tftp
