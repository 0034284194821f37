import HostRouting.Http.Exchange

/-!
# A scripted peer

A peer that answers the requests it receives one after the other from a script, and
remembers them. It is the plainest peer that tells what a client has sent.
-/
namespace HostRouting.Http

/-- The requests received so far, the first one first. -/
abbrev Transcript := List OutgoingRequest

/-- The peer that answers the request number `n`, counted from zero, by `script n`. -/
def scriptedPeer (script : Nat → PeerReply) : Peer Transcript := fun r received =>
  (script received.length, received ++ [r])

/-- The peer behind a connection that is never made. -/
def unreachable : Peer Transcript := fun _ received => (.dropped, received)

end HostRouting.Http
