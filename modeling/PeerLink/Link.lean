import PeerLink.Stream.Basic

/-!
# Links

Two pipes in opposite directions connect two ends: the one that dials and the one that listens.
-/

namespace PeerLink

/-- A stream with both of its ends. -/
structure Link where
  /-- The pipe from the dialing to the listening end. -/
  forth : Pipe
  /-- The pipe from the listening to the dialing end. -/
  back : Pipe

namespace Link

/-- The end that dials. -/
def dialing (link : Link) : Stream := ⟨link.back, link.forth⟩

/-- The end that listens. -/
def listening (link : Link) : Stream := ⟨link.forth, link.back⟩

/-- The link of which the end that dials is given. -/
def ofDialing (stream : Stream) : Link := ⟨stream.outbound, stream.inbound⟩

/-- The link of which the end that listens is given. -/
def ofListening (stream : Stream) : Link := ⟨stream.inbound, stream.outbound⟩

/-- A link is determined by its dialing end. -/
@[simp]
theorem ofDialing_dialing (link : Link) : ofDialing link.dialing = link := rfl

/-- A dialing end is the one of the link that it determines. -/
theorem dialing_ofDialing (stream : Stream) : (ofDialing stream).dialing = stream := rfl

/-- A link is determined by its listening end. -/
@[simp]
theorem ofListening_listening (link : Link) : ofListening link.listening = link := rfl

end Link

end PeerLink
