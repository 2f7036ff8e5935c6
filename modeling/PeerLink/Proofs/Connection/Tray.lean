import PeerLink.Proofs.Connection.Mail
import PeerLink.Proofs.Framing.Sequence

/-!
# What is sealed and what is handed out

The two ways to read a secure connection pass each other by: octets are read from the message that
is begun until nothing is left of it, and an object is always the next message that is not unsealed.
A `Tray` is what a writer has sealed and how far its reader is in it. `Hands` says which plaintext a
call hands out, and of which message, whether or not the call mirrors the writer. What comes of the
order of sealing is a matter of trays alone: every event moves a reader in one of the ways of
`Tray.Moves`, and from them `HandsOut.inOrder_iff` follows.
-/

namespace PeerLink

open SealedFrames

/-- Plaintext that a call hands out, with the place of its message among the ones that were
sealed. -/
inductive Handout where
  /-- Octets of a message. -/
  | octets (place : Nat) (bytes : Bytes)
  /-- A whole message, as the text of an object, when the octets `unread` of an earlier message were
  begun and not read. -/
  | object (place : Nat) (text unread : Bytes)

namespace Handout

/-- The place of the message that is handed out. -/
def place : Handout → Nat
  | octets place _ => place
  | object place _ _ => place

/-- Plaintext is handed out in the order in which it was sealed. -/
def InOrder (handouts : List Handout) : Prop :=
  handouts.Pairwise fun first later => first.place ≤ later.place

/-- An object is handed out while octets of an earlier message are unread, and octets are handed out
after it. -/
def Overtaken (handouts : List Handout) : Prop :=
  ∃ before place text unread later,
    handouts = before ++ object place text unread :: later ∧ unread ≠ [] ∧
      ∃ place' bytes, octets place' bytes ∈ later

end Handout

/-- What a writer has sealed, and how far its reader is in it. -/
structure Tray where
  /-- The place of the next message that is to be unsealed. -/
  next : Nat
  /-- The messages that are sealed and not unsealed, from this place on. -/
  sealed : List Bytes
  /-- The octets that are written and not sealed. -/
  pending : Bytes
  /-- The place of the message that is begun. -/
  begun : Nat
  /-- What is left of it. -/
  rest : Bytes
  /-- Whether everything that was written is on the stream. -/
  flushed : Bool
  /-- Whether the writer has closed its connection. -/
  closed : Bool
  /-- Whether the network holds nothing back. -/
  free : Bool

namespace Tray

/-- Nothing was written. -/
def start (free : Bool) : Tray := ⟨0, [], [], 0, [], true, false, free⟩

/-- What matters of a tray to the octets on their way. -/
def mail (tray : Tray) : Mail := ⟨[], tray.flushed, tray.closed, tray.free⟩

/-- The tray when the pending octets are sealed, in as few messages as possible. -/
def sealAll (tray : Tray) : Tray :=
  { tray with sealed := tray.sealed ++ pieces tray.pending, pending := [] }

/-- The reader has to wait: nothing is sealed, or it may not have arrived. -/
def Waits (tray : Tray) : Prop :=
  (tray.sealed = [] ∧ tray.closed = false) ∨
    (tray.sealed ≠ [] ∧ (tray.flushed = false ∨ tray.free = false))

/-- What a call of the writer comes to, and the tray behind it. -/
inductive Writes (tray : Tray) : WriteCall → Except ConnectionError Unit → Tray → Prop
  /-- An octet is written. -/
  | byte (octet : UInt8) (opened : tray.closed = false) :
      Writes tray (.byte octet) (.ok ())
        { tray with pending := tray.pending ++ [octet], flushed := false }
  /-- Octets are written. -/
  | bytes (bytes : Bytes) (opened : tray.closed = false) :
      Writes tray (.bytes bytes) (.ok ())
        { tray with pending := tray.pending ++ bytes, flushed := false }
  /-- An object is one message behind the pending octets. -/
  | object (object : Json) (opened : tray.closed = false)
      (acceptable : object.encode.length ≤ maxPayload) :
      Writes tray (.object object) (.ok ())
        { tray.sealAll with sealed := tray.sealAll.sealed ++ [object.encode], flushed := true }
  /-- An object is too large, and only the pending octets are sealed. -/
  | tooLarge (object : Json) (opened : tray.closed = false)
      (large : maxPayload < object.encode.length) :
      Writes tray (.object object) (.error (.frameTooLarge object.encode.length)) tray.sealAll
  /-- The pending octets are sealed and everything is written. -/
  | flush (opened : tray.closed = false) :
      Writes tray .flush (.ok ()) { tray.sealAll with flushed := true }
  /-- The pending octets are sealed, everything is written, and the connection is closed. -/
  | close (opened : tray.closed = false) :
      Writes tray .close (.ok ()) { tray.sealAll with flushed := true, closed := true }
  /-- Closing a closed connection does nothing. -/
  | closeAgain (closed : tray.closed = true) : Writes tray .close (.ok ()) tray
  /-- Nothing can be written to a closed connection. -/
  | refused {call : WriteCall} (closed : tray.closed = true) (no_close : call ≠ .close) :
      Writes tray call (.error .closed) tray

/-- What reading at most `n` octets comes to, what it hands out, and the tray behind it. -/
inductive GetsBytes (tray : Tray) (n : Nat) :
    Outcome ConnectionError Bytes → List Handout → Tray → Prop
  /-- Octets of the message that is begun. -/
  | rest (some_left : tray.rest ≠ []) :
      GetsBytes tray n (.done (tray.rest.take n)) [.octets tray.begun (tray.rest.take n)]
        { tray with rest := tray.rest.drop n }
  /-- The next message is begun. -/
  | next {text : Bytes} {later : List Bytes} (none_left : tray.rest = [])
      (sealed : tray.sealed = text :: later) :
      GetsBytes tray n (.done (text.take n)) [.octets tray.next (text.take n)]
        { tray with
          next := tray.next + 1, sealed := later, begun := tray.next, rest := text.drop n }
  /-- The end of the stream. -/
  | stop (none_left : tray.rest = []) (nothing : tray.sealed = []) (closed : tray.closed = true) :
      GetsBytes tray n (.done []) [] tray
  /-- A wait. -/
  | waiting (none_left : tray.rest = []) (waits : tray.Waits) : GetsBytes tray n .waiting [] tray

/-- What reading a frame comes to, and the tray behind it. -/
inductive GetsFrame (tray : Tray) : Outcome ConnectionError (Option Bytes) → Tray → Prop
  /-- The next message. -/
  | next {text : Bytes} {later : List Bytes} (sealed : tray.sealed = text :: later) :
      GetsFrame tray (.done (some text)) { tray with next := tray.next + 1, sealed := later }
  /-- The end of the stream. -/
  | stop (nothing : tray.sealed = []) (closed : tray.closed = true) :
      GetsFrame tray (.done none) tray
  /-- A wait. -/
  | waiting (waits : tray.Waits) : GetsFrame tray .waiting tray

end Tray

/-- What an event comes to, what it hands out, and the tray behind it. -/
inductive Hands {α : Type} :
    Tray → Line.Event α → Line.Report α → List Handout → Tray → Prop
  /-- The writer makes a call. -/
  | wrote {tray tray' : Tray} {call : WriteCall} {outcome : Except ConnectionError Unit}
      (writes : tray.Writes call outcome tray') :
      Hands tray (.write call) (.wrote outcome) [] tray'
  /-- The network holds octets back, or no longer does so. -/
  | held {tray : Tray} (gate : Option Nat) :
      Hands tray (.hold gate) .held [] { tray with free := gate.isNone }
  /-- An octet is one of at most one octet. -/
  | byte {tray tray' : Tray} {outcome : Outcome ConnectionError Bytes} {handouts : List Handout}
      (gets : tray.GetsBytes 1 outcome handouts tray') :
      Hands tray (.read .byte) (.read (.byte (outcome.map List.head?))) handouts tray'
  /-- Octets are read. -/
  | bytes {tray tray' : Tray} {n : Nat} {outcome : Outcome ConnectionError Bytes}
      {handouts : List Handout} (some_asked : n ≠ 0)
      (gets : tray.GetsBytes n outcome handouts tray') :
      Hands tray (.read (.bytes n)) (.read (.bytes outcome)) handouts tray'
  /-- No octets are asked for. -/
  | nothing {tray : Tray} : Hands tray (.read (.bytes 0)) (.read (.bytes (.done []))) [] tray
  /-- A message is read as an object. -/
  | object {tray tray' : Tray} {decoder : Json.Decoder α} {text : Bytes} {value : α}
      (gets : tray.GetsFrame (.done (some text)) tray')
      (decodes : decoder.decode text = .ok value) :
      Hands tray (.read (.object decoder)) (.read (.object (.done value)))
        [.object tray.next text tray.rest] tray'
  /-- A message is read that is no such object. -/
  | unreadable {tray tray' : Tray} {decoder : Json.Decoder α} {text : Bytes} {fault : Json.Fault}
      (gets : tray.GetsFrame (.done (some text)) tray')
      (decodes : decoder.decode text = .error fault) :
      Hands tray (.read (.object decoder)) (.read (.object (.failed (.codec fault)))) [] tray'
  /-- There is no object any more. -/
  | endObject {tray tray' : Tray} {decoder : Json.Decoder α}
      (gets : tray.GetsFrame (.done none) tray') :
      Hands tray (.read (.object decoder)) (.read (.object (.failed (.io
        (.unexpectedEof "connection closed by the remote peer"))))) [] tray'
  /-- An object is waited for. -/
  | waitObject {tray tray' : Tray} {decoder : Json.Decoder α}
      (gets : tray.GetsFrame .waiting tray') :
      Hands tray (.read (.object decoder)) (.read (.object .waiting)) [] tray'

/-- What events that begin with a tray hand out, one after the other. -/
inductive HandsOut {α : Type} : Tray → List (Line.Event α × Line.Report α) → List Handout → Prop
  /-- Nothing happens. -/
  | nil {tray : Tray} : HandsOut tray [] []
  /-- An event comes to what it is to come to. -/
  | cons {tray tray' : Tray} {event : Line.Event α} {report : Line.Report α}
      {later : List (Line.Event α × Line.Report α)} {handouts handouts' : List Handout}
      (hands : Hands tray event report handouts tray')
      (hands_out : HandsOut tray' later handouts') :
      HandsOut tray ((event, report) :: later) (handouts ++ handouts')

/-! ## What trays say of the order -/

namespace Tray

/-- The message that is begun was unsealed before. -/
def Tidy (tray : Tray) : Prop :=
  tray.rest ≠ [] → tray.begun < tray.next

/-- How far a reader comes by what is handed out to it. -/
inductive Moves (tray : Tray) : List Handout → Tray → Prop
  /-- Nothing is handed out. A message may have been lost on an object that it is not. -/
  | still {tray' : Tray} (next : tray.next ≤ tray'.next) (begun : tray'.begun = tray.begun)
      (rest : tray'.rest = tray.rest) : Moves tray [] tray'
  /-- More of the message that is begun. -/
  | rest {tray' : Tray} (bytes : Bytes) (some_left : tray.rest ≠ []) (next : tray'.next = tray.next)
      (begun : tray'.begun = tray.begun) : Moves tray [.octets tray.begun bytes] tray'
  /-- The next message is begun. -/
  | next {tray' : Tray} (bytes : Bytes) (none_left : tray.rest = [])
      (next : tray'.next = tray.next + 1) (begun : tray'.begun = tray.next) :
      Moves tray [.octets tray.next bytes] tray'
  /-- The next message is an object. -/
  | object {tray' : Tray} (text : Bytes) (next : tray'.next = tray.next + 1)
      (begun : tray'.begun = tray.begun) (rest : tray'.rest = tray.rest) :
      Moves tray [.object tray.next text tray.rest] tray'

variable {tray tray' : Tray} {handouts : List Handout}

/-- A reader that reads octets comes forward by what is handed out to it. -/
theorem GetsBytes.moves {n : Nat} {outcome : Outcome ConnectionError Bytes}
    (h : tray.GetsBytes n outcome handouts tray') : tray.Moves handouts tray' := by
  cases h with
  | rest some_left => exact .rest _ some_left rfl rfl
  | next none_left sealed => exact .next _ none_left rfl rfl
  | stop none_left nothing closed => exact .still (Nat.le_refl _) rfl rfl
  | waiting none_left waits => exact .still (Nat.le_refl _) rfl rfl

/-- Reading a frame does not touch the message that is begun. -/
theorem GetsFrame.reader {outcome : Outcome ConnectionError (Option Bytes)}
    (h : tray.GetsFrame outcome tray') :
    tray'.begun = tray.begun ∧ tray'.rest = tray.rest ∧ tray.next ≤ tray'.next ∧
      (∀ text, outcome = .done (some text) → tray'.next = tray.next + 1) := by
  cases h with
  | next sealed => exact ⟨rfl, rfl, Nat.le_succ _, fun _ _ => rfl⟩
  | stop nothing closed => exact ⟨rfl, rfl, Nat.le_refl _, by rintro _ ⟨⟩⟩
  | waiting waits => exact ⟨rfl, rfl, Nat.le_refl _, by rintro _ ⟨⟩⟩

/-- Nothing that the writer does changes how far the reader is. -/
theorem Writes.reader {call : WriteCall} {outcome : Except ConnectionError Unit}
    (h : tray.Writes call outcome tray') :
    tray'.next = tray.next ∧ tray'.begun = tray.begun ∧ tray'.rest = tray.rest := by
  cases h <;> exact ⟨rfl, rfl, rfl⟩

/-- A reader comes forward by what an event hands out. -/
theorem moves_of_hands {α : Type} {event : Line.Event α} {report : Line.Report α}
    (h : Hands tray event report handouts tray') : tray.Moves handouts tray' := by
  cases h with
  | wrote writes =>
    obtain ⟨next, begun, rest⟩ := writes.reader
    exact .still (Nat.le_of_eq next.symm) begun rest
  | held gate => exact .still (Nat.le_refl _) rfl rfl
  | byte gets => exact gets.moves
  | bytes some_asked gets => exact gets.moves
  | nothing => exact .still (Nat.le_refl _) rfl rfl
  | object gets decodes =>
    obtain ⟨begun, rest, -, next⟩ := gets.reader
    exact .object _ (next _ rfl) begun rest
  | unreadable gets decodes =>
    obtain ⟨begun, rest, le, -⟩ := gets.reader
    exact .still le begun rest
  | endObject gets =>
    obtain ⟨begun, rest, le, -⟩ := gets.reader
    exact .still le begun rest
  | waitObject gets =>
    obtain ⟨begun, rest, le, -⟩ := gets.reader
    exact .still le begun rest

/-- The message that is begun stays one that was unsealed before. -/
theorem Moves.tidy (h : tray.Moves handouts tray') (tidy : tray.Tidy) : tray'.Tidy := by
  intro some_left
  cases h with
  | still next begun rest =>
    rw [rest] at some_left
    rw [begun]
    exact Nat.lt_of_lt_of_le (tidy some_left) next
  | rest bytes some_left' next begun =>
    rw [begun, next]
    exact tidy some_left'
  | next bytes none_left next begun =>
    rw [begun, next]
    exact Nat.lt_succ_self _
  | object text next begun rest =>
    rw [rest] at some_left
    rw [begun, next]
    exact Nat.lt_succ_of_lt (tidy some_left)

end Tray

namespace HandsOut

variable {α : Type} {tray : Tray} {trace : List (Line.Event α × Line.Report α)}
  {handouts : List Handout}

/-- The first event comes to what it is to come to. -/
theorem uncons {event : Line.Event α} {report : Line.Report α}
    (h : HandsOut tray ((event, report) :: trace) handouts) :
    ∃ first tray' rest, handouts = first ++ rest ∧ Hands tray event report first tray' ∧
      HandsOut tray' trace rest := by
  cases h with
  | cons hands hands_out => exact ⟨_, _, _, rfl, hands, hands_out⟩

/-- What is handed out later is what is left of the message that is begun, or comes from messages
that are not unsealed yet. -/
theorem later (h : HandsOut tray trace handouts) {handout : Handout} (mem : handout ∈ handouts) :
    tray.next ≤ handout.place ∨
      (tray.rest ≠ [] ∧ ∃ bytes, handout = .octets tray.begun bytes) := by
  -- By the run: the rest of the message that was begun is handed out before any later one.
  induction h with
  | nil => simp at mem
  | @cons tray tray' event report trace handouts handouts' hands hands_out ih =>
    cases Tray.moves_of_hands hands with
    | still next begun rest =>
      rcases ih (by simpa using mem) with le | ⟨some_left, octets⟩
      · exact .inl (Nat.le_trans next le)
      · rw [rest] at some_left
        rw [begun] at octets
        exact .inr ⟨some_left, octets⟩
    | rest bytes some_left next begun =>
      rcases List.mem_cons.1 mem with rfl | mem
      · exact .inr ⟨some_left, bytes, rfl⟩
      · rcases ih mem with le | ⟨-, octets⟩
        · exact .inl (next ▸ le)
        · rw [begun] at octets
          exact .inr ⟨some_left, octets⟩
    | next bytes none_left next begun =>
      left
      rcases List.mem_cons.1 mem with rfl | mem
      · exact Nat.le_refl _
      · rcases ih mem with le | ⟨-, bytes', rfl⟩
        · omega
        · exact Nat.le_of_eq begun.symm
    | object text next begun rest =>
      rcases List.mem_cons.1 mem with rfl | mem
      · exact .inl (Nat.le_refl _)
      · rcases ih mem with le | ⟨some_left, octets⟩
        · exact .inl (by omega)
        · rw [rest] at some_left
          rw [begun] at octets
          exact .inr ⟨some_left, octets⟩

/-- Octets that are handed out later begin with what is left of the message that is begun. -/
theorem rest_first (h : HandsOut tray trace handouts) (some_left : tray.rest ≠ []) {place : Nat}
    {bytes : Bytes} (mem : .octets place bytes ∈ handouts) :
    ∃ bytes, .octets tray.begun bytes ∈ handouts := by
  induction h with
  | nil => simp at mem
  | @cons tray tray' event report trace handouts handouts' hands hands_out ih =>
    cases Tray.moves_of_hands hands with
    | still next begun rest =>
      rw [← rest] at some_left
      rw [← begun]
      exact ih some_left mem
    | rest bytes some_left next begun => exact ⟨bytes, List.mem_cons_self⟩
    | next bytes none_left next begun => exact absurd none_left some_left
    | object text next begun rest =>
      rw [← rest] at some_left
      rw [← begun]
      rcases List.mem_cons.1 mem with octets | mem
      · simp at octets
      · obtain ⟨bytes, mem⟩ := ih some_left mem
        exact ⟨bytes, List.mem_cons_of_mem _ mem⟩

end HandsOut

namespace Handout

/-- Octets that are handed out first overtake nothing. -/
theorem overtaken_octets {place : Nat} {bytes : Bytes} {handouts : List Handout} :
    Overtaken (octets place bytes :: handouts) ↔ Overtaken handouts := by
  constructor
  · rintro ⟨before, place', text, unread, later, split, overtakes⟩
    rcases List.cons_eq_append_iff.1 split with ⟨rfl, first⟩ | ⟨before', rfl, behind⟩
    · simp at first
    · exact ⟨before', place', text, unread, later, behind, overtakes⟩
  · rintro ⟨before, place', text, unread, later, rfl, overtakes⟩
    exact ⟨octets place bytes :: before, place', text, unread, later, rfl, overtakes⟩

/-- An object that is handed out first overtakes octets if some are unread and octets follow. -/
theorem overtaken_object {place : Nat} {text unread : Bytes} {handouts : List Handout} :
    Overtaken (object place text unread :: handouts) ↔
      (unread ≠ [] ∧ ∃ place' bytes, octets place' bytes ∈ handouts) ∨ Overtaken handouts := by
  constructor
  · rintro ⟨before, place', text', unread', later, split, overtakes⟩
    rcases List.cons_eq_append_iff.1 split with ⟨rfl, first⟩ | ⟨before', rfl, behind⟩
    · obtain ⟨⟨rfl, rfl, rfl⟩, rfl⟩ := by simpa using first
      exact .inl overtakes
    · exact .inr ⟨before', place', text', unread', later, behind, overtakes⟩
  · rintro (overtakes | ⟨before, place', text', unread', later, rfl, overtakes⟩)
    · exact ⟨[], place, text, unread, handouts, rfl, overtakes⟩
    · exact ⟨object place text unread :: before, place', text', unread', later, rfl, overtakes⟩

end Handout

namespace HandsOut

variable {α : Type} {tray : Tray} {trace : List (Line.Event α × Line.Report α)}
  {handouts : List Handout}

/-- Plaintext is handed out in the order of sealing unless an object overtakes octets. -/
theorem inOrder_iff (h : HandsOut tray trace handouts) (tidy : tray.Tidy) :
    Handout.InOrder handouts ↔ ¬ Handout.Overtaken handouts := by
  induction h with
  | nil => simp [Handout.InOrder, Handout.Overtaken]
  | @cons tray tray' event report trace handouts handouts' hands hands_out ih =>
    have moves := Tray.moves_of_hands hands
    have ih := ih (moves.tidy tidy)
    unfold Handout.InOrder at ih ⊢
    cases moves with
    | still next begun rest => exact ih
    | rest bytes some_left next begun =>
      rw [List.singleton_append, List.pairwise_cons, Handout.overtaken_octets, ih]
      refine and_iff_right fun later mem => ?_
      rcases hands_out.later mem with le | ⟨-, bytes', rfl⟩
      · exact Nat.le_of_lt (Nat.lt_of_lt_of_le (tidy some_left) (next ▸ le))
      · exact Nat.le_of_eq begun.symm
    | next bytes none_left next begun =>
      rw [List.singleton_append, List.pairwise_cons, Handout.overtaken_octets, ih]
      refine and_iff_right fun later mem => ?_
      rcases hands_out.later mem with le | ⟨-, bytes', rfl⟩
      · show tray.next ≤ later.place
        omega
      · exact Nat.le_of_eq begun.symm
    | object text next begun rest =>
      rw [List.singleton_append, List.pairwise_cons, Handout.overtaken_object, ih, not_or]
      refine and_congr_left fun _ => ⟨?_, ?_⟩
      · -- The octets that follow begin with the ones that were overtaken.
        rintro in_order ⟨some_left, place, bytes, mem⟩
        obtain ⟨bytes', mem'⟩ := hands_out.rest_first (rest ▸ some_left) mem
        have before := in_order _ mem'
        have behind := tidy some_left
        rw [begun] at before
        exact absurd behind (Nat.not_lt.2 before)
      · intro not_overtaken later mem
        rcases hands_out.later mem with le | ⟨some_left, bytes', rfl⟩
        · show tray.next ≤ later.place
          omega
        · exact absurd ⟨rest ▸ some_left, _, _, mem⟩ not_overtaken

end HandsOut

end PeerLink
