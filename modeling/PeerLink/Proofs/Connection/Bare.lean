import PeerLink.Proofs.Connection.Transit

/-!
# A bare line delivers

On a bare connection octets are on the stream as they are, and an object is one length-prefixed
frame. `Line.Bare` ties a line of bare connections to the mail on it: what is on its way are the
octets of its tokens. Every call keeps the tie and comes to what the mail says: `Line.Bare.write`,
`Line.Bare.readBytes` and `Line.Bare.readFrame`.
-/

namespace PeerLink

open LengthPrefixed

/-- The octets of a token on a bare connection. -/
def Token.encode : Token → Bytes
  | octet b => [b]
  | object text => LengthPrefixed.encode text

/-- Octets that are taken from the front of the ones of tokens are the first of these tokens, unless
they reach into an object. -/
theorem Token.octets_of_append {tokens : List Token} {n : Nat} {bytes rest : Bytes}
    (fits : n ≤ (leading tokens).length ∨ ∀ text, object text ∉ tokens) (le : bytes.length ≤ n)
    (octets : bytes ++ rest = tokens.flatMap encode) :
    ∃ later, tokens = bytes.map octet ++ later ∧ later.flatMap encode = rest := by
  -- Each octet that is taken is one that fits, so that one octet less fits behind it.
  induction bytes generalizing tokens n with
  | nil => exact ⟨tokens, rfl, octets.symm⟩
  | cons b bytes ih =>
    rw [List.length_cons] at le
    match tokens with
    | [] => simp at octets
    | object text :: tokens =>
      exfalso
      rcases fits with fits | no_object
      · simp only [leading, List.length_nil] at fits
        omega
      · exact no_object text List.mem_cons_self
    | octet c :: tokens =>
      rw [List.flatMap_cons, encode, List.cons_append, List.cons_append, List.nil_append] at octets
      obtain ⟨rfl, octets'⟩ := List.cons.inj octets
      have fits' : n - 1 ≤ (leading tokens).length ∨ ∀ text, object text ∉ tokens := by
        rcases fits with fits | no_object
        · left
          simp only [leading, List.length_cons] at fits
          omega
        · right
          exact fun text mem => no_object text (List.mem_cons_of_mem _ mem)
      obtain ⟨later, rfl, rest_eq⟩ := ih fits' (by omega) octets'
      exact ⟨later, rfl, rest_eq⟩

/-- There are octets in every token. -/
theorem Token.encode_ne_nil (token : Token) : token.encode ≠ [] := by
  cases token with
  | octet b => simp [encode]
  | object text => exact LengthPrefixed.encode_ne_nil text

/-- Where there are tokens there are octets. -/
theorem Token.flatMap_encode_ne_nil {tokens : List Token} (h : tokens ≠ []) :
    tokens.flatMap encode ≠ [] := by
  cases tokens with
  | nil => exact absurd rfl h
  | cons token tokens =>
    rw [List.flatMap_cons, Ne, List.append_eq_nil_iff]
    exact fun nothing => token.encode_ne_nil nothing.1

namespace Transit

variable {mail : Mail} {writer : Option Wire} {reader : Wire} {stream : Stream}
  {state : LengthPrefixed.State}

/-- The first frame on its way is read, or the reader waits for the rest of it. -/
theorem readEncoded_first {text rest : Bytes}
    (h : Transit mail writer (head state) reader stream.inbound
      (LengthPrefixed.encode text ++ rest))
    (valid : Valid state) (acceptable : text.length ≤ maxSize) :
    (∃ reader' stream', reader.readFrame (framing ConnectionError.io) state stream =
        (.done (some text), none, reader', stream') ∧
      ∀ tokens, Transit { mail with tokens } writer (head none) reader' stream'.inbound rest) ∨
    ((mail.flushed = false ∨ mail.free = false) ∧
      ∃ state' reader' stream', reader.readFrame (framing ConnectionError.io) state stream =
        (.waiting, state', reader', stream') ∧ Valid state' ∧
      Transit mail writer (head state') reader' stream'.inbound
        (LengthPrefixed.encode text ++ rest)) := by
  rcases h.frame_cases with ⟨left, octets, rest_eq⟩ | ⟨missing, some_missing, octets, behind⟩
  · obtain ⟨reader', stream', read, left_eq, advanced⟩ :=
      readFrame_whole ConnectionError.io valid acceptable octets
    refine .inl ⟨reader', stream', read, fun tokens => h.advanced advanced ?_ tokens⟩
    rw [left_eq, head, List.nil_append, rest_eq]
  · have not_there : stream.inbound.late ++ unwritten writer ≠ [] := by
      rw [behind]
      exact fun nothing => some_missing (List.append_eq_nil_iff.1 nothing).1
    obtain ⟨state', reader', stream', read, valid', octets', advanced⟩ := readFrame_part
      ConnectionError.io valid acceptable octets some_missing (h.verge_of_missing not_there)
    refine .inr ⟨h.not_flushed_or_not_free not_there, state', reader', stream', read, valid',
      h.advanced advanced ?_ mail.tokens⟩
    rw [octets', h.ahead_append]

/-- When there is no frame on its way the reader finds the end of the stream if the connection is
closed, and waits if it is not. -/
theorem readEncoded_nothing (h : Transit mail writer (head state) reader stream.inbound [])
    (valid : Valid state) :
    ∃ reader' stream', reader.readFrame (framing ConnectionError.io) state stream =
        (if mail.closed = true then .done none else .waiting, none, reader', stream') ∧
      Transit mail writer (head none) reader' stream'.inbound [] := by
  obtain ⟨nothing, nothing_behind⟩ := h.nothing
  have verge := h.verge_of_nothing_missing nothing_behind
  obtain rfl := eq_none_of_head (List.append_eq_nil_iff.1 nothing).1
  cases closed : mail.closed with
  | true =>
    rw [closed, if_pos rfl] at verge
    obtain ⟨reader', stream', read, left, advanced⟩ :=
      readFrame_stop ConnectionError.io nothing verge
    refine ⟨reader', stream', read, h.advanced advanced ?_ mail.tokens⟩
    rw [left, nothing_behind]
    rfl
  | false =>
    rw [closed, if_neg (by simp)] at verge
    -- The reader waits for any frame, for instance an empty one.
    have octets : head none ++ reader.ahead stream ++ LengthPrefixed.encode [] =
        LengthPrefixed.encode [] := by
      rw [nothing]
      rfl
    obtain ⟨state', reader', stream', read, valid', left, advanced⟩ := readFrame_part
      ConnectionError.io valid (Nat.zero_le _) octets (LengthPrefixed.encode_ne_nil _) verge
    rw [nothing] at left
    obtain rfl := eq_none_of_head (List.append_eq_nil_iff.1 left).1
    refine ⟨reader', stream', read, h.advanced advanced ?_ mail.tokens⟩
    rw [left, nothing_behind]
    rfl

end Transit

namespace Line

/-- A line of bare connections with some mail on it. -/
inductive Bare (mail : Mail) : Line → Prop
  /-- What is on its way are the octets of the tokens; a frame is only begun at an object. -/
  | intro {writer : Option Wire} {reader : Wire} {frames frames' : LengthPrefixed.State}
      {address address' : Option Endpoint} {resolution resolution' : Resolution} {link : Link}
      (transit : Transit mail writer (head frames') reader link.forth
        (mail.tokens.flatMap Token.encode))
      (valid : Valid frames')
      (begun : frames' ≠ none → ∃ text rest, mail.tokens = .object text :: rest)
      (acceptable : ∀ text, .object text ∈ mail.tokens → text.length ≤ maxSize) :
      Bare mail ⟨⟨writer, .bare frames, address, resolution⟩,
        ⟨some reader, .bare frames', address', resolution'⟩, link⟩

namespace Bare

variable {α : Type} {suite : Suite} {mail : Mail} {line : Line}

/-- Where octets are to be read, no frame is begun. -/
theorem frames_eq_none {frames : LengthPrefixed.State}
    (begun : frames ≠ none → ∃ text rest, mail.tokens = .object text :: rest)
    (no_object : ∀ text rest, mail.tokens ≠ .object text :: rest) : frames = none := by
  by_contra some_frames
  obtain ⟨text, rest, tokens⟩ := begun some_frames
  exact no_object text rest tokens

/-- A frame that is begun stays so when more is written. -/
theorem begun_append {frames : LengthPrefixed.State} {tokens : List Token}
    (begun : frames ≠ none → ∃ text rest, tokens = .object text :: rest) (later : List Token) :
    frames ≠ none → ∃ text rest, tokens ++ later = .object text :: rest := by
  intro some_frames
  obtain ⟨text, rest, rfl⟩ := begun some_frames
  exact ⟨text, rest ++ later, rfl⟩

/-- Octets are read as they were written. -/
theorem readBytes (bare : line.Bare mail) {n : Nat} (some_asked : n ≠ 0)
    (fits : mail.Fits (.bytes n : ReadCall α)) :
    ∃ outcome mail' reader stream,
      line.reader.readBytes suite n line.link.listening = (outcome, reader, stream) ∧
      mail.GetsBytes n outcome mail' ∧
      Bare mail' { line with reader, link := .ofListening stream } := by
  cases bare with
  | @intro writer reader frames frames' address address' resolution resolution' link transit valid
      begun acceptable =>
    -- There is no object in front, hence no frame that is begun.
    obtain rfl := frames_eq_none begun (fits.no_object some_asked)
    have transit : Transit mail writer [] reader link.listening.inbound _ := transit
    have ahead := transit.ahead_append
    rw [List.nil_append] at ahead
    unfold Connection.readBytes
    simp only [if_neg some_asked]
    by_cases nothing : reader.ahead link.listening = []
    · -- Nothing is there, and it depends on what is behind.
      have read := Wire.readSome_of_nothing nothing n
      rw [nothing, List.nil_append] at ahead
      by_cases some_tokens : mail.tokens = []
      · rw [some_tokens] at ahead
        have behind := transit.verge_of_nothing_missing ahead
        cases closed : mail.closed with
        | true =>
          rw [behind, closed, if_pos rfl] at read
          rw [read]
          exact ⟨_, _, _, _, rfl, .stop some_tokens closed, transit, valid, begun, acceptable⟩
        | false =>
          rw [behind, closed, if_neg (by simp)] at read
          rw [read]
          exact ⟨_, _, _, _, rfl, .waiting (.inl ⟨some_tokens, closed⟩), transit, valid, begun,
            acceptable⟩
      · have missing : link.listening.inbound.late ++ unwritten writer ≠ [] := by
          rw [ahead]
          exact Token.flatMap_encode_ne_nil some_tokens
        rw [transit.verge_of_missing missing] at read
        rw [read]
        exact ⟨_, _, _, _, rfl,
          .waiting (.inr ⟨some_tokens, transit.not_flushed_or_not_free missing⟩), transit, valid,
          begun, acceptable⟩
    · obtain ⟨bytes, reader', stream, read, some_got, le, left, advanced⟩ :=
        Wire.readSome_of_ahead nothing some_asked
      rw [← left, List.append_assoc] at ahead
      -- The octets that are read are the first tokens, since they do not reach into an object.
      obtain ⟨later, tokens, octets⟩ := Token.octets_of_append fits le ahead
      rw [read]
      have transit' := transit.advanced advanced
        (show [] ++ reader'.ahead stream ++ _ = later.flatMap Token.encode from octets.symm) later
      refine ⟨_, _, _, _, rfl, .octets tokens some_got le, transit', valid,
        fun some_frames => absurd rfl some_frames, ?_⟩
      intro text mem
      exact acceptable text (by rw [tokens]; exact List.mem_append_right _ mem)

/-- An object is read as it was written. -/
theorem readFrame (bare : line.Bare mail)
    (fits : ∀ octet rest, mail.tokens ≠ .octet octet :: rest) :
    ∃ outcome mail' reader stream,
      line.reader.readFrame suite line.link.listening = (outcome, reader, stream) ∧
      mail.GetsFrame outcome mail' ∧
      Bare mail' { line with reader, link := .ofListening stream } := by
  cases bare with
  | @intro writer reader frames frames' address address' resolution resolution' link transit valid
      begun acceptable =>
    have transit : Transit mail writer (head frames') reader link.listening.inbound _ := transit
    unfold Connection.readFrame
    match tokens : mail.tokens with
    | .octet octet :: rest => exact absurd tokens (fits octet rest)
    | .object text :: rest =>
      have small : text.length ≤ maxSize :=
        acceptable text (by rw [tokens]; exact List.mem_cons_self)
      -- The frame of the object is the first one on its way.
      rw [tokens, List.flatMap_cons, Token.encode] at transit
      rcases transit.readEncoded_first valid small with
        ⟨reader', stream', read, transit'⟩ |
        ⟨not_there, state', reader', stream', read, valid', transit'⟩
      · simp only [read]
        refine ⟨_, _, _, _, rfl, .object tokens, transit' rest, by rintro n ⟨⟩,
          fun some_frames => absurd rfl some_frames, ?_⟩
        intro text mem
        exact acceptable text (by rw [tokens]; exact List.mem_cons_of_mem _ mem)
      · simp only [read]
        have some_left : mail.tokens ≠ [] := by
          rw [tokens]
          simp
        refine ⟨_, mail, _, _, rfl, .waiting (.inr ⟨some_left, not_there⟩), ?_, valid',
          fun _ => ⟨text, rest, tokens⟩, acceptable⟩
        rw [tokens, List.flatMap_cons, Token.encode]
        exact transit'
    | [] =>
      -- Nothing is on its way, so that the reader is told whether the stream is at its end.
      rw [tokens, List.flatMap_nil] at transit
      obtain ⟨reader', stream', read, transit'⟩ := transit.readEncoded_nothing valid
      have kept : Bare mail ⟨⟨writer, .bare frames, address, resolution⟩,
          ⟨some reader', .bare none, address', resolution'⟩, .ofListening stream'⟩ := by
        refine .intro ?_ (by rintro n ⟨⟩) (fun some_frames => absurd rfl some_frames) acceptable
        rw [tokens]
        exact transit'
      cases closed : mail.closed with
      | true =>
        rw [closed, if_pos rfl] at read
        simp only [read]
        exact ⟨_, _, _, _, rfl, .stop tokens closed, kept⟩
      | false =>
        rw [closed, if_neg (by simp)] at read
        simp only [read]
        exact ⟨_, _, _, _, rfl, .waiting (.inl ⟨tokens, closed⟩), kept⟩

section Writing

variable {writer reader : Wire} {frames frames' : LengthPrefixed.State}
  {address address' : Option Endpoint} {resolution resolution' : Resolution} {link : Link}

/-- Octets that are put on the wire are on their way. -/
theorem octets_put (bare : Bare mail ⟨⟨some writer, .bare frames, address, resolution⟩,
    ⟨some reader, .bare frames', address', resolution'⟩, link⟩) (bytes : Bytes) :
    Bare (mail.put bytes) ⟨⟨some (writer.put bytes), .bare frames, address, resolution⟩,
      ⟨some reader, .bare frames', address', resolution'⟩, link⟩ := by
  cases bare with
  | intro transit valid begun acceptable =>
    have transit' : Transit (mail.put bytes) (some (writer.put bytes)) (head frames') reader
        link.forth (mail.tokens.flatMap Token.encode ++ bytes) :=
      transit.put (writer.toBytes_unwritten_put bytes) _ (by rintro ⟨⟩)
    have octets : mail.tokens.flatMap Token.encode ++ bytes =
        (mail.tokens ++ bytes.map Token.octet).flatMap Token.encode := by
      rw [List.flatMap_append, List.flatMap_map]
      simp [Token.encode]
    rw [octets] at transit'
    refine .intro transit' valid (begun_append begun _) ?_
    intro text mem
    rcases List.mem_append.1 mem with mem | mem
    · exact acceptable text mem
    · simp at mem

/-- An object that is put on the wire is on its way behind everything else. -/
theorem object_put (bare : Bare mail ⟨⟨some writer, .bare frames, address, resolution⟩,
    ⟨some reader, .bare frames', address', resolution'⟩, link⟩) {text : Bytes}
    (small : text.length ≤ maxSize) :
    Bare { mail with tokens := mail.tokens ++ [.object text], flushed := false }
      ⟨⟨some (writer.put (LengthPrefixed.encode text)), .bare frames, address, resolution⟩,
        ⟨some reader, .bare frames', address', resolution'⟩, link⟩ := by
  cases bare with
  | intro transit valid begun acceptable =>
    have transit' := transit.put (writer.toBytes_unwritten_put (LengthPrefixed.encode text))
      (mail.tokens ++ [Token.object text]) (show false = true → _ by rintro ⟨⟩)
    have octets : mail.tokens.flatMap Token.encode ++ LengthPrefixed.encode text =
        (mail.tokens ++ [Token.object text]).flatMap Token.encode := by
      rw [List.flatMap_append, List.flatMap_singleton]
      rfl
    rw [octets] at transit'
    refine .intro transit' valid (begun_append begun _) ?_
    intro text' mem
    rcases List.mem_append.1 mem with mem | mem
    · exact acceptable text' mem
    · obtain ⟨rfl⟩ := List.mem_singleton.1 mem
      exact small

/-- Everything is written. -/
theorem all_flushed (bare : Bare mail ⟨⟨some writer, .bare frames, address, resolution⟩,
    ⟨some reader, .bare frames', address', resolution'⟩, link⟩) :
    ∃ stream, writer.flush link.dialing =
        (.ok (), { writer with unwritten := .empty }, stream) ∧
      Bare { mail with flushed := true }
        ⟨⟨some { writer with unwritten := .empty }, .bare frames, address, resolution⟩,
          ⟨some reader, .bare frames', address', resolution'⟩, .ofDialing stream⟩ := by
  cases bare with
  | intro transit valid begun acceptable =>
    obtain ⟨stream, flushed, -, transit'⟩ := @Transit.flush _ _ _ link.dialing _ _ transit
    exact ⟨stream, flushed, transit', valid, begun, acceptable⟩

/-- The stream is ended and let go of once everything is written. -/
theorem closed (bare : Bare mail ⟨⟨some writer, .bare frames, address, resolution⟩,
    ⟨some reader, .bare frames', address', resolution'⟩, link⟩) (flushed : mail.flushed = true) :
    link.dialing.shutdown.1 = .ok () ∧
      Bare { mail with closed := true } ⟨⟨none, .bare frames, address, resolution⟩,
        ⟨some reader, .bare frames', address', resolution'⟩, .ofDialing link.dialing.release⟩ := by
  cases bare with
  | intro transit valid begun acceptable =>
    obtain ⟨ended, transit'⟩ := @Transit.close _ _ _ link.dialing _ _ transit flushed
    exact ⟨ended, transit', valid, begun, acceptable⟩

end Writing

/-- What is written goes on its way. -/
theorem write (bare : line.Bare mail) (call : WriteCall) :
    ∃ outcome mail' writer stream,
      line.writer.write suite call line.link.dialing = (outcome, writer, stream) ∧
      Delivers maxSize mail (.write call : Event α) (.wrote outcome) mail' ∧
      Bare mail' { line with writer, link := .ofDialing stream } := by
  have kept := bare
  cases bare with
  | @intro writer reader frames frames' address address' resolution resolution' link transit valid
      begun acceptable =>
    rcases transit.writer_cases with ⟨closed, rfl⟩ | ⟨opened, wire, rfl⟩
    · -- A connection that is closed refuses whatever is written.
      obtain ⟨outcome, written, delivers⟩ := Delivers.of_closed closed (transit.settled closed)
        suite (show Connection.wire ⟨none, .bare frames, address, resolution⟩ = none from rfl)
        maxSize call link.dialing
      exact ⟨outcome, mail, _, _, written, delivers, kept⟩
    · cases call with
      | byte octet => exact ⟨_, _, _, _, rfl, .byte octet opened, kept.octets_put [octet]⟩
      | bytes bytes => exact ⟨_, _, _, _, rfl, .bytes bytes opened, kept.octets_put bytes⟩
      | object object =>
        unfold Connection.write Connection.writeObject
        by_cases large : maxSize < object.encode.length
        · simp only [if_pos large]
          exact ⟨_, _, _, _, rfl, .tooLarge object opened large, kept⟩
        · have small : object.encode.length ≤ maxSize := Nat.le_of_not_lt large
          obtain ⟨stream, flushed, bare⟩ := (kept.object_put small).all_flushed
          simp only [if_neg large, Connection.flushWire, flushed]
          exact ⟨_, _, _, _, rfl, .object object opened small, bare⟩
      | flush =>
        obtain ⟨stream, flushed, bare⟩ := kept.all_flushed
        unfold Connection.write Connection.flush
        simp only [Connection.sealPending, Connection.flushWire, flushed]
        exact ⟨_, _, _, _, rfl, .flush opened, bare⟩
      | close =>
        obtain ⟨stream, flushed, bare⟩ := kept.all_flushed
        obtain ⟨ended, bare'⟩ := bare.closed rfl
        rw [Link.dialing_ofDialing] at ended
        unfold Connection.write Connection.close
        simp only [Connection.sealPending, flushed, ended, Stream.release_shutdown]
        exact ⟨_, _, _, _, rfl, .close, bare'⟩

end Bare

end Line

end PeerLink
