import PeerLink.Address.Ip
import PeerLink.Key
import PeerLink.Text.Quoted

/-!
# Peer addresses

The address of a peer is written `/<family>/<host>/<transport>/<port>[/<key>]`. The key segment is
kept as it is written and decoded on demand only, so that an address to listen on needs no key. Each
address has one text: the host is canonical and the port has no leading zero.
-/

namespace PeerLink

/-- Whether a text is the tag of a transport: two or three small letters, or `quic`. -/
def isTransportTag (tag : String) : Bool :=
  tag == "quic" ||
    ((tag.toList.length == 2 || tag.toList.length == 3) &&
      tag.toList.all fun c => 'a' ≤ c && c ≤ 'z')

/-- The tag of a transport. -/
structure TransportTag where
  /-- The text of the tag. -/
  name : String
  /-- The text is one of a tag. -/
  isTag : isTransportTag name = true
  deriving DecidableEq, Repr

namespace TransportTag

/-- The tag with this text. -/
def ofName? (name : String) : Option TransportTag :=
  if h : isTransportTag name = true then some ⟨name, h⟩ else none

/-- The tag of the transport over stream sockets. -/
def tcp : TransportTag := ⟨"tcp", by decide⟩

end TransportTag

/-- Whether a text can be a segment of a peer address: it is not empty and has no slash. -/
def isSegment (text : String) : Bool :=
  !text.toList.isEmpty && !text.toList.contains '/'

/-- The key segment of a peer address, as it is written. -/
structure KeySegment where
  /-- The text of the segment. -/
  text : String
  /-- The text is one of a segment. -/
  isSegment : isSegment text = true
  deriving DecidableEq, Repr

/-- Why a text is not a peer address, or why an address does not give a public key. -/
inductive AddressError where
  /-- The text does not have the slashes and the segments of an address. -/
  | malformedAddress (text : String)
  /-- The first segment is no family. -/
  | invalidFamily (text : String)
  /-- The second segment is not the canonical text of an address of the family. -/
  | invalidHost (family : Family) (text : String)
  /-- The third segment is not the tag of a transport. -/
  | invalidTransport (text : String)
  /-- The fourth segment is no port. -/
  | invalidPort (text : String)
  /-- The key segment does not hold a public key. -/
  | invalidPublicKey (cause : KeyError)
  /-- There is no key segment. -/
  | missingPublicKey
  deriving DecidableEq, Repr

/-- The text of an error. -/
def AddressError.message : AddressError → String
  | malformedAddress text =>
    "Malformed address " ++ Text.Quoted.text text ++
      ", expecting /<family>/<host>/<transport>/<port>[/<key>]"
  | invalidFamily text =>
    "Invalid network family " ++ Text.Quoted.text text ++ ", expecting ip4 or ip6"
  | invalidHost family text =>
    "Invalid host " ++ Text.Quoted.text text ++ " for the network family " ++ family.name
  | invalidTransport text =>
    "Invalid transport " ++ Text.Quoted.text text ++ ", expecting 2 to 3 lowercase letters or quic"
  | invalidPort text => "Invalid port " ++ Text.Quoted.text text
  | invalidPublicKey cause => "Invalid public key: " ++ cause.message
  | missingPublicKey => "The address does not contain a public key"

/-- The address of a peer. -/
structure PeerAddress where
  /-- The network address. -/
  host : IpAddress
  /-- The transport to dial with. -/
  transport : TransportTag
  /-- The port. -/
  port : UInt16
  /-- The key segment, as it is written. -/
  key : Option KeySegment
  deriving DecidableEq, Repr

namespace PeerAddress

/-- The network family. -/
def family (address : PeerAddress) : Family :=
  address.host.family

/-- The segments of the text, in order. -/
def segments (address : PeerAddress) : List (List Char) :=
  [address.family.name.toList, address.host.chars, address.transport.name.toList,
    Text.Decimal.digits address.port.toNat] ++ (address.key.map (·.text.toList)).toList

/-- The text of an address. -/
def text (address : PeerAddress) : String :=
  String.ofList (address.segments.flatMap ('/' :: ·))

/-- The address and port as one text, without transport and key. -/
def socketText (address : PeerAddress) : String :=
  address.host.socketText address.port

/-- The address of a host, the tag of a transport and a port, without key. -/
def new (host : IpAddress) (transport : String) (port : UInt16) :
    Except AddressError PeerAddress :=
  match TransportTag.ofName? transport with
  | none => .error (.invalidTransport transport)
  | some tag => .ok ⟨host, tag, port, none⟩

/-- The address of a host and a port of the transport over stream sockets. -/
def tcp (host : IpAddress) (port : UInt16) : PeerAddress :=
  ⟨host, .tcp, port, none⟩

/-- The key segment of a text, if it is one. -/
def keySegment? (text : List Char) : Option KeySegment :=
  if h : isSegment (String.ofList text) = true then some ⟨String.ofList text, h⟩ else none

/-- The address of its segments; the first faulty one is blamed. -/
def ofSegments (family host transport port : List Char)
    (key : Option KeySegment) : Except AddressError PeerAddress :=
  match Family.ofName? (String.ofList family) with
  | none => .error (.invalidFamily (String.ofList family))
  | some knownFamily =>
    match IpAddress.ofChars? knownFamily host with
    | none => .error (.invalidHost knownFamily (String.ofList host))
    | some knownHost =>
      match TransportTag.ofName? (String.ofList transport) with
      | none => .error (.invalidTransport (String.ofList transport))
      | some tag =>
        match Text.Decimal.parse? 65535 port with
        | none => .error (.invalidPort (String.ofList port))
        | some n => .ok ⟨knownHost, tag, UInt16.ofNat n, key⟩

/-- The address that a text is the text of (`parse`). The key segment is not decoded. -/
def parse (text : String) : Except AddressError PeerAddress :=
  match text.toList with
  | '/' :: rest =>
    let segments := rest.splitOn '/'
    if segments.any (·.isEmpty) then .error (.malformedAddress text)
    else
      match segments with
      | [family, host, transport, port] => ofSegments family host transport port none
      | [family, host, transport, port, key] =>
        ofSegments family host transport port (keySegment? key)
      | _ => .error (.malformedAddress text)
  | _ => .error (.malformedAddress text)

/-- Whether a text is the text of an address (`validate`). The key segment is not decoded. -/
def validate (text : String) : Bool :=
  match parse text with
  | .error _ => false
  | .ok _ => true

/-- The public key in the key segment, if there is a segment (`public_key`). -/
def publicKey (address : PeerAddress) : Except AddressError (Option PublicKey) :=
  match address.key with
  | none => .ok none
  | some segment =>
    match PublicKey.ofDerHex segment.text with
    | .error cause => .error (.invalidPublicKey cause)
    | .ok key => .ok (some key)

/-- The address and the public key of a text that must have a key segment (`parse_with_key`). -/
def parseWithKey (text : String) : Except AddressError (PeerAddress × PublicKey) :=
  match parse text with
  | .error e => .error e
  | .ok address =>
    match address.publicKey with
    | .error e => .error e
    | .ok none => .error .missingPublicKey
    | .ok (some key) => .ok (address, key)

/-- The address without its key segment. -/
def withoutPublicKey (address : PeerAddress) : PeerAddress :=
  { address with key := none }

/-- The key segment of a public key: the hexadecimal text of its DER form. -/
def segmentOfKey (key : PublicKey) : Option KeySegment :=
  keySegment? (Hex.digits key.toDer)

/-- The address with the key segment of a public key (`with_public_key`). -/
def withPublicKey (address : PeerAddress) (key : PublicKey) : PeerAddress :=
  { address with key := segmentOfKey key }

end PeerAddress

end PeerLink
