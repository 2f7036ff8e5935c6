import PeerLink.Config.File
import PeerLink.Proofs.Address.Peer
import PeerLink.Proofs.Text.Utf8
import PeerLink.Proofs.Yaml.Reader

/-!
# What a configuration file says

A file gives some of the settings, in any order, and leaves out the others. `Choice` has what is
given, and `Choice.config` is the configuration with that and with standard values for the rest;
`Choice.WrittenAs` says which nodes give a choice, and each of them is read as its configuration
(`ofNode?_of_writtenAs`). No node is read that has any other member (`ofNode?_of_foreign`), and no
file gives a password (`password_of_ofNode?`).
-/

namespace PeerLink

/-- Values for some of the settings. -/
structure Choice where
  /-- The path of the file with the entropy. -/
  entropy : Option String
  /-- Where the node listens. -/
  listenAddress : Option PeerAddress
  /-- How long the node waits for a connection, in seconds. -/
  dialTimeout : Option UInt64
  /-- How long the node waits for a negotiation, in seconds. -/
  negotiationTimeout : Option UInt64
  /-- The peers that are asked for others. -/
  bootstrap : Option (List PeerAddress)
  /-- The most dials at once. -/
  concurrency : Option UInt64
  /-- The time for all dials, in seconds. -/
  deadline : Option UInt64

/-- The configuration of a choice: a setting that is not given is as in the standard one. -/
def Choice.config (choice : Choice) : Config where
  secret :=
    { entropy := choice.entropy.getD Config.standard.secret.entropy
      password := Config.standard.secret.password }
  network :=
    { listenAddress := choice.listenAddress.getD Config.standard.network.listenAddress
      dialTimeout := choice.dialTimeout.getD Config.standard.network.dialTimeout
      negotiationTimeout :=
        choice.negotiationTimeout.getD Config.standard.network.negotiationTimeout
      secureChannel := Config.standard.network.secureChannel }
  peers :=
    { bootstrap := choice.bootstrap.getD Config.standard.peers.bootstrap
      concurrency := choice.concurrency.getD Config.standard.peers.concurrency
      deadline := choice.deadline.getD Config.standard.peers.deadline }

/-! ## Nodes that give a value -/

/-- A node gives a text: it is a scalar, plain or quoted. -/
def GivesText (text : String) (node : Yaml.Node) : Prop :=
  ∃ kind, node = .scalar kind text

/-- A node gives a word: it is a plain number. -/
def GivesWord (word : UInt64) (node : Yaml.Node) : Prop :=
  ∃ text : String, node = .scalar .plain text ∧ Yaml.Numeral text.toList word.toNat

/-- A node gives an address: it is a scalar with the text of the address. -/
def GivesAddress (address : PeerAddress) : Yaml.Node → Prop :=
  GivesText address.text

/-- A node gives addresses: it is a sequence of them. -/
def GivesAddresses (addresses : List PeerAddress) (node : Yaml.Node) : Prop :=
  ∃ items, node = .sequence items ∧ List.Forall₂ GivesAddress addresses items

/-- The text is read. -/
theorem text?_of_givesText {text : String} {node : Yaml.Node} (gives : GivesText text node) :
    node.text? = some text := by
  obtain ⟨kind, rfl⟩ := gives
  rfl

/-- The word is read. -/
theorem wordOf?_of_givesWord {word : UInt64} {node : Yaml.Node} (gives : GivesWord word node) :
    wordOf? node = some word := by
  obtain ⟨text, rfl, written⟩ := gives
  have bound : word.toNat ≤ maxWord := Nat.le_sub_one_of_lt word.toNat_lt
  rw [wordOf?, Yaml.Node.natural?, Yaml.natural?_of_numeral written, Option.filter_some,
    if_pos (decide_eq_true bound), Option.map_some, UInt64.ofNat_toNat]

/-- The address is read. -/
theorem addressOf?_of_givesAddress {address : PeerAddress} {node : Yaml.Node}
    (gives : GivesAddress address node) : addressOf? node = some address := by
  rw [addressOf?, text?_of_givesText gives, Option.bind_some,
    PeerAddress.toOption_parse_eq_some_iff]
  exact PeerAddress.parse_eq_ok_iff.2 rfl

/-- The addresses are read. -/
theorem list?_of_givesAddresses {addresses : List PeerAddress} {node : Yaml.Node}
    (gives : GivesAddresses addresses node) : node.list? addressOf? = some addresses := by
  obtain ⟨items, rfl, given⟩ := gives
  rw [Yaml.Node.list?]
  induction given with
  | nil => rfl
  | cons gives _ ih =>
    rw [List.mapM_cons, addressOf?_of_givesAddress gives, ih]
    rfl

/-! ## Sections -/

namespace Choice

open Yaml (Member)

/-- The members of the section `secret`. -/
def secret (choice : Choice) : List (Member SecretConfig) :=
  Member.of "entropy" GivesText (fun entropy config => { config with entropy }) choice.entropy

/-- The members of the section `network`. -/
def network (choice : Choice) : List (Member NetworkConfig) :=
  Member.of "listen_address" GivesAddress
      (fun listenAddress config => { config with listenAddress }) choice.listenAddress ++
    (Member.of "dial_timeout" GivesWord (fun dialTimeout config => { config with dialTimeout })
        choice.dialTimeout ++
      Member.of "negotiation_timeout" GivesWord
        (fun negotiationTimeout config => { config with negotiationTimeout })
        choice.negotiationTimeout)

/-- The members of the section `peers`. -/
def peers (choice : Choice) : List (Member PeersConfig) :=
  Member.of "bootstrap" GivesAddresses (fun bootstrap config => { config with bootstrap })
      choice.bootstrap ++
    (Member.of "concurrency" GivesWord (fun concurrency config => { config with concurrency })
        choice.concurrency ++
      Member.of "deadline" GivesWord (fun deadline config => { config with deadline })
        choice.deadline)

/-- A section is written with all its members, or left out if there are none. -/
def IsShown {σ : Type} (members : List (Member σ)) : Option (List (Member σ)) → Prop
  | some shown => shown = members
  | none => members = []

/-- A section that is written: a mapping with its members. -/
def sectionOf {σ : Type} (name : String) (start : σ) (put : σ → Config → Config) :
    Option (List (Member σ)) → List (Member Config) :=
  Member.of name (fun members node => node.Lists members) fun members =>
    put (Yaml.putAll members start)

/-- The members of a file in which certain sections are written. -/
def sectionsOf (secret : Option (List (Member SecretConfig)))
    (network : Option (List (Member NetworkConfig))) (peers : Option (List (Member PeersConfig))) :
    List (Member Config) :=
  sectionOf "secret" .standard (fun secret config => { config with secret }) secret ++
    (sectionOf "network" .standard (fun network config => { config with network }) network ++
      sectionOf "peers" .standard (fun peers config => { config with peers }) peers)

/-- A node gives just the settings of a choice, each in its section. Sections and members may stand
in any order, and an empty section may be left out. -/
def WrittenAs (choice : Choice) (node : Yaml.Node) : Prop :=
  ∃ secret network peers, IsShown choice.secret secret ∧ IsShown choice.network network ∧
    IsShown choice.peers peers ∧ node.Lists (sectionsOf secret network peers)

end Choice

namespace Choice

open Yaml (Member Knows)

variable (choice : Choice)

/-- The section `secret` knows its members. -/
theorem knows_secret : Knows SecretConfig.settings choice.secret :=
  Knows.of (by decide) (.head _) fun _ _ _ gives => congrArg _ (text?_of_givesText gives)

/-- The section `network` knows its members. -/
theorem knows_network : Knows NetworkConfig.settings choice.network := by
  have distinct : (NetworkConfig.settings.map (·.name)).Nodup := by decide
  refine Knows.prepend ?others distinct (.head _)
    (fun _ _ _ gives => congrArg _ (addressOf?_of_givesAddress gives)) ?apart
  case apart =>
    simp only [List.forall_mem_append, Member.forall_mem_of]
    simp [Member.Commutes]
  refine Knows.prepend ?other distinct (.tail _ (.head _))
    (fun _ _ _ gives => congrArg _ (wordOf?_of_givesWord gives)) ?apart
  case apart => simp [Member.forall_mem_of, Member.Commutes]
  exact Knows.of distinct (.tail _ (.tail _ (.head _)))
    fun _ _ _ gives => congrArg _ (wordOf?_of_givesWord gives)

/-- The section `peers` knows its members. -/
theorem knows_peers : Knows PeersConfig.settings choice.peers := by
  have distinct : (PeersConfig.settings.map (·.name)).Nodup := by decide
  refine Knows.prepend ?others distinct (.head _)
    (fun _ _ _ gives => congrArg _ (list?_of_givesAddresses gives)) ?apart
  case apart =>
    simp only [List.forall_mem_append, Member.forall_mem_of]
    simp [Member.Commutes]
  refine Knows.prepend ?other distinct (.tail _ (.head _))
    (fun _ _ _ gives => congrArg _ (wordOf?_of_givesWord gives)) ?apart
  case apart => simp [Member.forall_mem_of, Member.Commutes]
  exact Knows.of distinct (.tail _ (.tail _ (.head _)))
    fun _ _ _ gives => congrArg _ (wordOf?_of_givesWord gives)

/-- A section of which all members are shown is read. -/
theorem record?_of_isShown {σ : Type} {settings : List (Yaml.Setting σ)}
    {members shown : List (Member σ)} {shown? : Option (List (Member σ))}
    (knows : Knows settings members) (shows : IsShown members shown?)
    (is_shown : shown? = some shown) {node : Yaml.Node} (lists : node.Lists shown) (start : σ) :
    node.record? settings start = some (Yaml.putAll shown start) := by
  subst is_shown
  obtain rfl : shown = members := shows
  exact Yaml.record?_of_lists knows lists start

/-- A file knows its sections, if all members of each section are shown. -/
theorem knows_sections {secret : Option (List (Member SecretConfig))}
    {network : Option (List (Member NetworkConfig))} {peers : Option (List (Member PeersConfig))}
    (secret_shown : IsShown choice.secret secret) (network_shown : IsShown choice.network network)
    (peers_shown : IsShown choice.peers peers) :
    Knows Config.sections (sectionsOf secret network peers) := by
  have distinct : (Config.sections.map (·.name)).Nodup := by decide
  refine Knows.prepend ?others distinct (.head _) (fun _ is_shown _ lists =>
    congrArg _ (record?_of_isShown choice.knows_secret secret_shown is_shown lists _)) ?apart
  case apart =>
    simp only [sectionOf, List.forall_mem_append, Member.forall_mem_of]
    simp [Member.Commutes]
  refine Knows.prepend ?other distinct (.tail _ (.head _)) (fun _ is_shown _ lists =>
    congrArg _ (record?_of_isShown choice.knows_network network_shown is_shown lists _)) ?apart
  case apart => simp [sectionOf, Member.forall_mem_of, Member.Commutes]
  exact Knows.of distinct (.tail _ (.tail _ (.head _))) fun _ is_shown _ lists =>
    congrArg _ (record?_of_isShown choice.knows_peers peers_shown is_shown lists _)

/-- The members of the section `secret` make the section of the choice. -/
theorem putAll_secret : Yaml.putAll choice.secret .standard = choice.config.secret := by
  rw [secret, config]
  cases choice.entropy <;> rfl

/-- The members of the section `network` make the section of the choice. -/
theorem putAll_network : Yaml.putAll choice.network .standard = choice.config.network := by
  rw [network, config]
  cases choice.listenAddress <;> cases choice.dialTimeout <;>
    cases choice.negotiationTimeout <;> rfl

/-- The members of the section `peers` make the section of the choice. -/
theorem putAll_peers : Yaml.putAll choice.peers .standard = choice.config.peers := by
  rw [peers, config]
  cases choice.bootstrap <;> cases choice.concurrency <;> cases choice.deadline <;> rfl

/-- A node in which a choice is written is read as its configuration. -/
theorem ofNode?_of_writtenAs {node : Yaml.Node} (written : choice.WrittenAs node) :
    Config.ofNode? node = some choice.config := by
  obtain ⟨secret, network, peers, secret_shown, network_shown, peers_shown, lists⟩ := written
  have read := Yaml.record?_of_lists
    (choice.knows_sections secret_shown network_shown peers_shown) lists .standard
  have whole : choice.config =
      ⟨Yaml.putAll choice.secret .standard, Yaml.putAll choice.network .standard,
        Yaml.putAll choice.peers .standard⟩ := by
    rw [putAll_secret, putAll_network, putAll_peers]
  rw [Config.ofNode?, read, whole]
  -- A section that is left out is the standard one, as if it was written without members.
  cases secret <;> cases network <;> cases peers <;>
    simp only [IsShown] at secret_shown network_shown peers_shown <;>
    simp only [secret_shown, network_shown, peers_shown] <;> rfl

end Choice

/-! ## What is refused -/

namespace Config

/-- The names of the sections, and the names of their settings. -/
def memberNames : List (String × List String) :=
  [("secret", ["entropy"]),
    ("network", ["listen_address", "dial_timeout", "negotiation_timeout", "secure_channel"]),
    ("peers", ["bootstrap", "concurrency", "deadline"])]

/-- A mapping has a member that is not a setting of its section. -/
inductive Foreign : Yaml.Node → Prop
  /-- The member is none of the sections. -/
  | atTop {entries : List (Yaml.Node × Yaml.Node)} {key value : Yaml.Node}
      (mem : (key, value) ∈ entries) (unknown : ∀ names ∈ memberNames, key.text? ≠ some names.1) :
      Foreign (.mapping entries)
  /-- The member is in a section, and is none of its settings. -/
  | within {entries members : List (Yaml.Node × Yaml.Node)} {title key value : Yaml.Node}
      {name : String} {names : List String} (mem : (title, .mapping members) ∈ entries)
      (named : title.text? = some name) (known : (name, names) ∈ memberNames)
      (member : (key, value) ∈ members) (unknown : ∀ name ∈ names, key.text? ≠ some name) :
      Foreign (.mapping entries)

/-- A section that is read from a mapping has no other members than its settings. -/
theorem names_of_section {setting : Yaml.Setting Config} (mem : setting ∈ sections)
    {members : List (Yaml.Node × Yaml.Node)} {before after : Config}
    (read : setting.read (.mapping members) before = some after) :
    ∃ names, (setting.name, names) ∈ memberNames ∧
      ∀ key value, (key, value) ∈ members → ∃ name ∈ names, key.text? = some name := by
  have names {σ : Type} {settings : List (Yaml.Setting σ)} {start record : σ}
      (read : (Yaml.Node.mapping members).record? settings start = some record)
      (key value : Yaml.Node) (mem : (key, value) ∈ members) :
      ∃ name ∈ settings.map (·.name), key.text? = some name := by
    obtain ⟨setting, known, text_eq, -⟩ := Yaml.known_of_readEntries read mem
    exact ⟨setting.name, List.mem_map_of_mem known, text_eq⟩
  simp only [sections, List.mem_cons, List.not_mem_nil, or_false] at mem
  rcases mem with rfl | rfl | rfl
  · obtain ⟨_, read, -⟩ := Option.map_eq_some_iff.1 read
    exact ⟨_, .head _, names read⟩
  · obtain ⟨_, read, -⟩ := Option.map_eq_some_iff.1 read
    exact ⟨_, .tail _ (.head _), names read⟩
  · obtain ⟨_, read, -⟩ := Option.map_eq_some_iff.1 read
    exact ⟨_, .tail _ (.tail _ (.head _)), names read⟩

/-- A mapping with a foreign member is no configuration. -/
theorem ofNode?_of_foreign {node : Yaml.Node} (foreign : Foreign node) : ofNode? node = none := by
  have one_list : ∀ a ∈ memberNames, ∀ b ∈ memberNames, a.1 = b.1 → a.2 = b.2 := by decide
  rw [Option.eq_none_iff_forall_ne_some]
  intro config read
  cases foreign with
  | atTop mem unknown =>
    obtain ⟨setting, known, text_eq, -⟩ := Yaml.known_of_readEntries read mem
    simp only [sections, List.mem_cons, List.not_mem_nil, or_false] at known
    rcases known with rfl | rfl | rfl
    · exact unknown _ (.head _) text_eq
    · exact unknown _ (.tail _ (.head _)) text_eq
    · exact unknown _ (.tail _ (.tail _ (.head _))) text_eq
  | within mem named known member unknown =>
    obtain ⟨setting, known', text_eq, before, after, reads⟩ := Yaml.known_of_readEntries read mem
    obtain ⟨names, listed, only⟩ := names_of_section known' reads
    rw [named] at text_eq
    obtain rfl : _ = names := one_list _ known _ listed (Option.some.inj text_eq)
    obtain ⟨name, mem_names, is_name⟩ := only _ _ member
    exact unknown name mem_names is_name

/-- No configuration that is read from a node has a password. -/
theorem password_of_ofNode? {node : Yaml.Node} {config : Config}
    (read : ofNode? node = some config) : config.secret.password = none := by
  refine @Yaml.record?_keeps Config sections (fun config => config.secret.password = none)
    (fun setting mem node before after held reads => ?_) standard config rfl node read
  simp only [sections, List.mem_cons, List.not_mem_nil, or_false] at mem
  rcases mem with rfl | rfl | rfl
  · -- The section itself has no setting for a password.
    obtain ⟨secret, read_secret, rfl⟩ := Option.map_eq_some_iff.1 reads
    refine @Yaml.record?_keeps SecretConfig SecretConfig.settings
      (fun secret => secret.password = none) (fun setting mem node before after held reads => ?_)
      .standard secret rfl node read_secret
    obtain rfl := List.mem_singleton.1 mem
    obtain ⟨entropy, -, rfl⟩ := Option.map_eq_some_iff.1 reads
    exact held
  · obtain ⟨network, -, rfl⟩ := Option.map_eq_some_iff.1 reads
    exact held
  · obtain ⟨peers, -, rfl⟩ := Option.map_eq_some_iff.1 reads
    exact held

/-- The file of a text is read as the node that the text denotes. -/
theorem ofFile_encode (path : String) {text : String} {node : Yaml.Node}
    (denotes : Yaml.Node.ofText? text = some node) :
    ofFile path (.ok (Utf8.encode text.toList)) =
      match ofNode? node with
      | none => .error (.invalid path)
      | some config => .ok config := by
  have whole : ((Utf8.decode? (Utf8.encode text.toList)).bind fun chars =>
      ofText? (String.ofList chars)) = ofNode? node := by
    rw [Utf8.decode?_encode, Option.bind_some, String.ofList_toList, ofText?, denotes,
      Option.bind_some]
  cases given : ofNode? node with
  | none => simp only [ofFile, whole, given]
  | some config => simp only [ofFile, whole, given]

/-- No file gives a password. -/
theorem password_of_ofFile {path : String} {file : Except IoError Bytes} {config : Config}
    (read : ofFile path file = .ok config) : config.secret.password = none := by
  cases file with
  | error cause => cases read
  | ok bytes =>
    cases decoded : (Utf8.decode? bytes).bind fun chars => ofText? (String.ofList chars) with
    | none => simp [ofFile, decoded] at read
    | some config' =>
      obtain rfl : config' = config := by simpa [ofFile, decoded] using read
      obtain ⟨chars, -, of_text⟩ := Option.bind_eq_some_iff.1 decoded
      obtain ⟨node, -, of_node⟩ := Option.bind_eq_some_iff.1 of_text
      exact password_of_ofNode? of_node

end Config

end PeerLink
