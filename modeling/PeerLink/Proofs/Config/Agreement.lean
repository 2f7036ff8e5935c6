import Mathlib.Data.List.Basic
import PeerLink.Config.Arguments
import PeerLink.Proofs.CommandLine
import PeerLink.Proofs.Config.File

/-!
# Files and command lines agree

Whatever settings are given, it makes no difference whether they stand in a file or on the command
line: `file_and_command_line_agree`. `Choice.GivenBy` says which uses of options give a choice; the
values of every option are known from `CommandSyntax.parse_uses`, and each of them is read as the
value of the choice, or as the standard value if it is the standard text (`read_of_givesOnce`). The
standard texts say the same as the standard configuration (`spellsWord_standard`,
`spellsAddress_standard`), and checked arguments always give a configuration (`exists_ofChecked`).
-/

namespace PeerLink

/-! ## Texts of values -/

/-- A text spells a word: it consists of decimal digits, and there may be zeros or a plus sign in
front. -/
def SpellsWord (word : UInt64) (text : String) : Prop :=
  ∃ digits, Text.Spells 10 digits word.toNat ∧
    (text.toList = digits ∨ text.toList = '+' :: digits)

/-- A text spells an address: it is the text of the address. -/
def SpellsAddress (address : PeerAddress) (text : String) : Prop :=
  text = address.text

/-- A word is read as it is spelled, and does not look like an option. -/
theorem wordOfText?_of_spellsWord {word : UInt64} {text : String} (spells : SpellsWord word text) :
    wordOfText? text = some word ∧ text.toList.head? ≠ some '-' := by
  obtain ⟨digits, spelled, written⟩ := spells
  have read : Text.Decimal.read? digits = some word.toNat := Text.Decimal.read?_of_spells spelled
  have bound := word.toNat_lt
  have no_sign : ∀ k < 10, k.digitChar ≠ '+' ∧ k.digitChar ≠ '-' ∧ k.digitChar.toUpper ≠ '+' ∧
      k.digitChar.toUpper ≠ '-' := by decide
  obtain ⟨c, k, first, below, is_digit⟩ := spelled.head?
  obtain ⟨no_plus, no_minus⟩ : c ≠ '+' ∧ c ≠ '-' := by
    rcases is_digit with rfl | rfl
    · exact ⟨(no_sign k below).1, (no_sign k below).2.1⟩
    · exact ⟨(no_sign k below).2.2.1, (no_sign k below).2.2.2⟩
  have signed : Text.Decimal.readSigned? text.toList = some word.toNat := by
    rcases written with plain | plus
    · rw [plain]
      unfold Text.Decimal.readSigned?
      split
      · exact absurd (Option.some.inj first).symm no_plus
      · exact read
    · rw [plus, Text.Decimal.readSigned?, read]
  refine ⟨?_, ?_⟩
  · rw [wordOfText?, signed, Option.filter_some, if_pos (decide_eq_true bound), Option.map_some,
      UInt64.ofNat_toNat]
  · rcases written with plain | plus
    · rw [plain, first]
      simpa using no_minus
    · rw [plus]
      simp

/-- The decimal text of a word spells it. -/
theorem spellsWord_text (word : UInt64) : SpellsWord word (Text.Decimal.text word.toNat) :=
  ⟨_, Text.spells_toDigits (by decide) _, .inl String.toList_ofList⟩

/-- An address is read as it is spelled, and does not look like an option. -/
theorem addressOfText?_of_spellsAddress {address : PeerAddress} {text : String}
    (spells : SpellsAddress address text) :
    addressOfText? text = some address ∧ text.toList.head? ≠ some '-' := by
  obtain rfl := spells
  obtain ⟨rest, chars, -⟩ := address.toList_text
  refine ⟨PeerAddress.toOption_parse_eq_some_iff.2 (PeerAddress.parse_eq_ok_iff.2 rfl), ?_⟩
  rw [chars]
  simp

/-! ## Options of a choice -/

/-- An option is written with a value, and no value begins with the equals sign in front of it. -/
def OptionUse.IsWritten : OptionUse → Prop
  | apart _ values => values ≠ []
  | joined _ value => value.toList.head? ≠ some '='

/-- An option is used once, with a text that spells the value, or not at all if there is none. -/
def GivesOnce {α : Type} (uses : List OptionUse) (name : String) (spells : α → String → Prop) :
    Option α → Prop
  | none => uses.filter (·.name = name) = []
  | some value => ∃ use text, uses.filter (·.name = name) = [use] ∧ use.values = [text] ∧
    spells value text

/-- Uses of options give just the settings of a choice, in any order. The addresses of peers may be
given by one use or by more, in their order. -/
structure Choice.GivenBy (choice : Choice) (uses : List OptionUse) : Prop where
  /-- The path of the entropy. -/
  entropy : GivesOnce uses "entropy" (fun path text => text = path) choice.entropy
  /-- The address to listen on. -/
  listenAddress : GivesOnce uses "listen-address" SpellsAddress choice.listenAddress
  /-- The time to wait for a connection. -/
  dialTimeout : GivesOnce uses "dial-timeout" SpellsWord choice.dialTimeout
  /-- The time to wait for a negotiation. -/
  negotiationTimeout : GivesOnce uses "negotiation-timeout" SpellsWord choice.negotiationTimeout
  /-- The addresses of peers. -/
  bootstrap : (uses.filter (·.name = "bootstrap")).flatMap (·.values) =
    (choice.bootstrap.getD []).map (·.text)
  /-- The most dials at once. -/
  concurrency : GivesOnce uses "bootstrap-concurrency" SpellsWord choice.concurrency
  /-- The time for all dials. -/
  deadline : GivesOnce uses "bootstrap-deadline" SpellsWord choice.deadline
  /-- Nothing else is given. -/
  only : ∀ use ∈ uses, use.name ∈ ["entropy", "listen-address", "dial-timeout",
    "negotiation-timeout", "bootstrap", "bootstrap-concurrency", "bootstrap-deadline"]
  /-- All options are written with values. -/
  written : ∀ use ∈ uses, use.IsWritten

/-- The path of a choice can be an argument: there is one, and it does not look like an option. -/
def Choice.IsValid (choice : Choice) : Prop :=
  ∀ path, choice.entropy = some path → path ≠ "" ∧ path.toList.head? ≠ some '-'

/-- A use with values that do not look like options is clear. -/
theorem OptionUse.IsWritten.isClear {use : OptionUse} (written : use.IsWritten)
    (no_dash : ∀ value ∈ use.values, value.toList.head? ≠ some '-') : use.IsClear := by
  cases use with
  | apart name values => exact ⟨written, no_dash⟩
  | joined name value => exact written

variable {α : Type} {uses : List OptionUse} {option : CommandOption} {spells : α → String → Prop}
  {value? : Option α}

/-- An option that gives a value once is not used more often. -/
theorem length_le_of_givesOnce {name : String} (gives : GivesOnce uses name spells value?) :
    (uses.filter (·.name = name)).length ≤ 1 := by
  cases value? with
  | none => simp [show uses.filter (·.name = name) = [] from gives]
  | some value =>
    obtain ⟨use, text, once, -⟩ := gives
    simp [once]

/-- What gives a value once suits its option, if the option accepts the text. -/
theorem suits_of_givesOnce {spec : CommandSyntax} (mem : option ∈ spec.options)
    (gives : GivesOnce uses option.name spells value?)
    (accepts : ∀ value text, value? = some value → spells value text →
      option.accepts text = true ∧ text.toList.head? ≠ some '-')
    {use : OptionUse} (used : use ∈ uses) (named : use.name = option.name)
    (written : use.IsWritten) : spec.Suits use option := by
  have here : use ∈ uses.filter (·.name = option.name) :=
    List.mem_filter.2 ⟨used, decide_eq_true named⟩
  cases value? with
  | none =>
    rw [show uses.filter (·.name = option.name) = [] from gives] at here
    cases here
  | some value =>
    obtain ⟨use', text, once, values, spelled⟩ := gives
    rw [once] at here
    obtain rfl := List.mem_singleton.1 here
    obtain ⟨accepted, no_dash⟩ := accepts value text rfl spelled
    refine ⟨mem, named, written.isClear ?_, ?_, .inr (by rw [values]; exact Nat.le_refl 1)⟩
    · rw [values]
      simpa using no_dash
    · rw [values]
      simpa using accepted

/-- What is read of an option that gives a value once is this value, or the standard one. -/
theorem read_of_givesOnce {spec : CommandSyntax} {arguments : Arguments}
    (values : ∀ option ∈ spec.options, arguments.values option.name = option.valuesIn uses)
    (mem : option ∈ spec.options) (gives : GivesOnce uses option.name spells value?)
    {read? : String → Option α} (reads : ∀ value text, spells value text → read? text = some value)
    {standard : α} {text : String} (has_standard : option.standard = some text)
    (spelled : spells standard text) :
    arguments.read option.name read? = .ok (value?.getD standard) := by
  rw [Arguments.read, Arguments.value?, values option mem, CommandOption.valuesIn]
  cases value? with
  | none =>
    rw [show uses.filter (·.name = option.name) = [] from gives, has_standard]
    simp [Arguments.readText, reads standard text spelled]
  | some value =>
    obtain ⟨use, text', once, values', spelled'⟩ := gives
    rw [once]
    simp [Arguments.readText, values', reads value text' spelled']

/-- Texts of values are all read. -/
theorem mapM_readText {name : String} {read? : String → Option α} {write : α → String}
    (reads : ∀ value, read? (write value) = some value) (values : List α) :
    (values.map write).mapM (Arguments.readText name read?) = .ok values := by
  induction values with
  | nil => rfl
  | cons value values ih =>
    rw [List.map_cons, List.mapM_cons, ih, Arguments.readText, reads]
    rfl

namespace Config

/-! ## Standard texts -/

/-- The standard texts of the words say the same as the standard configuration. -/
theorem spellsWord_standard :
    SpellsWord NetworkConfig.standard.dialTimeout "10" ∧
      SpellsWord NetworkConfig.standard.negotiationTimeout "10" ∧
      SpellsWord PeersConfig.standard.concurrency "8" ∧
      SpellsWord PeersConfig.standard.deadline "60" :=
  ⟨spellsWord_text 10, spellsWord_text 10, spellsWord_text 8, spellsWord_text 60⟩

/-- So does the one of the address. -/
theorem spellsAddress_standard :
    SpellsAddress NetworkConfig.standard.listenAddress "/ip4/127.0.0.1/tcp/9876" := by
  rw [SpellsAddress]
  decide +kernel

/-- The command line of a configuration has options only. -/
theorem onlyOptions : commandSyntax.OnlyOptions := by
  refine ⟨rfl, rfl, by decide, fun option mem => ?_, by decide, ?_⟩
  · have names : ∀ option ∈ options, option.name.toList.head? ≠ some '-' ∧
        '=' ∉ option.name.toList ∧ option.name.toList ≠ [] := by decide
    obtain ⟨no_dash, no_equals, nonempty⟩ := names option mem
    exact ⟨no_dash, no_equals, nonempty⟩
  · obtain ⟨ten, -, eight, sixty⟩ := spellsWord_standard
    have address := (addressOfText?_of_spellsAddress spellsAddress_standard).1
    simp [commandSyntax, options, single, (wordOfText?_of_spellsWord ten).1,
      (wordOfText?_of_spellsWord eight).1, (wordOfText?_of_spellsWord sixty).1, address]

/-- Arguments of which every value is read. -/
structure IsRead (arguments : Arguments) (config : Config) : Prop where
  /-- The path of the entropy. -/
  entropy : arguments.read "entropy" some = .ok config.secret.entropy
  /-- The password. -/
  password : arguments.value? "password" = config.secret.password
  /-- The address to listen on. -/
  listenAddress : arguments.read "listen-address" addressOfText? = .ok config.network.listenAddress
  /-- The time to wait for a connection. -/
  dialTimeout : arguments.read "dial-timeout" wordOfText? = .ok config.network.dialTimeout
  /-- The time to wait for a negotiation. -/
  negotiationTimeout : arguments.read "negotiation-timeout" wordOfText? =
    .ok config.network.negotiationTimeout
  /-- The secure channel is offered. -/
  secureChannel : config.network.secureChannel = true
  /-- The addresses of peers. -/
  bootstrap : arguments.readMany "bootstrap" addressOfText? = .ok config.peers.bootstrap
  /-- The most dials at once. -/
  concurrency : arguments.read "bootstrap-concurrency" wordOfText? = .ok config.peers.concurrency
  /-- The time for all dials. -/
  deadline : arguments.read "bootstrap-deadline" wordOfText? = .ok config.peers.deadline

/-- Arguments give the configuration that is read of them. -/
theorem IsRead.ofChecked_eq {arguments : Arguments} {config : Config}
    (read : IsRead arguments config) : ofChecked arguments = .ok config := by
  obtain ⟨⟨_, _⟩, ⟨_, _, _, _⟩, _⟩ := config
  obtain rfl := read.password
  obtain rfl := read.secureChannel
  rw [ofChecked, read.entropy, read.listenAddress, read.dialTimeout, read.negotiationTimeout,
    read.bootstrap, read.concurrency, read.deadline]
  rfl

/-- Checked arguments always give a configuration: nothing is wrong with a value that was accepted,
and every option that is needed has one. -/
theorem exists_ofChecked {arguments : Arguments} (checked : commandSyntax.Checked arguments) :
    ∃ config, ofChecked arguments = .ok config := by
  have word (text : String) (accepted : (wordOfText? text).isSome = true) := accepted
  have address (text : String) (accepted : (addressOfText? text).isSome = true) := accepted
  obtain ⟨entropy, read_entropy⟩ := checked.exists_read (.head _) rfl fun text _ =>
    (rfl : (some text).isSome = true)
  obtain ⟨listen, read_listen⟩ :=
    checked.exists_read (List.mem_of_getElem? (i := 2) rfl) rfl address
  obtain ⟨dial, read_dial⟩ := checked.exists_read (List.mem_of_getElem? (i := 3) rfl) rfl word
  obtain ⟨negotiation, read_negotiation⟩ :=
    checked.exists_read (List.mem_of_getElem? (i := 4) rfl) rfl word
  obtain ⟨bootstrap, read_bootstrap⟩ :=
    checked.exists_readMany (List.mem_of_getElem? (i := 5) rfl) address
  obtain ⟨concurrency, read_concurrency⟩ :=
    checked.exists_read (List.mem_of_getElem? (i := 6) rfl) rfl word
  obtain ⟨deadline, read_deadline⟩ :=
    checked.exists_read (List.mem_of_getElem? (i := 7) rfl) rfl word
  have read : IsRead arguments ⟨⟨entropy, arguments.value? "password"⟩,
      ⟨listen, dial, negotiation, true⟩, ⟨bootstrap, concurrency, deadline⟩⟩ :=
    ⟨read_entropy, rfl, read_listen, read_dial, read_negotiation, rfl, read_bootstrap,
      read_concurrency, read_deadline⟩
  exact ⟨_, read.ofChecked_eq⟩

/-- A command line without a configuration was refused when it was parsed. -/
theorem parse_of_ofArguments {args : List String} {e : CommandLineError}
    (refused : ofArguments args = .error e) : commandSyntax.parse args = .error e := by
  rw [ofArguments] at refused
  cases parsed : commandSyntax.parse args with
  | error e' =>
    rw [parsed] at refused
    rw [Except.error.inj (refused : (Except.error e' : Except _ Config) = .error e)]
  | ok arguments =>
    obtain ⟨config, given⟩ := exists_ofChecked (CommandSyntax.checked_of_parse parsed)
    rw [parsed] at refused
    exact absurd (given.symm.trans refused) (by simp)

/-- The option of a word accepts what spells one. -/
theorem accepts_of_spellsWord {word : UInt64} {text : String} (spells : SpellsWord word text) :
    (wordOfText? text).isSome = true ∧ text.toList.head? ≠ some '-' := by
  obtain ⟨read, no_dash⟩ := wordOfText?_of_spellsWord spells
  exact ⟨by rw [read]; rfl, no_dash⟩

/-- The option of an address accepts what spells one. -/
theorem accepts_of_spellsAddress {address : PeerAddress} {text : String}
    (spells : SpellsAddress address text) :
    (addressOfText? text).isSome = true ∧ text.toList.head? ≠ some '-' := by
  obtain ⟨read, no_dash⟩ := addressOfText?_of_spellsAddress spells
  exact ⟨by rw [read]; rfl, no_dash⟩

/-- No option of a choice gives a password. -/
theorem no_password {choice : Choice} (given : choice.GivenBy uses) :
    uses.filter (·.name = "password") = [] := by
  rw [List.filter_eq_nil_iff]
  intro use used named
  have listed := given.only use used
  rw [of_decide_eq_true named] at listed
  exact absurd listed (by decide)

/-- The options of a choice are accepted. -/
theorem accepts_of_givenBy {choice : Choice} (valid : choice.IsValid)
    (given : choice.GivenBy uses) : commandSyntax.Accepts uses := by
  refine ⟨fun use used => ?_, ?_⟩
  · have written := given.written use used
    have listed := given.only use used
    simp only [List.mem_cons, List.not_mem_nil, or_false] at listed
    rcases listed with named | named | named | named | named | named | named
    · refine ⟨_, suits_of_givesOnce (.head _) given.entropy (fun path text chosen spelled => ?_)
        used named written⟩
      obtain rfl : text = path := spelled
      exact ⟨rfl, (valid text chosen).2⟩
    · exact ⟨_, suits_of_givesOnce (List.mem_of_getElem? (i := 2) rfl) given.listenAddress
        (fun _ _ _ => accepts_of_spellsAddress) used named written⟩
    · exact ⟨_, suits_of_givesOnce (List.mem_of_getElem? (i := 3) rfl) given.dialTimeout
        (fun _ _ _ => accepts_of_spellsWord) used named written⟩
    · exact ⟨_, suits_of_givesOnce (List.mem_of_getElem? (i := 4) rfl)
        given.negotiationTimeout (fun _ _ _ => accepts_of_spellsWord) used named written⟩
    · -- The values of all uses together are the texts of the addresses.
      have accepted : ∀ value ∈ use.values,
          (addressOfText? value).isSome = true ∧ value.toList.head? ≠ some '-' := by
        intro value mem
        have here : use ∈ uses.filter (·.name = "bootstrap") :=
          List.mem_filter.2 ⟨used, decide_eq_true named⟩
        have all := List.mem_flatMap.2 ⟨use, here, mem⟩
        rw [given.bootstrap] at all
        obtain ⟨address, -, rfl⟩ := List.mem_map.1 all
        exact accepts_of_spellsAddress rfl
      exact ⟨_, List.mem_of_getElem? (i := 5) rfl, named,
        written.isClear fun value mem => (accepted value mem).2,
        fun value mem => (accepted value mem).1, .inl rfl⟩
    · exact ⟨_, suits_of_givesOnce (List.mem_of_getElem? (i := 6) rfl)
        given.concurrency (fun _ _ _ => accepts_of_spellsWord) used named written⟩
    · exact ⟨_, suits_of_givesOnce (List.mem_of_getElem? (i := 7) rfl)
        given.deadline (fun _ _ _ => accepts_of_spellsWord) used named written⟩
  · simp only [commandSyntax, options, single, List.forall_mem_cons]
    refine ⟨.inr (length_le_of_givesOnce given.entropy), .inr ?_,
      .inr (length_le_of_givesOnce given.listenAddress),
      .inr (length_le_of_givesOnce given.dialTimeout),
      .inr (length_le_of_givesOnce given.negotiationTimeout), .inl trivial,
      .inr (length_le_of_givesOnce given.concurrency),
      .inr (length_le_of_givesOnce given.deadline), by simp⟩
    rw [no_password given]
    exact Nat.zero_le 1

/-- What the options of a choice give is its configuration. -/
theorem ofArguments_of_givenBy {choice : Choice} (valid : choice.IsValid)
    (given : choice.GivenBy uses) :
    ofArguments (uses.flatMap (·.arguments)) = .ok choice.config := by
  obtain ⟨arguments, parsed, values⟩ :=
    CommandSyntax.parse_uses onlyOptions (accepts_of_givenBy valid given)
  have read_word (value : UInt64) (text : String) (spells : SpellsWord value text) :=
    (wordOfText?_of_spellsWord spells).1
  have read_address (value : PeerAddress) (text : String) (spells : SpellsAddress value text) :=
    (addressOfText?_of_spellsAddress spells).1
  obtain ⟨dial_standard, negotiation_standard, concurrency_standard, deadline_standard⟩ :=
    spellsWord_standard
  -- Every option but two is given at most once, so that its value is the one given or the standard
  -- one.
  have read : IsRead arguments choice.config := by
    refine ⟨?entropy, ?password, ?address, ?dial, ?negotiation, rfl, ?bootstrap, ?concurrency,
      ?deadline⟩
    case entropy =>
      exact read_of_givesOnce values (.head _) given.entropy
        (fun path text spelled => congrArg some spelled) rfl rfl
    case password =>
      have nothing := values _ (.tail _ (.head _))
      rw [CommandOption.valuesIn, no_password given] at nothing
      exact congrArg List.head? nothing
    case address =>
      exact read_of_givesOnce values (List.mem_of_getElem? (i := 2) rfl) given.listenAddress
        read_address rfl spellsAddress_standard
    case dial =>
      exact read_of_givesOnce values (List.mem_of_getElem? (i := 3) rfl) given.dialTimeout
        read_word rfl dial_standard
    case negotiation =>
      exact read_of_givesOnce values (List.mem_of_getElem? (i := 4) rfl) given.negotiationTimeout
        read_word rfl negotiation_standard
    -- The values of all uses are read together.
    case bootstrap =>
      have together : arguments.values "bootstrap" =
          (uses.filter (·.name = "bootstrap")).flatMap (·.values) := by
        rw [values _ (List.mem_of_getElem? (i := 5) rfl), CommandOption.valuesIn]
        cases uses.filter (·.name = "bootstrap") <;> rfl
      rw [Arguments.readMany, together, given.bootstrap]
      exact mapM_readText (fun address => read_address address _ rfl) _
    case concurrency =>
      exact read_of_givesOnce values (List.mem_of_getElem? (i := 6) rfl) given.concurrency
        read_word rfl concurrency_standard
    case deadline =>
      exact read_of_givesOnce values (List.mem_of_getElem? (i := 7) rfl) given.deadline
        read_word rfl deadline_standard
  rw [ofArguments, parsed]
  exact read.ofChecked_eq

/-- The configuration file and the command line agree: a file whose text denotes a node in which
some settings are given, and a command line with the same settings, both give the configuration with
these values and with standard ones for all other settings. No file gives a password, and a file
with a member that is not a setting of its section is refused. -/
theorem file_and_command_line_agree :
    (∀ (choice : Choice) (path text : String) (node : Yaml.Node) (uses : List OptionUse),
      choice.IsValid → Yaml.Node.ofText? text = some node → choice.WrittenAs node →
        choice.GivenBy uses →
          ofFile path (.ok (Utf8.encode text.toList)) = .ok choice.config ∧
            ofArguments (uses.flatMap (·.arguments)) = .ok choice.config) ∧
    (∀ path file config, ofFile path file = .ok config → config.secret.password = none) ∧
    ∀ (path text : String) (node : Yaml.Node), Yaml.Node.ofText? text = some node →
      Foreign node → ofFile path (.ok (Utf8.encode text.toList)) = .error (.invalid path) := by
  refine ⟨fun choice path text node uses valid denotes written given => ⟨?_, ?_⟩,
    fun path file config => password_of_ofFile, fun path text node denotes foreign => ?_⟩
  · rw [ofFile_encode path denotes, choice.ofNode?_of_writtenAs written]
  · exact ofArguments_of_givenBy valid given
  · rw [ofFile_encode path denotes, ofNode?_of_foreign foreign]

/-- A choice of two settings. -/
def sampleChoice : Choice where
  entropy := none
  listenAddress := none
  dialTimeout := some 31
  negotiationTimeout := none
  bootstrap := some [.tcp (.v4 ⟨10, 0, 0, 1⟩) 80]
  concurrency := none
  deadline := none

/-- A choice in a file and on the command line, and a file with an unknown section. -/
theorem file_and_command_line_agree_of_sample :
    ofFile "node.yaml" (.ok (Utf8.encode
        "peers:\n  bootstrap: [/ip4/10.0.0.1/tcp/80]\nnetwork:\n  dial_timeout: 0x1F\n".toList)) =
          .ok sampleChoice.config ∧
      ofArguments ["--bootstrap=/ip4/10.0.0.1/tcp/80", "--dial-timeout", "+031"] =
        .ok sampleChoice.config ∧
      sampleChoice.config.secret.password = none ∧
      ofFile "node.yaml" (.ok (Utf8.encode "storage: 1\n".toList)) =
        .error (.invalid "node.yaml") := by
  -- The two texts are read by evaluation, and everything else by the rules of spelling.
  have address : (PeerAddress.tcp (.v4 ⟨10, 0, 0, 1⟩) 80).text = "/ip4/10.0.0.1/tcp/80" := by
    decide +kernel
  have denotes : Yaml.Node.ofText?
      "peers:\n  bootstrap: [/ip4/10.0.0.1/tcp/80]\nnetwork:\n  dial_timeout: 0x1F\n" =
        some (.mapping [
      (.scalar .plain "peers", .mapping [
        (.scalar .plain "bootstrap", .sequence [.scalar .plain "/ip4/10.0.0.1/tcp/80"])]),
      (.scalar .plain "network", .mapping [
        (.scalar .plain "dial_timeout", .scalar .plain "0x1F")])]) := by cbv
  have unknown : Yaml.Node.ofText? "storage: 1\n" =
      some (.mapping [(.scalar .plain "storage", .scalar .plain "1")]) := by cbv
  have valid : sampleChoice.IsValid := by rintro path ⟨⟩
  have written : sampleChoice.WrittenAs (.mapping [
      (.scalar .plain "peers", .mapping [
        (.scalar .plain "bootstrap", .sequence [.scalar .plain "/ip4/10.0.0.1/tcp/80"])]),
      (.scalar .plain "network", .mapping [
        (.scalar .plain "dial_timeout", .scalar .plain "0x1F")])]) := by
    -- The sections stand in the reverse order.
    refine ⟨none, some _, some _, rfl, rfl, rfl, _, _, rfl, List.reverse_perm _,
      .cons ⟨⟨_, rfl⟩, ?peers⟩ (.cons ⟨⟨_, rfl⟩, ?network⟩ .nil)⟩
    case peers =>
      have item : GivesAddress (.tcp (.v4 ⟨10, 0, 0, 1⟩) 80)
          (.scalar .plain "/ip4/10.0.0.1/tcp/80") := by
        rw [← address]
        exact ⟨_, rfl⟩
      exact ⟨_, _, rfl, .refl _, .cons ⟨⟨_, rfl⟩, _, rfl, .cons item .nil⟩ .nil⟩
    case network =>
      have digits : Text.Spells 16 ['1', 'F'] 31 :=
        (Text.Spells.digit (by decide : Text.IsDigit 16 '1' 1)).append
          (by decide : Text.IsDigit 16 'F' 15)
      exact ⟨_, _, rfl, .refl _,
        .cons ⟨⟨_, rfl⟩, _, rfl, .unsigned (.based (.head _) digits)⟩ .nil⟩
  -- On the command line the number has a sign and a leading zero.
  have given : sampleChoice.GivenBy [.joined "bootstrap" "/ip4/10.0.0.1/tcp/80",
      .apart "dial-timeout" ["+031"]] := by
    have digits : Text.Spells 10 ['0', '3', '1'] 31 :=
      ((Text.Spells.digit (by decide : Text.IsDigit 10 '0' 0)).append
        (by decide : Text.IsDigit 10 '3' 3)).append (by decide : Text.IsDigit 10 '1' 1)
    refine ⟨rfl, rfl, ⟨_, _, rfl, rfl, _, digits, .inr rfl⟩, rfl, ?_, rfl, rfl, by decide, ?_⟩
    · exact congrArg (fun text => [text]) address.symm
    · simp [OptionUse.IsWritten]
  have foreign : Foreign (.mapping [(.scalar .plain "storage", .scalar .plain "1")]) :=
    .atTop (.head _) (by decide)
  obtain ⟨agree, no_password, refused⟩ := file_and_command_line_agree
  obtain ⟨read, parsed⟩ := agree sampleChoice "node.yaml" _ _ _ valid denotes written given
  exact ⟨read, parsed, no_password _ _ _ read, refused _ _ _ unknown foreign⟩

end Config

end PeerLink
