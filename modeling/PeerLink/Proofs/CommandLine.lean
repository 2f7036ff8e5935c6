import Mathlib.Data.List.TakeWhile
import PeerLink.CommandLine
import PeerLink.Proofs.Named

/-!
# Options are read as they are given

A command that takes options only may be given them in any order, each with its values behind it or
in the same argument. `Arguments.given?` is the view of what is read so far, option by option; each
use of an option adds its values there and changes nothing else (`readAll_use`), so that all uses
together leave the values of every option in the order of its uses (`readAll_uses`). An option that
is not used has its standard value (`given?_foldl_standardize`), and nothing is wrong with that
(`parse_uses`).

Whatever the arguments are, the ones that pass the check are `Checked`: all values are ones of their
options, and no option is without its standard value (`checked_of_check`).
-/

namespace PeerLink

/-- An option in the way it is written. -/
inductive OptionUse where
  /-- The values are arguments of their own. -/
  | apart (name : String) (values : List String)
  /-- The value stands behind an equals sign. -/
  | joined (name value : String)

namespace OptionUse

/-- The option that is used. -/
def name : OptionUse → String
  | apart name _ => name
  | joined name _ => name

/-- The values that are given to the option. -/
def values : OptionUse → List String
  | apart _ values => values
  | joined _ value => [value]

/-- The arguments of which a use consists. -/
def arguments : OptionUse → List String
  | apart name values => ("--" ++ name) :: values
  | joined name value => ["--" ++ name ++ "=" ++ value]

/-- There are values, and they are not taken for anything else: a value of its own does not begin
with a dash, and a value behind an equals sign not with another one. -/
def IsClear : OptionUse → Prop
  | apart _ values => values ≠ [] ∧ ∀ value ∈ values, value.toList.head? ≠ some '-'
  | joined _ value => value.toList.head? ≠ some '='

/-- A clear use gives values. -/
theorem IsClear.values_ne_nil {use : OptionUse} (clear : use.IsClear) : use.values ≠ [] := by
  cases use with
  | apart name values => exact clear.1
  | joined name value => exact List.cons_ne_nil _ _

/-- What uses give to an option. -/
def given? (uses : List OptionUse) (name : String) : Option GivenOption :=
  match uses.filter (·.name = name) with
  | [] => none
  | named => some ⟨name, named.length, named.flatMap (·.values)⟩

end OptionUse

/-- The values of an option: the ones that uses give to it, or else its standard value. -/
def CommandOption.valuesIn (uses : List OptionUse) (option : CommandOption) : List String :=
  match uses.filter (·.name = option.name) with
  | [] => option.standard.toList
  | named => named.flatMap (·.values)

/-! ## The view of arguments -/

namespace Arguments

/-- What is given of an option. -/
def given? (name : String) (arguments : Arguments) : Option GivenOption :=
  arguments.given.find? (·.name = name)

/-- A change of an option leaves the others as they are. -/
theorem given?_update {change : GivenOption → GivenOption}
    (keeps : ∀ given, (change given).name = given.name) (name other : String)
    (arguments : Arguments) :
    (arguments.update name change).given? other =
      if other = name then some (change ((arguments.given? name).getD ⟨name, 0, []⟩))
      else arguments.given? other := by
  have named {given : GivenOption} (found : arguments.given? other = some given) :
      given.name = other := by
    simpa using List.find?_some found
  -- The option was given before, or it is put behind the others.
  by_cases known : arguments.given.any (·.name = name) = true
  · have changed : (arguments.update name change).given? other =
        (arguments.given? other).map fun given =>
          if given.name = name then change given else given := by
      rw [update, if_pos known, given?, List.find?_map, given?]
      congr 2
      funext given
      simp only [Function.comp_apply]
      split <;> simp [keeps]
    rw [changed]
    split_ifs with same
    · subst same
      cases found : arguments.given? other with
      | none =>
        obtain ⟨given, mem, is_it⟩ := List.any_eq_true.1 known
        exact absurd is_it (List.find?_eq_none.1 found given mem)
      | some given => simp [named found]
    · cases found : arguments.given? other with
      | none => rfl
      | some given => simp [named found, same]
  · have unknown : arguments.given? name = none := by
      simpa [given?] using known
    rw [update, if_neg known]
    simp only [given?, List.find?_append, List.find?_cons, List.find?_nil, keeps]
    split_ifs with same
    · subst same
      rw [given?] at unknown
      simp [unknown]
    · have differ : decide (name = other) = false := decide_eq_false (Ne.symm same)
      simp [differ]

/-- What is given of an option, also if it is nothing. -/
def total (name : String) (arguments : Arguments) : GivenOption :=
  (arguments.given? name).getD ⟨name, 0, []⟩

/-- The total of an option has its name. -/
theorem name_total (name : String) (arguments : Arguments) :
    (arguments.total name).name = name := by
  rw [total]
  cases found : arguments.given? name with
  | none => rfl
  | some given => simpa using List.find?_some found

/-- The values of an option are the ones of its total. -/
theorem values_eq (name : String) (arguments : Arguments) :
    arguments.values name = (arguments.total name).values := by
  rw [values, total, given?]
  cases arguments.given.find? (·.name = name) <;> rfl

/-- What is read has come to more of one option: it is given `count` times more, with more
values. -/
structure Gains (name : String) (count : Nat) (values : List String)
    (before after : Arguments) : Prop where
  /-- What is given of the option. -/
  own : after.given? name =
    some ⟨name, (before.total name).count + count, (before.total name).values ++ values⟩
  /-- The other options. -/
  others : ∀ other, other ≠ name → after.given? other = before.given? other
  /-- There are no more operands. -/
  operands : after.operands = before.operands
  /-- Options may still follow if they could before. -/
  onlyOperands : after.onlyOperands = before.onlyOperands

/-- An update that counts and adds is a gain. -/
theorem gains_update {change : GivenOption → GivenOption} {count : Nat} {values : List String}
    (changes : ∀ given, change given = ⟨given.name, given.count + count, given.values ++ values⟩)
    (name : String) (arguments : Arguments) :
    Gains name count values arguments (arguments.update name change) := by
  have keeps : ∀ given, (change given).name = given.name := fun given => by rw [changes]
  refine ⟨?_, fun other ne => ?_, ?_, ?_⟩
  · rw [given?_update keeps, if_pos rfl, ← total, changes, name_total]
  · rw [given?_update keeps, if_neg ne]
  · rw [update]
    split <;> rfl
  · rw [update]
    split <;> rfl

/-- An option is counted. -/
theorem gains_count (name : String) (arguments : Arguments) :
    Gains name 1 [] arguments (arguments.count name) :=
  gains_update (fun given => by rw [List.append_nil]) name arguments

/-- A value is added. -/
theorem gains_add (name value : String) (arguments : Arguments) :
    Gains name 0 [value] arguments (arguments.add name value) :=
  gains_update (fun _ => rfl) name arguments

/-- One gain after the other. -/
theorem Gains.trans {name : String} {m n : Nat} {values more : List String}
    {before between after : Arguments} (first : Gains name m values before between)
    (second : Gains name n more between after) :
    Gains name (m + n) (values ++ more) before after where
  own := by
    rw [second.own, total, first.own, Option.getD_some, Nat.add_assoc, List.append_assoc]
  others := fun other ne => (second.others other ne).trans (first.others other ne)
  operands := second.operands.trans first.operands
  onlyOperands := second.onlyOperands.trans first.onlyOperands

/-- What the next argument may be has no part in a gain. -/
theorem Gains.expecting {name : String} {count : Nat} {values : List String}
    {before after : Arguments} (gains : Gains name count values before after)
    (expectation : Expectation) :
    Gains name count values before { after with expectation } :=
  ⟨gains.own, gains.others, gains.operands, gains.onlyOperands⟩

end Arguments

/-! ## Reading -/

/-- A name that can be written behind two dashes. -/
structure CommandOption.IsNamed (name : String) : Prop where
  /-- The name does not begin with a dash. -/
  no_dash : name.toList.head? ≠ some '-'
  /-- There is no equals sign in it. -/
  no_equals : '=' ∉ name.toList
  /-- There is a name. -/
  nonempty : name.toList ≠ []

/-- The characters of an option behind two dashes. -/
theorem toList_dashes (text : String) : ("--" ++ text).toList = '-' :: '-' :: text.toList := by
  rw [String.toList_append]
  rfl

/-- The characters of an option with its value in one argument. -/
theorem toList_joined (name value : String) :
    ("--" ++ name ++ "=" ++ value).toList = '-' :: '-' :: (name.toList ++ '=' :: value.toList) := by
  simp [String.toList_append]

/-- The dashes in front of a name are passed over. -/
theorem dropWhile_dashes {text : List Char} (no_dash : text.head? ≠ some '-') :
    ('-' :: '-' :: text).dropWhile (· = '-') = text := by
  cases text with
  | nil => rfl
  | cons c text =>
    have other : c ≠ '-' := fun same => no_dash (congrArg some same)
    simp [other]

/-- A name behind two dashes has no value with it. -/
theorem splitOption_name {name : String} (named : CommandOption.IsNamed name) :
    splitOption ("--" ++ name) = (name, none) := by
  have other : ∀ c ∈ name.toList, decide (c ≠ '=') = true := fun c mem =>
    decide_eq_true fun same => named.no_equals (same ▸ mem)
  rw [splitOption, toList_dashes, dropWhile_dashes named.no_dash]
  simp only [List.takeWhile_eq_self_iff.2 other, List.contains_eq_mem, named.no_equals,
    decide_false, Bool.false_eq_true, if_false, String.ofList_toList]

/-- A name behind two dashes may have a value with it. -/
theorem splitOption_joined {name value : String} (named : CommandOption.IsNamed name)
    (clear : value.toList.head? ≠ some '=') :
    splitOption ("--" ++ name ++ "=" ++ value) = (name, some value) := by
  have other : ∀ c ∈ name.toList, decide (c ≠ '=') = true := fun c mem =>
    decide_eq_true fun same => named.no_equals (same ▸ mem)
  have no_dash : (name.toList ++ '=' :: value.toList).head? ≠ some '-' := by
    obtain ⟨c, rest, cons⟩ := List.exists_cons_of_ne_nil named.nonempty
    have first := named.no_dash
    rw [cons] at first ⊢
    exact first
  -- The value begins behind the first equals sign.
  have rest : ('=' :: value.toList).dropWhile (· = '=') = value.toList := by
    cases chars : value.toList with
    | nil => rfl
    | cons c rest =>
      rw [chars] at clear
      have ne : c ≠ '=' := fun same => clear (congrArg some same)
      simp [ne]
  rw [splitOption, toList_joined, dropWhile_dashes no_dash]
  simp only [List.takeWhile_append_of_pos other, List.dropWhile_append_of_pos other]
  simp [rest]

namespace CommandSyntax

variable {spec : CommandSyntax}

/-- A command takes options only, and may do without any of them. -/
structure OnlyOptions (spec : CommandSyntax) : Prop where
  /-- There are no operands. -/
  operands : spec.operands = []
  /-- No other command follows. -/
  commands : spec.commands = []
  /-- No option must be given. -/
  optional : ∀ option ∈ spec.options, option.isRequired = false
  /-- The names can be written behind two dashes. -/
  named : ∀ option ∈ spec.options, CommandOption.IsNamed option.name
  /-- No two options have the same name. -/
  distinct : (spec.options.map (·.name)).Nodup
  /-- The standard value of an option is a value of it. -/
  standards : ∀ option ∈ spec.options, ∀ value, option.standard = some value →
    option.accepts value = true

/-- Without commands no argument is the name of one. -/
theorem OnlyOptions.isCommand_eq (plain : spec.OnlyOptions) (argument : String)
    (arguments : Arguments) : spec.isCommand argument arguments = false := by
  simp [isCommand, plain.commands]

/-- An argument behind which the others are read. -/
theorem OnlyOptions.readAll_cons (plain : spec.OnlyOptions) {argument : String}
    {arguments next : Arguments} (read : spec.readArgument argument arguments = .ok next)
    (rest : List String) :
    spec.readAll arguments (argument :: rest) = spec.readAll next rest := by
  rw [readAll, plain.isCommand_eq, read]
  rfl

/-- Values behind their option are read as its values. There may be more than one if the option
takes many. -/
theorem readAll_values (plain : spec.OnlyOptions) {option : CommandOption}
    (mem : option ∈ spec.options) {values : List String}
    (no_dash : ∀ value ∈ values, value.toList.head? ≠ some '-')
    (fit : option.isMany = true ∨ values.length ≤ 1) {arguments : Arguments}
    (open_ : arguments.onlyOperands = false)
    (expecting : arguments.expectation = .value option.name) (rest : List String) :
    ∃ next, spec.readAll arguments (values ++ rest) = spec.readAll next rest ∧
      (values ≠ [] → arguments.Gains option.name 0 values next) ∧
      ∀ name, next.expectation = .value name → name = option.name := by
  induction values generalizing arguments with
  | nil =>
    refine ⟨arguments, rfl, fun ne => absurd rfl ne, fun name expected => ?_⟩
    rw [expecting] at expected
    exact (Expectation.value.inj expected).symm
  | cons value values ih =>
    have plain_value : isOptionLike value = false := by
      simp [isOptionLike, no_dash value List.mem_cons_self]
    have read : spec.readArgument value arguments =
        .ok (spec.readValue option.name value arguments) := by
      simp [readArgument, open_, plain_value, expecting]
    have gains : arguments.Gains option.name 0 [value]
        (spec.readValue option.name value arguments) :=
      (Arguments.gains_add option.name value arguments).expecting _
    have many : (spec.options.find? (·.name = option.name)).any (·.isMany) = option.isMany := by
      rw [find?_named plain.distinct mem]
      rfl
    rw [List.cons_append, plain.readAll_cons read]
    cases values with
    | nil =>
      refine ⟨_, rfl, fun _ => gains, fun name expected => ?_⟩
      rw [readValue, many] at expected
      cases option_many : option.isMany <;> rw [option_many] at expected
      · cases expected
      · exact (Expectation.value.inj expected).symm
    | cons value' values =>
      -- More values follow, so the option takes many, and goes on to do so.
      have takes_many : option.isMany = true := by
        rcases fit with many | short
        · exact many
        · simp at short
      have expecting' : (spec.readValue option.name value arguments).expectation =
          .value option.name := by
        rw [readValue, many, takes_many]
        rfl
      obtain ⟨next, reads, more, expected⟩ := ih
        (fun value mem => no_dash value (List.mem_cons_of_mem _ mem)) (.inl takes_many)
        (gains.onlyOperands.trans open_) expecting'
      exact ⟨next, reads, fun _ => gains.trans (more (List.cons_ne_nil _ _)), expected⟩

/-- A use of an option is read: the option gains its values. -/
theorem readAll_use (plain : spec.OnlyOptions) {option : CommandOption}
    (mem : option ∈ spec.options) {use : OptionUse} (named : use.name = option.name)
    (clear : use.IsClear) (fit : option.isMany = true ∨ use.values.length ≤ 1)
    {arguments : Arguments} (open_ : arguments.onlyOperands = false) (rest : List String) :
    ∃ next, spec.readAll arguments (use.arguments ++ rest) = spec.readAll next rest ∧
      arguments.Gains option.name 1 use.values next ∧
      ∀ name, next.expectation = .value name → name = option.name := by
  have is_named := plain.named option mem
  have found := find?_named plain.distinct mem
  -- An argument with a name behind two dashes is an option.
  have long (text : List Char) (argument : String)
      (chars : argument.toList = '-' :: '-' :: text) (nonempty : text ≠ []) :
      spec.readArgument argument arguments = spec.readLong argument arguments := by
    have no_stop : argument ≠ "--" := by
      rintro rfl
      exact nonempty (List.cons.inj (List.cons.inj chars).2).2.symm
    have no_dash : argument ≠ "-" := by
      rintro rfl
      cases chars
    simp [readArgument, open_, isOptionLike, isLongOption, chars, no_stop, no_dash]
  cases use with
  | apart name values =>
    obtain rfl : name = option.name := named
    have read : spec.readArgument ("--" ++ option.name) arguments =
        .ok { arguments.count option.name with expectation := .value option.name } := by
      rw [long _ _ (toList_dashes option.name) is_named.nonempty, readLong,
        splitOption_name is_named]
      simp [found]
    have gains := (Arguments.gains_count option.name arguments).expecting (.value option.name)
    obtain ⟨next, reads, more, expected⟩ :=
      readAll_values plain mem clear.2 fit (gains.onlyOperands.trans open_) rfl rest
    refine ⟨next, ?_, gains.trans (more clear.1), expected⟩
    rw [OptionUse.arguments, List.cons_append, plain.readAll_cons read, reads]
  | joined name value =>
    obtain rfl : name = option.name := named
    have read : spec.readArgument ("--" ++ option.name ++ "=" ++ value) arguments =
        .ok { (arguments.add option.name value).count option.name with expectation := .fresh } := by
      rw [long _ _ (toList_joined option.name value) (by simp), readLong,
        splitOption_joined is_named clear]
      simp [found]
    have gains := (Arguments.gains_add option.name value arguments).trans
      (Arguments.gains_count option.name _)
    refine ⟨_, ?_, gains.expecting .fresh, fun name expected => by cases expected⟩
    rw [OptionUse.arguments, List.singleton_append, plain.readAll_cons read]

/-- What is read of a command line when certain uses of options are read. -/
structure Holds (uses : List OptionUse) (arguments : Arguments) : Prop where
  /-- The uses have given what is there of each option. -/
  given : ∀ name, arguments.given? name = OptionUse.given? uses name
  /-- There are no operands. -/
  operands : arguments.operands = []
  /-- Options may still follow. -/
  onlyOperands : arguments.onlyOperands = false
  /-- The option whose values may follow has a value already. -/
  expected : ∀ name, arguments.expectation = .value name → arguments.values name ≠ []

/-- Nothing is read. -/
theorem holds_empty : Holds [] .empty :=
  ⟨fun _ => rfl, rfl, rfl, by rintro name ⟨⟩⟩

/-- One more use gives its values to its option. -/
theorem Holds.gain {uses : List OptionUse} {arguments next : Arguments}
    (holds : Holds uses arguments) {use : OptionUse} (clear : use.IsClear)
    (gains : arguments.Gains use.name 1 use.values next)
    (expected : ∀ name, next.expectation = .value name → name = use.name) :
    Holds (uses ++ [use]) next := by
  refine ⟨fun name => ?_, gains.operands.trans holds.operands,
    gains.onlyOperands.trans holds.onlyOperands, fun name awaited => ?_⟩
  · by_cases same : name = use.name
    · subst same
      rw [gains.own, Arguments.total, holds.given]
      simp only [OptionUse.given?, List.filter_append]
      cases uses.filter (·.name = use.name) with
      | nil => simp
      | cons first named => simp
    · rw [gains.others name same, holds.given]
      simp [OptionUse.given?, List.filter_append, Ne.symm same]
  · obtain rfl := expected name awaited
    rw [Arguments.values_eq, Arguments.total, gains.own]
    simp [clear.values_ne_nil]

/-- A use of an option of a command: it gives values of the option, and no more than the option
takes. -/
structure Suits (spec : CommandSyntax) (use : OptionUse) (option : CommandOption) : Prop where
  /-- The command has the option. -/
  mem : option ∈ spec.options
  /-- It is the one that is used. -/
  named : use.name = option.name
  /-- The values are not taken for anything else. -/
  clear : use.IsClear
  /-- The values are ones of the option. -/
  accepted : ∀ value ∈ use.values, option.accepts value = true
  /-- There is one value, unless the option takes many. -/
  fit : option.isMany = true ∨ use.values.length ≤ 1

/-- Uses of options are read one after the other. -/
theorem readAll_uses (plain : spec.OnlyOptions) {uses more : List OptionUse}
    (suit : ∀ use ∈ more, ∃ option, spec.Suits use option) {arguments : Arguments}
    (holds : Holds uses arguments) :
    ∃ final, spec.readAll arguments (more.flatMap (·.arguments)) = .ok (final, none) ∧
      Holds (uses ++ more) final := by
  induction more generalizing uses arguments with
  | nil => exact ⟨arguments, rfl, by rwa [List.append_nil]⟩
  | cons use more ih =>
    obtain ⟨option, suits⟩ := suit use List.mem_cons_self
    obtain ⟨next, reads, gains, expected⟩ := readAll_use plain suits.mem suits.named suits.clear
      suits.fit holds.onlyOperands (more.flatMap (·.arguments))
    rw [← suits.named] at gains expected
    obtain ⟨final, reads', holds'⟩ := ih (fun use mem => suit use (List.mem_cons_of_mem _ mem))
      (holds.gain suits.clear gains expected)
    refine ⟨final, ?_, by rwa [List.append_assoc] at holds'⟩
    rw [List.flatMap_cons, reads, reads']

/-! ## All arguments -/

/-- What is left of an option when those without a value have their standard values. -/
def standing (arguments : Arguments) (option : CommandOption) : Option GivenOption :=
  (arguments.given? option.name).or (option.standard.map fun value => ⟨option.name, 0, [value]⟩)

/-- An option is given its standard value if it has no other. -/
def standardize (arguments : Arguments) (option : CommandOption) : Arguments :=
  match option.standard with
  | none => arguments
  | some value =>
    if (arguments.values option.name).isEmpty then arguments.add option.name value else arguments

/-- An option that is given has values. -/
def IsComplete (arguments : Arguments) : Prop :=
  ∀ name given, arguments.given? name = some given → given.values ≠ []

/-- An option that is given has its values, and one that is not its standard value. -/
theorem given?_standardize {arguments : Arguments} (complete : IsComplete arguments)
    (option : CommandOption) :
    (standardize arguments option).given? option.name = standing arguments option ∧
      (∀ other, other ≠ option.name →
        (standardize arguments option).given? other = arguments.given? other) ∧
      (standardize arguments option).operands = arguments.operands ∧
      (standardize arguments option).expectation = arguments.expectation := by
  rw [standardize, standing]
  -- An option that was given has values, and only one that was not gets the standard one.
  cases option.standard with
  | none => simp
  | some value =>
    cases found : arguments.given? option.name with
    | some given =>
      have some_values : (arguments.values option.name).isEmpty = false := by
        rw [Arguments.values_eq, Arguments.total, found]
        simpa using complete _ _ found
      simp [some_values, found]
    | none =>
      have no_values : (arguments.values option.name).isEmpty = true := by
        rw [Arguments.values_eq, Arguments.total, found]
        rfl
      have gains := Arguments.gains_add option.name value arguments
      have total : arguments.total option.name = ⟨option.name, 0, []⟩ := by
        rw [Arguments.total, found]
        rfl
      simp only [no_values, if_true]
      refine ⟨?_, gains.others, gains.operands, ?_⟩
      · rw [gains.own, total]
        rfl
      · rw [Arguments.add, Arguments.update]
        split <;> rfl

/-- Standard values keep the arguments complete. -/
theorem isComplete_standardize {arguments : Arguments} (complete : IsComplete arguments)
    (option : CommandOption) : IsComplete (standardize arguments option) := by
  intro name given found
  obtain ⟨own, others, -, -⟩ := given?_standardize complete option
  by_cases same : name = option.name
  · subst same
    rw [own, standing] at found
    cases before : arguments.given? option.name with
    | some given' =>
      rw [before] at found
      obtain rfl := Option.some.inj found
      exact complete _ _ before
    | none =>
      rw [before, Option.none_or, Option.map_eq_some_iff] at found
      obtain ⟨value, -, rfl⟩ := found
      exact List.cons_ne_nil _ _
  · exact complete name given (others name same ▸ found)

/-- Every option of a list is left standing, and all others as they were. -/
theorem given?_foldl_standardize {options : List CommandOption}
    (distinct : (options.map (·.name)).Nodup) {arguments : Arguments}
    (complete : IsComplete arguments) :
    (∀ option ∈ options,
      (options.foldl standardize arguments).given? option.name = standing arguments option) ∧
      (∀ name, name ∉ options.map (·.name) →
        (options.foldl standardize arguments).given? name = arguments.given? name) ∧
      (options.foldl standardize arguments).operands = arguments.operands ∧
      (options.foldl standardize arguments).expectation = arguments.expectation := by
  induction options generalizing arguments with
  | nil => simp
  | cons first options ih =>
    rw [List.map_cons, List.nodup_cons] at distinct
    obtain ⟨own, others, operands, expectation⟩ := given?_standardize complete first
    obtain ⟨own', others', operands', expectation'⟩ :=
      ih distinct.2 (isComplete_standardize complete first)
    rw [List.foldl_cons]
    refine ⟨fun option mem => ?_, fun name unknown => ?_, operands'.trans operands,
      expectation'.trans expectation⟩
    · rcases List.mem_cons.1 mem with rfl | later
      · rw [others' _ distinct.1, own]
      · -- The first option has another name, and leaves this one as it was.
        have ne : option.name ≠ first.name := fun same =>
          distinct.1 (same ▸ List.mem_map_of_mem later)
        rw [own' option later, standing, standing, others _ ne]
    · rw [List.map_cons, List.mem_cons, not_or] at unknown
      rw [others' name unknown.2, others name unknown.1]

/-- Uses of options for a command: each suits one of its options, and an option that does not take
many values is used once at most. -/
structure Accepts (spec : CommandSyntax) (uses : List OptionUse) : Prop where
  /-- Each use suits an option. -/
  suit : ∀ use ∈ uses, ∃ option, spec.Suits use option
  /-- An option is used once at most, unless it takes many values. -/
  once : ∀ option ∈ spec.options,
    option.isMany = true ∨ (uses.filter (·.name = option.name)).length ≤ 1

/-- What uses give to an option has a value. -/
theorem Accepts.of_given? {uses : List OptionUse} (accepts : spec.Accepts uses) {name : String}
    {given : GivenOption} (found : OptionUse.given? uses name = some given) :
    given = ⟨name, (uses.filter (·.name = name)).length,
      (uses.filter (·.name = name)).flatMap (·.values)⟩ ∧ given.values ≠ [] := by
  rw [OptionUse.given?] at found
  cases named : uses.filter (·.name = name) with
  | nil =>
    rw [named] at found
    cases found
  | cons use others =>
    have mem : use ∈ uses.filter (·.name = name) := named ▸ List.mem_cons_self
    obtain ⟨option, suits⟩ := accepts.suit use (List.mem_filter.1 mem).1
    rw [named] at found
    obtain rfl := Option.some.inj found
    exact ⟨rfl, by simp [suits.clear.values_ne_nil]⟩

/-- Nothing is wrong with an option that has a value, if all its values are accepted. -/
theorem fault?_eq_none {option : CommandOption} {given : GivenOption}
    (some_values : given.values ≠ [])
    (accepted : ∀ value ∈ given.values, option.accepts value = true)
    (fit : option.isMany = true ∨ given.count ≤ 1) : fault? option given = none := by
  have no_fault : given.values.find? (!option.accepts ·) = none := by
    simpa using accepted
  have few : ¬ (1 < given.count ∧ (!option.isMany) = true) := by
    rintro ⟨more, single⟩
    rcases fit with many | once
    · simp [many] at single
    · omega
  rw [fault?, if_neg (by simpa using some_values), no_fault]
  exact if_neg few

/-- Nothing is wrong with an option that is left standing. -/
theorem fault?_of_standing (plain : spec.OnlyOptions) {uses : List OptionUse}
    (accepts : spec.Accepts uses) {arguments : Arguments} (holds : Holds uses arguments)
    {option : CommandOption} (mem : option ∈ spec.options) {given : GivenOption}
    (stands : standing arguments option = some given) : fault? option given = none := by
  rw [standing, holds.given] at stands
  cases found : OptionUse.given? uses option.name with
  | some given' =>
    rw [found] at stands
    obtain rfl := Option.some.inj stands
    obtain ⟨rfl, some_values⟩ := accepts.of_given? found
    refine fault?_eq_none some_values (fun value mem_values => ?_) (accepts.once option mem)
    -- Each value is one of a use of this option.
    obtain ⟨use, mem_use, mem_value⟩ := List.mem_flatMap.1 mem_values
    obtain ⟨mem_use, named⟩ := List.mem_filter.1 mem_use
    obtain ⟨option', suits⟩ := accepts.suit use mem_use
    have same : option'.name = option.name := by
      rw [← suits.named]
      simpa using named
    have found' := find?_named plain.distinct suits.mem
    rw [same, find?_named plain.distinct mem] at found'
    obtain rfl := Option.some.inj found'
    exact suits.accepted value mem_value
  | none =>
    rw [found, Option.none_or, Option.map_eq_some_iff] at stands
    obtain ⟨value, standard, rfl⟩ := stands
    refine fault?_eq_none (List.cons_ne_nil _ _) (fun value' mem_value => ?_) (.inr (Nat.zero_le 1))
    obtain rfl := List.mem_singleton.1 mem_value
    exact plain.standards option mem value' standard

/-- Nothing is missing for a command that may do without any option. -/
theorem OnlyOptions.missing?_eq_none (plain : spec.OnlyOptions) (arguments : Arguments) :
    spec.missing? arguments = none := by
  have none_required : spec.options.filter (fun option =>
      option.isRequired && !arguments.given.any (·.name = option.name)) = [] := by
    rw [List.filter_eq_nil_iff]
    intro option mem
    simp [plain.optional option mem]
  simp [missing?, none_required, plain.operands]

/-- The option whose values may follow has a value also with the standard ones. -/
theorem isEmpty_values_of_expected (plain : spec.OnlyOptions) {uses : List OptionUse}
    {arguments : Arguments} (holds : Holds uses arguments) (complete : IsComplete arguments)
    {name : String} (awaited : (spec.withStandards arguments).expectation = .value name) :
    ((spec.withStandards arguments).values name).isEmpty = false := by
  obtain ⟨own, others, -, expectation⟩ := given?_foldl_standardize plain.distinct complete
  have some_values := holds.expected name (expectation.symm.trans awaited)
  -- The values of the option are there before the standard ones, and stay.
  have stays : (spec.withStandards arguments).given? name = arguments.given? name := by
    by_cases known : name ∈ spec.options.map (·.name)
    · obtain ⟨option, mem, rfl⟩ := List.mem_map.1 known
      refine (own option mem).trans ?_
      rw [standing]
      cases found : arguments.given? option.name with
      | none =>
        rw [Arguments.values_eq, Arguments.total, found] at some_values
        exact absurd rfl some_values
      | some given => rfl
    · exact others name known
  rw [Arguments.values_eq, Arguments.total, stays, ← Arguments.total, ← Arguments.values_eq]
  simpa using some_values

/-- A command line of uses of options is read: each option has the values that are given to it, or
else its standard value. -/
theorem parse_uses (plain : spec.OnlyOptions) {uses : List OptionUse}
    (accepts : spec.Accepts uses) :
    ∃ arguments, spec.parse (uses.flatMap (·.arguments)) = .ok arguments ∧
      ∀ option ∈ spec.options, arguments.values option.name = option.valuesIn uses := by
  obtain ⟨final, reads, holds⟩ := readAll_uses plain accepts.suit holds_empty
  rw [List.nil_append] at holds
  -- Every option that is given has a value, so that the standard ones fill in for the others only.
  have complete : IsComplete final := fun name given found =>
    (accepts.of_given? (holds.given name ▸ found)).2
  have own : ∀ option ∈ spec.options,
      (spec.withStandards final).given? option.name = standing final option :=
    (given?_foldl_standardize plain.distinct complete).1
  refine ⟨spec.withStandards final, ?_, fun option mem => ?_⟩
  · have no_fault : spec.firstFault? (spec.withStandards final) = none := by
      rw [firstFault?, List.findSome?_eq_none_iff]
      intro option mem
      change ((spec.withStandards final).given? option.name).bind (fault? option) = none
      rw [own option mem]
      cases stands : standing final option with
      | none => rfl
      | some given => exact fault?_of_standing plain accepts holds mem stands
    have no_operand : spec.operandFault? (spec.withStandards final) = none := by
      simp [operandFault?, plain.operands]
    rw [parse, reads]
    simp only [check, plain.missing?_eq_none, no_fault, no_operand]
    cases awaited : (spec.withStandards final).expectation with
    | anything => rfl
    | value name =>
      simp only [isEmpty_values_of_expected plain holds complete awaited]
      rfl
    | fresh => rfl
  · rw [Arguments.values_eq, Arguments.total, own option mem, standing, holds.given,
      OptionUse.given?, CommandOption.valuesIn]
    cases uses.filter (·.name = option.name) with
    | nil => cases option.standard <;> rfl
    | cons use others => rfl

/-! ## Checked arguments -/

/-- Arguments of which each value is one of its option, and each option with a standard value has a
value. -/
structure Checked (spec : CommandSyntax) (arguments : Arguments) : Prop where
  /-- The values are ones of their options. -/
  accepted : ∀ option ∈ spec.options, ∀ value ∈ arguments.values option.name,
    option.accepts value = true
  /-- An option that has a standard value has a value. -/
  present : ∀ option ∈ spec.options, option.standard.isSome = true →
    arguments.values option.name ≠ []

/-- An option with a standard value has a value behind its step, and no option loses one. -/
theorem values_standardize (arguments : Arguments) (option : CommandOption) :
    (option.standard.isSome = true →
      (standardize arguments option).values option.name ≠ []) ∧
    ∀ name, arguments.values name ≠ [] → (standardize arguments option).values name ≠ [] := by
  rw [standardize]
  cases option.standard with
  | none => exact ⟨by rintro ⟨⟩, fun name some_values => some_values⟩
  | some value =>
    dsimp only
    split_ifs with nothing
    · -- The value is added to the option, which has no other.
      have gains := Arguments.gains_add option.name value arguments
      have own : (arguments.add option.name value).values option.name ≠ [] := by
        rw [Arguments.values_eq, Arguments.total, gains.own]
        simp
      refine ⟨fun _ => own, fun name some_values => ?_⟩
      by_cases same : name = option.name
      · exact same ▸ own
      · rw [Arguments.values_eq, Arguments.total, gains.others name same, ← Arguments.total,
          ← Arguments.values_eq]
        exact some_values
    · have some_values : arguments.values option.name ≠ [] := by simpa using nothing
      exact ⟨fun _ => some_values, fun name some_values => some_values⟩

/-- Each option with a standard value has a value when all steps are made. -/
theorem values_foldl_standardize (options : List CommandOption) (arguments : Arguments) :
    (∀ option ∈ options, option.standard.isSome = true →
      (options.foldl standardize arguments).values option.name ≠ []) ∧
    ∀ name, arguments.values name ≠ [] →
      (options.foldl standardize arguments).values name ≠ [] := by
  induction options generalizing arguments with
  | nil => exact ⟨by rintro option ⟨⟩, fun name some_values => some_values⟩
  | cons first options ih =>
    obtain ⟨own, kept⟩ := values_standardize arguments first
    obtain ⟨own', kept'⟩ := ih (standardize arguments first)
    rw [List.foldl_cons]
    refine ⟨List.forall_mem_cons.2 ⟨fun standard => kept' _ (own standard), own'⟩, ?_⟩
    exact fun name some_values => kept' name (kept name some_values)

/-- Nothing is wrong with an option only if all its values are accepted. -/
theorem accepts_of_fault?_eq_none {option : CommandOption} {given : GivenOption}
    (no_fault : fault? option given = none) :
    ∀ value ∈ given.values, option.accepts value = true := by
  unfold fault? at no_fault
  split at no_fault
  · cases no_fault
  · split at no_fault
    · cases no_fault
    · rename_i accepted
      simpa using accepted

/-- Arguments that pass the check. -/
theorem checked_of_check {arguments checked : Arguments}
    (check : spec.check arguments = .ok checked) : spec.Checked checked := by
  unfold CommandSyntax.check at check
  dsimp only at check
  split at check
  · cases check
  · split at check
    · cases check
    · split at check
      · cases check
      · rename_i no_fault
        obtain rfl := Except.ok.inj check
        obtain ⟨no_fault, -⟩ := Option.or_eq_none_iff.1 (Option.or_eq_orElse.trans no_fault)
        rw [firstFault?, List.findSome?_eq_none_iff] at no_fault
        refine ⟨fun option mem value mem_value => ?_,
          (values_foldl_standardize spec.options arguments).1⟩
        have own := no_fault option mem
        rw [Arguments.values] at mem_value
        cases found : (spec.withStandards arguments).given.find? (·.name = option.name) with
        | none =>
          rw [found] at mem_value
          cases mem_value
        | some given =>
          rw [found] at own mem_value
          exact accepts_of_fault?_eq_none own value mem_value

/-- Arguments that are parsed are checked. -/
theorem checked_of_parse {args : List String} {arguments : Arguments}
    (parsed : spec.parse args = .ok arguments) : spec.Checked arguments := by
  unfold CommandSyntax.parse at parsed
  split at parsed
  · cases parsed
  · exact checked_of_check parsed

/-- The value of an option with a standard value is read, if the option accepts only what is
read. -/
theorem Checked.exists_read {arguments : Arguments} (checked : spec.Checked arguments)
    {option : CommandOption} (mem : option ∈ spec.options)
    (standard : option.standard.isSome = true) {α : Type} {read? : String → Option α}
    (reads : ∀ text, option.accepts text = true → (read? text).isSome = true) :
    ∃ value, arguments.read option.name read? = .ok value := by
  obtain ⟨text, later, values⟩ := List.exists_cons_of_ne_nil (checked.present option mem standard)
  have accepted := checked.accepted option mem text (values ▸ List.mem_cons_self)
  obtain ⟨value, read⟩ := Option.isSome_iff_exists.1 (reads text accepted)
  exact ⟨value, by simp [Arguments.read, Arguments.value?, values, Arguments.readText, read]⟩

/-- All values of an option are read, if the option accepts only what is read. -/
theorem Checked.exists_readMany {arguments : Arguments} (checked : spec.Checked arguments)
    {option : CommandOption} (mem : option ∈ spec.options) {α : Type} {read? : String → Option α}
    (reads : ∀ text, option.accepts text = true → (read? text).isSome = true) :
    ∃ values, arguments.readMany option.name read? = .ok values := by
  have accepted := checked.accepted option mem
  rw [Arguments.readMany]
  generalize arguments.values option.name = texts at accepted ⊢
  induction texts with
  | nil => exact ⟨[], rfl⟩
  | cons text texts ih =>
    obtain ⟨first, others⟩ := List.forall_mem_cons.1 accepted
    obtain ⟨value, read⟩ := Option.isSome_iff_exists.1 (reads text first)
    obtain ⟨values, rest⟩ := ih others
    refine ⟨value :: values, ?_⟩
    rw [List.mapM_cons, rest, Arguments.readText, read]
    rfl

end CommandSyntax

end PeerLink
