import Mathlib.Data.List.Perm.Basic
import PeerLink.Proofs.Named
import PeerLink.Proofs.Text.Digits
import PeerLink.Yaml.Reader

/-!
# Records are read from their members

The members of a mapping may stand in any order. A record is read from a mapping that lists certain
members as if they stood in the order of their own list (`record?_of_lists`), provided that the
record knows each of them and that it does not matter which of two is put into it first. Nothing
else may stand in a mapping: each key of a mapping that is read is the name of a setting
(`known_of_readEntries`).
-/

namespace PeerLink.Yaml

/-! ## Numbers -/

/-- The ways to write a natural number as a plain scalar without a sign: in decimal without zeros in
front, or in another base behind its letter. -/
inductive Unsigned : List Char → Nat → Prop
  /-- Decimal digits. -/
  | decimal (n : Nat) : Unsigned (Text.Decimal.digits n) n
  /-- Digits of the base that a letter announces. -/
  | based {letter : Char} {base : Nat} {text : List Char} {n : Nat}
      (announced : (letter, base) ∈ [('x', 16), ('o', 8), ('b', 2)])
      (spells : Text.Spells base text n) : Unsigned ('0' :: letter :: text) n

/-- The ways to write a natural number as a plain scalar. -/
inductive Numeral : List Char → Nat → Prop
  /-- Without a sign. -/
  | unsigned {text : List Char} {n : Nat} (unsigned : Unsigned text n) : Numeral text n
  /-- Behind a plus sign. -/
  | plus {text : List Char} {n : Nat} (unsigned : Unsigned text n) : Numeral ('+' :: text) n

/-- The digits of a number are read, in whichever base up to sixteen. -/
theorem digitsOf?_of_spells {base n : Nat} {text : List Char} (small : base ≤ 16)
    (spells : Text.Spells base text n) : digitsOf? base text = some n := by
  have single : ∀ k < 16, Quoted.hexValue? k.digitChar = some k ∧
      Quoted.hexValue? k.digitChar.toUpper = some k := by decide
  have nonempty : ¬ text.isEmpty := by simpa using spells.ne_nil
  rw [digitsOf?, if_neg nonempty]
  refine Text.foldlM_of_spells (fun c k digit => ?_) spells
  obtain ⟨below, rfl | rfl⟩ := digit
  · rw [(single k (by omega)).1]
    simp [below]
  · rw [(single k (by omega)).2]
    simp [below]

/-- A number is read from its decimal digits. -/
theorem unsigned?_digits (n : Nat) : unsigned? (Text.Decimal.digits n) = some n := by
  have read : digitsOf? 10 (Text.Decimal.digits n) = some n :=
    digitsOf?_of_spells (by decide) (Text.spells_toDigits (by decide) n)
  rcases Nat.eq_zero_or_pos n with rfl | positive
  · rfl
  · -- A number that is not zero does not begin with a zero, so no base is announced.
    have first := Text.head?_toDigits_ne_zero positive
    unfold unsigned?
    split
    · rename_i zero
      exact absurd (congrArg List.head? zero) first
    · rename_i zero
      exact absurd (congrArg List.head? zero) first
    · exact read

/-- A number without a sign is read as it is written, and begins with no sign. -/
theorem unsigned?_of_unsigned {text : List Char} {n : Nat} (written : Unsigned text n) :
    unsigned? text = some n ∧ ∃ c, text.head? = some c ∧ c ≠ '+' ∧ c ≠ '-' := by
  cases written with
  | decimal =>
    refine ⟨unsigned?_digits n, ?_⟩
    obtain ⟨c, rest, cons⟩ := List.exists_cons_of_ne_nil (Text.Decimal.digits_ne_nil n)
    have mem : c ∈ Text.Decimal.digits n := cons ▸ List.mem_cons_self
    obtain ⟨k, below, rfl⟩ := Text.Decimal.exists_of_mem_digits mem
    have no_sign : ∀ k < 10, k.digitChar ≠ '+' ∧ k.digitChar ≠ '-' := by decide
    exact ⟨_, congrArg List.head? cons, no_sign k below⟩
  | @based letter base text _ announced spells =>
    have known : ∀ p ∈ [('x', 16), ('o', 8), ('b', 2)], baseOf? p.1 = some p.2 ∧ p.2 ≤ 16 := by
      decide
    obtain ⟨base_eq, small⟩ := known _ announced
    refine ⟨?_, '0', rfl, by decide, by decide⟩
    rw [unsigned?, base_eq]
    exact digitsOf?_of_spells small spells

/-- A number is read as it is written. -/
theorem natural?_of_numeral {text : List Char} {n : Nat} (written : Numeral text n) :
    natural? text = some n := by
  cases written with
  | plus unsigned => exact (unsigned?_of_unsigned unsigned).1
  | unsigned unsigned =>
    obtain ⟨read, c, first, no_plus, no_minus⟩ := unsigned?_of_unsigned unsigned
    unfold natural?
    split
    · exact absurd (Option.some.inj first).symm no_plus
    · exact absurd (Option.some.inj first).symm no_minus
    · exact read

/-! ## Members -/

/-- A member of a mapping: its name, the nodes that give its value, and what it makes of the
record. -/
structure Member (σ : Type) where
  /-- The name. -/
  name : String
  /-- Whether a node gives the value. -/
  gives : Node → Prop
  /-- The record with the value in it. -/
  put : σ → σ

/-- The member of a value, if there is one. -/
def Member.of {σ α : Type} (name : String) (gives : α → Node → Prop) (put : α → σ → σ) :
    Option α → List (Member σ)
  | none => []
  | some value => [⟨name, gives value, put value⟩]

/-- An entry of a mapping is a member: the key is its name, and the value gives its value. -/
def Member.IsEntry {σ : Type} (member : Member σ) (entry : Node × Node) : Prop :=
  (∃ kind, entry.1 = .scalar kind member.name) ∧ member.gives entry.2

/-- A node is a mapping with just these members, in any order. -/
def Node.Lists {σ : Type} (members : List (Member σ)) (node : Node) : Prop :=
  ∃ entries listed, node = .mapping entries ∧ listed.Perm members ∧
    List.Forall₂ Member.IsEntry listed entries

/-- The record with the values of members in it, one after the other. -/
def putAll {σ : Type} (members : List (Member σ)) (record : σ) : σ :=
  members.foldl (fun record member => member.put record) record

variable {σ : Type}

/-- A setting reads a member: whichever node gives its value. -/
def Setting.Reads (setting : Setting σ) (member : Member σ) : Prop :=
  ∀ node, member.gives node → ∀ record, setting.read node record = some (member.put record)

/-- It does not matter in which order two members are put into a record. -/
def Member.Commutes (member member' : Member σ) : Prop :=
  ∀ record, member.put (member'.put record) = member'.put (member.put record)

/-- A record knows members: each of them is read by the setting of its name, no two of them have the
same name, and it does not matter which of two is put into it first. -/
structure Knows (settings : List (Setting σ)) (members : List (Member σ)) : Prop where
  /-- Each member is read by the setting of its name. -/
  read : ∀ member ∈ members, ∃ setting,
    settings.find? (·.name = member.name) = some setting ∧ setting.Reads member
  /-- No two members have the same name. -/
  distinct : (members.map (·.name)).Nodup
  /-- Members are put into the record in any order. -/
  commute : ∀ m ∈ members, ∀ m' ∈ members, m.Commutes m'

/-- Something holds of the members of a value exactly if it holds of the one it has. -/
theorem Member.forall_mem_of {α : Type} {name : String} {gives : α → Node → Prop}
    {put : α → σ → σ} {value? : Option α} {holds : Member σ → Prop} :
    (∀ member ∈ Member.of name gives put value?, holds member) ↔
      ∀ value, value? = some value → holds ⟨name, gives value, put value⟩ := by
  cases value? with
  | none => simp [Member.of]
  | some value => simp [Member.of]

/-- A record knows no members. -/
theorem Knows.nil (settings : List (Setting σ)) : Knows settings [] where
  read := by simp
  distinct := .nil
  commute := by simp

/-- A record knows one more member: the one of a value, if its setting reads the value from each
node that gives it. -/
theorem Knows.prepend {settings : List (Setting σ)} {members : List (Member σ)}
    (knows : Knows settings members) (distinct : (settings.map (·.name)).Nodup) {α β : Type}
    {name : String} {read : Node → Option β} {put : β → σ → σ}
    (mem : .of name read put ∈ settings)
    {gives : α → Node → Prop} {put' : α → σ → σ} {value? : Option α}
    (reads : ∀ value, value? = some value → ∀ node, gives value node →
      (read node).map put = some (put' value))
    (apart : ∀ value, ∀ member ∈ members,
      name ≠ member.name ∧ Member.Commutes ⟨name, gives value, put' value⟩ member) :
    Knows settings (Member.of name gives put' value? ++ members) := by
  cases value? with
  | none => exact knows
  | some value =>
    refine ⟨?_, List.nodup_cons.2 ⟨?_, knows.distinct⟩, ?_⟩
    · rintro member (_ | ⟨_, mem⟩)
      · refine ⟨_, find?_named distinct mem, fun node gives record => ?_⟩
        obtain ⟨b, read_eq, put_eq⟩ := Option.map_eq_some_iff.1 (reads value rfl node gives)
        simp only [Setting.of, read_eq, Option.map_some, put_eq]
      · exact knows.read member mem
    · intro named
      obtain ⟨member, mem, same⟩ := List.mem_map.1 named
      exact (apart value member mem).1 same.symm
    · rintro m (_ | ⟨_, mem⟩) m' (_ | ⟨_, mem'⟩)
      · exact fun _ => rfl
      · exact (apart value m' mem').2
      · exact fun record => ((apart value m mem).2 record).symm
      · exact knows.commute m mem m' mem'

/-- A record knows the member of a value. -/
theorem Knows.of {settings : List (Setting σ)} (distinct : (settings.map (·.name)).Nodup)
    {α β : Type} {name : String} {read : Node → Option β} {put : β → σ → σ}
    (mem : .of name read put ∈ settings)
    {gives : α → Node → Prop} {put' : α → σ → σ} {value? : Option α}
    (reads : ∀ value, value? = some value → ∀ node, gives value node →
      (read node).map put = some (put' value)) :
    Knows settings (Member.of name gives put' value?) := by
  have knows := (Knows.nil settings).prepend distinct mem reads (by simp)
  rwa [List.append_nil] at knows

/-- A record knows members also if they stand in another order. -/
theorem Knows.perm {settings : List (Setting σ)} {members members' : List (Member σ)}
    (knows : Knows settings members) (perm : members'.Perm members) : Knows settings members' where
  read := fun member mem => knows.read member (perm.mem_iff.1 mem)
  distinct := (perm.map (·.name)).nodup_iff.2 knows.distinct
  commute := fun m mem m' mem' =>
    knows.commute m (perm.mem_iff.1 mem) m' (perm.mem_iff.1 mem')

/-- The settings behind the first member know the others. -/
theorem Knows.tail {settings : List (Setting σ)} {member : Member σ} {members : List (Member σ)}
    (knows : Knows settings (member :: members)) :
    Knows (settings.filter (·.name ≠ member.name)) members := by
  have distinct := knows.distinct
  rw [List.map_cons, List.nodup_cons] at distinct
  refine ⟨fun other mem => ?_, distinct.2, fun m mem m' mem' =>
    knows.commute m (List.mem_cons_of_mem _ mem) m' (List.mem_cons_of_mem _ mem')⟩
  obtain ⟨setting, found, reads⟩ := knows.read other (List.mem_cons_of_mem _ mem)
  refine ⟨setting, ?_, reads⟩
  have ne : other.name ≠ member.name := fun same =>
    distinct.1 (same ▸ List.mem_map_of_mem mem)
  rw [find?_filter_named settings ne, found]

/-- The entries of a mapping put the values of their members into the record. -/
theorem readEntries_of_isEntry {settings : List (Setting σ)} {members : List (Member σ)}
    {entries : List (Node × Node)} (knows : Knows settings members)
    (given : List.Forall₂ Member.IsEntry members entries) (record : σ) :
    readEntries settings record entries = some (putAll members record) := by
  induction given generalizing settings record with
  | nil => rfl
  | @cons member entry members entries isEntry _ ih =>
    obtain ⟨key, value⟩ := entry
    obtain ⟨⟨kind, rfl⟩, gives⟩ := isEntry
    obtain ⟨setting, found, reads⟩ := knows.read member List.mem_cons_self
    have next := ih knows.tail (member.put record)
    simp only [readEntries, Node.text?, Option.bind_eq_bind, Option.bind_some, found,
      reads value gives record, next]
    rfl

/-- A record is read from a mapping that lists members which it knows, as if they stood in the order
of their own list. -/
theorem record?_of_lists {settings : List (Setting σ)} {members : List (Member σ)} {node : Node}
    (knows : Knows settings members) (lists : node.Lists members) (start : σ) :
    node.record? settings start = some (putAll members start) := by
  obtain ⟨entries, listed, rfl, perm, given⟩ := lists
  have same : putAll listed start = putAll members start :=
    perm.foldl_eq' (fun m mem m' mem' record =>
      knows.commute m' (perm.mem_iff.1 mem') m (perm.mem_iff.1 mem) record) start
  rw [Node.record?, readEntries_of_isEntry (knows.perm perm) given, same]

/-! ## What is read -/

/-- Each entry of a mapping that is read is read by a setting that has the name of the key. -/
theorem known_of_readEntries {settings : List (Setting σ)} {record record' : σ}
    {entries : List (Node × Node)} (read : readEntries settings record entries = some record')
    {key value : Node} (mem : (key, value) ∈ entries) :
    ∃ setting ∈ settings, key.text? = some setting.name ∧
      ∃ before after, setting.read value before = some after := by
  induction entries generalizing settings record with
  | nil => cases mem
  | cons entry entries ih =>
    obtain ⟨key', value'⟩ := entry
    simp only [readEntries, Option.bind_eq_bind, Option.bind_eq_some_iff] at read
    obtain ⟨name, text_eq, setting, found, next, reads, rest⟩ := read
    rcases List.mem_cons.1 mem with same | later
    · obtain ⟨rfl, rfl⟩ := Prod.mk.inj same
      have named := List.find?_some found
      rw [decide_eq_true_eq] at named
      exact ⟨setting, List.mem_of_find?_eq_some found, named ▸ text_eq, record, next, reads⟩
    · obtain ⟨other, mem', others⟩ := ih rest later
      exact ⟨other, List.mem_of_mem_filter mem', others⟩

/-- What every setting keeps holds of each record that is read. -/
theorem record?_keeps {settings : List (Setting σ)} {holds : σ → Prop}
    (keeps : ∀ setting ∈ settings, ∀ node before after, holds before →
      setting.read node before = some after → holds after)
    {start record : σ} (initially : holds start) {node : Node}
    (read : node.record? settings start = some record) : holds record := by
  -- A record is read from a sequence or a mapping, one setting after the other.
  cases node with
  | scalar kind text => cases read
  | sequence items =>
    rw [Node.record?] at read
    induction items generalizing settings start with
    | nil =>
      rw [readItems] at read
      exact Option.some.inj read ▸ initially
    | cons item items ih =>
      cases settings with
      | nil => cases read
      | cons setting settings =>
        simp only [readItems, Option.bind_eq_bind, Option.bind_eq_some_iff] at read
        obtain ⟨next, reads, rest⟩ := read
        exact ih (fun other mem => keeps other (List.mem_cons_of_mem _ mem))
          (keeps setting List.mem_cons_self item start next initially reads) rest
  | mapping entries =>
    rw [Node.record?] at read
    induction entries generalizing settings start with
    | nil =>
      rw [readEntries] at read
      exact Option.some.inj read ▸ initially
    | cons entry entries ih =>
      obtain ⟨key, value⟩ := entry
      simp only [readEntries, Option.bind_eq_bind, Option.bind_eq_some_iff] at read
      obtain ⟨name, -, setting, found, next, reads, rest⟩ := read
      exact ih (fun other mem => keeps other (List.mem_of_mem_filter mem))
        (keeps setting (List.mem_of_find?_eq_some found) value start next initially reads) rest

end PeerLink.Yaml
