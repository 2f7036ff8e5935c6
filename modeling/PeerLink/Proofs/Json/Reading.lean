import Mathlib.Data.List.Forall2
import PeerLink.Proofs.Json.Spelling

/-!
# Values are read from any of their spellings

`Reads scanner octets value` says that a scanner takes certain octets for a value wherever they end
at a delimiter, up to the blanks on both sides of them. It is carried from the parts of a value to
the value: from elements and members to arrays and objects, and so, by induction on a spelling, to
whole trees (`reads_scanTree`).
-/

namespace PeerLink.Json

/-- A scanner reads octets for a value where they are delimited, up to blanks. -/
def Reads {α : Type} (scanner : Scanner α) (octets : Bytes) (value : α) : Prop :=
  -- A number leaves the blanks behind it and an array takes the ones before its end, so that the
  -- place where a scanner stops is known only up to blanks.
  ∀ text, Delimited text → ∀ input, skipSpace input = skipSpace (octets ++ text) →
    ∃ rest shorter, scanner input = .ok ⟨value, rest, shorter⟩ ∧ skipSpace rest = skipSpace text

/-- Octets that begin, behind blanks, with something else than the end of an array. -/
def Opens (octets : Bytes) : Prop :=
  ∃ b rest, skipSpace octets = b :: rest ∧ b ≠ 93

/-- Blanks around the octets of a value do not matter. -/
theorem Reads.blank {α : Type} {scanner : Scanner α} {front octets back : Bytes} {value : α}
    (reads : Reads scanner octets value) (front_blank : Blank front) (back_blank : Blank back) :
    Reads scanner (front ++ (octets ++ back)) value := by
  intro text delimited input here
  rw [List.append_assoc, List.append_assoc, front_blank.skipSpace_append] at here
  obtain ⟨rest, shorter, taken, left⟩ :=
    reads (back ++ text) (back_blank.delimited delimited) input here
  exact ⟨rest, shorter, taken, left.trans (back_blank.skipSpace_append text)⟩

/-! ## Where elements and members begin -/

section Places

variable {text rest : Bytes} {b : UInt8}

/-- The end of an array is found behind blanks. -/
theorem nextElement_end (here : skipSpace text = 93 :: rest) (first : Bool) :
    ∃ shorter, nextElement first text = .ok (.stop rest shorter) := by
  refine ⟨length_lt_of_skipSpace here, ?_⟩
  unfold nextElement
  refine (match_skipSpace here _ _).trans ?_
  simp only [if_true]

/-- The first element of an array is found behind blanks. -/
theorem nextElement_opened (here : skipSpace text = b :: rest) (opens : b ≠ 93) :
    ∃ bound, nextElement true text = .ok (.item (b :: rest) bound) := by
  refine ⟨length_cons_le_of_skipSpace here, ?_⟩
  unfold nextElement
  refine (match_skipSpace here _ _).trans ?_
  simp only [if_neg opens, if_true]

/-- A later element of an array is found behind its comma and blanks. -/
theorem nextElement_comma {rest' : Bytes} (here : skipSpace text = 44 :: rest)
    (here' : skipSpace rest = b :: rest') (opens : b ≠ 93) :
    ∃ bound, nextElement false text = .ok (.item (b :: rest') bound) := by
  refine ⟨length_cons_le_of_comma here here', ?_⟩
  unfold nextElement
  refine (match_skipSpace here _ _).trans ?_
  have comma : ¬ (44 : UInt8) = 93 := by decide
  simp only [if_neg comma, Bool.false_eq_true, if_false, if_true]
  exact (match_skipSpace here' _ _).trans (if_neg opens)

/-- The end of an object is found behind blanks. -/
theorem nextMember_end (here : skipSpace text = 125 :: rest) (first : Bool) :
    ∃ shorter, nextMember first text = .ok (.stop rest shorter) := by
  refine ⟨length_lt_of_skipSpace here, ?_⟩
  unfold nextMember
  refine (match_skipSpace here _ _).trans ?_
  simp only [if_true]

/-- The first member of an object is found behind blanks and the mark of its name. -/
theorem nextMember_opened (here : skipSpace text = 34 :: rest) :
    ∃ bound, nextMember true text = .ok (.item rest bound) := by
  refine ⟨Nat.le_of_lt (length_lt_of_skipSpace here), ?_⟩
  unfold nextMember
  refine (match_skipSpace here _ _).trans ?_
  have mark : ¬ (34 : UInt8) = 125 := by decide
  simp only [if_neg mark, if_true]

/-- A later member of an object is found behind its comma, blanks and the mark of its name. -/
theorem nextMember_comma {rest' : Bytes} (here : skipSpace text = 44 :: rest)
    (here' : skipSpace rest = 34 :: rest') :
    ∃ bound, nextMember false text = .ok (.item rest' bound) := by
  have shorter := length_lt_of_skipSpace here
  have shorter' := length_lt_of_skipSpace here'
  refine ⟨by omega, ?_⟩
  unfold nextMember
  refine (match_skipSpace here _ _).trans ?_
  have comma : ¬ (44 : UInt8) = 125 := by decide
  simp only [if_neg comma, Bool.false_eq_true, if_false, if_true]
  exact (match_skipSpace here' _ _).trans (if_pos rfl)

end Places

/-! ## Elements -/

section Elements

variable {α : Type} {scanner : Scanner α}

/-- What follows an element of an array is delimited. -/
theorem delimited_later (octets : List Bytes) {closing : UInt8}
    (closes : closing = 93 ∨ closing = 125) (text : Bytes) :
    Delimited (octets.flatMap ([44] ++ ·) ++ closing :: text) := by
  cases octets with
  | nil =>
    rintro b rest ⟨⟩
    rcases closes with rfl | rfl <;> decide
  | cons part parts =>
    rintro b rest ⟨⟩
    decide

/-- The elements behind the first one are taken up to the end of their array. -/
theorem scanElements_later {elements : List Bytes} {values : List α}
    (reads : List.Forall₂ (Reads scanner) elements values)
    (opens : ∀ element ∈ elements, Opens element) {input : Bytes} (done : List α)
    {place text : Bytes}
    (here : skipSpace place = skipSpace (elements.flatMap ([44] ++ ·) ++ 93 :: text))
    (bound : place.length ≤ input.length) :
    ∃ shorter, scanElements scanner input false done place bound =
      .ok ⟨done.reverse ++ values, text, shorter⟩ := by
  -- What an element leaves begins, behind blanks, at the comma of the next one or at the end.
  induction reads generalizing done place with
  | nil =>
    obtain ⟨shorter, stop⟩ := nextElement_end here false
    refine ⟨Nat.lt_of_lt_of_le shorter bound, ?_⟩
    rw [scanElements, stop]
    simp only [List.append_nil]
  | @cons element value later values read _ ih =>
    have delimited := delimited_later later (.inl rfl) text
    rw [List.flatMap_cons, List.append_assoc] at here
    obtain ⟨b, rest, first, opening⟩ := opens element List.mem_cons_self
    obtain ⟨bound', next⟩ := nextElement_comma here (skipSpace_append first _) opening
    obtain ⟨rest', shorter', taken, left⟩ := read _ delimited
      (b :: (rest ++ _)) ((skipSpace_of_eq_cons (skipSpace_append first _)).trans
        (skipSpace_append first _).symm)
    obtain ⟨shorter, tail⟩ := ih (fun part mem => opens part (List.mem_cons_of_mem _ mem))
      (value :: done) left (by omega)
    refine ⟨shorter, ?_⟩
    rw [scanElements, next]
    simp only [taken]
    rw [tail, List.reverse_cons, List.append_assoc]
    rfl

/-- The elements of an array are taken up to its end. -/
theorem scanElements_spelled {elements : List Bytes} {values : List α}
    (reads : List.Forall₂ (Reads scanner) elements values)
    (opens : ∀ element ∈ elements, Opens element) {input place text : Bytes}
    (here : skipSpace place = skipSpace ([44].intercalate elements ++ 93 :: text))
    (bound : place.length ≤ input.length) :
    ∃ shorter, scanElements scanner input true [] place bound = .ok ⟨values, text, shorter⟩ := by
  cases reads with
  | nil =>
    obtain ⟨shorter, stop⟩ := nextElement_end here true
    refine ⟨Nat.lt_of_lt_of_le shorter bound, ?_⟩
    rw [scanElements, stop]
    rfl
  | @cons element value later values read reads =>
    have delimited := delimited_later later (.inl rfl) text
    rw [intercalate_cons_flatMap, List.append_assoc] at here
    obtain ⟨b, rest, first, opening⟩ := opens element List.mem_cons_self
    obtain ⟨bound', next⟩ := nextElement_opened (here.trans (skipSpace_append first _)) opening
    obtain ⟨rest', shorter', taken, left⟩ := read _ delimited
      (b :: (rest ++ _)) ((skipSpace_of_eq_cons (skipSpace_append first _)).trans
        (skipSpace_append first _).symm)
    obtain ⟨shorter, tail⟩ := scanElements_later reads
      (fun part mem => opens part (List.mem_cons_of_mem _ mem)) [value] left
      (Nat.le_trans (Nat.le_of_lt shorter') (Nat.le_trans bound' bound))
    refine ⟨shorter, ?_⟩
    rw [scanElements, next]
    simp only [taken]
    rw [tail]
    rfl

/-- The elements of an array are taken from behind its opening bracket. -/
theorem scanElements_opened {gap : Bytes} {elements : List Bytes} {values : List α}
    (blank : Blank gap) (reads : List.Forall₂ (Reads scanner) elements values)
    (opens : ∀ element ∈ elements, Opens element) {input text : Bytes}
    (here : skipSpace input =
      skipSpace (91 :: (gap ++ ([44].intercalate elements ++ [93])) ++ text)) :
    ∃ rest shorter, skipSpace input = 91 :: rest ∧
      scanElements scanner rest true [] rest (length_self_le rest) =
        .ok ⟨values, text, shorter⟩ := by
  have opening : isSpace 91 = false := rfl
  simp only [List.cons_append, List.append_assoc, List.nil_append, skipSpace_cons opening] at here
  obtain ⟨shorter, taken⟩ :=
    scanElements_spelled reads opens (blank.skipSpace_append _) (length_self_le _)
  exact ⟨_, shorter, here, taken⟩

end Elements

/-! ## Members -/

section Members

/-- A name is taken from its spelling, with the colon behind it. -/
theorem scanName_spelled {text : MemberText} {name : String} (names : text.Names name)
    (behind : Bytes) :
    ∃ shorter, scanName (text.name ++ 34 :: (text.gap ++ 58 :: behind)) =
      .ok ⟨name, behind, shorter⟩ := by
  obtain ⟨shorter, taken⟩ := scanString_spelled names.name (text.gap ++ 58 :: behind)
  have here : skipSpace (text.gap ++ 58 :: behind) = 58 :: behind :=
    names.gap.skipSpace_append _
  refine ⟨Nat.lt_trans (length_lt_of_skipSpace here) shorter, ?_⟩
  rw [scanName, taken]
  dsimp only
  refine (match_skipSpace here _ _).trans ?_
  rw [if_pos rfl]

/-- A member begins with the mark of its name, behind blanks. -/
theorem MemberText.Names.skipSpace_octets {text : MemberText} {name : String}
    (names : text.Names name) (behind : Bytes) :
    skipSpace (text.octets ++ behind) =
      34 :: (text.name ++ 34 :: (text.gap ++ 58 :: (text.value ++ behind))) := by
  have mark : isSpace 34 = false := rfl
  rw [octets, List.append_assoc, names.lead.skipSpace_append, List.cons_append,
    skipSpace_cons mark]
  simp only [List.append_assoc, List.cons_append]

/-- Members that are taken one after the other lead from a state to another one. -/
inductive ReadsMembers {σ : Type} (member : σ → String → Scanner σ) :
    σ → List (MemberText × String) → σ → Prop
  /-- No member. -/
  | nil {state : σ} : ReadsMembers member state [] state
  /-- A member, and more of them. -/
  | cons {state state' state'' : σ} {text : MemberText} {name : String}
      {later : List (MemberText × String)} (names : text.Names name)
      (first : Reads (member state name) text.value state')
      (rest : ReadsMembers member state' later state'') :
      ReadsMembers member state ((text, name) :: later) state''

variable {σ β : Type} {member : σ → String → Scanner σ} {finish : σ → Except Fault β}

/-- Members are taken one list of them after the other. -/
theorem ReadsMembers.append {state state' state'' : σ} {members later : List (MemberText × String)}
    (first : ReadsMembers member state members state')
    (rest : ReadsMembers member state' later state'') :
    ReadsMembers member state (members ++ later) state'' := by
  induction first with
  | nil => exact rest
  | cons names first _ ih => exact .cons names first (ih rest)

/-- The members behind the first one are taken up to the end of their object. -/
theorem scanMembers_later {state state' : σ} {members : List (MemberText × String)}
    (reads : ReadsMembers member state members state') {value : β}
    (finished : finish state' = .ok value) {input place text : Bytes}
    (here : skipSpace place =
      skipSpace ((members.map (·.1.octets)).flatMap ([44] ++ ·) ++ 125 :: text))
    (bound : place.length ≤ input.length) :
    ∃ shorter, scanMembers member finish input false state place bound =
      .ok ⟨value, text, shorter⟩ := by
  induction reads generalizing place with
  | nil =>
    obtain ⟨shorter, stop⟩ := nextMember_end here false
    refine ⟨Nat.lt_of_lt_of_le shorter bound, ?_⟩
    rw [scanMembers, stop]
    simp only [finished]
  | @cons state state' state'' part name later names first rest ih =>
    have delimited := delimited_later (later.map (·.1.octets)) (.inr rfl) text
    rw [List.map_cons, List.flatMap_cons, List.append_assoc] at here
    obtain ⟨bound', next⟩ := nextMember_comma here (names.skipSpace_octets _)
    obtain ⟨shorter', named⟩ := scanName_spelled names
      (part.value ++ ((later.map (·.1.octets)).flatMap ([44] ++ ·) ++ 125 :: text))
    obtain ⟨rest', shorter'', taken, left⟩ := first _ delimited _ rfl
    obtain ⟨shorter, tail⟩ := ih finished left (by omega)
    refine ⟨shorter, ?_⟩
    rw [scanMembers, next]
    simp only [named, taken]
    exact tail

/-- The members of an object are taken up to its end. -/
theorem scanMembers_spelled {state state' : σ} {members : List (MemberText × String)}
    (reads : ReadsMembers member state members state') {value : β}
    (finished : finish state' = .ok value) {input place text : Bytes}
    (here : skipSpace place =
      skipSpace ([44].intercalate (members.map (·.1.octets)) ++ 125 :: text))
    (bound : place.length ≤ input.length) :
    ∃ shorter, scanMembers member finish input true state place bound =
      .ok ⟨value, text, shorter⟩ := by
  cases reads with
  | nil =>
    obtain ⟨shorter, stop⟩ := nextMember_end here true
    refine ⟨Nat.lt_of_lt_of_le shorter bound, ?_⟩
    rw [scanMembers, stop]
    simp only [finished]
  | @cons _ state'' _ part name later names first rest =>
    have delimited := delimited_later (later.map (·.1.octets)) (.inr rfl) text
    rw [List.map_cons, intercalate_cons_flatMap, List.append_assoc, names.skipSpace_octets] at here
    obtain ⟨bound', next⟩ := nextMember_opened here
    obtain ⟨shorter', named⟩ := scanName_spelled names
      (part.value ++ ((later.map (·.1.octets)).flatMap ([44] ++ ·) ++ 125 :: text))
    obtain ⟨rest', shorter'', taken, left⟩ := first _ delimited _ rfl
    have shorter_input : rest'.length ≤ input.length :=
      (Nat.le_of_lt (Nat.lt_trans shorter'' shorter')).trans (bound'.trans bound)
    obtain ⟨shorter, tail⟩ := scanMembers_later rest finished left shorter_input
    refine ⟨shorter, ?_⟩
    rw [scanMembers, next]
    simp only [named, taken]
    exact tail

/-- The members of an object are taken from behind its opening brace. -/
theorem scanMembers_opened {gap : Bytes} {members : List (MemberText × String × Json)}
    {state state' : σ} (blank : Blank gap)
    (reads : ReadsMembers member state (members.map fun member => (member.1, member.2.1)) state')
    {value : β} (finished : finish state' = .ok value) {input text : Bytes}
    (here : skipSpace input =
      skipSpace (123 :: (gap ++ ([44].intercalate (members.map (·.1.octets)) ++ [125])) ++ text)) :
    ∃ rest shorter, skipSpace input = 123 :: rest ∧
      scanMembers member finish rest true state rest (length_self_le rest) =
        .ok ⟨value, text, shorter⟩ := by
  have opening : isSpace 123 = false := rfl
  have octets : members.map (·.1.octets) =
      (members.map fun member => (member.1, member.2.1)).map (·.1.octets) := by
    rw [List.map_map]
    rfl
  simp only [List.cons_append, List.append_assoc, List.nil_append, skipSpace_cons opening] at here
  rw [octets] at here
  obtain ⟨shorter, taken⟩ :=
    scanMembers_spelled reads finished (blank.skipSpace_append _) (length_self_le _)
  exact ⟨_, shorter, here, taken⟩

end Members

/-! ## Trees -/

/-- A value without parts is read as a tree. -/
theorem scanTree_of_scanScalar {input : Bytes} {b : UInt8} {rest text : Bytes} {value : Json}
    {shorter : text.length < (b :: rest).length} (here : skipSpace input = b :: rest)
    (scalar : Container.ofOpening? b = none)
    (read : scanScalar b rest = .ok ⟨value, text, shorter⟩) (depth : Nat) :
    ∃ shorter', scanTree depth input = .ok ⟨value, text, shorter'⟩ := by
  refine ⟨Nat.lt_of_lt_of_le shorter (length_cons_le_of_skipSpace here), ?_⟩
  unfold scanTree
  refine (match_skipSpace here _ _).trans ?_
  simp only [scalar, read]
  rfl

/-- A string is a value without parts. -/
theorem scanScalar_string {rest text : Bytes} {s : String} {shorter : text.length < rest.length}
    (read : scanString rest = .ok ⟨s, text, shorter⟩) :
    scanScalar 34 rest = .ok ⟨string s, text, Nat.lt_succ_of_lt shorter⟩ := by
  simp only [scanScalar, read]
  rfl

/-- The elements of an array are read as a tree. -/
theorem scanTree_array {depth : Nat} {input rest text : Bytes} {elements : List Json}
    {shorter : text.length < rest.length} (here : skipSpace input = 91 :: rest)
    (read : scanElements (scanTree depth) rest true [] rest (length_self_le rest) =
      .ok ⟨elements, text, shorter⟩) :
    ∃ shorter', scanTree (depth + 1) input = .ok ⟨array elements, text, shorter'⟩ := by
  refine ⟨Nat.lt_trans shorter (length_lt_of_skipSpace here), ?_⟩
  have opening : Container.ofOpening? 91 = some .array := rfl
  rw [scanTree]
  refine (match_skipSpace here _ _).trans ?_
  simp only [opening, read]
  rfl

/-- Takes a member of an object as a tree. -/
def scanMember (depth : Nat) (done : List (String × Json)) (name : String) :
    Scanner (List (String × Json)) := fun text =>
  match scanTree depth text with
  | .error fault => .error fault
  | .ok s => .ok (s.map fun value => (name, value) :: done)

/-- What is made of the members of an object, in reverse order, when its end is reached. -/
def finishObject (done : List (String × Json)) : Except Fault Json :=
  .ok (object done.reverse)

/-- The members of an object are kept in their order. -/
theorem finishObject_reverse (members : List (String × Json)) :
    finishObject (members.reverse ++ []) = .ok (object members) := by
  rw [finishObject, List.append_nil, List.reverse_reverse]

/-- The members of an object are read as a tree. -/
theorem scanTree_object {depth : Nat} {input rest text : Bytes} {value : Json}
    {shorter : text.length < rest.length} (here : skipSpace input = 123 :: rest)
    (read : scanMembers (scanMember depth) finishObject rest true [] rest (length_self_le rest) =
      .ok ⟨value, text, shorter⟩) :
    ∃ shorter', scanTree (depth + 1) input = .ok ⟨value, text, shorter'⟩ := by
  refine ⟨Nat.lt_trans shorter (length_lt_of_skipSpace here), ?_⟩
  have opening : Container.ofOpening? 123 = some .object := rfl
  rw [scanTree]
  refine (match_skipSpace here _ _).trans ?_
  simp only [opening]
  change (match scanMembers (scanMember depth) finishObject rest true [] rest
    (length_self_le rest) with
    | Except.error fault => Except.error fault
    | Except.ok s => Except.ok (s.weaken _)) = _
  rw [read]
  rfl

/-- A number begins with its minus sign or with a digit. -/
theorem SpellsNumber.first {octets : Bytes} {x : Number.Lexeme} (spells : SpellsNumber octets x) :
    ∃ b rest, octets = b :: rest ∧ (b = 45 ∨ Number.isDigit b = true) := by
  cases spells with
  | @mk negative whole fraction exponent digits decimals power spellsWhole =>
  obtain ⟨first, more, rfl⟩ := List.exists_cons_of_ne_nil spellsWhole.nonempty
  cases negative with
  | false => exact ⟨first, _, rfl, .inr (spellsWhole.digit first List.mem_cons_self)⟩
  | true => exact ⟨45, _, rfl, .inl rfl⟩

/-- What begins a number begins no other value. -/
theorem number_first {b : UInt8} (first : b = 45 ∨ Number.isDigit b = true) :
    isSpace b = false ∧ b ≠ 93 ∧ b ≠ 110 ∧ b ≠ 116 ∧ b ≠ 102 ∧ b ≠ 34 ∧
      Container.ofOpening? b = none := by
  have numbers : ∀ n < 256, (UInt8.ofNat n = 45 ∨ Number.isDigit (UInt8.ofNat n) = true) →
      isSpace (UInt8.ofNat n) = false ∧ UInt8.ofNat n ≠ 93 ∧ UInt8.ofNat n ≠ 110 ∧
        UInt8.ofNat n ≠ 116 ∧ UInt8.ofNat n ≠ 102 ∧ UInt8.ofNat n ≠ 34 ∧
        Container.ofOpening? (UInt8.ofNat n) = none := by
    decide +kernel
  have known := numbers b.toNat b.toNat_lt
  rw [UInt8.ofNat_toNat] at known
  exact known first

/-- The spelling of a value begins with no end of an array. -/
theorem Spells.opens {depth : Nat} {octets : Bytes} {value : Json}
    (spells : Spells depth octets value) : Opens octets := by
  induction spells with
  | null | true | false => exact ⟨_, _, rfl, by decide⟩
  | number spells =>
    obtain ⟨b, rest, rfl, first⟩ := spells.first
    obtain ⟨no_space, no_end, -⟩ := number_first first
    exact ⟨b, rest, skipSpace_cons no_space rest, no_end⟩
  | string | array | object => exact ⟨_, _, rfl, by decide⟩
  | blank front_blank _ _ ih =>
    obtain ⟨b, rest, here, no_end⟩ := ih
    exact ⟨b, _, (front_blank.skipSpace_append _).trans (skipSpace_append here _), no_end⟩

/-- A word is taken from its octets. -/
theorem reads_of_scanScalar {b : UInt8} {octets : Bytes} {value : Json}
    (no_space : isSpace b = false)
    (scalar : Container.ofOpening? b = none)
    (taken : ∀ text, Delimited text →
      ∃ shorter, scanScalar b (octets ++ text) = .ok ⟨value, text, shorter⟩) (depth : Nat) :
    Reads (scanTree depth) (b :: octets) value := by
  intro text delimited input here
  obtain ⟨_, read⟩ := taken text delimited
  rw [List.cons_append, skipSpace_cons no_space] at here
  obtain ⟨shorter, tree⟩ := scanTree_of_scanScalar here scalar read depth
  exact ⟨text, shorter, tree, rfl⟩

/-- Members of an object are taken as trees. -/
theorem readsMembers_scanMember {depth : Nat} {members : List (MemberText × String × Json)}
    (names : ∀ member ∈ members, member.1.Names member.2.1)
    (parts : ∀ member ∈ members, Reads (scanTree depth) member.1.value member.2.2)
    (done : List (String × Json)) :
    ReadsMembers (scanMember depth) done (members.map fun member => (member.1, member.2.1))
      ((members.map (·.2)).reverse ++ done) := by
  induction members generalizing done with
  | nil => exact .nil
  | cons member later ih =>
    have rest := ih (fun part mem => names part (List.mem_cons_of_mem _ mem))
      (fun part mem => parts part (List.mem_cons_of_mem _ mem)) (member.2 :: done)
    rw [List.map_cons, List.map_cons, List.reverse_cons, List.append_assoc]
    refine .cons (names member List.mem_cons_self) ?_ rest
    intro text delimited input here
    obtain ⟨left, shorter, taken, behind⟩ :=
      parts member List.mem_cons_self text delimited input here
    refine ⟨left, shorter, ?_, behind⟩
    rw [scanMember, taken]
    rfl

/-- A tree is taken from any spelling of it. -/
theorem reads_scanTree {depth : Nat} {octets : Bytes} {value : Json}
    (spells : Spells depth octets value) : Reads (scanTree depth) octets value := by
  -- The parts of an array or an object are spelled with a level less, and read with a level less.
  induction spells with
  | null => exact reads_of_scanScalar rfl rfl (fun _ _ => ⟨_, rfl⟩) _
  | true => exact reads_of_scanScalar rfl rfl (fun _ _ => ⟨_, rfl⟩) _
  | false => exact reads_of_scanScalar rfl rfl (fun _ _ => ⟨_, rfl⟩) _
  | @number depth octets x n spells in_range =>
    obtain ⟨b, rest, rfl, first⟩ := spells.first
    obtain ⟨no_space, -, not_null, not_true, not_false, not_string, scalar⟩ := number_first first
    refine reads_of_scanScalar no_space scalar (fun text delimited => ?_) depth
    obtain ⟨shorter, taken⟩ := scanNumber_spelled spells in_range delimited.numberEnd
    refine ⟨shorter, ?_⟩
    rw [scanScalar, if_neg not_null, if_neg not_true, if_neg not_false, if_neg not_string,
      if_pos first]
    have taken : scanNumber (b :: (rest ++ text)) = .ok ⟨n, text, shorter⟩ := taken
    rw [taken]
    rfl
  | @string depth octets s spells =>
    refine reads_of_scanScalar rfl rfl (fun text _ => ?_) depth
    obtain ⟨shorter, taken⟩ := scanString_spelled spells text
    rw [List.append_assoc]
    exact ⟨_, scanScalar_string taken⟩
  | @array depth gap elements blank parts ih =>
    have reads : List.Forall₂ (Reads (scanTree depth)) (elements.map (·.1))
        (elements.map (·.2)) := by
      rw [List.forall₂_map_left_iff, List.forall₂_map_right_iff]
      exact List.forall₂_same.2 ih
    have opens := List.forall_mem_map.2 fun element mem => (parts element mem).opens
    intro text delimited input here
    obtain ⟨rest, _, behind, taken⟩ := scanElements_opened blank reads opens here
    obtain ⟨shorter, tree⟩ := scanTree_array behind taken
    exact ⟨text, shorter, tree, rfl⟩
  | @object depth gap members blank names parts ih =>
    have reads := readsMembers_scanMember names ih []
    intro text delimited input here
    obtain ⟨rest, _, behind, taken⟩ :=
      scanMembers_opened blank reads (finishObject_reverse _) here
    obtain ⟨shorter, tree⟩ := scanTree_object behind taken
    exact ⟨text, shorter, tree, rfl⟩
  | blank front_blank back_blank _ ih => exact ih.blank front_blank back_blank

end PeerLink.Json
