import PeerLink.Proofs.Json.Tagged

/-!
# Records are read from any of their spellings

A record that is not marked by a tag is read straight from its text: each member of the object goes
to the field of its name. `Decodes d tree value` says that a decoder reads a value from every
spelling of a tree. There is a law for each way to make a decoder from others: lists, what may be
`null`, converted values and records.
-/

namespace PeerLink.Json

/-- A value that is not `null` is spelled with another first octet. -/
theorem Spells.first_ne {depth : Nat} {octets : Bytes} {value : Json}
    (spells : Spells depth octets value) (not_null : value ≠ .null) :
    ∃ b rest, skipSpace octets = b :: rest ∧ b ≠ 110 := by
  induction spells with
  | null => exact absurd rfl not_null
  | true | false => exact ⟨_, _, rfl, by decide⟩
  | number spells =>
    obtain ⟨b, rest, rfl, first⟩ := spells.first
    obtain ⟨no_space, -, no_null, -⟩ := number_first first
    exact ⟨b, rest, skipSpace_cons no_space rest, no_null⟩
  | string | array | object => exact ⟨_, _, rfl, by decide⟩
  | blank front_blank _ _ ih =>
    obtain ⟨b, rest, here, no_null⟩ := ih not_null
    exact ⟨b, _, (front_blank.skipSpace_append _).trans (skipSpace_append here _), no_null⟩

namespace Decoder

/-- A decoder reads a value from every spelling of a tree. -/
def Decodes {α : Type} (d : Decoder α) (tree : Json) (value : α) : Prop :=
  -- The depth of the spelling is the one that is left to the decoder, so that a law for a container
  -- uses the one for its parts with a level less.
  ∀ depth octets, Spells depth octets tree → Reads (d.scan depth) octets value

/-- A whole text is decoded as what is read from its tree. -/
theorem Decodes.decode {α : Type} {d : Decoder α} {octets : Bytes} {tree : Json} {value : α}
    (decodes : Decodes d tree value) (spells : Spells depthLimit octets tree) :
    d.decode octets = .ok value :=
  decode_of_reads (decodes depthLimit octets spells)

/-- A string is read as itself. -/
theorem decodes_string (s : String) : Decodes string (.string s) s :=
  fun depth _ spells => reads_string_spelled spells rfl depth

/-- A value that is read is converted. -/
theorem Decodes.filterMap {α β : Type} {convert : α → Option β} {d : Decoder α} {tree : Json}
    {value : α} {converted : β} (decodes : Decodes d tree value)
    (accepted : convert value = some converted) : Decodes (d.filterMap convert) tree converted :=
  fun depth octets spells => reads_filterMap (decodes depth octets spells) accepted

/-! ## Lists and what may be `null` -/

/-- Spellings of elements are read as the elements are. -/
theorem reads_of_forall₂_decodes {α : Type} {d : Decoder α} {depth : Nat}
    {elements : List (Bytes × Json)} {values : List α}
    (decodes : List.Forall₂ (Decodes d) (elements.map (·.2)) values)
    (parts : ∀ element ∈ elements, Spells depth element.1 element.2) :
    List.Forall₂ (Reads (d.scan depth)) (elements.map (·.1)) values := by
  rw [List.forall₂_map_left_iff] at decodes ⊢
  induction decodes with
  | nil => exact .nil
  | cons decode _ ih =>
    obtain ⟨first, later⟩ := List.forall_mem_cons.1 parts
    exact .cons (decode depth _ first) (ih later)

/-- A list is read from the elements of an array. -/
theorem decodes_list {α : Type} {d : Decoder α} {trees : List Json} {values : List α}
    (decodes : List.Forall₂ (Decodes d) trees values) : Decodes (list d) (.array trees) values := by
  intro depth octets spells
  generalize is_array : Json.array trees = tree at spells
  induction spells with
  | @array depth gap elements blank parts =>
    obtain rfl := Json.array.inj is_array
    have reads := reads_of_forall₂_decodes decodes parts
    have opens := List.forall_mem_map.2 fun element mem => (parts element mem).opens
    intro text delimited input here
    obtain ⟨rest, shorter, behind, read⟩ := scanElements_opened blank reads opens here
    refine ⟨text, Nat.lt_trans shorter (length_lt_of_skipSpace behind), ?_, rfl⟩
    unfold list
    dsimp only
    refine (match_skipSpace behind _ _).trans ?_
    simp only [if_true, read]
    rfl
  | blank front_blank back_blank _ ih => exact (ih is_array).blank front_blank back_blank
  | null | true | false | number | string | object => cases is_array

/-- The value `null` is read as nothing. -/
theorem decodes_null {α : Type} (d : Decoder α) : Decodes (optional d) .null none := by
  intro depth octets spells
  generalize is_null : Json.null = tree at spells
  induction spells with
  | null =>
    intro text delimited input here
    refine ⟨text, ?_, ?_, rfl⟩
    · have shorter := length_lt_of_skipSpace here
      have word : text.length ≤ (nullTail ++ text).length := by
        rw [List.length_append]
        omega
      exact Nat.lt_of_le_of_lt word shorter
    unfold Decoder.optional
    dsimp only
    exact match_skipSpace here _ _
  | blank front_blank back_blank _ ih => exact (ih is_null).blank front_blank back_blank
  | true | false | number | string | array | object => cases is_null

/-- A value that is not `null` is read as by the decoder itself. -/
theorem Decodes.optional {α : Type} {d : Decoder α} {tree : Json} {value : α}
    (decodes : Decodes d tree value) (not_null : tree ≠ .null) :
    Decodes (optional d) tree (some value) := by
  intro depth octets spells text delimited input here
  -- The first octet decides between `null` and the decoder, which is given what begins with it.
  obtain ⟨b, rest, first, no_null⟩ := spells.first_ne not_null
  have place := here.trans (skipSpace_append first text)
  obtain ⟨left, shorter, read, behind⟩ := decodes depth octets spells text delimited
    (b :: (rest ++ text)) ((skipSpace_of_eq_cons place).trans (skipSpace_append first text).symm)
  refine ⟨left, Nat.lt_of_lt_of_le shorter (length_cons_le_of_skipSpace place), ?_, behind⟩
  unfold Decoder.optional
  dsimp only
  refine (match_skipSpace place _ _).trans ?_
  simp only [if_neg no_null, read]
  rfl

/-! ## Objects -/

variable {σ : Type} {fields : List (Field σ)}

/-- A field changes a state in this way by every spelling of a tree. -/
def Field.Decodes (field : Field σ) (state : σ) (tree : Json) (state' : σ) : Prop :=
  ∀ depth octets, Spells depth octets tree → Reads (field.scan depth state) octets state'

/-- What a decoder reads is set as the value of its field. -/
theorem Decodes.required {α : Type} {d : Decoder α} {tree : Json} {value : α}
    (decodes : Decodes d tree value) (name : String) (set : σ → α → σ) (state : σ) :
    (Field.required name d set).Decodes state tree (set state value) := by
  intro depth octets spells text delimited input here
  obtain ⟨rest, shorter, read, left⟩ := decodes depth octets spells text delimited input here
  refine ⟨rest, shorter, ?_, left⟩
  simp only [Field.required, read]
  rfl

/-- What a decoder reads is set as the value of its field, also if this may be absent. -/
theorem Decodes.defaulted {α : Type} {d : Decoder α} {tree : Json} {value : α}
    (decodes : Decodes d tree value) (name : String) (set : σ → α → σ) (state : σ) :
    (Field.defaulted name d set).Decodes state tree (set state value) :=
  decodes.required name set state

/-- Members of an object that are read into their fields, each one once, lead from the names and the
state before them to the ones behind them. -/
inductive DecodesFields (fields : List (Field σ)) :
    List String × σ → List (String × Json) → List String × σ → Prop
  /-- No member. -/
  | nil {state : List String × σ} : DecodesFields fields state [] state
  /-- A member of a field that was not given before, and more members. -/
  | cons {seen : List String} {state state' : σ} {final : List String × σ} {field : Field σ}
      {name : String} {tree : Json} {later : List (String × Json)}
      (found : fields.find? (·.name == name) = some field) (first : seen.contains name = false)
      (decodes : field.Decodes state tree state')
      (rest : DecodesFields fields (name :: seen, state') later final) :
      DecodesFields fields (seen, state) ((name, tree) :: later) final

/-- Members are read into their fields from their spellings. -/
theorem readsMembers_scanField {depth : Nat} {members : List (MemberText × String × Json)}
    {state final : List String × σ} (decodes : DecodesFields fields state (members.map (·.2)) final)
    (names : ∀ member ∈ members, member.1.Names member.2.1)
    (parts : ∀ member ∈ members, Spells depth member.1.value member.2.2) :
    ReadsMembers (scanField fields depth) state (members.map fun member => (member.1, member.2.1))
      final := by
  induction members generalizing state with
  | nil =>
    cases decodes
    exact .nil
  | cons member later ih =>
    obtain ⟨spelling, name, tree⟩ := member
    obtain ⟨named, names⟩ := List.forall_mem_cons.1 names
    obtain ⟨spells, parts⟩ := List.forall_mem_cons.1 parts
    cases decodes with
    | @cons seen state state' _ field _ _ _ found first decode rest =>
    refine .cons named ?_ (ih rest names parts)
    intro text delimited input here
    obtain ⟨left, shorter, read, behind⟩ := decode depth _ spells text delimited input here
    refine ⟨left, shorter, ?_, behind⟩
    simp only [scanField, found, first, read]
    rfl

/-- What is made of the fields of a record when the end of its object is reached. -/
def finishRecord (fields : List (Field σ)) : List String × σ → Except Fault σ :=
  fun (seen, state) => complete (fillAbsent seen fields state)

/-- The members of an object are read as a record. -/
theorem record_scan_object {depth : Nat} {start value : σ} {input rest text : Bytes}
    {shorter : text.length < rest.length} (here : skipSpace input = 123 :: rest)
    (read : scanMembers (scanField fields depth) (finishRecord fields) rest true ([], start) rest
      (length_self_le rest) = .ok ⟨value, text, shorter⟩) :
    ∃ shorter', (record fields start).scan (depth + 1) input = .ok ⟨value, text, shorter'⟩ := by
  refine ⟨Nat.lt_trans shorter (length_lt_of_skipSpace here), ?_⟩
  have opening : Container.ofOpening? 123 = some .object := rfl
  unfold record
  dsimp only
  refine (match_skipSpace here _ _).trans ?_
  -- The scanner has the text of `finishRecord` in place of its name.
  have read' : scanMembers (scanField fields depth)
      (fun (seen, state) => complete (fillAbsent seen fields state)) rest true ([], start) rest
      (length_self_le rest) = .ok ⟨value, text, shorter⟩ := read
  simp only [opening, read']
  rfl

/-- A record is read from the members of an object. -/
theorem decodes_record {start value : σ} {seen : List String} {state : σ}
    {members : List (String × Json)}
    (decodes : DecodesFields fields ([], start) members (seen, state))
    (filled : fillAbsent seen fields state = some value) :
    Decodes (record fields start) (.object members) value := by
  have finished : finishRecord fields (seen, state) = .ok value := by
    simp only [finishRecord, filled, complete]
  intro depth octets spells
  generalize is_object : Json.object members = tree at spells
  induction spells with
  | @object depth gap texts blank names parts =>
    obtain rfl := Json.object.inj is_object
    have reads := readsMembers_scanField decodes names parts
    intro text delimited input here
    obtain ⟨rest, _, behind, taken⟩ := scanMembers_opened blank reads finished here
    obtain ⟨shorter, read⟩ := record_scan_object behind taken
    exact ⟨text, shorter, read, rfl⟩
  | blank front_blank back_blank _ ih => exact (ih is_object).blank front_blank back_blank
  | null | true | false | number | string | array => cases is_object

end Decoder

end PeerLink.Json
