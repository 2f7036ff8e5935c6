import PeerLink.Proofs.Json.Spelling

/-!
# The compact text of a tree

A tree is written without blanks and with the fewest escapes, which is one of its spellings:
`Shallow` are the trees without numbers and with few levels, and `spells_encode` is their text.
Numbers are left out: what is exchanged in envelopes has none.
-/

namespace PeerLink.Json

/-- A tree without numbers, of at most so many levels of arrays and objects. -/
inductive Shallow : Nat → Json → Prop
  /-- The value `null`. -/
  | null {depth : Nat} : Shallow depth null
  /-- A truth value. -/
  | bool {depth : Nat} {b : Bool} : Shallow depth (bool b)
  /-- A string. -/
  | string {depth : Nat} {s : String} : Shallow depth (string s)
  /-- An array of trees with a level less. -/
  | array {depth : Nat} {elements : List Json}
      (parts : ∀ element ∈ elements, Shallow depth element) : Shallow (depth + 1) (array elements)
  /-- An object of trees with a level less. -/
  | object {depth : Nat} {members : List (String × Json)}
      (parts : ∀ member ∈ members, Shallow depth member.2) : Shallow (depth + 1) (object members)

/-- A character is spelled as it is written. -/
theorem spellsChar_escapeChar (c : Char) : SpellsChar (Utf8.encode (escapeChar c)) c := by
  by_cases short : c ∈ shortEscaped
  · simp only [shortEscaped, List.mem_cons, List.not_mem_nil, or_false] at short
    rcases short with rfl | rfl | rfl | rfl | rfl | rfl | rfl <;> exact .short (by decide)
  have stands := escapeChar_of_not_short short
  by_cases control : c.toNat < 32
  · obtain ⟨digits, word⟩ := hexWord?_control c.toNat control
    have octets : Utf8.encode (escapeChar c) = [92, 117, 48, 48,
        UInt8.ofNat (Nat.digitChar (c.toNat / 16)).toNat,
        UInt8.ofNat (Nat.digitChar (c.toNat % 16)).toNat] := by
      rw [stands, if_pos control]
      show 92 :: 117 :: 48 :: 48 ::
        Utf8.encode [Nat.digitChar (c.toNat / 16), Nat.digitChar (c.toNat % 16)] = _
      rw [digits]
    rw [octets]
    exact .word word
  · have octets : Utf8.encode (escapeChar c) = Utf8.encodeChar c := by
      rw [stands, if_neg control]
      simp [Utf8.encode]
    rw [octets]
    exact .plain (fun mark => short (mark ▸ by decide)) (fun slash => short (slash ▸ by decide))
      (Nat.not_lt.1 control)

/-- The characters of a string are spelled as they are written. -/
theorem spellsChars_flatMap_escapeChar (chars : List Char) :
    SpellsChars (Utf8.encode (chars.flatMap escapeChar)) chars := by
  induction chars with
  | nil => exact .nil
  | cons c chars ih =>
    rw [List.flatMap_cons, Utf8.encode_append]
    exact .cons (spellsChar_escapeChar c) ih

/-- A member as it is written. -/
def compactMember (member : String × Json) : MemberText × String × Json :=
  (⟨[], Utf8.encode (member.1.toList.flatMap escapeChar), [], member.2.encode⟩, member)

/-- Members of an object are written with commas between them. -/
theorem membersOctets_eq_intercalate (members : List (String × Json)) :
    membersOctets true members =
      [44].intercalate ((members.map compactMember).map (·.1.octets)) ++ [125] := by
  have one (member : String × Json) :
      (compactMember member).1.octets = memberOctets member.1 member.2 := by
    simp [compactMember, MemberText.octets, memberOctets, tailOctets]
  have later (members : List (String × Json)) : membersOctets false members =
      ((members.map compactMember).map (·.1.octets)).flatMap ([44] ++ ·) ++ [125] := by
    induction members with
    | nil => rfl
    | cons member rest ih =>
      obtain ⟨name, value⟩ := member
      simp [membersOctets, ih, one]
  cases members with
  | nil => rfl
  | cons member rest =>
    obtain ⟨name, value⟩ := member
    rw [membersOctets, List.map_cons, List.map_cons, intercalate_cons_flatMap, later, one,
      List.append_assoc]
    rfl

/-- The compact text of a tree without numbers is one of its spellings. -/
theorem spells_encode {depth : Nat} {value : Json} (shallow : Shallow depth value) :
    Spells depth value.encode value := by
  induction shallow with
  | null => exact .null
  | @bool depth b =>
    cases b with
    | true => exact .true
    | false => exact .false
  | string =>
    rw [encode_string]
    exact .string (spellsChars_flatMap_escapeChar _)
  | @array depth elements parts ih =>
    let pairs := elements.map fun element => (element.encode, element)
    have texts : pairs.map (·.1) = elements.map encode := by simp [pairs]
    have trees : pairs.map (·.2) = elements := by simp [pairs, Function.comp_def]
    have spelled : Spells (depth + 1) (91 :: ([] ++ ([44].intercalate (pairs.map (·.1)) ++ [93])))
        (array (pairs.map (·.2))) := by
      refine .array (by simp [Blank]) fun pair mem => ?_
      obtain ⟨element, here, rfl⟩ := List.mem_map.1 mem
      exact ih element here
    rwa [texts, trees, List.nil_append, ← elementsOctets_eq_intercalate, ← encode_array] at spelled
  | @object depth members parts ih =>
    have trees : (members.map compactMember).map (·.2) = members := by
      simp [compactMember, Function.comp_def]
    have spelled : Spells (depth + 1)
        (123 :: ([] ++ ([44].intercalate ((members.map compactMember).map (·.1.octets)) ++ [125])))
        (object ((members.map compactMember).map (·.2))) := by
      refine .object (by simp [Blank]) (fun text mem => ?_) fun text mem => ?_
      · obtain ⟨member, -, rfl⟩ := List.mem_map.1 mem
        exact ⟨by simp [compactMember, Blank], spellsChars_flatMap_escapeChar _,
          by simp [compactMember, Blank]⟩
      · obtain ⟨member, here, rfl⟩ := List.mem_map.1 mem
        exact ih member here
    rwa [trees, List.nil_append, ← membersOctets_eq_intercalate, ← encode_object] at spelled

end PeerLink.Json
