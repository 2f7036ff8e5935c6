import PeerLink.Proofs.Json.Compact
import PeerLink.Proofs.Json.Reading

/-!
# Tagged records are read from any of their spellings

An object with its tag among its members is read as the record that its other members make, wherever
the tag stands. They are read as trees, so that only what the decoder makes of these trees is left
to show.
-/

namespace PeerLink.Json.Decoder

/-! ## Whole texts -/

/-- A whole text is decoded as what its scanner reads. -/
theorem decode_of_reads {α : Type} {d : Decoder α} {octets : Bytes} {value : α}
    (reads : Reads (d.scan depthLimit) octets value) : d.decode octets = .ok value := by
  have at_end : Delimited [] := by rintro b rest ⟨⟩
  obtain ⟨rest, shorter, taken, left⟩ := reads [] at_end octets (by rw [List.append_nil])
  have no_rest : (skipSpace rest).isEmpty = true := by
    rw [left]
    rfl
  simp only [decode, taken, no_rest, if_true]

/-! ## Strings and converted values -/

/-- A string is found behind blanks and its opening mark. -/
theorem string_scan {input rest text : Bytes} {s : String} {shorter : text.length < rest.length}
    (here : skipSpace input = 34 :: rest) (read : scanString rest = .ok ⟨s, text, shorter⟩)
    (depth : Nat) : ∃ shorter', string.scan depth input = .ok ⟨s, text, shorter'⟩ := by
  refine ⟨Nat.lt_trans shorter (length_lt_of_skipSpace here), ?_⟩
  have opening : Container.ofOpening? 34 = none := rfl
  unfold string Decoder.scalar
  dsimp only
  refine (match_skipSpace here _ _).trans ?_
  simp only [opening, scanScalar_string read]
  rfl

/-- A string is taken from any spelling of it. -/
theorem reads_string_spelled {depth : Nat} {octets : Bytes} {value : Json}
    (spells : Spells depth octets value) {s : String} (is_string : value = .string s)
    (depth' : Nat) : Reads (string.scan depth') octets s := by
  induction spells with
  | @string depth octets s' spells =>
    obtain rfl := Json.string.inj is_string
    intro text _ input here
    have mark : isSpace 34 = false := rfl
    simp only [List.cons_append, List.append_assoc, List.nil_append, skipSpace_cons mark] at here
    obtain ⟨_, taken⟩ := scanString_spelled spells text
    obtain ⟨shorter, read⟩ := string_scan here taken depth'
    exact ⟨text, shorter, read, rfl⟩
  | blank front_blank back_blank _ ih => exact (ih is_string).blank front_blank back_blank
  | null | true | false | number | array | object => cases is_string

/-- A string is read back from its octets. -/
theorem reads_string (depth : Nat) (s : String) :
    Reads (string.scan depth) (Json.string s).encode s :=
  reads_string_spelled (spells_encode (@Shallow.string depth s)) rfl depth

/-- A value that is read is converted. -/
theorem reads_filterMap {α β : Type} {convert : α → Option β} {d : Decoder α} {depth : Nat}
    {octets : Bytes} {value : α} {converted : β} (reads : Reads (d.scan depth) octets value)
    (accepted : convert value = some converted) :
    Reads ((d.filterMap convert).scan depth) octets converted := by
  intro text delimited input here
  obtain ⟨rest, shorter, read, left⟩ := reads text delimited input here
  refine ⟨rest, shorter, ?_, left⟩
  simp only [filterMap, read, accepted]
  rfl

/-- A whole text is decoded as what is made of the value that it is decoded as. -/
theorem decode_filterMap_eq_ok_iff {α β : Type} {convert : α → Option β} {d : Decoder α}
    {octets : Bytes} {converted : β} :
    (d.filterMap convert).decode octets = .ok converted ↔
      ∃ value, d.decode octets = .ok value ∧ convert value = some converted := by
  unfold decode filterMap
  dsimp only
  cases read : d.scan depthLimit octets with
  | error fault => simp
  | ok scanned =>
    cases accepted : convert scanned.value with
    | none =>
      simp only [accepted]
      by_cases whole : (skipSpace scanned.rest).isEmpty <;> simp [whole, accepted]
    | some value =>
      simp only [accepted]
      by_cases whole : (skipSpace scanned.rest).isEmpty <;> simp [Scanned.map, whole, accepted]

/-! ## Tagged objects -/

variable {tagName tag : String} {depth : Nat}

/-- The tag is marked as taken. -/
theorem reads_scanTagged_tag {octets : Bytes} (spells : Spells depth octets (.string tag))
    (kept : List (String × Json)) :
    Reads (scanTagged tagName tag depth (false, kept) tagName) octets (true, kept) := by
  intro text delimited input here
  obtain ⟨rest, shorter, taken, left⟩ :=
    reads_string_spelled spells rfl depth text delimited input here
  refine ⟨rest, shorter, ?_, left⟩
  rw [scanTagged, if_pos rfl, if_neg (by simp), taken]
  simp only [if_true]
  rfl

/-- Members that are not the tag are kept in reverse order. -/
theorem readsMembers_scanTagged_others {members : List (MemberText × String × Json)}
    (names : ∀ member ∈ members, member.1.Names member.2.1)
    (parts : ∀ member ∈ members, Spells depth member.1.value member.2.2)
    (others : ∀ member ∈ members, member.2.1 ≠ tagName) (marked : Bool)
    (kept : List (String × Json)) :
    ReadsMembers (scanTagged tagName tag depth) (marked, kept)
      (members.map fun member => (member.1, member.2.1))
      (marked, (members.map (·.2)).reverse ++ kept) := by
  induction members generalizing kept with
  | nil => exact .nil
  | cons member later ih =>
    have rest := ih (fun part mem => names part (List.mem_cons_of_mem _ mem))
      (fun part mem => parts part (List.mem_cons_of_mem _ mem))
      (fun part mem => others part (List.mem_cons_of_mem _ mem)) (member.2 :: kept)
    rw [List.map_cons, List.map_cons, List.reverse_cons, List.append_assoc]
    refine .cons (names member List.mem_cons_self) ?_ rest
    intro text delimited input here
    obtain ⟨left, shorter, taken, behind⟩ :=
      reads_scanTree (parts member List.mem_cons_self) text delimited input here
    refine ⟨left, shorter, ?_, behind⟩
    rw [scanTagged, if_neg (others member List.mem_cons_self), taken]
    rfl

/-- Members with the tag among them are taken, wherever it stands. -/
theorem readsMembers_scanTagged {members : List (MemberText × String × Json)}
    (names : ∀ member ∈ members, member.1.Names member.2.1)
    (parts : ∀ member ∈ members, Spells depth member.1.value member.2.2)
    (once : (members.map (·.2)).filter (·.1 == tagName) = [(tagName, .string tag)]) :
    ReadsMembers (scanTagged tagName tag depth) (false, [])
      (members.map fun member => (member.1, member.2.1))
      (true, ((members.map (·.2)).filter (·.1 != tagName)).reverse) := by
  -- The members are split at the tag, and the ones on both sides of it are kept.
  rw [List.filter_map] at once
  obtain ⟨tagged, alone, is_tag⟩ := List.map_eq_singleton_iff.1 once
  obtain ⟨before, after, rfl, not_before, here, not_after⟩ := List.filter_eq_cons_iff.1 alone
  obtain ⟨text, name, value⟩ := tagged
  obtain ⟨rfl, rfl⟩ := Prod.mk.inj is_tag
  have before_others : ∀ member ∈ before, member.2.1 ≠ name := fun member mem same =>
    not_before member mem (by simp [same])
  have after_others : ∀ member ∈ after, member.2.1 ≠ name := fun member mem same => by
    have other := List.filter_eq_nil_iff.1 not_after member mem
    simp [same] at other
  have whole (parts : List (MemberText × String × Json))
      (others : ∀ part ∈ parts, part.2.1 ≠ name) :
      (parts.map (·.2)).filter (·.1 != name) = parts.map (·.2) := by
    refine List.filter_eq_self.2 fun member mem => ?_
    obtain ⟨part, here, rfl⟩ := List.mem_map.1 mem
    simpa using others part here
  have kept : ((before ++ (text, name, .string tag) :: after).map (·.2)).filter (·.1 != name) =
      before.map (·.2) ++ after.map (·.2) := by
    rw [List.map_append, List.filter_append, List.map_cons, List.filter_cons, whole _ before_others,
      whole _ after_others, if_neg (by simp)]
  have middle : (text, name, .string tag) ∈ before ++ (text, name, .string tag) :: after :=
    List.mem_append_right _ List.mem_cons_self
  have front : ReadsMembers (scanTagged name tag depth) _ _ _ := readsMembers_scanTagged_others
    (fun member mem => names member (List.mem_append_left _ mem))
    (fun member mem => parts member (List.mem_append_left _ mem)) before_others false []
  have back : ReadsMembers (scanTagged name tag depth) _ _ _ := readsMembers_scanTagged_others
    (fun member mem => names member (List.mem_append_right _ (List.mem_cons_of_mem _ mem)))
    (fun member mem => parts member (List.mem_append_right _ (List.mem_cons_of_mem _ mem)))
    after_others true ((before.map (·.2)).reverse ++ [])
  rw [kept, List.reverse_append, List.map_append, List.map_cons,
    ← List.append_nil (before.map (·.2)).reverse]
  exact front.append (.cons (names _ middle) (reads_scanTagged_tag (parts _ middle) _) back)

/-- What is made of the members of a tagged object when its end is reached. -/
def finishTagged (state : Bool × List (String × Json)) : Except Fault Json :=
  if state.1 then .ok (.object state.2.reverse) else .error .mismatch

/-- The value of a tagged object is the object of its other members. -/
theorem scanUntagged_object {input rest text : Bytes} {value : Json}
    {shorter : text.length < rest.length} (here : skipSpace input = 123 :: rest)
    (read : scanMembers (scanTagged tagName tag depth) finishTagged rest true (false, []) rest
      (length_self_le rest) = .ok ⟨value, text, shorter⟩) :
    ∃ shorter', scanUntagged tagName tag (depth + 1) input = .ok ⟨value, text, shorter'⟩ := by
  refine ⟨Nat.lt_trans shorter (length_lt_of_skipSpace here), ?_⟩
  have opening : Container.ofOpening? 123 = some .object := rfl
  unfold scanUntagged
  refine (match_skipSpace here _ _).trans ?_
  -- The scanner has the text of `finishTagged` in place of its name.
  have read' : scanMembers (scanTagged tagName tag depth)
      (fun state => if state.1 then .ok (.object state.2.reverse) else .error .mismatch) rest true
      (false, []) rest (length_self_le rest) = .ok ⟨value, text, shorter⟩ := read
  simp only [opening, read']
  rfl

/-- A tagged object is taken as the object of its other members. -/
theorem reads_scanUntagged {octets : Bytes} {value : Json} (spells : Spells depth octets value)
    {members : List (String × Json)} (is_object : value = .object members)
    (once : members.filter (·.1 == tagName) = [(tagName, .string tag)]) :
    Reads (scanUntagged tagName tag depth) octets
      (.object (members.filter (·.1 != tagName))) := by
  induction spells with
  | @object depth gap texts blank names parts =>
    obtain rfl := Json.object.inj is_object
    have finished : finishTagged (true, ((texts.map (·.2)).filter (·.1 != tagName)).reverse) =
        .ok (.object ((texts.map (·.2)).filter (·.1 != tagName))) := by
      rw [finishTagged, if_pos rfl, List.reverse_reverse]
    have reads := readsMembers_scanTagged names parts once
    intro text delimited input here
    obtain ⟨rest, _, behind, taken⟩ := scanMembers_opened blank reads finished here
    obtain ⟨shorter, read⟩ := scanUntagged_object behind taken
    exact ⟨text, shorter, read, rfl⟩
  | blank front_blank back_blank _ ih => exact (ih is_object).blank front_blank back_blank
  | null | true | false | number | string | array => cases is_object

/-- A tagged record is decoded from any spelling of an object that has its tag once, if its parts
are read from the tree of the other members. -/
theorem decode_spelled {α : Type} (d : Decoder α) {octets : Bytes} {members : List (String × Json)}
    {value : α} (spells : Spells depthLimit octets (.object members))
    (once : members.filter (·.1 == tagName) = [(tagName, .string tag)])
    (read : d.ofTree (.object (members.filter (·.1 != tagName))) = some value) :
    (tagged tagName tag d).decode octets = .ok value := by
  refine decode_of_reads fun text delimited input here => ?_
  obtain ⟨rest, shorter, taken, left⟩ :=
    reads_scanUntagged spells rfl once text delimited input here
  refine ⟨rest, shorter, ?_, left⟩
  simp only [tagged, taken, read]
  rfl

/-- A tagged record is read back from its octets, if its parts are from their trees. -/
theorem decode_tagged {α : Type} (d : Decoder α) {members : List (String × Json)} {value : α}
    (others : ∀ member ∈ members, member.1 ≠ tagName)
    (shallow : ∀ member ∈ members, Shallow 126 member.2)
    (read : d.ofTree (.object members) = some value) :
    (tagged tagName tag d).decode (Json.object ((tagName, .string tag) :: members)).encode =
      .ok value := by
  have once : ((tagName, Json.string tag) :: members).filter (·.1 == tagName) =
      [(tagName, .string tag)] := by
    have none : members.filter (·.1 == tagName) = [] :=
      List.filter_eq_nil_iff.2 fun member mem => by simpa using others member mem
    rw [List.filter_cons, if_pos (beq_self_eq_true tagName), none]
  have rest : ((tagName, Json.string tag) :: members).filter (·.1 != tagName) = members := by
    have all : members.filter (·.1 != tagName) = members :=
      List.filter_eq_self.2 fun member mem => by simpa using others member mem
    rw [List.filter_cons, if_neg (by simp), all]
  have whole : Shallow depthLimit (.object ((tagName, .string tag) :: members)) :=
    .object (List.forall_mem_cons.2 ⟨.string, shallow⟩)
  exact decode_spelled d (spells_encode whole) once (by rw [rest]; exact read)

end PeerLink.Json.Decoder
