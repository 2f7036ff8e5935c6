import Mathlib.Data.Nat.Basic
import Mathlib.Data.Option.Basic
import Mathlib.Data.List.TakeWhile
import PeerLink.Address.Ip
import PeerLink.Proofs.Bytes
import PeerLink.Proofs.Text.Digits

/-!
# The canonical texts of network addresses

An address of either family is read from its canonical text and from no other text
(`IpAddress.ofChars?_eq_some_iff`).

Four decimal numbers between dots are read back by `Ip4.ofChars?_eq_some_iff`. For 128 bits the
reader has to undo the choice of the writer: the reader looks for the first `::`, and the groups in
front of it hold none (`Ip6.splitGap_groupsChars`); the run that the writer leaves out consists of
zero groups (`Ip6.exists_of_longestZeroRun`), as many as are missing; and only the texts of
addresses that embed one of 32 bits have dots (`Ip6.dot_not_mem_groupsChars`).
-/

namespace PeerLink

/-- What a list is read as, element by element, is written as this list if each element is. -/
theorem map_eq_of_mapM {α β : Type} {read : β → Option α} {write : α → β} {P : α → Prop}
    (writes : ∀ b a, read b = some a → write a = b ∧ P a) :
    ∀ {texts : List β} {values : List α}, texts.mapM read = some values →
      values.map write = texts ∧ ∀ a ∈ values, P a := by
  intro texts
  induction texts with
  | nil => intro values h; simp_all
  | cons text rest ih =>
    intro values h
    simp only [List.mapM_cons, Option.bind_eq_bind, Option.bind_eq_some_iff] at h
    obtain ⟨first, readFirst, others, readOthers, here⟩ := h
    obtain rfl : first :: others = values := by simpa using here
    obtain ⟨same, bound⟩ := ih readOthers
    obtain ⟨sameFirst, boundFirst⟩ := writes text first readFirst
    exact ⟨by simp [same, sameFirst], List.forall_mem_cons.2 ⟨boundFirst, bound⟩⟩

/-- A list is read back element by element if each element is. -/
theorem mapM_map_eq_some {α β : Type} {read : β → Option α} {write : α → β} {values : List α}
    (reads : ∀ a ∈ values, read (write a) = some a) :
    (values.map write).mapM read = some values := by
  induction values with
  | nil => rfl
  | cons value rest ih =>
    rw [List.map_cons, List.mapM_cons, reads value (List.mem_cons_self ..),
      ih fun a mem => reads a (List.mem_cons_of_mem value mem)]
    rfl

/-- A character that neither the separator nor a part has is not in the text of the parts. -/
theorem not_mem_intercalate {c : Char} {separator : List Char} {parts : List (List Char)}
    (outside : c ∉ separator) (inside : ∀ part ∈ parts, c ∉ part) :
    c ∉ List.intercalate separator parts := by
  induction parts with
  | nil => exact List.not_mem_nil
  | cons part rest ih =>
    have here := inside part (List.mem_cons_self ..)
    have later := ih fun part mem => inside part (List.mem_cons_of_mem _ mem)
    cases rest with
    | nil => simpa using here
    | cons next rest => simp_all

namespace Ip4

/-- Four octets are the ones of the address they make. -/
theorem ofOctets?_eq_some_iff {octets : Bytes} {host : Ip4} :
    ofOctets? octets = some host ↔ host.octets = octets := by
  constructor
  · intro h
    unfold ofOctets? at h
    split at h
    · obtain rfl := Option.some.inj h
      rfl
    · cases h
  · rintro rfl
    rfl

/-- A character that is no digit is not in the text of an octet. -/
theorem not_mem_digits {c : Char} (noDigit : ∀ k < 10, c ≠ Nat.digitChar k) (n : Nat) :
    c ∉ Text.Decimal.digits n := by
  intro mem
  obtain ⟨k, small, same⟩ := Text.Decimal.exists_of_mem_digits mem
  exact noDigit k small same

/-- A text is read as an address exactly if it is the canonical text of this address. -/
theorem ofChars?_eq_some_iff {text : List Char} {host : Ip4} :
    ofChars? text = some host ↔ host.chars = text := by
  simp only [ofChars?, Option.bind_eq_bind, Option.bind_eq_some_iff, ofOctets?_eq_some_iff]
  constructor
  · rintro ⟨numbers, read, same⟩
    obtain ⟨parts, bounds⟩ := map_eq_of_mapM
      (fun part n h => (Text.Decimal.parse?_eq_some_iff.1 h).symm) read
    -- The numbers are octets, so they come back from the address unchanged.
    have octets : host.octets.map (fun b => Text.Decimal.digits b.toNat) =
        numbers.map Text.Decimal.digits := by
      rw [same, List.map_map]
      refine List.map_congr_left fun n mem => ?_
      have bound := bounds n mem
      simp only [Function.comp_apply]
      rw [UInt8.toNat_ofNat_of_lt' (by simp only [UInt8.size]; omega)]
    rw [chars, octets, parts, List.intercalate_splitOn]
  · rintro rfl
    have parts : host.chars.splitOn '.' =
        (host.octets.map UInt8.toNat).map Text.Decimal.digits := by
      rw [chars, List.splitOn_intercalate]
      · simp [Function.comp_def]
      · intro part mem
        obtain ⟨b, -, rfl⟩ := List.mem_map.1 mem
        exact not_mem_digits (by decide) b.toNat
      · simp [octets]
    refine ⟨host.octets.map UInt8.toNat, ?_, by simp [Function.comp_def]⟩
    rw [parts]
    refine mapM_map_eq_some fun n mem => ?_
    obtain ⟨b, -, rfl⟩ := List.mem_map.1 mem
    have bound := b.toNat_lt
    exact Text.Decimal.parse?_eq_some_iff.2 ⟨by omega, rfl⟩

/-- A canonical text has a dot. -/
theorem dot_mem_chars (host : Ip4) : '.' ∈ host.chars := by
  simp [chars, octets]

/-- A canonical text has no slash. -/
theorem slash_not_mem_chars (host : Ip4) : '/' ∉ host.chars := by
  refine not_mem_intercalate (by decide) fun part mem => ?_
  obtain ⟨b, -, rfl⟩ := List.mem_map.1 mem
  exact not_mem_digits (by decide) b.toNat

end Ip4

namespace Ip6

/-- A character that is no digit is not in the text of a group. -/
theorem not_mem_groupChars {c : Char} (noDigit : ∀ k < 16, c ≠ Nat.digitChar k) (group : UInt16) :
    c ∉ groupChars group := by
  intro mem
  obtain ⟨k, small, same⟩ := Text.exists_of_mem_toDigits (by decide) mem
  exact noDigit k small same

/-- A character that is neither a digit nor a colon is not in the text of groups. -/
theorem not_mem_groupsChars {c : Char} (noDigit : ∀ k < 16, c ≠ Nat.digitChar k) (noColon : c ≠ ':')
    (groups : List UInt16) : c ∉ groupsChars groups := by
  refine not_mem_intercalate (by simpa using noColon) fun part mem => ?_
  obtain ⟨group, -, rfl⟩ := List.mem_map.1 mem
  exact not_mem_groupChars noDigit group

/-- The digits of a group are no colons. -/
theorem ne_colon_of_mem_groupChars {group : UInt16} {c : Char} (mem : c ∈ groupChars group) :
    c ≠ ':' := by
  rintro rfl
  exact not_mem_groupChars (by decide) group mem

/-- A group has digits. -/
theorem groupChars_ne_nil (group : UInt16) : groupChars group ≠ [] :=
  Nat.toDigits_ne_nil

/-- A group is read back from its digits. -/
theorem groupOfChars?_groupChars (group : UInt16) :
    groupOfChars? (groupChars group) = some group := by
  have short : (groupChars group).length ≤ 4 :=
    (Nat.length_toDigits_le_iff (by decide) (by decide)).2 group.toNat_lt
  have shape : ¬ ((groupChars group).isEmpty ∨ 4 < (groupChars group).length) := by
    simpa [groupChars_ne_nil] using short
  have single : ∀ k < 16, digit? k.digitChar = some k := by decide
  rw [groupOfChars?, if_neg shape, groupChars, Text.foldlM_toDigits (by decide) single]
  simp

/-- Groups between colons are read back. -/
theorem groupsOfChars?_groupsChars (groups : List UInt16) :
    groupsOfChars? (groupsChars groups) = some groups := by
  cases groups with
  | nil => rfl
  | cons group rest =>
    have nonempty : ¬ (groupsChars (group :: rest)).isEmpty := by
      cases rest <;> simp [groupsChars, groupChars_ne_nil]
    have parts : (groupsChars (group :: rest)).splitOn ':' = (group :: rest).map groupChars := by
      refine List.splitOn_intercalate ':' (fun part mem colon => ?_) (by simp)
      obtain ⟨group, -, rfl⟩ := List.mem_map.1 mem
      exact not_mem_groupChars (by decide) group colon
    rw [groupsOfChars?, if_neg nonempty, parts]
    exact mapM_map_eq_some fun group _ => groupOfChars?_groupChars group

/-- Groups between colons are written without dots. -/
theorem dot_not_mem_groupsChars (groups : List UInt16) : '.' ∉ groupsChars groups :=
  not_mem_groupsChars (by decide) (by decide) groups

/-- Characters that are no colons are walked over in the search for a gap. -/
theorem splitGap_append {front : List Char} (noColon : ∀ c ∈ front, c ≠ ':')
    (before rest : List Char) :
    splitGap before (front ++ rest) = splitGap (front.reverse ++ before) rest := by
  induction front generalizing before with
  | nil => rfl
  | cons c front ih =>
    have here : c ≠ ':' := noColon c (List.mem_cons_self ..)
    rw [List.cons_append, splitGap]
    · rw [ih fun c mem => noColon c (List.mem_cons_of_mem _ mem)]
      simp
    · rintro rest rfl -
      exact here rfl

/-- Groups between colons are walked over in the search for a gap. -/
theorem splitGap_groupsChars (groups : List UInt16) (before rest : List Char) :
    splitGap before (groupsChars groups ++ rest) =
      splitGap ((groupsChars groups).reverse ++ before) rest := by
  induction groups generalizing before with
  | nil => rfl
  | cons group groups ih =>
    have noColon : ∀ c ∈ groupChars group, c ≠ ':' := fun c => ne_colon_of_mem_groupChars
    cases groups with
    | nil => simpa [groupsChars] using splitGap_append noColon before rest
    | cons next groups =>
      -- The colon between two groups is no gap, as a digit follows it.
      have colon (before : List Char) :
          splitGap before (':' :: (groupsChars (next :: groups) ++ rest)) =
            splitGap (':' :: before) (groupsChars (next :: groups) ++ rest) := by
        obtain ⟨c, text, front⟩ := List.exists_cons_of_ne_nil (groupChars_ne_nil next)
        have here : c ≠ ':' :=
          ne_colon_of_mem_groupChars (by rw [front]; exact List.mem_cons_self ..)
        obtain ⟨more, digits⟩ : ∃ more, groupsChars (next :: groups) = c :: more := by
          cases groups <;> simp [groupsChars, front, List.intercalate_cons_cons]
        rw [digits, List.cons_append, splitGap]
        rintro rest - same
        exact here (List.cons.inj same).1
      have cons : groupsChars (group :: next :: groups) =
          groupChars group ++ ':' :: groupsChars (next :: groups) := by
        simp [groupsChars, List.intercalate_cons_cons]
      rw [cons, List.append_assoc, splitGap_append noColon, List.cons_append, colon, ih]
      simp

/-- The first longest run of zero groups is a part of the groups and holds zeros only. -/
theorem exists_of_longestZeroRun (start : Nat) (groups : List UInt16) :
    ∃ front back, groups = front ++ List.replicate (longestZeroRun start groups).2 0 ++ back ∧
      (longestZeroRun start groups).1 = start + front.length := by
  induction groups generalizing start with
  | nil => exact ⟨[], [], rfl, rfl⟩
  | cons group rest ih =>
    rw [longestZeroRun]
    split
    case isTrue here =>
      refine ⟨[], (group :: rest).dropWhile (· == 0), ?_, rfl⟩
      have zeros : (group :: rest).takeWhile (· == 0) =
          List.replicate (zeroRun (group :: rest)) 0 :=
        List.eq_replicate_iff.2 ⟨rfl, fun b mem => by simpa using List.mem_takeWhile_imp mem⟩
      rw [List.nil_append, ← zeros, List.takeWhile_append_dropWhile]
    case isFalse later =>
      obtain ⟨front, back, same, place⟩ := ih (start + 1)
      refine ⟨group :: front, back, ?_, by rw [place, List.length_cons]; omega⟩
      rw [List.cons_append, List.cons_append, ← same]

/-- A group is put together from its two octets. -/
theorem ofNat_group (group : UInt16) :
    UInt16.ofNat (256 * (UInt8.ofNat (group.toNat / 256)).toNat + (UInt8.ofNat group.toNat).toNat) =
      group := by
  have bound := group.toNat_lt
  have whole : 256 * (UInt8.ofNat (group.toNat / 256)).toNat + (UInt8.ofNat group.toNat).toNat =
      group.toNat := by
    simp only [UInt8.toNat_ofNat']
    omega
  rw [whole, UInt16.ofNat_toNat]

/-- A text without a dot is not taken for the one of an embedded address. -/
theorem embedded_eq_none {text : List Char} (noDot : '.' ∉ text) :
    (embeddedMark.isPrefixOf? text >>= Ip4.ofChars?) = none := by
  by_contra found
  obtain ⟨host, found⟩ := Option.ne_none_iff_exists'.1 found
  obtain ⟨rest, front, read⟩ := Option.bind_eq_some_iff.1 found
  have split := List.isPrefixOf?_eq_some_iff_append_eq.1 front
  have same := Ip4.ofChars?_eq_some_iff.1 read
  refine noDot ?_
  rw [← split, ← same]
  exact List.mem_append_right _ (Ip4.dot_mem_chars host)

/-- An address is read back from its canonical text. -/
theorem read?_chars (host : Ip6) : read? host.chars = some host := by
  obtain ⟨groups, eight⟩ := host
  unfold chars
  dsimp only
  split
  -- An address with an embedded one is marked, and the mark is looked for first.
  case h_1 high low =>
    have front : embeddedMark.isPrefixOf? (embeddedMark ++ (embedded high low).chars) =
        some (embedded high low).chars := List.isPrefixOf?_eq_some_iff_append_eq.2 rfl
    have whole : ofIp4 (embedded high low) = ⟨[0, 0, 0, 0, 0, 0xffff, high, low], eight⟩ := by
      simp only [ofIp4, embedded, Ip4.octets, pairOctets, ofNat_group, List.cons_append,
        List.nil_append]
    simp [read?, front, Ip4.ofChars?_eq_some_iff.2 rfl, whole]
  case h_2 =>
    obtain ⟨front, back, same, place⟩ := exists_of_longestZeroRun 0 groups
    generalize longestZeroRun 0 groups = run at same place
    obtain ⟨start, length⟩ := run
    dsimp only at same place ⊢
    split
    -- Without a gap all eight groups are written.
    case isTrue short =>
      have noGap : splitGap [] (groupsChars groups) = none := by
        simpa [splitGap] using splitGap_groupsChars groups [] []
      simp [read?, embedded_eq_none (dot_not_mem_groupsChars groups), noGap,
        groupsOfChars?_groupsChars, ofGroups?, eight]
    -- The gap stands for as many zeros as are missing, which are the ones of the run.
    case isFalse long =>
      have left : groups.take start = front := by
        rw [same, place, Nat.zero_add, List.append_assoc, List.take_left]
      have right : groups.drop (start + length) = back := by
        rw [same, place, Nat.zero_add]
        exact List.drop_left' (by simp)
      have noDot : '.' ∉ groupsChars front ++ [':', ':'] ++ groupsChars back := by
        simp [dot_not_mem_groupsChars]
      have gap : splitGap [] (groupsChars front ++ [':', ':'] ++ groupsChars back) =
          some (groupsChars front, groupsChars back) := by
        rw [List.append_assoc, splitGap_groupsChars]
        simp [splitGap]
      have total : front.length + length + back.length = 8 := by
        rw [← eight, same]
        simp only [List.length_append, List.length_replicate]
      have missing : 8 - front.length - back.length = length := by omega
      rw [left, right, read?, embedded_eq_none noDot]
      simp only [gap, groupsOfChars?_groupsChars, Option.bind_eq_bind, Option.bind_some, missing,
        ← same]
      exact dif_pos eight

/-- A text is read as an address exactly if it is the canonical text of this address. -/
theorem ofChars?_eq_some_iff {text : List Char} {host : Ip6} :
    ofChars? text = some host ↔ host.chars = text := by
  simp only [ofChars?, Option.filter_eq_some_iff, beq_iff_eq]
  constructor
  · exact fun ⟨_, same⟩ => same
  · rintro rfl
    exact ⟨read?_chars host, rfl⟩

/-- A canonical text has a colon. -/
theorem colon_mem_chars (host : Ip6) : ':' ∈ host.chars := by
  obtain ⟨groups, eight⟩ := host
  unfold chars
  dsimp only
  split
  · exact List.mem_append_left _ (by decide)
  · split
    · obtain ⟨first, second, rest, rfl⟩ :
          ∃ first second rest, groups = first :: second :: rest := by
        match groups, eight with
        | first :: second :: rest, _ => exact ⟨first, second, rest, rfl⟩
      simp [groupsChars]
    · simp

/-- A canonical text has no slash. -/
theorem slash_not_mem_chars (host : Ip6) : '/' ∉ host.chars := by
  have none (groups : List UInt16) : '/' ∉ groupsChars groups :=
    not_mem_groupsChars (by decide) (by decide) groups
  unfold chars
  split
  · have mark : '/' ∉ embeddedMark := by decide
    simpa [mark] using Ip4.slash_not_mem_chars _
  · dsimp only
    split <;> simp [none]

end Ip6

namespace IpAddress

/-- A canonical text has characters, and no slash among them. -/
theorem isSegment_chars (host : IpAddress) : host.chars ≠ [] ∧ '/' ∉ host.chars := by
  cases host with
  | v4 host => exact ⟨List.ne_nil_of_mem host.dot_mem_chars, host.slash_not_mem_chars⟩
  | v6 host => exact ⟨List.ne_nil_of_mem host.colon_mem_chars, host.slash_not_mem_chars⟩

/-- A text is read as an address of a family exactly if it is the canonical text of this address,
and the address is of this family. -/
theorem ofChars?_eq_some_iff {family : Family} {text : List Char} {host : IpAddress} :
    ofChars? family text = some host ↔ host.family = family ∧ host.chars = text := by
  cases family <;> cases host <;>
    simp [ofChars?, IpAddress.family, IpAddress.chars, Ip4.ofChars?_eq_some_iff,
      Ip6.ofChars?_eq_some_iff]

end IpAddress

end PeerLink
