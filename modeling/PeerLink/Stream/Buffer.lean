import PeerLink.Bytes

/-!
# Buffers

A queue of octets: they are appended at one end and taken from the other. The octets appended last
are kept in reverse order, so that both ends are reached in time. The view of a buffer is the list
of its octets, `toBytes`.
-/

namespace PeerLink

/-- A queue of octets. -/
structure Buffer where
  /-- The octets that are taken first. -/
  front : Bytes
  /-- The octets behind them, in reverse order. -/
  back : Bytes
  /-- The number of octets. -/
  size : Nat
  /-- The number of octets is the one of both parts. -/
  size_eq : size = front.length + back.length

namespace Buffer

/-- The octets of a buffer. -/
def toBytes (buffer : Buffer) : Bytes :=
  if buffer.back.isEmpty then buffer.front else buffer.front ++ buffer.back.reverse

/-- The buffer of given octets. -/
def ofBytes (bytes : Bytes) : Buffer :=
  ⟨bytes, [], bytes.length, by simp⟩

/-- The buffer without octets. -/
def empty : Buffer := ofBytes []

/-- Whether there are no octets. -/
def isEmpty (buffer : Buffer) : Bool :=
  buffer.size == 0

/-- Appends octets. -/
def append (buffer : Buffer) (bytes : Bytes) : Buffer :=
  if buffer.isEmpty then ofBytes bytes
  else
    ⟨buffer.front, bytes.reverseAux buffer.back, buffer.size + bytes.length, by
      have := buffer.size_eq
      simp only [List.reverseAux_eq, List.length_append, List.length_reverse]
      omega⟩

/-- Puts octets in front of all others. -/
def prepend (buffer : Buffer) (bytes : Bytes) : Buffer :=
  ⟨bytes ++ buffer.front, buffer.back, bytes.length + buffer.size, by
    have := buffer.size_eq
    simp only [List.length_append]
    omega⟩

/-- The first `n` octets, or all of them if there are fewer. -/
def take (buffer : Buffer) (n : Nat) : Bytes :=
  let taken := buffer.front.take n
  if buffer.back.isEmpty then taken
  else if taken.length = n then taken
  else buffer.toBytes.take n

/-- The buffer without its first `n` octets. -/
def drop (buffer : Buffer) (n : Nat) : Buffer :=
  if buffer.size ≤ n then empty
  else if h : n ≤ (buffer.front.take n).length then
    ⟨buffer.front.drop n, buffer.back, buffer.size - n, by
      have := buffer.size_eq
      simp only [List.length_take, List.length_drop] at *
      omega⟩
  else ofBytes (buffer.toBytes.drop n)

/-- The view is the first part followed by the second one the right way round. -/
theorem toBytes_eq (buffer : Buffer) : buffer.toBytes = buffer.front ++ buffer.back.reverse := by
  unfold toBytes
  split <;> simp_all

/-- The number of octets is the length of the view. -/
theorem size_eq_length (buffer : Buffer) : buffer.size = buffer.toBytes.length := by
  simp [toBytes_eq, buffer.size_eq]

/-- A buffer without octets has an empty view. -/
theorem toBytes_eq_nil {buffer : Buffer} (h : buffer.isEmpty = true) : buffer.toBytes = [] := by
  have := buffer.size_eq_length
  simp only [isEmpty, beq_iff_eq] at h
  exact List.length_eq_zero_iff.mp (by omega)

/-- The view of the buffer of given octets. -/
@[simp]
theorem toBytes_ofBytes (bytes : Bytes) : (ofBytes bytes).toBytes = bytes := by
  simp [toBytes_eq, ofBytes]

/-- The view of the buffer without octets. -/
@[simp]
theorem toBytes_empty : empty.toBytes = [] := by
  simp [empty]

/-- Appending appends to the view. -/
@[simp]
theorem toBytes_append (buffer : Buffer) (bytes : Bytes) :
    (buffer.append bytes).toBytes = buffer.toBytes ++ bytes := by
  unfold append
  split
  · rename_i h
    simp [toBytes_eq_nil h]
  · simp [toBytes_eq, List.reverseAux_eq]

/-- Prepending prepends to the view. -/
@[simp]
theorem toBytes_prepend (buffer : Buffer) (bytes : Bytes) :
    (buffer.prepend bytes).toBytes = bytes ++ buffer.toBytes := by
  simp [toBytes_eq, prepend]

/-- Taking takes from the view. -/
@[simp]
theorem take_eq (buffer : Buffer) (n : Nat) : buffer.take n = buffer.toBytes.take n := by
  unfold take
  rw [toBytes_eq]
  dsimp only
  split
  · simp_all
  · split
    · rename_i h
      rw [List.take_append_of_le_length]
      rw [List.length_take] at h
      omega
    · rfl

/-- Dropping drops from the view. -/
@[simp]
theorem toBytes_drop (buffer : Buffer) (n : Nat) :
    (buffer.drop n).toBytes = buffer.toBytes.drop n := by
  unfold drop
  split
  · rename_i h
    rw [size_eq_length] at h
    simp [List.drop_eq_nil_of_le h]
  · split
    · rename_i h
      simp only [List.length_take] at h
      simp only [toBytes_eq]
      rw [List.drop_append_of_le_length (by omega)]
    · simp

/-- Dropping takes as many octets as it is asked for, or all. -/
@[simp]
theorem size_drop (buffer : Buffer) (n : Nat) : (buffer.drop n).size = buffer.size - n := by
  simp [size_eq_length]

end Buffer

end PeerLink
