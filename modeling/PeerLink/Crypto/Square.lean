/-!
# Squares of words

The hash of the handshake and its cipher both work on sixteen words in four rows of four. They mix
the words of each column, and then those of each diagonal.
-/

namespace PeerLink

/-- Sixteen words, row by row. -/
abbrev Square (α : Type) := Vector α 16

namespace Square

/-- The four words that each step mixes: the columns, then the diagonals. -/
def lanes : List (Fin 16 × Fin 16 × Fin 16 × Fin 16) :=
  [(0, 4, 8, 12), (1, 5, 9, 13), (2, 6, 10, 14), (3, 7, 11, 15),
    (0, 5, 10, 15), (1, 6, 11, 12), (2, 7, 8, 13), (3, 4, 9, 14)]

/-- The square with other words in a lane. -/
def put {α : Type} (square : Square α) (lane : Fin 16 × Fin 16 × Fin 16 × Fin 16)
    (a b c d : α) : Square α :=
  let (i, j, k, l) := lane
  (((square.set i a).set j b).set k c).set l d

end Square

end PeerLink
