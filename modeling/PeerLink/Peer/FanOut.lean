/-!
# Dialing many peers

A list of addresses is dialed in order, at most a given number of them at once, until all dials
have ended or a deadline is reached. Time is counted in milliseconds. A dial that ends at the very
instant of the deadline has still ended. At each instant the dials that end are handled before
another one starts, so that a dial that takes no time never runs beside one that starts after it.
-/

namespace PeerLink

/-- A dial of `ι` that comes to an `α`. -/
structure Dial (ι α : Type) where
  /-- Who is dialed. -/
  target : ι
  /-- How long the dial takes; `none` if it never ends. -/
  duration : Option Nat
  /-- What the dial comes to. -/
  outcome : α

/-- A dial that has started. -/
structure RunningDial (ι α : Type) where
  /-- The dial. -/
  dial : Dial ι α
  /-- When the dial ends, if it ever does. -/
  ending : Option Nat

/-- Takes the dial that ends first from the running ones; the one that started first, if several end
at the same instant. -/
def takeFirstEnding {ι α : Type} :
    List (RunningDial ι α) → Option (Nat × Dial ι α × List (RunningDial ι α))
  | [] => none
  | running :: rest =>
    match running.ending, takeFirstEnding rest with
    | none, none => none
    | none, some (time, dial, others) => some (time, dial, running :: others)
    | some time, none => some (time, running.dial, rest)
    | some time, some (time', dial, others) =>
      if time ≤ time' then some (time, running.dial, rest)
      else some (time', dial, running :: others)

/-- Taking a running dial leaves one less. -/
theorem length_of_takeFirstEnding {ι α : Type} {all others : List (RunningDial ι α)} {time : Nat}
    {dial : Dial ι α} (h : takeFirstEnding all = some (time, dial, others)) :
    others.length + 1 = all.length := by
  induction all generalizing time dial others with
  | nil => simp [takeFirstEnding] at h
  | cons running rest ih =>
    unfold takeFirstEnding at h
    split at h
    · simp at h
    · rename_i heq
      have := ih heq
      simp only [Option.some.injEq, Prod.mk.injEq] at h
      simp [← h.2.2, this]
    · simp only [Option.some.injEq, Prod.mk.injEq] at h
      simp [← h.2.2]
    · rename_i heq
      have := ih heq
      split at h <;> simp only [Option.some.injEq, Prod.mk.injEq] at h <;> simp [← h.2.2, this]

/-- How far the dialing of a list has come. -/
structure FanOut (ι α : Type) where
  /-- The time since the first dial. -/
  now : Nat
  /-- The dials that have not started, in order. -/
  waiting : List (Dial ι α)
  /-- The dials that have started and not ended, in the order in which they started. -/
  running : List (RunningDial ι α)
  /-- The dials that have ended, the latest first. -/
  ended : List (Dial ι α)
  /-- Who was dialed, the latest first. -/
  started : List ι
  /-- The most dials that ran at once. -/
  mostAtOnce : Nat

namespace FanOut

variable {ι α : Type}

/-- The dialing of a list, before it begins. -/
def new (dials : List (Dial ι α)) : FanOut ι α where
  now := 0
  waiting := dials
  running := []
  ended := []
  started := []
  mostAtOnce := 0

/-- The dialing after a dial has started. -/
def start (dial : Dial ι α) (waiting : List (Dial ι α)) (dialing : FanOut ι α) : FanOut ι α :=
  { dialing with
    waiting
    running := dialing.running ++ [⟨dial, dial.duration.map (dialing.now + ·)⟩]
    started := dial.target :: dialing.started
    mostAtOnce := max dialing.mostAtOnce (dialing.running.length + 1) }

/-- The dialing after a dial has ended. -/
def finish (time : Nat) (dial : Dial ι α) (running : List (RunningDial ι α))
    (dialing : FanOut ι α) : FanOut ι α :=
  { dialing with now := time, running, ended := dial :: dialing.ended }

/-- What happens next, if anything does before the deadline: a dial that is due ends; else the next
one starts if fewer than `limit` run; else the one that ends first does so. -/
def step (limit deadline : Nat) (dialing : FanOut ι α) : Option (FanOut ι α) :=
  match takeFirstEnding dialing.running, dialing.waiting with
  | none, [] => none
  | none, dial :: waiting =>
    if dialing.running.length < limit then some (dialing.start dial waiting) else none
  | some (time, dial, running), [] =>
    if time ≤ deadline then some (dialing.finish time dial running) else none
  | some (time, ending, running), dial :: waiting =>
    -- What is due at this instant comes before the next start.
    if time ≤ dialing.now then some (dialing.finish time ending running)
    else if dialing.running.length < limit then some (dialing.start dial waiting)
    else if time ≤ deadline then some (dialing.finish time ending running)
    else none

/-- The number of steps that may still follow: each dial starts and ends. -/
def remaining (dialing : FanOut ι α) : Nat :=
  2 * dialing.waiting.length + dialing.running.length

/-- A step leaves fewer steps. -/
theorem remaining_step_lt {limit deadline : Nat} {dialing next : FanOut ι α}
    (h : dialing.step limit deadline = some next) : next.remaining < dialing.remaining := by
  -- A start turns two steps into one, and an end turns one into none.
  have remaining_start (dial : Dial ι α) (waiting : List (Dial ι α))
      (hw : dialing.waiting = dial :: waiting) :
      (dialing.start dial waiting).remaining < dialing.remaining := by
    simp only [remaining, start, hw, List.length_append, List.length_cons, List.length_nil]
    omega
  have remaining_finish (time : Nat) (dial : Dial ι α) (running : List (RunningDial ι α))
      (ht : takeFirstEnding dialing.running = some (time, dial, running)) :
      (dialing.finish time dial running).remaining < dialing.remaining := by
    have := length_of_takeFirstEnding ht
    simp only [remaining, finish]
    omega
  unfold step at h
  split at h
  · simp at h
  · rename_i hw
    split at h
    · exact Option.some.inj h ▸ remaining_start _ _ hw
    · simp at h
  · rename_i ht _
    split at h
    · exact Option.some.inj h ▸ remaining_finish _ _ _ ht
    · simp at h
  · rename_i ht hw
    split at h
    · exact Option.some.inj h ▸ remaining_finish _ _ _ ht
    · split at h
      · exact Option.some.inj h ▸ remaining_start _ _ hw
      · split at h
        · exact Option.some.inj h ▸ remaining_finish _ _ _ ht
        · simp at h

/-- Dials until all dials have ended or the deadline is reached: the loop of `dial_all`. -/
def run (limit deadline : Nat) (dialing : FanOut ι α) : FanOut ι α :=
  match h : dialing.step limit deadline with
  | none => dialing
  | some next =>
    have := remaining_step_lt h
    next.run limit deadline
termination_by dialing.remaining

/-- What came of the dials that have ended, in the order in which they did. -/
def outcomes (dialing : FanOut ι α) : List (ι × α) :=
  dialing.ended.reverse.map fun dial => (dial.target, dial.outcome)

end FanOut

end PeerLink
