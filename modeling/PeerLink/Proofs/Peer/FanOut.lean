import Mathlib.Algebra.BigOperators.Group.List.Basic
import Mathlib.Algebra.GroupWithZero.Nat
import Mathlib.Data.List.Basic
import PeerLink.Peer.FanOut

/-!
# What becomes of every dial

A dialing of a list starts its dials in the order of the list, and loses none: each of them waits,
runs or has ended, as often as it is in the list. Both are kept by every step (`dials_step`,
`targets_step`) and so by a whole run. When nothing waits or runs any more (`Over`), the dials that
have ended are the ones of the list in some order. This is so whenever the deadline is not shorter
than all dials one after the other (`over_run`).

What a deadline cuts off is said by `Timely`: the dials that have ended did so in time, and each
that still runs would end too late. Nothing is cut off exactly if every dial ends and the last of
them does so in time, `span` being the instant when it does (`over_iff`).
-/

namespace PeerLink

variable {ι α : Type}

/-- How long a dial takes that ends. -/
def Dial.time (dial : Dial ι α) : Nat :=
  dial.duration.getD 0

/-- The dial that ends first is one of the running ones, and the others go on. -/
theorem perm_of_takeFirstEnding {all others : List (RunningDial ι α)} {time : Nat}
    {dial : Dial ι α} (h : takeFirstEnding all = some (time, dial, others)) :
    all.Perm (⟨dial, some time⟩ :: others) := by
  have self {running : RunningDial ι α} {time : Nat} (ending : running.ending = some time) :
      running = ⟨running.dial, some time⟩ := by
    rw [← ending]
  induction all generalizing time dial others with
  | nil => simp [takeFirstEnding] at h
  | cons running rest ih =>
    unfold takeFirstEnding at h
    split at h
    · simp at h
    · rename_i found
      simp only [Option.some.injEq, Prod.mk.injEq] at h
      obtain ⟨rfl, rfl, rfl⟩ := h
      exact ((ih found).cons running).trans (.swap _ _ _)
    · rename_i ending _
      simp only [Option.some.injEq, Prod.mk.injEq] at h
      obtain ⟨rfl, rfl, rfl⟩ := h
      rw [← self ending]
    · rename_i ending found
      split at h
      · simp only [Option.some.injEq, Prod.mk.injEq] at h
        obtain ⟨rfl, rfl, rfl⟩ := h
        rw [← self ending]
      · simp only [Option.some.injEq, Prod.mk.injEq] at h
        obtain ⟨rfl, rfl, rfl⟩ := h
        exact ((ih found).cons running).trans (.swap _ _ _)

/-- If no dial ends first, then none of the running ones ever ends. -/
theorem ending_eq_none_of_takeFirstEnding {all : List (RunningDial ι α)}
    (h : takeFirstEnding all = none) : ∀ running ∈ all, running.ending = none := by
  induction all with
  | nil => simp
  | cons running rest ih =>
    unfold takeFirstEnding at h
    split at h
    · rename_i ending none_found
      rintro running' (_ | ⟨_, mem⟩)
      · exact ending
      · exact ih none_found running' mem
    · simp at h
    · simp at h
    · split at h <;> simp at h

/-- No running dial ends before the one that ends first. -/
theorem le_of_takeFirstEnding {all others : List (RunningDial ι α)} {time : Nat} {dial : Dial ι α}
    (h : takeFirstEnding all = some (time, dial, others)) :
    ∀ running ∈ all, ∀ time', running.ending = some time' → time ≤ time' := by
  induction all generalizing time dial others with
  | nil => simp [takeFirstEnding] at h
  | cons first rest ih =>
    rintro running mem time' ends
    -- Either the first dial or the one that ends soonest behind it is taken.
    unfold takeFirstEnding at h
    split at h
    · simp at h
    · rename_i never found
      simp only [Option.some.injEq, Prod.mk.injEq] at h
      obtain ⟨rfl, -, -⟩ := h
      rcases List.mem_cons.1 mem with rfl | later
      · rw [never] at ends
        cases ends
      · exact ih found running later time' ends
    · rename_i ending none_found
      simp only [Option.some.injEq, Prod.mk.injEq] at h
      obtain ⟨rfl, -, -⟩ := h
      rcases List.mem_cons.1 mem with rfl | later
      · exact Nat.le_of_eq (Option.some.inj (ending.symm.trans ends))
      · rw [ending_eq_none_of_takeFirstEnding none_found running later] at ends
        cases ends
    · rename_i soonest _ _ _ ending found
      have own (same : running = first) : soonest = time' :=
        Option.some.inj (ending.symm.trans (same ▸ ends))
      split at h
      all_goals
        rename_i order
        simp only [Option.some.injEq, Prod.mk.injEq] at h
        obtain ⟨rfl, -, -⟩ := h
        rcases List.mem_cons.1 mem with same | later
      · exact Nat.le_of_eq (own same)
      · exact Nat.le_trans order (ih found running later time' ends)
      · exact own same ▸ Nat.le_of_lt (Nat.not_le.1 order)
      · exact ih found running later time' ends

namespace FanOut

variable {limit deadline : Nat} {dialing next : FanOut ι α}

/-- All dials, the ones that have ended in front. -/
def dials (dialing : FanOut ι α) : List (Dial ι α) :=
  dialing.ended ++ (dialing.running.map RunningDial.dial ++ dialing.waiting)

/-- Who was dialed and then who will be, in this order. -/
def targets (dialing : FanOut ι α) : List ι :=
  dialing.started.reverse ++ dialing.waiting.map Dial.target

/-- Every dial has started and ended. -/
structure Over (dialing : FanOut ι α) : Prop where
  /-- No dial waits. -/
  waiting : dialing.waiting = []
  /-- No dial runs. -/
  running : dialing.running = []

/-! ## A step -/

/-- A step starts the first dial that waits if there is a place for it, or ends a running one in
time. -/
theorem step_cases (h : dialing.step limit deadline = some next) :
    (∃ dial waiting, dialing.waiting = dial :: waiting ∧ dialing.running.length < limit ∧
        next = dialing.start dial waiting) ∨
      ∃ time dial running, takeFirstEnding dialing.running = some (time, dial, running) ∧
        (time ≤ dialing.now ∨ time ≤ deadline) ∧ next = dialing.finish time dial running := by
  -- A step is a start, or the end of the dial that ends first.
  unfold step at h
  split at h
  · simp at h
  · rename_i waiting
    split at h
    · rename_i place
      exact .inl ⟨_, _, waiting, place, (Option.some.inj h).symm⟩
    · simp at h
  · rename_i first _
    split at h
    · rename_i in_time
      exact .inr ⟨_, _, _, first, .inr in_time, (Option.some.inj h).symm⟩
    · simp at h
  · rename_i first waiting
    split at h
    · rename_i due
      exact .inr ⟨_, _, _, first, .inl due, (Option.some.inj h).symm⟩
    · split at h
      · rename_i place
        exact .inl ⟨_, _, waiting, place, (Option.some.inj h).symm⟩
      · split at h
        · rename_i in_time
          exact .inr ⟨_, _, _, first, .inr in_time, (Option.some.inj h).symm⟩
        · simp at h

/-- When no step follows, a dial waits only for a place, and the dial that ends first does so too
late. -/
theorem stopped_of_step (h : dialing.step limit deadline = none) :
    (dialing.waiting = [] ∨ limit ≤ dialing.running.length) ∧
      ∀ time dial running, takeFirstEnding dialing.running = some (time, dial, running) →
        deadline < time := by
  -- The cases are the ones of a step: whether one of the running dials ends, and whether one waits.
  unfold step at h
  split at h
  · rename_i none_ends waiting
    refine ⟨.inl waiting, fun time dial running first => ?_⟩
    rw [none_ends] at first
    simp at first
  · rename_i none_ends waiting
    split at h
    · simp at h
    · rename_i no_place
      refine ⟨.inr (Nat.not_lt.1 no_place), fun time dial running first => ?_⟩
      rw [none_ends] at first
      simp at first
  · rename_i first waiting
    split at h
    · simp at h
    · rename_i late
      refine ⟨.inl waiting, fun time dial running first' => ?_⟩
      rw [first] at first'
      obtain ⟨rfl, -⟩ := Prod.mk.inj (Option.some.inj first')
      exact Nat.not_le.1 late
  · rename_i first waiting
    split at h
    · simp at h
    · split at h
      · simp at h
      · rename_i no_place
        split at h
        · simp at h
        · rename_i late
          refine ⟨.inr (Nat.not_lt.1 no_place), fun time dial running first' => ?_⟩
          rw [first] at first'
          obtain ⟨rfl, -⟩ := Prod.mk.inj (Option.some.inj first')
          exact Nat.not_le.1 late

/-- A step loses no dial. -/
theorem dials_step (h : dialing.step limit deadline = some next) :
    next.dials.Perm dialing.dials := by
  rcases step_cases h with ⟨dial, waiting, rest, -, rfl⟩ | ⟨time, dial, running, first, -, rfl⟩
  · -- The first dial that waits comes behind the running ones, where it was.
    simp only [dials, start, rest, List.map_append, List.map_cons, List.map_nil,
      List.append_assoc, List.cons_append, List.nil_append]
    exact .refl _
  · have taken := (perm_of_takeFirstEnding first).map RunningDial.dial
    simp only [dials, finish, List.cons_append]
    refine .trans ?_ ((taken.symm.append_right _).append_left _)
    simp only [List.map_cons, List.cons_append]
    exact List.perm_middle.symm

/-- A step keeps the order of the list. -/
theorem targets_step (h : dialing.step limit deadline = some next) :
    next.targets = dialing.targets := by
  rcases step_cases h with ⟨dial, waiting, rest, -, rfl⟩ | ⟨time, dial, running, first, -, rfl⟩
  · simp only [targets, start, rest, List.reverse_cons, List.append_assoc, List.cons_append,
      List.nil_append, List.map_cons]
  · rfl

/-! ## A run -/

/-- A run loses no dial. -/
theorem dials_run (limit deadline : Nat) (dialing : FanOut ι α) :
    (dialing.run limit deadline).dials.Perm dialing.dials := by
  fun_induction run limit deadline dialing with
  | case1 dialing stopped => exact .refl _
  | case2 dialing next step _ ih => exact ih.trans (dials_step step)

/-- A run keeps the order of the list. -/
theorem targets_run (limit deadline : Nat) (dialing : FanOut ι α) :
    (dialing.run limit deadline).targets = dialing.targets := by
  fun_induction run limit deadline dialing with
  | case1 dialing stopped => rfl
  | case2 dialing next step _ ih => rw [ih, targets_step step]

/-- What a run ends with allows no step. -/
theorem step_run (limit deadline : Nat) (dialing : FanOut ι α) :
    (dialing.run limit deadline).step limit deadline = none := by
  fun_induction run limit deadline dialing with
  | case1 dialing stopped => exact stopped
  | case2 dialing next step _ ih => exact ih

section Over

variable {list : List (Dial ι α)} (settled : ((new list).run limit deadline).Over)

include settled

/-- When all is over, the dials that have ended are the ones of the list. -/
theorem Over.ended : ((new list).run limit deadline).ended.Perm list := by
  have perm := dials_run limit deadline (new list)
  rw [dials, settled.running, settled.waiting, List.map_nil, List.append_nil,
    List.append_nil] at perm
  exact perm

/-- When all is over, the targets of the list were dialed in its order. -/
theorem Over.started :
    ((new list).run limit deadline).started.reverse = list.map Dial.target := by
  have same := targets_run limit deadline (new list)
  rw [targets, settled.waiting, List.map_nil, List.append_nil] at same
  exact same

end Over

/-! ## A deadline that is long enough -/

/-- Every dial that runs ends no later than it would if it had waited for all that have ended. -/
structure Prompt (dialing : FanOut ι α) : Prop where
  /-- So does the last one that has ended. -/
  now : dialing.now ≤ (dialing.ended.map Dial.time).sum
  /-- The end of a dial that runs. -/
  running : ∀ running ∈ dialing.running, ∃ time, running.ending = some time ∧
    time ≤ (dialing.ended.map Dial.time).sum + running.dial.time
  /-- The dials that wait end when they run. -/
  waiting : ∀ dial ∈ dialing.waiting, dial.duration = some dial.time

/-- A step keeps the dials prompt. -/
theorem Prompt.step (h : dialing.Prompt) (step : dialing.step limit deadline = some next) :
    next.Prompt := by
  rcases step_cases step with ⟨dial, waiting, rest, -, rfl⟩ | ⟨time, dial, running, first, -, rfl⟩
  · have ends : dial.duration = some dial.time := h.waiting dial (rest ▸ List.mem_cons_self)
    refine ⟨h.now, fun running mem => ?_, fun other mem => ?_⟩
    · rcases List.mem_append.1 mem with mem | mem
      · exact h.running running mem
      · obtain rfl := List.mem_singleton.1 mem
        refine ⟨dialing.now + dial.time, ?_, Nat.add_le_add_right h.now _⟩
        rw [ends]
        rfl
    · exact h.waiting other (rest ▸ List.mem_cons_of_mem _ mem)
  · -- The dial that ends adds its time, and gives that much more of it to the others.
    have taken := perm_of_takeFirstEnding first
    have spent : ((dial :: dialing.ended).map Dial.time).sum =
        (dialing.ended.map Dial.time).sum + dial.time := by
      rw [List.map_cons, List.sum_cons, Nat.add_comm]
    refine ⟨?_, fun other mem => ?_, h.waiting⟩
    · obtain ⟨time', ending, le⟩ := h.running _ (taken.mem_iff.2 List.mem_cons_self)
      obtain rfl := Option.some.inj ending
      exact spent ▸ le
    · obtain ⟨time', ending, le⟩ :=
        h.running other (taken.mem_iff.2 (List.mem_cons_of_mem _ mem))
      refine ⟨time', ending, ?_⟩
      dsimp only [finish]
      omega

/-- A run keeps the dials prompt. -/
theorem Prompt.run (h : dialing.Prompt) : (dialing.run limit deadline).Prompt := by
  fun_induction FanOut.run limit deadline dialing with
  | case1 dialing stopped => exact h
  | case2 dialing next step _ ih => exact ih (h.step step)

/-- If the deadline is not shorter than all dials one after the other, every dial ends in time. -/
theorem over_run {list : List (Dial ι α)} (place : 0 < limit)
    (ends : ∀ dial ∈ list, dial.duration = some dial.time)
    (long : (list.map Dial.time).sum ≤ deadline) : ((new list).run limit deadline).Over := by
  have prompt : ((new list).run limit deadline).Prompt :=
    Prompt.run ⟨Nat.le_refl _, fun running mem => absurd mem (by simp [new]), ends⟩
  obtain ⟨room, late⟩ := stopped_of_step (step_run limit deadline (new list))
  have all : ((new list).run limit deadline).dials.Perm list := dials_run limit deadline (new list)
  generalize (new list).run limit deadline = dialing at prompt room late all ⊢
  -- Nothing runs, since the dial that ends first would still be in time.
  have idle : dialing.running = [] := by
    cases first : takeFirstEnding dialing.running with
    | none =>
      refine List.eq_nil_iff_forall_not_mem.2 fun running mem => ?_
      obtain ⟨time, ending, -⟩ := prompt.running running mem
      rw [ending_eq_none_of_takeFirstEnding first running mem] at ending
      simp at ending
    | some found =>
      obtain ⟨time, dial, others⟩ := found
      have taken := perm_of_takeFirstEnding first
      obtain ⟨time', ending, le⟩ := prompt.running _ (taken.mem_iff.2 List.mem_cons_self)
      obtain rfl := Option.some.inj ending
      have ran := ((taken.map RunningDial.dial).map Dial.time).sum_eq
      rw [List.map_cons, List.map_cons, List.sum_cons] at ran
      dsimp only at le ran
      have total := (all.map Dial.time).sum_eq
      rw [dials, List.map_append, List.map_append, List.sum_append, List.sum_append, ran] at total
      have too_late := late _ _ _ first
      omega
  refine ⟨room.resolve_right fun full => ?_, idle⟩
  rw [idle, List.length_nil] at full
  omega

/-! ## What a deadline cuts off -/

/-- A dialing that has not gone beyond its deadline. -/
structure InTime (deadline : Nat) (dialing : FanOut ι α) : Prop where
  /-- The last dial that has ended did so in time. -/
  now : dialing.now ≤ deadline
  /-- A dial that has ended has a duration, which is over by now. -/
  ended : ∀ dial ∈ dialing.ended, ∃ time ≤ dialing.now, dial.duration = some time
  /-- A dial that runs has begun before now, and ends when its time is over. -/
  began : ∀ running ∈ dialing.running, ∃ began ≤ dialing.now,
    running.ending = running.dial.duration.map (began + ·)
  /-- No dial that runs should have ended before now. -/
  due : ∀ running ∈ dialing.running, ∀ time, running.ending = some time → dialing.now ≤ time

/-- A dialing is in time before it begins. -/
theorem inTime_new (deadline : Nat) (list : List (Dial ι α)) : InTime deadline (new list) where
  now := Nat.zero_le deadline
  ended := by simp [new]
  began := by simp [new]
  due := by simp [new]

/-- A step stays in time, and goes forward in it. -/
theorem InTime.step (h : dialing.InTime deadline) (step : dialing.step limit deadline = some next) :
    next.InTime deadline ∧ dialing.now ≤ next.now := by
  rcases step_cases step with ⟨dial, waiting, -, -, rfl⟩ | ⟨time, dial, running, first, soon, rfl⟩
  · refine ⟨⟨h.now, h.ended, fun running mem => ?_, fun running mem time ends => ?_⟩, Nat.le_refl _⟩
    all_goals rcases List.mem_append.1 mem with mem | mem
    · exact h.began running mem
    · obtain rfl := List.mem_singleton.1 mem
      exact ⟨dialing.now, Nat.le_refl _, rfl⟩
    · exact h.due running mem time ends
    · obtain rfl := List.mem_singleton.1 mem
      obtain ⟨duration, -, rfl⟩ := Option.map_eq_some_iff.1 ends
      exact Nat.le_add_right _ _
  · -- What ends first ends now or later, and everything else ends behind it.
    have taken := perm_of_takeFirstEnding first
    have own := taken.mem_iff.2 List.mem_cons_self
    have forward : dialing.now ≤ time := h.due _ own time rfl
    refine ⟨⟨?_, fun ended mem => ?_, fun running mem => ?_, fun running mem => ?_⟩, forward⟩
    · exact soon.elim (fun due => Nat.le_trans due h.now) id
    · rcases List.mem_cons.1 mem with rfl | earlier
      · obtain ⟨began, -, ends⟩ := h.began _ own
        obtain ⟨duration, takes, same⟩ := Option.map_eq_some_iff.1 ends.symm
        exact ⟨duration, same ▸ Nat.le_add_left _ _, takes⟩
      · obtain ⟨duration, before, takes⟩ := h.ended ended earlier
        exact ⟨duration, Nat.le_trans before forward, takes⟩
    · obtain ⟨began, before, ends⟩ :=
        h.began running (taken.mem_iff.2 (List.mem_cons_of_mem _ mem))
      exact ⟨began, Nat.le_trans before forward, ends⟩
    · exact le_of_takeFirstEnding first running (taken.mem_iff.2 (List.mem_cons_of_mem _ mem))

/-- A run stays in time, and goes forward in it. -/
theorem InTime.run (limit : Nat) (h : dialing.InTime deadline) :
    (dialing.run limit deadline).InTime deadline ∧
      dialing.now ≤ (dialing.run limit deadline).now := by
  fun_induction FanOut.run limit deadline dialing with
  | case1 dialing stopped => exact ⟨h, Nat.le_refl _⟩
  | case2 dialing next step _ ih =>
    obtain ⟨in_time, forward⟩ := h.step step
    obtain ⟨in_time', forward'⟩ := ih in_time
    exact ⟨in_time', Nat.le_trans forward forward'⟩

/-- A step that is in time for a deadline is so for any later one. -/
theorem step_of_le {deadline' : Nat} (le : deadline ≤ deadline')
    (step : dialing.step limit deadline = some next) :
    dialing.step limit deadline' = some next := by
  unfold FanOut.step at step ⊢
  split at step
  · cases step
  · exact step
  · rename_i in_time
    split at step
    · rename_i in_time
      rwa [if_pos (Nat.le_trans in_time le)]
    · cases step
  · split at step
    · rename_i due
      rwa [if_pos due]
    · rename_i later
      rw [if_neg later]
      split at step
      · rename_i place
        rwa [if_pos place]
      · rename_i no_place
        rw [if_neg no_place]
        split at step
        · rename_i in_time
          rwa [if_pos (Nat.le_trans in_time le)]
        · cases step

/-- A run that cannot go on stays where it is. -/
theorem run_of_stopped (stopped : dialing.step limit deadline = none) :
    dialing.run limit deadline = dialing := by
  rw [run]
  split
  · rfl
  · rename_i next step
    rw [stopped] at step
    cases step

/-- A run goes on behind each of its steps. -/
theorem run_of_step (step : dialing.step limit deadline = some next) :
    dialing.run limit deadline = next.run limit deadline := by
  rw [run]
  split
  · rename_i stopped
    rw [stopped] at step
    cases step
  · rename_i next' step'
    obtain rfl := Option.some.inj (step.symm.trans step')
    rfl

/-- With a later deadline a run goes on from where an earlier one has stopped it. -/
theorem run_run {deadline' : Nat} (le : deadline ≤ deadline') (dialing : FanOut ι α) :
    (dialing.run limit deadline).run limit deadline' = dialing.run limit deadline' := by
  fun_induction FanOut.run limit deadline dialing with
  | case1 dialing stopped => rfl
  | case2 dialing next step _ ih => rw [ih, run_of_step (step_of_le le step)]

/-- A dialing that is over cannot go on. -/
theorem Over.step_eq_none (settled : dialing.Over) : dialing.step limit deadline = none := by
  rw [FanOut.step, settled.running, settled.waiting]
  rfl

/-- When the last dial of a list ends if no deadline cuts any of them off. -/
def span (limit : Nat) (list : List (Dial ι α)) : Nat :=
  ((new list).run limit (list.map Dial.time).sum).now

/-- All is over exactly if every dial ends, and the last of them does so in time. -/
theorem over_iff {list : List (Dial ι α)} (place : 0 < limit) :
    ((new list).run limit deadline).Over ↔
      (∀ dial ∈ list, dial.duration = some dial.time) ∧ span limit list ≤ deadline := by
  obtain ⟨in_time, -⟩ := (inTime_new deadline list).run limit
  obtain ⟨in_time', -⟩ := (inTime_new (list.map Dial.time).sum list).run limit
  constructor
  · intro settled
    have ends : ∀ dial ∈ list, dial.duration = some dial.time := by
      intro dial mem
      obtain ⟨duration, -, takes⟩ := in_time.ended dial (settled.ended.mem_iff.2 mem)
      rw [Dial.time, takes]
      rfl
    refine ⟨ends, ?_⟩
    rcases Nat.le_total deadline (list.map Dial.time).sum with le | le
    · rw [span, ← run_run le, run_of_stopped settled.step_eq_none]
      exact in_time.now
    · exact Nat.le_trans in_time'.now le
  · rintro ⟨ends, soon⟩
    rcases Nat.le_total (list.map Dial.time).sum deadline with le | le
    · exact over_run place ends le
    · have settled := over_run place ends (Nat.le_refl _)
      rw [span, ← run_run le] at soon
      rw [← run_run le] at settled
      cases more : ((new list).run limit deadline).step limit (list.map Dial.time).sum with
      | none => rwa [run_of_stopped more] at settled
      | some next =>
        -- Any further step would end a dial too late, and the last one ends no earlier.
        exfalso
        obtain ⟨room, late⟩ := stopped_of_step (step_run limit deadline (new list))
        have in_time_later : ((new list).run limit deadline).InTime (list.map Dial.time).sum :=
          ⟨Nat.le_trans in_time.now le, in_time.ended, in_time.began, in_time.due⟩
        obtain ⟨next_in_time, -⟩ := in_time_later.step more
        have forward := (next_in_time.run limit).2
        rw [run_of_step more] at soon
        rcases step_cases more with ⟨dial, waiting, waits, free, -⟩ | ⟨time, dial, _, first, -, rfl⟩
        · rcases room with none_waits | full
          · rw [waits] at none_waits
            cases none_waits
          · omega
        · exact absurd (late _ _ _ first) (Nat.not_lt.2 (Nat.le_trans forward soon))

/-- What a dialing of a list has come to at its deadline: the dials that have ended are the ones
that did so in time. -/
structure Timely (limit deadline : Nat) (list : List (Dial ι α)) (dialing : FanOut ι α) : Prop where
  /-- A dial that has ended did so in time, and so did each one before it. -/
  in_time : dialing.InTime deadline
  /-- A dial that still runs would end too late, or never. -/
  late : ∀ running ∈ dialing.running, ∀ time, running.ending = some time → deadline < time
  /-- A dial that has not started waits for a place. -/
  full : dialing.waiting = [] ∨ limit ≤ dialing.running.length
  /-- All is over exactly if every dial ends, and the last of them does so in time. -/
  over_iff : dialing.Over ↔
    (∀ dial ∈ list, dial.duration = some dial.time) ∧ span limit list ≤ deadline
  /-- The last of them does so no later than if they were made one after the other. -/
  span_le : (∀ dial ∈ list, dial.duration = some dial.time) →
    span limit list ≤ (list.map Dial.time).sum

/-- A deadline cuts off nothing but the dials that end too late, and the ones that wait for them. -/
theorem timely_run (place : 0 < limit) (deadline : Nat) (list : List (Dial ι α)) :
    Timely limit deadline list ((new list).run limit deadline) := by
  obtain ⟨room, late⟩ := stopped_of_step (step_run limit deadline (new list))
  obtain ⟨in_time, -⟩ := (inTime_new deadline list).run limit
  refine ⟨in_time, fun running mem time ends => ?_, room, over_iff place, fun ends => ?_⟩
  · cases first : takeFirstEnding ((new list).run limit deadline).running with
    | none =>
      rw [ending_eq_none_of_takeFirstEnding first running mem] at ends
      cases ends
    | some found =>
      obtain ⟨time', dial, others⟩ := found
      exact Nat.lt_of_lt_of_le (late _ _ _ first)
        (le_of_takeFirstEnding first running mem time ends)
  · exact ((over_iff place).1 (over_run place ends (Nat.le_refl _))).2

end FanOut

end PeerLink
