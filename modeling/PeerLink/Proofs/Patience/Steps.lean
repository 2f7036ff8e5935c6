import PeerLink.Stream.Pipe

/-!
# Patience

Something that reads a stream takes steps until it has to wait, and takes the same step once more
when more octets have arrived. It is *patient* if it does not matter to its steps whether the octets
were there before (`Patient`). Then it does not matter to its runs: one that is interrupted by a
wait comes to what a single one comes to (`Patient.resumed`).
-/

namespace PeerLink

/-- What a step comes to. -/
inductive Progress (σ : Type) where
  /-- There is another step to take. -/
  | goes (state : σ)
  /-- There is nothing more to do before octets arrive. -/
  | rests (state : σ)

variable {σ : Type}

/-- Two steps come to the same, up to a relation of the states behind them. -/
inductive Progress.Matches (R : σ → σ → Prop) : Progress σ → Progress σ → Prop
  /-- Both go on. -/
  | goes {state state' : σ} (related : R state state') : Matches R (.goes state) (.goes state')
  /-- Both rest. -/
  | rests {state state' : σ} (related : R state state') : Matches R (.rests state) (.rests state')

section

variable {R : σ → σ → Prop} {state : σ} {progress : Progress σ}

/-- What matches going on goes on. -/
theorem Progress.exists_of_goes (same : Matches R (.goes state) progress) :
    ∃ state', progress = .goes state' ∧ R state state' := by
  cases same with
  | goes related => exact ⟨_, rfl, related⟩

/-- What matches resting rests. -/
theorem Progress.exists_of_rests (same : Matches R (.rests state) progress) :
    ∃ state', progress = .rests state' ∧ R state state' := by
  cases same with
  | rests related => exact ⟨_, rfl, related⟩

end

/-- A run of steps leads from a state to one that rests. -/
inductive Runs (step : σ → Progress σ) : σ → σ → Prop
  /-- There is nothing to do. -/
  | rests {state state' : σ} (rests : step state = .rests state') : Runs step state state'
  /-- There is a step to take, and the run goes on behind it. -/
  | goes {state state' state'' : σ} (goes : step state = .goes state')
      (runs : Runs step state' state'') : Runs step state state''

/-- A state has one run. -/
theorem Runs.unique {step : σ → Progress σ} {state rest rest' : σ} (runs : Runs step state rest)
    (runs' : Runs step state rest') : rest' = rest := by
  induction runs with
  | rests rests =>
    cases runs' with
    | rests rests' => exact Progress.rests.inj (rests'.symm.trans rests)
    | goes goes' => cases rests.symm.trans goes'
  | goes goes runs ih =>
    cases runs' with
    | rests rests' => cases goes.symm.trans rests'
    | goes goes' runs' =>
      cases goes.symm.trans goes'
      exact ih runs'

/-- It does not matter to the steps of a reader when octets arrive. `Later more verge verge'` says
of two states that the second one has the octets `more` behind the ones of the first one; behind all
octets the first one finds `verge`, and the second one `verge'`. -/
structure Patient (Later : Bytes → ReadResult → ReadResult → σ → σ → Prop)
    (step : σ → Progress σ) : Prop where
  /-- A step that does not have to wait is the same if there are more octets. -/
  ready {more : Bytes} {verge verge' : ReadResult} {state state' : σ}
    (later : Later more verge verge' state state')
    (ready : (∀ rest, step state ≠ .rests rest) ∨ more = [] ∧ verge = verge') :
    (step state).Matches (Later more verge verge') (step state')
  /-- A step that has waited is the one that has had all octets from the beginning. -/
  again {more : Bytes} {verge' : ReadResult} {state state' rest rest' : σ}
    (later : Later more .wait verge' state state') (rests : step state = .rests rest)
    (later' : Later more .wait verge' rest rest') :
    (step rest').Matches (Later [] verge' verge') (step state')

namespace Patient

variable {Later : Bytes → ReadResult → ReadResult → σ → σ → Prop} {step : σ → Progress σ}
  {more : Bytes} {verge verge' : ReadResult} {state state' rest rest' final : σ}

/-- Two states with the same octets before them have the same run. -/
theorem alike (patient : Patient Later step) (later : Later [] verge verge state state')
    (runs : Runs step state rest) :
    ∃ rest', Runs step state' rest' ∧ Later [] verge verge rest rest' := by
  induction runs generalizing state' with
  | rests rests =>
    have same := patient.ready later (.inr ⟨rfl, rfl⟩)
    rw [rests] at same
    obtain ⟨rest', rests', later'⟩ := Progress.exists_of_rests same
    exact ⟨rest', .rests rests', later'⟩
  | goes goes runs ih =>
    have same := patient.ready later (.inr ⟨rfl, rfl⟩)
    rw [goes] at same
    obtain ⟨next', goes', later'⟩ := Progress.exists_of_goes same
    obtain ⟨rest', runs', later''⟩ := ih later'
    exact ⟨rest', .goes goes' runs', later''⟩

/-- A run that has waited goes on as the run that has had all octets from the beginning. -/
theorem resumed (patient : Patient Later step) (later : Later more .wait verge' state state')
    (runs : Runs step state rest) (later' : Later more .wait verge' rest rest')
    (resumes : Runs step rest' final) :
    ∃ final', Runs step state' final' ∧ Later [] verge' verge' final final' := by
  induction runs generalizing state' with
  | rests rests =>
    -- From here on both have the same octets before them.
    have same := patient.again later rests later'
    cases resumes with
    | rests rests' =>
      rw [rests'] at same
      obtain ⟨final', rests'', later''⟩ := Progress.exists_of_rests same
      exact ⟨final', .rests rests'', later''⟩
    | goes goes' resumes =>
      rw [goes'] at same
      obtain ⟨next', goes'', later''⟩ := Progress.exists_of_goes same
      obtain ⟨final', runs', alike⟩ := patient.alike later'' resumes
      exact ⟨final', .goes goes'' runs', alike⟩
  | goes goes runs ih =>
    have same := patient.ready later (.inl (by simp [goes]))
    rw [goes] at same
    obtain ⟨next', goes', later''⟩ := Progress.exists_of_goes same
    obtain ⟨final', runs', alike⟩ := ih later'' later'
    exact ⟨final', .goes goes' runs', alike⟩

end Patient

end PeerLink
