import Mathlib
import FilterTemplate.Proofs.Except
import FilterTemplate.Template.Run

/-!
# The steps of a run

The stages of a chain are what its first filters make of a value, first one of them, then two and so
on (`Chain.run_take`). So the last of them is what the chain makes of it, and without stages that is
the value itself (`Chain.run_eq_stages`). What a template gives is made up of the results of its
steps (`Template.run_eq_trace`). Both fail where the stages or the steps do, and with the same
error.
-/

namespace FilterTemplate

variable {special : SpecialCases}

namespace Chain

theorem stages_cons (filter : Located Filter) (rest : Chain) (value : Text) :
    stages special (filter :: rest) value = (filter.value.apply special value).bind fun result =>
      (stages special rest result).map (result :: ·) := by
  rw [stages]
  rcases filter.value.apply special value with error | result
  · rfl
  · change (stages special rest result).bind _ = (stages special rest result).map _
    rcases stages special rest result with error | results <;> rfl

/-- A chain gives the last of its stages. -/
theorem run_eq_stages : ∀ (filters : Chain) (value : Text), run special filters value
    = (stages special filters value).map fun results => results.getLastD value
  | [], _ => rfl
  | filter :: rest, value => by
    rw [stages_cons, run]
    rcases filter.value.apply special value with error | result
    · rfl
    · change run special rest result = ((stages special rest result).map _).map _
      rw [run_eq_stages rest result, Except.map_map_eq]
      simp only [List.getLastD_cons]

/-- Each stage is what the filters up to there make of the value. -/
theorem run_take : ∀ {filters : Chain} {value : Text} {results : List Text},
    stages special filters value = .ok results → results.length = filters.length
      ∧ ∀ n result, (value :: results)[n]? = some result →
        run special (filters.take n) value = .ok result
  | [], value, results, h => by
    obtain rfl := Except.ok.inj h
    refine ⟨rfl, fun n result hn => ?_⟩
    cases n <;> cases hn
    rfl
  | filter :: rest, value, results, h => by
    rw [stages_cons] at h
    obtain ⟨first, hfirst, h⟩ := Except.bind_eq_ok_iff.1 h
    obtain ⟨others, hothers, rfl⟩ := Except.map_eq_ok_iff.1 h
    obtain ⟨hlength, hrun⟩ := run_take hothers
    refine ⟨congrArg Nat.succ hlength, fun n result hn => ?_⟩
    cases n with
    | zero => cases hn; rfl
    | succ n =>
      rw [List.take_succ_cons, run, hfirst]
      exact hrun n result hn

end Chain

/-- What a step adds to the result. -/
def Step.result : Step → Text
  | .literal text => text
  | .chain _ result => result

theorem Segment.run_eq_step (value : Text) (segment : Segment) :
    segment.run special value = (segment.step special value).map Step.result := by
  cases segment with
  | literal text => rfl
  | chain filters =>
    rw [Segment.run, Segment.step, Chain.run_eq_stages]
    rcases Chain.stages special filters value with error | results <;> rfl

/-- The last stage of a step is its result. -/
theorem Segment.result_of_step {segment : Segment} {value result : Text} {stages : List Text}
    (h : segment.step special value = .ok (.chain stages result)) :
    stages.getLastD value = result := by
  cases segment with
  | literal text => cases h
  | chain filters =>
    rw [Segment.step, Chain.run_eq_stages] at h
    generalize Chain.stages special filters value = outcome at h
    rcases outcome with error | results <;> cases h
    rfl

theorem runSegments_eq_steps (value : Text) : ∀ segments : List (Located Segment),
    runSegments special segments value
      = (segments.mapM fun segment : Located Segment => segment.value.step special value).map
        fun steps => steps.flatMap Step.result
  | [] => rfl
  | segment :: rest => by
    rw [runSegments, Segment.run_eq_step, runSegments_eq_steps value rest, List.mapM_cons]
    rcases segment.value.step special value with error | step
    · rfl
    · rcases List.mapM _ rest with error | steps <;> rfl

/-- What a template gives is what its steps add, in order. -/
theorem Template.run_eq_trace (template : Template) (value : Text) :
    template.run special value
      = (template.trace special value).map fun steps => steps.flatMap Step.result :=
  runSegments_eq_steps value template.segments

end FilterTemplate
