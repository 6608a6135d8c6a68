import Mathlib
import FilterTemplate.Proofs.Evaluation
import FilterTemplate.Session

/-!
# What sessions keep to

A command that fails changes nothing (`Session.step_of_error`), so a run goes in the same way
without the commands that fail in it (`Session.run_succeeding`). Each template that a session keeps
was compiled (`Session.Compiled`), and so in a run from an empty session templates fail only as
compiled ones do (`Session.Compiled.of_mem_run`). What is kept under a name stays there until a
template with that name is compiled (`Session.find_afterAll`).
-/

namespace FilterTemplate

namespace Session

variable {session after : Session} {command : Command} {answer : Answer} {mishap : Mishap}

/-! ## One command -/

theorem find_eq_ok_iff {name : Text} {template : Template} :
    session.find name = .ok template ↔ session.templates.lookup name = some template := by
  rw [find]
  rcases session.templates.lookup name with _ | other <;> simp

/-- What a command does that succeeds. -/
theorem execute_cases (h : session.execute command = .ok (answer, after)) :
    (∃ value, command = .setValue value ∧ answer = .done ∧ after = { session with value })
    ∨ (∃ name settings text d template, command = .compile name settings text
      ∧ Delimiters.ofSettings settings = .ok d ∧ d.compile text = .ok template
      ∧ answer = .compiled template.segments.length template.filterCount
      ∧ after = { session with templates := (name, template) :: session.templates })
    ∨ (∃ name template value, command = .apply name ∧ session.find name = .ok template
      ∧ template.run .standard session.value = .ok value
      ∧ answer = .text value ∧ after = { session with value })
    ∨ (∃ name template values results, command = .applyAll name values
      ∧ session.find name = .ok template ∧ template.runAll .standard values = .ok results
      ∧ answer = .texts results ∧ after = session)
    ∨ ∃ name template, command = .explain name ∧ session.find name = .ok template
      ∧ answer = .explanation template.explain ∧ after = session := by
  cases command with
  | setValue value =>
    cases h
    exact .inl ⟨value, rfl, rfl, rfl⟩
  | compile name settings text =>
    obtain ⟨d, hd, h⟩ := Except.bind_eq_ok_iff.1 h
    obtain ⟨template, ht, h⟩ := Except.bind_eq_ok_iff.1 h
    cases h
    exact .inr (.inl ⟨name, settings, text, d, template, rfl, Except.mapError_eq_ok_iff.1 hd,
      Except.mapError_eq_ok_iff.1 ht, rfl, rfl⟩)
  | apply name =>
    obtain ⟨template, ht, h⟩ := Except.bind_eq_ok_iff.1 h
    obtain ⟨value, hv, h⟩ := Except.bind_eq_ok_iff.1 h
    cases h
    exact .inr (.inr (.inl ⟨name, template, value, rfl, ht, Except.mapError_eq_ok_iff.1 hv, rfl,
      rfl⟩))
  | applyAll name values =>
    obtain ⟨template, ht, h⟩ := Except.bind_eq_ok_iff.1 h
    obtain ⟨results, hr, h⟩ := Except.bind_eq_ok_iff.1 h
    cases h
    exact .inr (.inr (.inr (.inl ⟨name, template, values, results, rfl, ht,
      Except.mapError_eq_ok_iff.1 hr, rfl, rfl⟩)))
  | explain name =>
    obtain ⟨template, ht, h⟩ := Except.bind_eq_ok_iff.1 h
    cases h
    exact .inr (.inr (.inr (.inr ⟨name, template, rfl, ht, rfl, rfl⟩)))

theorem step_eq_ok_iff :
    session.step command = (.ok answer, after) ↔ session.execute command = .ok (answer, after) := by
  rw [step]
  rcases session.execute command with error | ⟨reply, behind⟩ <;> simp

theorem step_fst_eq_error_iff :
    (session.step command).1 = .error mishap ↔ session.execute command = .error mishap := by
  rw [step]
  rcases session.execute command with error | ⟨reply, behind⟩ <;> simp

/-- A command that fails changes nothing. -/
theorem step_of_error (h : (session.step command).1 = .error mishap) :
    session.step command = (.error mishap, session) := by
  rw [step, step_fst_eq_error_iff.1 h]

/-- The templates that are kept stay, and the only one that is added is one that was compiled. -/
theorem templates_step (session : Session) (command : Command) :
    (session.step command).2.templates = session.templates
    ∨ ∃ name settings text, ∃ d : Delimiters, ∃ template, command = .compile name settings text
      ∧ d.compile text = .ok template
      ∧ (session.step command).2.templates = (name, template) :: session.templates := by
  rcases hs : session.step command with ⟨mishap | answer, after⟩
  · left
    rw [step_of_error (congrArg Prod.fst hs)] at hs
    cases hs
    rfl
  · rcases execute_cases (step_eq_ok_iff.1 hs) with ⟨value, -, -, rfl⟩ |
      ⟨name, settings, text, d, template, hc, -, ht, -, rfl⟩ | ⟨-, -, value, -, -, -, -, rfl⟩ |
      ⟨-, -, -, -, -, -, -, -, rfl⟩ | ⟨-, -, -, -, -, rfl⟩
    · exact .inl rfl
    · exact .inr ⟨name, settings, text, d, template, hc, ht, rfl⟩
    · exact .inl rfl
    · exact .inl rfl
    · exact .inl rfl

/-- A command finds the same template as before under a name, unless it compiles one with it. -/
theorem find_step {name : Text} (h : ∀ settings text, command ≠ .compile name settings text) :
    (session.step command).2.find name = session.find name := by
  unfold find
  rcases templates_step session command with ht | ⟨other, settings, text, d, template, hc, -, ht⟩
  · rw [ht]
  · have hne : (name == other) = false := by
      rw [beq_eq_false_iff_ne]
      rintro rfl
      exact h settings text hc
    rw [ht, List.lookup_cons, hne]

/-- Whether each template that is kept was compiled from a text. -/
def Compiled (session : Session) : Prop :=
  ∀ kept ∈ session.templates, ∃ d : Delimiters, ∃ text, d.compile text = .ok kept.2

theorem compiled_empty : Compiled {} := fun _ h => absurd h List.not_mem_nil

theorem Compiled.step (h : session.Compiled) (command : Command) :
    (session.step command).2.Compiled := by
  intro kept hkept
  rcases templates_step session command with ht | ⟨name, -, text, d, template, -, hc, ht⟩ <;>
    rw [ht] at hkept
  · exact h kept hkept
  · rcases List.mem_cons.1 hkept with rfl | hkept
    · exact ⟨d, text, hc⟩
    · exact h kept hkept

/-- A template that is found was compiled. -/
theorem Compiled.exists_compile (h : session.Compiled) {name : Text} {template : Template}
    (hf : session.find name = .ok template) :
    ∃ d : Delimiters, ∃ text, d.compile text = .ok template := by
  obtain ⟨before, behind, hmem, -⟩ := List.lookup_eq_some_iff.1 (find_eq_ok_iff.1 hf)
  refine h (name, template) ?_
  rw [hmem]
  simp

/-- What a session keeps fails on a value only as compiled templates do. -/
theorem Compiled.run_eq_error (h : session.Compiled) {name : Text} {template : Template}
    (hf : session.find name = .ok template) {special : SpecialCases} {value : Text}
    {error : ApplyError} (he : template.run special value = .error error) :
    (∃ limit, error = .overlong limit) ∨ ∃ hitch, error = .noText hitch := by
  obtain ⟨d, text, hc⟩ := h.exists_compile hf
  obtain ⟨filter, -, ⟨limit, -, hl⟩ | ⟨-, hitch⟩⟩ := d.run_eq_error_of_compile hc he
  · exact .inl ⟨limit, hl⟩
  · exact .inr hitch

theorem exists_run_eq_error {template : Template} {special : SpecialCases} {error : ApplyError} :
    ∀ {values : List Text}, template.runAll special values = .error error →
      ∃ value ∈ values, template.run special value = .error error
  | [], h => by cases h
  | value :: rest, h => by
    rcases Except.bind_eq_error_iff.1 h with h | ⟨result, -, h⟩
    · exact ⟨value, List.mem_cons_self, h⟩
    · rcases Except.bind_eq_error_iff.1 h with h | ⟨results, -, h⟩
      · obtain ⟨v, hv, he⟩ := exists_run_eq_error h
        exact ⟨v, List.mem_cons_of_mem _ hv, he⟩
      · cases h

theorem Compiled.notApplied (h : session.Compiled) {error : ApplyError}
    (he : session.execute command = .error (.notApplied error)) :
    (∃ limit, error = .overlong limit) ∨ ∃ hitch, error = .noText hitch := by
  have hfind {name : Text} : session.find name ≠ .error (.notApplied error) := by
    rw [find]
    rcases session.templates.lookup name with _ | template <;> simp
  cases command with
  | setValue value => cases he
  | compile name settings text =>
    rcases Except.bind_eq_error_iff.1 he with he | ⟨d, -, he⟩
    · obtain ⟨misfit, -, hm⟩ := Except.mapError_eq_error_iff.1 he
      cases hm
    · rcases Except.bind_eq_error_iff.1 he with he | ⟨template, -, he⟩
      · obtain ⟨failure, -, hf⟩ := Except.mapError_eq_error_iff.1 he
        cases hf
      · cases he
  | apply name =>
    rcases Except.bind_eq_error_iff.1 he with he | ⟨template, hf, he⟩
    · exact absurd he hfind
    · rcases Except.bind_eq_error_iff.1 he with he | ⟨value, -, he⟩
      · obtain ⟨other, ho, hsame⟩ := Except.mapError_eq_error_iff.1 he
        cases hsame
        exact h.run_eq_error hf ho
      · cases he
  | applyAll name values =>
    rcases Except.bind_eq_error_iff.1 he with he | ⟨template, hf, he⟩
    · exact absurd he hfind
    · rcases Except.bind_eq_error_iff.1 he with he | ⟨results, -, he⟩
      · obtain ⟨other, ho, hsame⟩ := Except.mapError_eq_error_iff.1 he
        cases hsame
        obtain ⟨value, -, hv⟩ := exists_run_eq_error ho
        exact h.run_eq_error hf hv
      · cases he
  | explain name =>
    rcases Except.bind_eq_error_iff.1 he with he | ⟨template, -, he⟩
    · exact absurd he hfind
    · cases he

/-! ## Runs -/

/-- The session behind commands that are carried out in order. -/
def afterAll (session : Session) (commands : List Command) : Session :=
  commands.foldl (fun between command => (between.step command).2) session

theorem run_cons (session : Session) (command : Command) (rest : List Command) :
    session.run (command :: rest)
      = session.step command :: (session.step command).2.run rest := rfl

theorem run_append (session : Session) (first rest : List Command) :
    session.run (first ++ rest) = session.run first ++ (session.afterAll first).run rest := by
  induction first generalizing session with
  | nil => rfl
  | cons command first ih =>
    rw [List.cons_append, run_cons, ih, run_cons, List.cons_append]
    rfl

theorem Compiled.afterAll (h : session.Compiled) (commands : List Command) :
    (session.afterAll commands).Compiled := by
  induction commands generalizing session with
  | nil => exact h
  | cons command rest ih => exact ih (h.step command)

/-- What is kept under a name stays there until a template with that name is compiled. -/
theorem find_afterAll {name : Text} {commands : List Command}
    (h : ∀ settings text, .compile name settings text ∉ commands) (session : Session) :
    (session.afterAll commands).find name = session.find name := by
  induction commands generalizing session with
  | nil => rfl
  | cons command rest ih =>
    have hrest settings text : .compile name settings text ∉ rest :=
      fun hm => h settings text (List.mem_cons_of_mem _ hm)
    refine (ih hrest _).trans (find_step fun settings text hc => h settings text ?_)
    rw [hc]
    exact List.mem_cons_self

/-- In a run from a session that keeps only compiled templates, these are all that it ever keeps,
and they fail only where they pad with too many characters or a pattern does not settle. -/
theorem Compiled.of_mem_run (h : session.Compiled) {commands : List Command}
    {outcome : Except Mishap Answer × Session} (ho : outcome ∈ session.run commands) :
    outcome.2.Compiled ∧ ∀ error, outcome.1 = .error (.notApplied error) →
      (∃ limit, error = .overlong limit) ∨ ∃ hitch, error = .noText hitch := by
  induction commands generalizing session with
  | nil => cases ho
  | cons command rest ih =>
    rcases List.mem_cons.1 ho with rfl | ho
    · exact ⟨h.step command, fun error he => h.notApplied (step_fst_eq_error_iff.1 he)⟩
    · exact ih (h.step command) ho

/-- The commands that succeed in a run. -/
def succeeding (session : Session) : List Command → List Command
  | [] => []
  | command :: rest =>
    let (outcome, after) := session.step command
    if outcome.isOk then command :: after.succeeding rest else after.succeeding rest

/-- Without the commands that fail, a run goes as it does with them. -/
theorem run_succeeding (session : Session) (commands : List Command) :
    session.run (session.succeeding commands)
        = (session.run commands).filter fun outcome => outcome.1.isOk := by
  induction commands generalizing session with
  | nil => rfl
  | cons command rest ih =>
    rw [succeeding, run_cons]
    rcases hs : session.step command with ⟨mishap | answer, after⟩
    · have hstays := step_of_error (congrArg Prod.fst hs)
      rw [hs] at hstays
      cases hstays
      exact ih session
    · change session.run (command :: after.succeeding rest) = (.ok answer, after) :: _
      rw [run_cons, hs, ← ih after]

/-- So they do not matter for what comes after it. -/
theorem afterAll_succeeding (session : Session) (commands : List Command) :
    session.afterAll (session.succeeding commands) = session.afterAll commands := by
  induction commands generalizing session with
  | nil => rfl
  | cons command rest ih =>
    rw [succeeding]
    rcases hs : session.step command with ⟨mishap | answer, after⟩
    · have hstays := step_of_error (congrArg Prod.fst hs)
      rw [hs] at hstays
      cases hstays
      refine (ih session).trans ?_
      change _ = (session.step command).2.afterAll rest
      rw [hs]
    · change (session.step command).2.afterAll (after.succeeding rest)
        = (session.step command).2.afterAll rest
      rw [hs]
      exact ih after

end Session

end FilterTemplate
