import FilterTemplate.Template.Explain
import FilterTemplate.Template.Run

/-!
# Sessions

A session keeps templates by name and a current value that templates are applied to. A command that
fails changes nothing.
-/

namespace FilterTemplate

structure Session where
  templates : List (Text × Template) := []
  value : Text := []

inductive Command
  | setValue (value : Text)
  | compile (name : Text) (settings : Delimiters.Settings) (text : Text)
  | apply (name : Text)
  | applyAll (name : Text) (values : List Text)
  | explain (name : Text)

/-- What a command answers. -/
inductive Answer
  | done
  | compiled (segments filters : Nat)
  | text (text : Text)
  | texts (texts : List Text)
  | explanation (parts : List (Text × Text))

/-- Why a command fails. -/
inductive Mishap
  | noTemplate (name : Text)
  | misfit (misfit : Delimiters.Misfit)
  | unreadable (failure : Failure)
  | notApplied (error : ApplyError)

namespace Session

def find (session : Session) (name : Text) : Except Mishap Template :=
  match session.templates.lookup name with
  | none => .error (.noTemplate name)
  | some template => .ok template

/-- Carries out a command. -/
def execute (session : Session) : Command → Except Mishap (Answer × Session)
  | .setValue value => .ok (.done, { session with value })
  | .compile name settings text => do
    let delimiters ← (Delimiters.ofSettings settings).mapError .misfit
    let template ← (delimiters.compile text).mapError .unreadable
    .ok (.compiled template.segments.length template.filterCount,
      { session with templates := (name, template) :: session.templates })
  | .apply name => do
    let template ← session.find name
    let value ← (template.run .standard session.value).mapError .notApplied
    .ok (.text value, { session with value })
  | .applyAll name values => do
    let template ← session.find name
    let results ← (template.runAll .standard values).mapError .notApplied
    .ok (.texts results, session)
  | .explain name => do
    let template ← session.find name
    .ok (.explanation template.explain, session)

/-- Carries out a command; after one that fails the session is what it was. -/
def step (session : Session) (command : Command) : Except Mishap Answer × Session :=
  match session.execute command with
  | .error mishap => (.error mishap, session)
  | .ok (answer, after) => (.ok answer, after)

/-- Carries out commands in order: what each of them answers, and the session behind it. -/
def run (session : Session) : List Command → List (Except Mishap Answer × Session)
  | [] => []
  | command :: rest =>
    let (outcome, after) := session.step command
    (outcome, after) :: after.run rest

end Session

end FilterTemplate
