import FilterTemplate.Filter.Apply
import FilterTemplate.Template.Basic

/-!
# Applying templates

Every chain starts from the value that the template is applied to, and each of its filters works on
what the one before it gave. The result is the text of all segments in order.
-/

namespace FilterTemplate

/-- What the filters of a chain make of a value, one after the other. -/
def Chain.stages (special : SpecialCases) : Chain → Text → Except ApplyError (List Text)
  | [], _ => .ok []
  | filter :: rest, value => do
    let result ← filter.value.apply special value
    let results ← Chain.stages special rest result
    .ok (result :: results)

/-- What a chain makes of a value. -/
def Chain.run (special : SpecialCases) : Chain → Text → Except ApplyError Text
  | [], value => .ok value
  | filter :: rest, value => do
    let result ← filter.value.apply special value
    Chain.run special rest result

/-- The text that a segment gives for a value. -/
def Segment.run (special : SpecialCases) : Segment → Text → Except ApplyError Text
  | .literal text, _ => .ok text
  | .chain filters, value => Chain.run special filters value

def runSegments (special : SpecialCases) :
    List (Located Segment) → Text → Except ApplyError Text
  | [], _ => .ok []
  | segment :: rest, value => do
    let text ← segment.value.run special value
    let behind ← runSegments special rest value
    .ok (text ++ behind)

namespace Template

def run (special : SpecialCases) (template : Template) (value : Text) :
    Except ApplyError Text :=
  runSegments special template.segments value

/-- The results for several values. -/
def runAll (special : SpecialCases) (template : Template) :
    List Text → Except ApplyError (List Text)
  | [] => .ok []
  | value :: rest => do
    let result ← template.run special value
    let results ← template.runAll special rest
    .ok (result :: results)

end Template

/-- What happens at a segment when a template is applied. -/
inductive Step
  | literal (text : Text)
  | chain (stages : List Text) (result : Text)
  deriving DecidableEq, Repr

def Segment.step (special : SpecialCases) (value : Text) : Segment → Except ApplyError Step
  | .literal text => .ok (.literal text)
  | .chain filters => do
    let stages ← Chain.stages special filters value
    let result ← Chain.run special filters value
    .ok (.chain stages result)

/-- The steps of applying a template to a value. -/
def Template.trace (special : SpecialCases) (template : Template) (value : Text) :
    Except ApplyError (List Step) :=
  template.segments.mapM (·.value.step special value)

end FilterTemplate
