import FilterTemplate.Filter.Describe
import FilterTemplate.Template.Basic

/-!
# Explaining templates

An explanation goes through the source of a template and says of each part what it stands for: a
literal, an empty chain, or one filter.
-/

namespace FilterTemplate

/-- The parts of a segment: the fragments of the source with what they stand for. -/
def Segment.explain (source : Text) (segment : Located Segment) : List (Text × Text) :=
  let fragment := Text.slice source segment.start segment.stop
  match segment.value with
  | .literal text => [(fragment, "Constant ".toList ++ between text)]
  | .chain [] => [(fragment, "Input value".toList)]
  | .chain filters =>
    filters.map fun filter =>
      (Text.slice source filter.start filter.stop, filter.value.describe)

def Template.explain (template : Template) : List (Text × Text) :=
  template.segments.flatMap (Segment.explain template.source)

end FilterTemplate
