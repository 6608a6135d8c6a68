import FilterTemplate.Text.Basic

/-!
# Paths

A path is a root, which a relative path lacks, and components. Components that are empty or a single
dot say nothing and are left out, a double dot stays. Two slashes in front are a root of their own;
one slash, or more than two, are the plain root.
-/

namespace FilterTemplate

namespace Path

inductive Root
  | none | single | double
  deriving DecidableEq, Repr

def Root.text : Root → Text
  | .none => []
  | .single => ['/']
  | .double => ['/', '/']

/-- The root that a text starts with. -/
def Root.ofText : Text → Root
  | '/' :: '/' :: '/' :: _ => .single
  | '/' :: '/' :: _ => .double
  | '/' :: _ => .single
  | _ => .none

end Path

structure Path where
  root : Path.Root
  components : List Text
  deriving DecidableEq, Repr

namespace Path

/-- Whether a component says something. -/
def counts (component : Text) : Bool := !component.isEmpty && component != ['.']

def ofText (text : Text) : Path :=
  ⟨Root.ofText text, (Text.fields '/' text).filter counts⟩

/-- The path in its one spelling; a path without root and components is a dot. -/
def text (path : Path) : Text :=
  if path.root = .none ∧ path.components = [] then ['.']
  else path.root.text ++ Text.joinWith ['/'] path.components

/-- The path without its last component. -/
def parent (path : Path) : Path := { path with components := path.components.dropLast }

/-- The last component. -/
def name (path : Path) : Text := path.components.getLastD []

/-- A name as its stem and its suffix. The suffix starts with the last dot, if that is neither the
first nor the last character of the name. -/
def splitName (name : Text) : Text × Text :=
  let behind := name.reverse.takeWhile (· ≠ '.')
  let stem := name.length - behind.length - 1
  if behind.length = name.length ∨ behind = [] ∨ stem = 0 then (name, [])
  else (name.take stem, name.drop stem)

def stem (path : Path) : Text := (splitName path.name).1

def suffix (path : Path) : Text := (splitName path.name).2

end Path

/-! ## The parts of a path that a text spells -/

/-- The spelling of the parent, empty for a text without a slash or a path without components. -/
def parentPath (value : Text) : Text :=
  let path := Path.ofText value
  if !value.contains '/' || path.components.isEmpty then [] else path.parent.text

def fileName (value : Text) : Text := (Path.ofText value).name

def baseName (value : Text) : Text := (Path.ofText value).stem

def extension (withDot : Bool) (value : Text) : Text :=
  let suffix := (Path.ofText value).suffix
  if withDot then suffix else suffix.drop 1

end FilterTemplate
