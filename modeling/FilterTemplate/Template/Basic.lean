import FilterTemplate.Filter.Read
import FilterTemplate.Template.Piece

/-!
# Templates

A template is a list of segments with the spans that they have in its source: literal text, and
chains of filters. Reading it goes in two steps. First the whole text is split into literals and
chains, so a fault of that kind comes before any other; then the filters are read in the order of
the source, and the first one that cannot be read is reported.
-/

namespace FilterTemplate

/-- Filters that are applied one after the other. -/
abbrev Chain := List (Located Filter)

inductive Segment
  | literal (text : Text)
  | chain (filters : Chain)
  deriving DecidableEq, Repr

structure Template where
  source : Text
  segments : List (Located Segment)
  deriving DecidableEq, Repr

/-- The inside of a chain that stands alone. The span of the chain is that of the delimiters that
would be around the text, so it starts in front of its first position. -/
structure LoneChain where
  filters : Chain
  start : Int
  stop : Int
  deriving DecidableEq, Repr

namespace Segment

/-- The filters of a segment, none for a literal. -/
def filters : Segment → Chain
  | .literal _ => []
  | .chain filters => filters

def isChain : Segment → Bool
  | .literal _ => false
  | .chain _ => true

end Segment

namespace Template

/-- How many chains there are. -/
def chainCount (template : Template) : Nat := template.segments.countP (·.value.isChain)

/-- How many filters the chains have together. -/
def filterCount (template : Template) : Nat :=
  (template.segments.flatMap (·.value.filters)).length

end Template

/-- A misreading of a piece, with its place. -/
def Piece.failure (piece : Piece) : Misreading → Failure
  | .slip cause first last => .fault (piece.fault cause first last)
  | .refused refusal => .refused refusal

/-- The filter that a piece spells. -/
def Piece.read (piece : Piece) : Except Failure (Located Filter) :=
  match Filter.read piece.text with
  | .error misreading => .error (piece.failure misreading)
  | .ok filter => .ok ⟨filter, piece.start, piece.stop⟩

/-- The filters that the pieces spell. -/
def readPieces : List Piece → Except Failure Chain
  | [] => .ok []
  | piece :: rest => do
    let filter ← piece.read
    let filters ← readPieces rest
    .ok (filter :: filters)

namespace Delimiters

variable (d : Delimiters)

/-- The filters of a chain whose text stands at position `i`. An empty text has none. -/
def readChain (body : Text) (i : Nat) : Except Failure Chain :=
  if body = [] then .ok []
  else
    match d.pieces body i with
    | .error fault => .error (.fault fault)
    | .ok (piece, more) => readPieces (piece :: more)

/-- The segment that a token spells. -/
def readToken : Located Token → Except Failure (Located Segment)
  | ⟨.literal text, start, stop⟩ => .ok ⟨.literal text, start, stop⟩
  | ⟨.chain body, start, stop⟩ =>
    (d.readChain body (start + 1)).map fun filters => ⟨.chain filters, start, stop⟩

def readTokens : List (Located Token) → Except Failure (List (Located Segment))
  | [] => .ok []
  | token :: rest => do
    let segment ← d.readToken token
    let segments ← readTokens rest
    .ok (segment :: segments)

/-- Reads the inside of a chain. -/
def readLoneChain (text : Text) : Except Failure LoneChain :=
  (d.readChain text 0).map fun filters => ⟨filters, -1, text.length + 1⟩

/-- Reads a template. -/
def compile (text : Text) : Except Failure Template :=
  match d.split text with
  | .error fault => .error (.fault fault)
  | .ok tokens => (d.readTokens tokens).map fun segments => ⟨text, segments⟩

end Delimiters

end FilterTemplate
