/-!
# Patterns as they are written

The expression that a pattern stands for, before its flags are applied. Characters are code points,
so that an escape can name one that no text holds. A sequence is a chain of `seq`; `Expr.items` and
`Expr.ofItems` pass between a sequence and the list of its items. A list of alternatives is a chain
of `alt` that ends with `never`.

The width of an expression is how many characters it takes, at least and at most. A number past
`Width.limit` counts as the limit, and the lower bound stays below it: what has no upper bound never
has a fixed width.
-/

namespace FilterTemplate.Regex

/-- How many characters an expression takes. -/
structure Width where
  least : Nat
  most : Nat
  deriving DecidableEq, Repr

namespace Width

def limit : Nat := 4294967295

def capped (least most : Nat) : Width := ⟨min least (limit - 1), min most limit⟩

def none : Width := ⟨0, 0⟩

def one : Width := ⟨1, 1⟩

/-- The width of no alternative at all, which changes no other one. -/
def never : Width := ⟨limit - 1, 0⟩

def add (a b : Width) : Width := capped (a.least + b.least) (a.most + b.most)

/-- Either of two widths. -/
def either (a b : Width) : Width := ⟨min a.least b.least, max a.most b.most⟩

/-- The width of a repetition; without an upper bound it is as wide as the limit allows. -/
def times (a : Width) (least : Nat) (most : Option Nat) : Width :=
  capped (a.least * least) (a.most * most.getD limit)

end Width

/-- The kinds of characters with a letter of their own. -/
inductive Category
  | digit | space | word
  deriving DecidableEq, Repr

/-- What a set of characters is made of. -/
inductive Member
  | char (c : Nat)
  | range (first last : Nat)
  | category (category : Category) (negated : Bool)
  deriving DecidableEq, Repr

/-- A condition on a place between two characters. -/
inductive Anchor
  | caret | dollar | textStart | textEnd | wordBoundary | noWordBoundary
  deriving DecidableEq, Repr

/-- Which number of repetitions is tried first, and whether others are tried after it. -/
inductive Greed
  | greedy | lazy | possessive
  deriving DecidableEq, Repr

/-- The flags that a pattern switches on or off. -/
structure Flags where
  ignoreCase : Bool := false
  multiLine : Bool := false
  dotAll : Bool := false
  verbose : Bool := false
  ascii : Bool := false
  unicode : Bool := false
  template : Bool := false
  deriving DecidableEq, Repr

namespace Flags

def none : Flags := {}

def union (a b : Flags) : Flags where
  ignoreCase := a.ignoreCase || b.ignoreCase
  multiLine := a.multiLine || b.multiLine
  dotAll := a.dotAll || b.dotAll
  verbose := a.verbose || b.verbose
  ascii := a.ascii || b.ascii
  unicode := a.unicode || b.unicode
  template := a.template || b.template

def without (a b : Flags) : Flags where
  ignoreCase := a.ignoreCase && !b.ignoreCase
  multiLine := a.multiLine && !b.multiLine
  dotAll := a.dotAll && !b.dotAll
  verbose := a.verbose && !b.verbose
  ascii := a.ascii && !b.ascii
  unicode := a.unicode && !b.unicode
  template := a.template && !b.template

/-- Whether a flag is in both. -/
def meet (a b : Flags) : Bool := a.without b != a

/-- The flags inside a group. The two flags that choose the alphabet exclude each other, so a group
that names one of them drops what held outside. -/
def inGroup (outer added removed : Flags) : Flags :=
  let kept :=
    if added.ascii || added.unicode then { outer with ascii := false, unicode := false } else outer
  (kept.union added).without removed

end Flags

inductive Expr
  | empty
  | char (negated : Bool) (c : Nat)
  | any
  | set (negated : Bool) (members : List Member)
  | anchor (anchor : Anchor)
  | reference (group : Nat) (width : Width)
  | seq (first rest : Expr)
  | never
  | alt (first rest : Expr)
  | loop (greed : Greed) (least : Nat) (most : Option Nat) (body : Expr)
  | group (index : Option Nat) (added removed : Flags) (body : Expr)
  | atomic (body : Expr)
  | look (behind positive : Bool) (body : Expr)
  | conditional (group : Nat) (yes no : Expr)
  deriving DecidableEq, Repr

namespace Expr

def width : Expr → Width
  | .empty | .anchor _ | .look _ _ _ => .none
  | .char _ _ | .any | .set _ _ => .one
  | .reference _ width => width
  | .seq first rest => first.width.add rest.width
  | .never => .never
  | .alt first rest => first.width.either rest.width
  | .loop _ least most body => body.width.times least most
  | .group _ _ _ body | .atomic body => body.width
  | .conditional _ yes no => yes.width.either no.width

/-- The items of a sequence. -/
def items : Expr → List Expr
  | .empty => []
  | .seq first rest => first :: rest.items
  | item => [item]

/-- The sequence of the items. -/
def ofItems : List Expr → Expr
  | [] => .empty
  | [item] => item
  | item :: rest => .seq item (ofItems rest)

/-- A group that only groups. -/
def isPlainGroup : Expr → Bool
  | .group none added removed _ => added = .none && removed = .none
  | _ => false

/-- What a group that only groups holds. -/
def ungrouped : Expr → Expr
  | .group none added removed body =>
    if added = .none ∧ removed = .none then body else .group none added removed body
  | e => e

/-- The items with those of the groups that only group in their place. -/
def spliced (items : List Expr) : List Expr :=
  items.flatMap fun item => if item.isPlainGroup then item.ungrouped.items else [item]

/-- Whether the expression is one item without parts, so that two of them can be compared. -/
def isLeaf : Expr → Bool
  | .char _ _ | .any | .set _ _ | .anchor _ | .reference _ _ => true
  | _ => false

/-- The leaves that all alternatives start with, and what remains of the alternatives. -/
def commonStart : List Expr → List (List Expr) → List Expr × List (List Expr)
  | [], others => ([], [] :: others)
  | item :: rest, others =>
    if item.isLeaf && others.all (·.head? == some item) then
      let (shared, remaining) := commonStart rest (others.map List.tail)
      (item :: shared, remaining)
    else ([], (item :: rest) :: others)

/-- The members of an alternative that takes one character out of a set. -/
def members? : List Expr → Option (List Member)
  | [.char false c] => some [.char c]
  | [.set false members] => some members
  | _ => none

def alternatives : List Expr → Expr
  | [] => .never
  | first :: rest => .alt first (alternatives rest)

/-- The items that a list of alternatives comes to. What all of them start with is moved in front,
and if each of the others is one character out of a set, they are one set. -/
def joined : List (List Expr) → List Expr
  | [] => []
  | [only] => only
  | first :: others =>
    let (shared, remaining) := commonStart first others
    match remaining.mapM members? with
    | some members => shared ++ [.set false members.flatten.eraseDups]
    | none => shared ++ [alternatives (remaining.map ofItems)]

end Expr

end FilterTemplate.Regex
