import FilterTemplate.Regex.CharTest
import FilterTemplate.Regex.Error

/-!
# Patterns as they are matched

A pattern's flags are worked into its parts, so that a node says by itself what it matches. This is
also where a look-behind must turn out to have a fixed width.
-/

namespace FilterTemplate.Regex

/-- A condition on a place of the text. -/
inductive Site
  | textStart
  | lineStart
  | textEnd
  | lineEnd
  /-- The end of the text, or in front of a line feed that ends it. -/
  | lastLineEnd
  | boundary (ascii negated : Bool)
  deriving DecidableEq, Repr

inductive Node
  | empty
  | one (test : CharTest)
  | site (site : Site)
  | seq (first rest : Node)
  | never
  | alt (first rest : Node)
  /-- The repetition of a single character. -/
  | many (greed : Greed) (least : Nat) (most : Option Nat) (test : CharTest)
  | loop (greed : Greed) (least : Nat) (most : Option Nat) (body : Node)
  | capture (group : Nat) (body : Node)
  | atomic (body : Node)
  | ahead (positive : Bool) (body : Node)
  | behind (positive : Bool) (width : Nat) (body : Node)
  | same (fold : Fold) (group : Nat)
  | ifCaptured (group : Nat) (yes no : Node)
  deriving DecidableEq, Repr

/-- How characters are compared under the flags. -/
def Flags.fold (flags : Flags) : Fold :=
  if !flags.ignoreCase then .exact else if flags.ascii then .ascii else .unicode

/-- The condition that an anchor stands for under the flags. -/
def Anchor.site (flags : Flags) : Anchor → Site
  | .caret => if flags.multiLine then .lineStart else .textStart
  | .dollar => if flags.multiLine then .lineEnd else .lastLineEnd
  | .textStart => .textStart
  | .textEnd => .textEnd
  | .wordBoundary => .boundary flags.ascii false
  | .noWordBoundary => .boundary flags.ascii true

/-- The name of a repetition in the message that refuses it. -/
def Greed.operator : Greed → Text
  | .greedy => "MAX_REPEAT".toList
  | .lazy => "MIN_REPEAT".toList
  | .possessive => "POSSESSIVE_REPEAT".toList

/-- What an expression matches under the flags. -/
def Expr.resolve (flags : Flags) : Expr → Except Error Node
  | .empty => return .empty
  | .char negated c => return .one (.ofChar flags.fold negated c)
  | .any => return .one (if flags.dotAll then .any else .anyInLine)
  | .set negated members => return .one (.ofSet flags.fold flags.ascii negated members)
  | .anchor kind => return .site (kind.site flags)
  | .reference number _ => return .same flags.fold number
  | .seq first rest => return .seq (← first.resolve flags) (← rest.resolve flags)
  | .never => return .never
  | .alt first rest => return .alt (← first.resolve flags) (← rest.resolve flags)
  | .loop greed least most body =>
    if flags.template then .error (.repetitionInTemplate greed.operator)
    else do
      match ← body.resolve flags with
      | .one test => return .many greed least most test
      | body => return .loop greed least most body
  | .group index added removed body => do
    let body ← body.resolve (flags.inGroup added removed)
    match index with
    | some number => return .capture number body
    | none => return body
  | .atomic body => return .atomic (← body.resolve flags)
  | .look false positive body => return .ahead positive (← body.resolve flags)
  | .look true positive body =>
    if body.width.least = body.width.most then
      return .behind positive body.width.least (← body.resolve flags)
    else .error .variableWidthBehind
  | .conditional number yes no =>
    return .ifCaptured number (← yes.resolve flags) (← no.resolve flags)

/-- The direct test that a node starts with, where `next` is that of what follows it. -/
def Node.lead (next : Option CharTest) : Node → Option CharTest
  | .empty => next
  | .one test => if test.isDirect then some test else none
  | .seq first rest => first.lead (rest.lead next)
  | _ => none

/-! ## Where a match can start -/

/-- Whether the member keeps the start of a match from being compared as it is. -/
def Member.folds (fold : Fold) : Member → Bool
  | .char c => fold.cased c
  | member => member.cased fold

namespace Expr

/-- Whether the expression starts with a character that is compared as it is; `none` where it takes
no character, and what follows it decides. -/
def startsLiteral? (flags : Flags) : Expr → Option Bool
  | .empty => none
  | .char negated c => some (!negated && !flags.fold.cased c)
  | .seq first rest => (first.startsLiteral? flags).or (rest.startsLiteral? flags)
  | .group _ added removed body => body.startsLiteral? (flags.inGroup added removed)
  | _ => some false

/-- The first item of a sequence. -/
def firstItem : Expr → Expr
  | .seq first _ => first
  | item => item

/-- The characters that the alternatives start with, if each starts with one that is compared as it
is. -/
def armStarts? (flags : Flags) : Expr → Option (List Member)
  | .alt arm rest =>
    match arm.firstItem with
    | .char false c =>
      if flags.fold.cased c then none else (rest.armStarts? flags).map (.char c :: ·)
    | _ => none
  | _ => some []

/-- The set that a match has to start in, if the expression starts with one: seen through groups,
and read with the flags of the whole pattern, except that case is not ignored in it. A set with a
member that has a case under the flags of its place gives none. -/
def startSet? (whole : Flags) (flags : Flags) : Expr → Option CharTest
  | .set negated members =>
    if members.any (·.folds flags.fold) then none
    else some (.set .exact whole.ascii negated members)
  | .alt arm rest => ((alt arm rest).armStarts? flags).map (.set .exact whole.ascii false ·)
  | .seq first _ => first.startSet? whole flags
  | .group _ added removed body => body.startSet? whole (flags.inGroup added removed)
  | _ => none

end Expr

/-- What is known of the character that a match starts with. -/
inductive Lead
  | unknown
  | literal
  | set (test : CharTest)
  deriving DecidableEq, Repr

/-- What is known of the start of a match of the expression. -/
def Expr.lead (flags : Flags) (e : Expr) : Lead :=
  if e.width.least = 0 then .unknown
  else if e.startsLiteral? flags = some true then .literal
  else match e.startSet? flags flags with
    | some test => .set test
    | none => .unknown

end FilterTemplate.Regex
