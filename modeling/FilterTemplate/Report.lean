import FilterTemplate.Fault

/-!
# Reporting faults

A report shows a message and, under the source, marks below the span that it is about. With colour,
the message is red and the span and its marks are red and bold.
-/

namespace FilterTemplate

/-- A message about a source, with the fragment and the span it concerns where they are known. -/
structure Report where
  message : Text
  fragment : Option Text
  start : Option Int
  stop : Option Int
  deriving DecidableEq, Repr

namespace Style

def escapeCharacter : Char := '\x1b'

/-- The sequence that selects a style by its code. -/
def select (code : Text) : Text := escapeCharacter :: '[' :: code ++ ['m']

def reset : Text := select ['0']

def red (text : Text) : Text := select ['3', '1'] ++ text ++ reset

def redBold (text : Text) : Text := select ['3', '1'] ++ select ['1'] ++ text ++ reset

end Style

/-- The span between two positions, as far as it lies in a source of the given length. -/
def clampSpan (length : Nat) (start stop : Int) : Nat × Nat :=
  let first := min start.toNat length
  (first, max first (min stop.toNat length))

/-- The source, and in the line below it marks under the span, at least one. -/
def highlight (source : Text) (start stop : Int) (color : Bool) : Text :=
  let (first, last) := clampSpan source.length start stop
  let span := Text.slice source first last
  let marks := List.replicate (max 1 span.length) '^'
  source.take first ++ (if color && !span.isEmpty then Style.redBold span else span) ++
    source.drop last ++ ['\n'] ++ List.replicate first ' ' ++
    (if color then Style.redBold marks else marks)

namespace Report

/-- A report on a span; where no end is given, the span ends where it starts. -/
def about (message : Text) (fragment : Option Text) (start stop : Option Int) : Report :=
  ⟨message, fragment, start, stop.or start⟩

def ofFault (fault : Fault) : Report :=
  about fault.cause.message (some fault.fragment) (some fault.start) (some fault.stop)

/-- The message in one line, with the fragment and the position as far as they are known. -/
def line (report : Report) : Text :=
  match report.fragment, report.start with
  | some fragment, some start =>
    report.message ++ "  [at: ".toList ++ fragment ++ " (position ".toList ++
      Numeral.writeInt start ++ ")]".toList
  | some fragment, none => report.message ++ "  [at: ".toList ++ fragment ++ "]".toList
  | none, _ => report.message

/-- The message and, if the position is known, the source with the span marked. -/
def format (report : Report) (source : Text) (color : Bool) : Text :=
  let message := if color then Style.red report.message else report.message
  match report.start with
  | none => message
  | some start =>
    message ++ ['\n', '\n'] ++ highlight source start (report.stop.getD start) color

end Report

end FilterTemplate
