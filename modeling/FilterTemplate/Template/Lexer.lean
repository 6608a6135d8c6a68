import FilterTemplate.Delimiters
import FilterTemplate.Fault

/-!
# Literal text and filter chains

A template is read as a list of lexemes: characters of literal text, where a doubled opening or
closing delimiter is one such character, and filter chains, whose text is left as it is. Inside a
chain the escape takes the next character with it, whatever that is. Neighbouring characters then
make up one literal.

A lexeme determines how it is written, so the spans of the tokens follow from their order.
-/

namespace FilterTemplate

/-- What a template is made of, before its neighbouring characters are put together. -/
inductive Lexeme
  | char (c : Char)
  | chain (body : Text)
  deriving DecidableEq, Repr

/-- A piece of a template with its span. -/
structure Located (α : Type) where
  value : α
  start : Nat
  stop : Nat
  deriving DecidableEq, Repr

inductive Token
  | literal (text : Text)
  | chain (body : Text)
  deriving DecidableEq, Repr

namespace Delimiters

variable (d : Delimiters)

def danglingEscape (i : Nat) : Fault := ⟨.danglingEscape, [d.escape], i, i + 1⟩

def nestedChain (i : Nat) : Fault := ⟨.nestedChain, [d.opening], i, i + 1⟩

def unmatchedOpening (i : Nat) : Fault := ⟨.unmatched d.opening, [d.opening], i, i + 1⟩

def unmatchedClosing (i : Nat) : Fault := ⟨.unmatched d.closing, [d.closing], i, i + 1⟩

mutual

/-- The lexemes of a text that stands at position `i`, outside of any chain. -/
def lexemes : Text → Nat → Except Fault (List Lexeme)
  | [], _ => .ok []
  | c :: rest, i =>
    if d.bounds c then
      match rest with
      | [] => .error (if c = d.opening then d.unmatchedOpening i else d.unmatchedClosing i)
      | next :: behind =>
        if next = c then (lexemes behind (i + 2)).map (.char c :: ·)
        else if c = d.opening then
          (chainLexemes i (next :: behind) (i + 1)).map fun (body, found) => .chain body :: found
        else .error (d.unmatchedClosing i)
    else (lexemes rest (i + 1)).map (.char c :: ·)

/-- The rest of the chain that was opened at position `opened`, and the lexemes behind it, of a text
that stands at position `i`. -/
def chainLexemes (opened : Nat) : Text → Nat → Except Fault (Text × List Lexeme)
  | [], _ => .error (d.unmatchedOpening opened)
  | c :: rest, i =>
    if c = d.escape then
      match rest with
      | [] => .error (d.danglingEscape i)
      | next :: behind =>
        (chainLexemes opened behind (i + 2)).map fun (body, found) => (c :: next :: body, found)
    else if c = d.closing then (lexemes rest (i + 1)).map fun found => ([], found)
    else if c = d.opening then .error (d.nestedChain i)
    else (chainLexemes opened rest (i + 1)).map fun (body, found) => (c :: body, found)

end

/-- How a lexeme is written. -/
def write : Lexeme → Text
  | .char c => if d.bounds c then [c, c] else [c]
  | .chain body => d.opening :: body ++ [d.closing]

/-- The tokens that the lexemes make up from position `i` on. -/
def tokens : Nat → List Lexeme → List (Located Token)
  | _, [] => []
  | i, lexeme :: rest =>
    let stop := i + (d.write lexeme).length
    match lexeme, tokens stop rest with
    | .char c, ⟨.literal text, _, behind⟩ :: others => ⟨.literal (c :: text), i, behind⟩ :: others
    | .char c, others => ⟨.literal [c], i, stop⟩ :: others
    | .chain body, others => ⟨.chain body, i, stop⟩ :: others

/-- Splits a template into literals and chains. -/
def split (text : Text) : Except Fault (List (Located Token)) :=
  (d.lexemes text 0).map (d.tokens 0)

end Delimiters

end FilterTemplate
