import FilterTemplate.Text.Basic

/-!
# Padding

A text is filled up by repeating a mask: to the length of the mask, or by a number of characters. On
the left the filling starts with the mask's beginning, on the right it stops with the mask's end.
The mask is repeated as a whole, and neither the number of its copies nor the length of all of them
may be more than an index can hold.
-/

namespace FilterTemplate

inductive Side
  | left | right
  deriving DecidableEq, Repr

/-- The greatest index, with 64 bits and a sign. -/
def maxIndex : Nat := 9223372036854775807

/-- Why a mask cannot be repeated: its copies are too many to be counted, or too long. -/
inductive Overlong
  | count | text
  deriving DecidableEq, Repr

def Overlong.message : Overlong → Text
  | .count => "cannot fit 'int' into an index-sized integer".toList
  | .text => "repeated string is too long".toList

/-- How many copies of the mask have at least `need` characters. -/
def copies (mask : Text) (need : Nat) : Nat := (need + mask.length - 1) / mask.length

/-- The mask, repeated often enough for `need` characters. -/
def repeatedMask (mask : Text) (need : Nat) : Text :=
  (List.replicate (copies mask need) mask).flatten

/-- What stands against repeating the mask often enough for `need` characters. A single copy is the
mask itself, so nothing stands against that. -/
def overlong? (mask : Text) (need : Nat) : Option Overlong :=
  if maxIndex < copies mask need then some .count
  else if 1 < copies mask need ∧ maxIndex < copies mask need * mask.length then some .text
  else none

/-- How many characters are missing, or asked for. -/
def paddingNeed (mask : Text) (count : Option Int) (value : Text) : Int :=
  count.getD (max 0 ((mask.length : Int) - value.length))

def pad (side : Side) (mask : Text) (count : Option Int) (value : Text) : Except Overlong Text :=
  let need := (paddingNeed mask count value).toNat
  if need = 0 ∨ mask = [] then .ok value
  else match overlong? mask need with
    | some overlong => .error overlong
    | none =>
      let filling := repeatedMask mask need
      match side with
      | .left => .ok (filling.take need ++ value)
      | .right => .ok (value ++ filling.drop (filling.length - need))

end FilterTemplate
