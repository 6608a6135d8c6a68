import FilterTemplate.Unicode.Range

/-!
# White space
-/

namespace FilterTemplate.Unicode

/-- The blanks, the separators of lines and paragraphs, and the controls that separate. -/
def spaces : List Range :=
  [(0x9, 0xd), (0x1c, 0x20), (0x85, 0x85), (0xa0, 0xa0), (0x1680, 0x1680), (0x2000, 0x200a),
   (0x2028, 0x2029), (0x202f, 0x202f), (0x205f, 0x205f), (0x3000, 0x3000)]

def isSpace (c : Nat) : Bool := within spaces c

end FilterTemplate.Unicode
