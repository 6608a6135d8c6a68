/-!
# The filters at a glance
-/

namespace FilterTemplate

/-- How each filter is written, and what it does. -/
def filterReference : List (String × String) :=
  [("#A-B", "Substring from index A to index B (1-based, negative counts from the end)."),
   ("#A+L", "Substring from index A of length L."),
   ("#A-", "Substring from index A to the end."),
   ("#A", "Character at index A."),
   ("t", "Trim leading/trailing whitespace."),
   ("v", "Transform value to lowercase."),
   ("^", "Transform value to uppercase."),
   ("i", "Transliterate non-ASCII characters to ASCII."),
   ("I", "Remove non-ASCII characters."),
   ("d", "Parent path of the value ('root/dir/file.ext' -> 'root/dir')."),
   ("f", "File name ('file.ext')."),
   ("b", "Base name, the file name without extension ('file')."),
   ("e", "Extension ('ext')."),
   ("E", "Extension with dot ('.ext')."),
   ("<<M", "Left pad with mask M (up to the mask length)."),
   (">>M", "Right pad with mask M (up to the mask length)."),
   ("<N:M", "Left pad with N characters of repeated mask M."),
   (">N:M", "Right pad with N characters of repeated mask M."),
   ("r:X:Y", "Replace first occurrence of X with Y (any delimiter)."),
   ("R:X:Y", "Replace all occurrences of X with Y (any delimiter)."),
   ("?D", "Replace empty value with D."),
   ("=E", "First match of regular expression E."),
   ("s:E:Y", "Replace first match of regular expression E with Y."),
   ("S:E:Y", "Replace all matches of regular expression E with Y.")]

end FilterTemplate
