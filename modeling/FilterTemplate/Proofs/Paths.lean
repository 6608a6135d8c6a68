import Mathlib
import FilterTemplate.Path

/-!
# Paths and their spellings

The components of a path say something and hold no slash (`Path.Regular`), so the one spelling of a
path reads as that path (`Path.ofText_text`). The parent is the path without its last component.
Its spelling depends on the path alone, with one exception: where a relative path has a single
component, the parent is spelled if the path was written with a slash, and not otherwise
(`parentPath_eq_iff`).
-/

namespace FilterTemplate

namespace Text

/-! ## Fields -/

theorem fields_eq_splitOn (mark : Char) : ∀ text, fields mark text = text.splitOn mark
  | [] => by rw [fields, List.splitOn_nil]
  | c :: rest => by
    rw [fields, List.splitOn_cons_eq_if_modifyHead, fields_eq_splitOn mark rest]
    rcases hs : rest.splitOn mark with _ | ⟨field, others⟩
    · exact absurd hs (List.splitOn_ne_nil mark rest)
    · simp [beq_iff_eq]

theorem joinWith_cons_cons (mark first second : Text) (rest : List Text) :
    joinWith mark (first :: second :: rest) = first ++ mark ++ joinWith mark (second :: rest) := rfl

theorem joinWith_eq_intercalate (mark : Text) : ∀ parts,
    joinWith mark parts = mark.intercalate parts
  | [] => rfl
  | [only] => by rw [joinWith, List.intercalate_singleton]
  | first :: second :: rest => by
    rw [joinWith_cons_cons, List.intercalate_cons_cons,
      joinWith_eq_intercalate mark (second :: rest)]

theorem not_mem_of_mem_fields {mark : Char} : ∀ {text field : Text}, field ∈ fields mark text →
    mark ∉ field
  | [], field, h => by
    rw [List.mem_singleton.1 h]
    exact List.not_mem_nil
  | c :: rest, field, h => by
    have ih {other : Text} (ho : other ∈ fields mark rest) := not_mem_of_mem_fields ho
    rw [fields] at h
    split_ifs at h with hc
    · rcases List.mem_cons.1 h with rfl | h
      · exact List.not_mem_nil
      · exact ih h
    · rcases hf : fields mark rest with _ | ⟨first, others⟩ <;> rw [hf] at h ih
      · rw [List.mem_singleton.1 h, List.mem_singleton]
        exact fun he => hc he.symm
      · rcases List.mem_cons.1 h with rfl | h
        · rw [List.mem_cons, not_or]
          exact ⟨fun he => hc he.symm, ih List.mem_cons_self⟩
        · exact ih (List.mem_cons_of_mem _ h)

/-- A text has the characters of its fields and the marks between them. -/
theorem sum_length_fields (mark : Char) : ∀ text,
    ((fields mark text).map fun field => field.length + 1).sum = text.length + 1
  | [] => rfl
  | c :: rest => by
    have ih := sum_length_fields mark rest
    rw [fields]
    split_ifs with hc
    · rw [List.map_cons, List.sum_cons, ih, List.length_cons, List.length_nil]
      omega
    · rcases hf : fields mark rest with _ | ⟨first, others⟩ <;> rw [hf] at ih
      · simp at ih
      · simp only [List.map_cons, List.sum_cons, List.length_cons] at ih ⊢
        omega

theorem length_joinWith (mark : Char) : ∀ parts,
    (joinWith [mark] parts).length = (parts.map fun part => part.length + 1).sum - 1
  | [] => rfl
  | [only] => by simp [joinWith]
  | first :: second :: rest => by
    have ih := length_joinWith mark (second :: rest)
    rw [joinWith_cons_cons, List.length_append, List.length_append, ih]
    simp only [List.map_cons, List.sum_cons, List.length_cons, List.length_nil]
    omega

end Text

namespace Path

/-! ## The one spelling of a path -/

/-- Whether the components say something and are parted by slashes. -/
def Regular (path : Path) : Prop :=
  ∀ component ∈ path.components, counts component ∧ '/' ∉ component

theorem regular_ofText (text : Text) : (ofText text).Regular := fun component h => by
  obtain ⟨hm, hc⟩ := List.mem_filter.1 h
  exact ⟨hc, Text.not_mem_of_mem_fields hm⟩

theorem counts_iff {component : Text} : counts component ↔ component ≠ [] ∧ component ≠ ['.'] := by
  simp [counts]

theorem Regular.parent {path : Path} (h : path.Regular) : path.parent.Regular :=
  fun component hm => h component (List.mem_of_mem_dropLast hm)

theorem Root.ofText_append (root : Root) {rest : Text} (h : rest.head? ≠ some '/') :
    Root.ofText (root.text ++ rest) = root := by
  rcases rest with _ | ⟨c, rest⟩
  · cases root <;> rfl
  · have hc : c ≠ '/' := by simpa using h
    cases root <;> simp [Root.text, Root.ofText, hc]

/-- The root of a text stands in front of its components. -/
theorem exists_rest (text : Text) : ∃ rest, text = (Root.ofText text).text ++ rest := by
  fun_cases Root.ofText text
  · exact ⟨_, rfl⟩
  · exact ⟨_, rfl⟩
  · exact ⟨_, rfl⟩
  · exact ⟨_, rfl⟩

theorem components_root_append (root : Root) (rest : Text) :
    (ofText (root.text ++ rest)).components = (ofText rest).components := by
  cases root <;> simp [ofText, Root.text, Text.fields, counts]

theorem head?_joinWith_ne : ∀ {components : List Text},
    (∀ component ∈ components, counts component ∧ '/' ∉ component) →
      (Text.joinWith ['/'] components).head? ≠ some '/'
  | [], _ => by simp [Text.joinWith]
  | [] :: rest, h => by simp [counts] at h
  | (c :: first) :: rest, h => by
    have hc : c ≠ '/' := fun he => (h (c :: first) List.mem_cons_self).2 (he ▸ List.mem_cons_self)
    cases rest <;> simpa [Text.joinWith] using hc

theorem components_joinWith {components : List Text}
    (h : ∀ component ∈ components, counts component ∧ '/' ∉ component) :
    (ofText (Text.joinWith ['/'] components)).components = components := by
  rcases eq_or_ne components [] with rfl | hn
  · rfl
  · change (Text.fields '/' _).filter counts = components
    rw [Text.fields_eq_splitOn, Text.joinWith_eq_intercalate,
      List.splitOn_intercalate '/' (fun l hl => (h l hl).2) hn, List.filter_eq_self]
    exact fun component hm => (h component hm).1

/-- The one spelling of a path reads as that path. -/
theorem ofText_text {path : Path} (h : path.Regular) : ofText path.text = path := by
  unfold text
  split_ifs with hd
  · obtain ⟨root, components⟩ := path
    obtain ⟨rfl, rfl⟩ : root = .none ∧ components = [] := hd
    rfl
  · have hroot := Root.ofText_append path.root (head?_joinWith_ne h)
    have hcomponents := (components_root_append path.root _).trans (components_joinWith h)
    rw [ofText] at hcomponents ⊢
    rw [hroot]
    exact congrArg (Path.mk path.root) hcomponents

end Path

/-! ## The spelling of the parent -/

namespace Path

/-- Whether the path is relative and has a single component. -/
def IsLone (path : Path) : Prop := path.root = .none ∧ path.components.length = 1

theorem slash_not_mem_text {path : Path} (h : path.Regular) (hl : path.IsLone) :
    '/' ∉ path.text := by
  obtain ⟨root, components⟩ := path
  obtain ⟨rfl, hc⟩ : root = .none ∧ components.length = 1 := hl
  obtain ⟨component, rfl⟩ := List.length_eq_one_iff.1 hc
  exact (h component List.mem_cons_self).2

theorem parent_text_of_isLone {path : Path} (hl : path.IsLone) : path.parent.text = ['.'] := by
  obtain ⟨root, components⟩ := path
  obtain ⟨rfl, hc⟩ : root = .none ∧ components.length = 1 := hl
  obtain ⟨component, rfl⟩ := List.length_eq_one_iff.1 hc
  rfl

/-- Without a slash there is no root and at most one component. -/
theorem ofText_of_not_mem {text : Text} (h : '/' ∉ text) :
    ofText text = ⟨.none, if counts text then [text] else []⟩ := by
  have hroot : Root.ofText text = .none := by
    rcases text with _ | ⟨c, rest⟩
    · rfl
    · have hc : c ≠ '/' := fun he => h (he ▸ List.mem_cons_self)
      exact Root.ofText_append .none (by simpa using hc : (c :: rest).head? ≠ some '/')
  rw [ofText, hroot, Text.fields_eq_splitOn, List.splitOn_eq_singleton h, List.filter_singleton,
    Bool.cond_eq_ite]

/-- With more than one component, or with a root, a path cannot be written without a slash. -/
theorem slash_mem {text : Text} (h : (ofText text).components ≠ [])
    (hl : ¬(ofText text).IsLone) : '/' ∈ text := by
  by_contra hs
  rw [ofText_of_not_mem hs] at h hl
  split_ifs at h hl
  · exact hl ⟨rfl, rfl⟩
  · exact h rfl

end Path

theorem parentPath_of_isLone {value : Text} (hl : (Path.ofText value).IsLone) :
    parentPath value = if '/' ∈ value then ['.'] else [] := by
  have hc : (Path.ofText value).components.isEmpty = false := by
    rw [List.isEmpty_eq_false_iff, ← List.length_pos_iff, hl.2]
    exact Nat.one_pos
  rw [parentPath, hc, Path.parent_text_of_isLone hl]
  by_cases hs : '/' ∈ value <;> simp [hs]

theorem parentPath_of_not_isLone {value : Text} (hl : ¬(Path.ofText value).IsLone) :
    parentPath value = if (Path.ofText value).components = [] then []
      else (Path.ofText value).parent.text := by
  rw [parentPath]
  by_cases hc : (Path.ofText value).components = []
  · simp [hc]
  · simp [hc, Path.slash_mem hc hl]

/-- Two spellings of a path give the same parent, except where the path is relative and has a single
component, and only one of the spellings has a slash. -/
theorem parentPath_eq_iff {value other : Text} (h : Path.ofText value = Path.ofText other) :
    parentPath value = parentPath other
      ↔ ((Path.ofText value).IsLone → ('/' ∈ value ↔ '/' ∈ other)) := by
  by_cases hl : (Path.ofText value).IsLone
  · rw [parentPath_of_isLone hl, parentPath_of_isLone (h ▸ hl)]
    by_cases hv : '/' ∈ value <;> by_cases ho : '/' ∈ other <;> simp [hl, hv, ho]
  · rw [parentPath_of_not_isLone hl, parentPath_of_not_isLone (h ▸ hl), h]
    simp [h ▸ hl]

theorem Path.Regular.text_ne_nil {path : Path} (h : path.Regular) : path.text ≠ [] := by
  intro hn
  have hp : Path.ofText [] = path := by rw [← hn, Path.ofText_text h]
  rw [← hp] at hn
  cases hn

theorem parentPath_eq_nil_iff (value : Text) :
    parentPath value = [] ↔ (Path.ofText value).components = [] ∨ '/' ∉ value := by
  by_cases hl : (Path.ofText value).IsLone
  · have hc : (Path.ofText value).components ≠ [] := by
      rw [← List.length_pos_iff, hl.2]
      exact Nat.one_pos
    rw [parentPath_of_isLone hl]
    by_cases hs : '/' ∈ value <;> simp [hs, hc]
  · rw [parentPath_of_not_isLone hl]
    by_cases hc : (Path.ofText value).components = []
    · simp [hc]
    · simp [hc, Path.slash_mem hc hl, (Path.regular_ofText value).parent.text_ne_nil]

/-! ## Ways to spell a path -/

namespace Path

/-- What follows a character other than a slash does not change the root. -/
theorem Root.ofText_append_of_ne {before : Text} (h : ∃ c ∈ before, c ≠ '/') (behind : Text) :
    Root.ofText (before ++ behind) = Root.ofText before := by
  -- three characters tell the root, and fewer do if one of them is not a slash
  rcases before with _ | ⟨c, _ | ⟨d, _ | ⟨e, rest⟩⟩⟩
  · simp at h
  · have hc : c ≠ '/' := by simpa using h
    simp [Root.ofText, hc]
  · have hn : c = '/' → d ≠ '/' := by
      rintro rfl rfl
      simp at h
    by_cases hc : c = '/'
    · simp [Root.ofText, hc, hn hc]
    · simp [Root.ofText, hc]
  · by_cases hc : c = '/' <;> by_cases hd : d = '/' <;> by_cases he : e = '/' <;>
      simp [Root.ofText, hc, hd, he]

theorem components_append_slash (before behind : Text) :
    (ofText (before ++ '/' :: behind)).components
      = (ofText before).components ++ (ofText behind).components := by
  change (Text.fields '/' _).filter counts = _
  rw [Text.fields_eq_splitOn, List.splitOn_append_cons_self, List.filter_append,
    ← Text.fields_eq_splitOn, ← Text.fields_eq_splitOn]
  rfl

theorem ofText_append_slash {before : Text} (h : ∃ c ∈ before, c ≠ '/') (behind : Text) :
    ofText (before ++ '/' :: behind)
      = ⟨(ofText before).root, (ofText before).components ++ (ofText behind).components⟩ := by
  rw [← components_append_slash]
  exact congrArg (Path.mk · _) (Root.ofText_append_of_ne h _)

/-- Between slashes, nothing and a dot say nothing. -/
theorem ofText_append_between {before between : Text} (h : ∃ c ∈ before, c ≠ '/')
    (hb : between = [] ∨ between = ['.']) (behind : Text) :
    ofText (before ++ '/' :: between ++ '/' :: behind) = ofText (before ++ '/' :: behind) := by
  have hc : (ofText between).components = [] := by rcases hb with rfl | rfl <;> rfl
  rw [List.append_assoc, List.cons_append, ofText_append_slash h, components_append_slash, hc,
    ofText_append_slash h, List.nil_append]

theorem ofText_append_end {before between : Text} (h : ∃ c ∈ before, c ≠ '/')
    (hb : between = [] ∨ between = ['.']) :
    ofText (before ++ '/' :: between) = ofText before := by
  have hc : (ofText between).components = [] := by rcases hb with rfl | rfl <;> rfl
  rw [ofText_append_slash h, hc, List.append_nil]

theorem ofText_dot_slash {text : Text} (h : (ofText text).root = .none) :
    ofText ('.' :: '/' :: text) = ofText text := by
  have hc : ∃ c ∈ ['.'], c ≠ '/' := ⟨'.', List.mem_cons_self, by decide⟩
  have hd := ofText_append_slash hc text
  exact hd.trans (congrArg (Path.mk · _) h.symm)

end Path

/-- The parent of a value is that of the path in its one spelling, unless a relative path of a single
component is written with a slash, which gives a dot instead of nothing. Up to that, the parent
depends on the path alone: values that spell the same path have the same parent if they both have a
slash, in particular if one has more slashes or dots in it. -/
theorem parentPath_spelling (value : Text) :
    let path := Path.ofText value
    (parentPath value = parentPath path.text ↔ ¬('/' ∈ value ∧ path.IsLone))
    ∧ ('/' ∈ value → path.IsLone → parentPath value = ['.'] ∧ parentPath path.text = [])
    ∧ (parentPath value = [] ↔ path.components = [] ∨ '/' ∉ value)
    ∧ (parentPath path.text = [] ↔ path.components = [] ∨ path.IsLone)
    ∧ (∀ other, Path.ofText other = path → ('/' ∈ other ↔ '/' ∈ value) →
        parentPath other = parentPath value)
    ∧ ((∃ c ∈ value, c ≠ '/') → ∀ between, between = [] ∨ between = ['.'] →
        (∀ behind, parentPath (value ++ '/' :: between ++ '/' :: behind)
          = parentPath (value ++ '/' :: behind))
        ∧ ('/' ∈ value → parentPath (value ++ '/' :: between) = parentPath value))
    ∧ (path.root = .none → '/' ∈ value → parentPath ('.' :: '/' :: value) = parentPath value) := by
  intro path
  have htext : Path.ofText path.text = path := Path.ofText_text (Path.regular_ofText value)
  have hlone (hl : path.IsLone) : '/' ∉ path.text :=
    Path.slash_not_mem_text (Path.regular_ofText value) hl
  refine ⟨?_, fun hs hl => ⟨?_, ?_⟩, parentPath_eq_nil_iff value, ?_, fun other ho hs => ?_,
    fun hc between hb => ⟨fun behind => ?_, fun hs => ?_⟩, fun hr hs => ?_⟩
  · rw [parentPath_eq_iff htext.symm]
    refine ⟨fun h ⟨hs, hl⟩ => hlone hl ((h hl).1 hs), fun h hl => ?_⟩
    exact ⟨fun hs => absurd ⟨hs, hl⟩ h, fun hs => absurd hs (hlone hl)⟩
  · rw [parentPath_of_isLone hl, if_pos hs]
  · rw [parentPath_of_isLone (htext.symm ▸ hl), if_neg (hlone hl)]
  · rw [parentPath_eq_nil_iff, htext]
    refine or_congr_right' fun hc => ⟨fun hs => ?_, hlone⟩
    by_contra hl
    exact hs (Path.slash_mem (htext.symm ▸ hc) (htext.symm ▸ hl))
  · exact (parentPath_eq_iff ho).2 fun _ => hs
  · refine (parentPath_eq_iff (Path.ofText_append_between hc hb behind)).2 fun _ => ?_
    simp
  · refine (parentPath_eq_iff (Path.ofText_append_end hc hb)).2 fun _ => ?_
    simp [hs]
  · refine (parentPath_eq_iff (Path.ofText_dot_slash hr)).2 fun _ => ?_
    simp [hs]

/-- A path of one component inside of a slash and a dot, and of two with slashes repeated. -/
theorem parentPath_spelling_repeated :
    parentPath ['.', '/', 'a'] = ['.'] ∧ parentPath (Path.ofText ['.', '/', 'a']).text = []
      ∧ parentPath ['a', '/', '/', 'b', '/'] = parentPath ['a', '/', 'b']
      ∧ parentPath ['a', '/', 'b', '/', '.', '/', 'c'] = parentPath ['a', '/', 'b', '/', 'c']
      ∧ parentPath ['a', '/', 'b', '/', '.'] = parentPath ['a', '/', 'b']
      ∧ parentPath ['.', '/', 'a', '/', 'b'] = parentPath ['a', '/', 'b'] := by
  obtain ⟨-, hdot, -⟩ := parentPath_spelling ['.', '/', 'a']
  obtain ⟨hone, hnone⟩ := hdot (by decide) ⟨rfl, rfl⟩
  obtain ⟨-, -, -, -, hsame, hbetween, hfront⟩ := parentPath_spelling ['a', '/', 'b']
  obtain ⟨hinside, hend⟩ := hbetween ⟨'a', by decide, by decide⟩ ['.'] (.inr rfl)
  exact ⟨hone, hnone, hsame _ rfl (by decide), hinside ['c'], hend (by decide),
    hfront rfl (by decide)⟩

/-- A slash at the end, which the one spelling of the path lacks, makes a difference. -/
theorem parentPath_trailing_slash :
    parentPath ['a', '/'] = ['.'] ∧ (Path.ofText ['a', '/']).text = ['a'] ∧ parentPath ['a'] = []
      ∧ ¬∀ value, parentPath value = parentPath (Path.ofText value).text :=
  ⟨rfl, rfl, rfl, fun h => absurd (h ['a', '/']) (by decide)⟩

end FilterTemplate
