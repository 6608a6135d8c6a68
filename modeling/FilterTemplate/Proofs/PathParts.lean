import Mathlib
import FilterTemplate.Proofs.Paths
import FilterTemplate.Proofs.Rendering

/-!
# The parts of a path make up the path

The parent of a path and its name are together the path again (`Path.join_parent_name`), and the
stem of a name and its suffix are together the name. The suffix starts with the last dot exactly
where this is neither the first nor the last character (`Path.splitName_eq_iff`), and otherwise
there is none (`Path.splitName_eq_self_iff`). The spelling of the
parent is shorter than what it was taken from (`length_parentPath_lt`), since it lacks a component.
-/

namespace FilterTemplate

namespace Path

/-! ## The parent and the name -/

/-- What one path leads to from another. A path with a root of its own leads to itself. -/
def join (path behind : Path) : Path :=
  if behind.root = .none then ⟨path.root, path.components ++ behind.components⟩ else behind

theorem ofText_component {component : Text} (hc : counts component) (hs : '/' ∉ component) :
    ofText component = ⟨.none, [component]⟩ := by
  rw [ofText_of_not_mem hs, if_pos hc]

theorem parent_components_append {path : Path} (h : path.components ≠ []) :
    path.parent.components ++ [path.name] = path.components := by
  obtain ⟨init, last, he⟩ := (List.eq_nil_or_concat' path.components).resolve_left h
  rw [parent, name, he, List.dropLast_concat, List.getLastD_concat]

theorem name_mem {path : Path} (h : path.components ≠ []) : path.name ∈ path.components := by
  rw [← parent_components_append h]
  simp

theorem join_parent_name {path : Path} (hr : path.Regular) (h : path.components ≠ []) :
    path.parent.join (ofText path.name) = path := by
  obtain ⟨hc, hs⟩ := hr _ (name_mem h)
  rw [ofText_component hc hs, join, if_pos rfl, parent_components_append h]
  rfl

theorem name_of_components_eq_nil {path : Path} (h : path.components = []) : path.name = [] := by
  rw [name, h]
  rfl

theorem not_mem_name {path : Path} (hr : path.Regular) : '/' ∉ path.name := by
  by_cases h : path.components = []
  · simp [name_of_components_eq_nil h]
  · exact (hr _ (name_mem h)).2

/-- The name is the name of the path that it spells. -/
theorem name_ofText_name {path : Path} (hr : path.Regular) :
    (ofText path.name).name = path.name := by
  by_cases h : path.components = []
  · rw [name_of_components_eq_nil h]
    rfl
  · obtain ⟨hc, hs⟩ := hr _ (name_mem h)
    rw [ofText_component hc hs]
    rfl

/-! ## Stems and suffixes -/

/-- What stands behind the last dot of a name, if it has one. -/
theorem exists_front {name : Text}
    (h : (name.reverse.takeWhile (· ≠ '.')).length ≠ name.length) :
    ∃ front, name = front ++ '.' :: (name.reverse.takeWhile (· ≠ '.')).reverse := by
  have hsplit : name.reverse.takeWhile (· ≠ '.') ++ name.reverse.dropWhile (· ≠ '.')
      = name.reverse := List.takeWhile_append_dropWhile
  rcases hd : name.reverse.dropWhile (· ≠ '.') with _ | ⟨dot, front⟩ <;> rw [hd] at hsplit
  · rw [List.append_nil] at hsplit
    exact absurd (by rw [hsplit, List.length_reverse]) h
  · have hdot : dot = '.' := by
      have hp := List.head?_dropWhile_not (· ≠ '.') name.reverse
      rw [hd] at hp
      simpa using hp
    refine ⟨front.reverse, ?_⟩
    rw [← List.reverse_inj, List.reverse_append, List.reverse_cons, List.reverse_reverse,
      List.reverse_reverse, List.append_assoc, List.singleton_append]
    exact hdot ▸ hsplit.symm

/-- A name is a stem and nothing else, or it is parted at its last dot. -/
theorem splitName_cases (name : Text) : splitName name = (name, [])
    ∨ ∃ stem ending, name = stem ++ '.' :: ending ∧ stem ≠ [] ∧ ending ≠ [] ∧ '.' ∉ ending
      ∧ splitName name = (stem, '.' :: ending) := by
  set behind := name.reverse.takeWhile (· ≠ '.') with hb
  by_cases h : behind.length = name.length ∨ behind = [] ∨ name.length - behind.length - 1 = 0
  · exact .inl (if_pos h)
  · have hsplit : splitName name = (name.take (name.length - behind.length - 1),
        name.drop (name.length - behind.length - 1)) := if_neg h
    simp only [not_or] at h
    obtain ⟨hlen, hn, hstem⟩ := h
    obtain ⟨front, hname⟩ := exists_front hlen
    rw [← hb] at hname
    have hfront : name.length - behind.length - 1 = front.length := by
      have := congrArg List.length hname
      rw [List.length_append, List.length_cons, List.length_reverse] at this
      omega
    rw [hfront] at hstem hsplit
    refine .inr ⟨front, behind.reverse, hname, ?_, ?_, ?_, ?_⟩
    · simpa using hstem
    · simpa using hn
    · rw [List.mem_reverse]
      intro hm
      simpa using List.mem_takeWhile_imp hm
    · rw [hsplit, hname, List.take_left, List.drop_left]

theorem splitName_append {stem ending : Text} (hs : stem ≠ []) (he : ending ≠ [])
    (hd : '.' ∉ ending) : splitName (stem ++ '.' :: ending) = (stem, '.' :: ending) := by
  have hbehind : (stem ++ '.' :: ending).reverse.takeWhile (· ≠ '.') = ending.reverse := by
    rw [List.reverse_append, List.reverse_cons, List.append_assoc, List.singleton_append,
      List.takeWhile_append_of_pos, List.takeWhile_cons_of_neg (by simp), List.append_nil]
    intro c hc
    rw [List.mem_reverse] at hc
    exact decide_eq_true (ne_of_mem_of_not_mem hc hd)
  have hstem : (stem ++ '.' :: ending).length - ending.reverse.length - 1 = stem.length := by
    rw [List.length_append, List.length_cons, List.length_reverse]
    omega
  have hinner : ¬(ending.reverse.length = (stem ++ '.' :: ending).length ∨ ending.reverse = []
      ∨ stem.length = 0) := by
    have hpos := List.length_pos_iff.2 hs
    rw [List.reverse_eq_nil_iff, List.length_append, List.length_cons, List.length_reverse]
    refine not_or.2 ⟨by omega, not_or.2 ⟨he, by omega⟩⟩
  unfold splitName
  simp only [hbehind, hstem]
  rw [if_neg hinner, List.take_left, List.drop_left]

/-- A suffix starts with the last dot, and this is neither the first nor the last character. -/
theorem splitName_eq_iff {name stem ending : Text} : splitName name = (stem, '.' :: ending)
    ↔ name = stem ++ '.' :: ending ∧ stem ≠ [] ∧ ending ≠ [] ∧ '.' ∉ ending := by
  constructor
  · intro h
    rcases splitName_cases name with hn | ⟨front, rest, hname, hs, he, hd, hn⟩
    · rw [hn] at h
      cases h
    · rw [hn] at h
      cases h
      exact ⟨hname, hs, he, hd⟩
  · rintro ⟨rfl, hs, he, hd⟩
    exact splitName_append hs he hd

/-- A name without such a dot has no suffix. -/
theorem splitName_eq_self_iff {name : Text} : splitName name = (name, [])
    ↔ ¬∃ stem ending, name = stem ++ '.' :: ending ∧ stem ≠ [] ∧ ending ≠ [] ∧ '.' ∉ ending := by
  constructor
  · rintro h ⟨stem, ending, hname⟩
    rw [splitName_eq_iff.2 hname] at h
    cases h
  · intro h
    rcases splitName_cases name with hn | ⟨stem, ending, hname, hs, he, hd, -⟩
    · exact hn
    · exact absurd ⟨stem, ending, hname, hs, he, hd⟩ h

end Path

/-! ## The parent is shorter -/

namespace Path

/-- The root and the components have room in the text that spells the path. -/
theorem sum_length_components (text : Text) : (ofText text).root.text.length
    + ((ofText text).components.map fun component => component.length + 1).sum
      ≤ text.length + 1 := by
  obtain ⟨rest, hr⟩ := exists_rest text
  have hc : (ofText text).components = (ofText rest).components := by
    rw [hr]
    exact components_root_append _ rest
  have hs : ((ofText rest).components.map fun component => component.length + 1).sum
      ≤ ((Text.fields '/' rest).map fun field => field.length + 1).sum :=
    (List.filter_sublist.map _).sum_le_sum fun _ _ => Nat.zero_le _
  have hl : text.length = (ofText text).root.text.length + rest.length := by
    rw [← List.length_append]
    exact congrArg List.length hr
  rw [Text.sum_length_fields] at hs
  rw [hc]
  omega

/-- The parent lacks the name and the slash in front of it. -/
theorem length_parent_text {path : Path} (hr : path.Regular) (h : path.components ≠ [])
    (hl : ¬path.IsLone) : path.parent.text.length + 2 ≤ path.root.text.length
      + (path.components.map fun component => component.length + 1).sum := by
  have hname : 0 < path.name.length :=
    List.length_pos_iff.2 (counts_iff.1 (hr _ (name_mem h)).1).1
  have hd : ¬(path.parent.root = .none ∧ path.parent.components = []) := by
    rintro ⟨hn, hc⟩
    refine hl ⟨hn, ?_⟩
    rw [← parent_components_append h, hc]
    rfl
  rw [text, if_neg hd, List.length_append, Text.length_joinWith, ← parent_components_append h,
    List.map_append, List.sum_append]
  simp only [List.map_cons, List.map_nil, List.sum_cons, List.sum_nil]
  change path.root.text.length + _ + 2 ≤ _
  omega

end Path

theorem length_parentPath_lt {value : Text} (h : value ≠ []) :
    (parentPath value).length < value.length := by
  by_cases hl : (Path.ofText value).IsLone
  · rw [parentPath_of_isLone hl]
    split_ifs with hs
    · -- a slash alone spells a root
      by_contra hlen
      obtain ⟨c, rfl⟩ : ∃ c, value = [c] := by
        refine List.length_eq_one_iff.1 ?_
        have := List.length_pos_iff.2 h
        rw [List.length_singleton] at hlen
        omega
      obtain rfl := List.mem_singleton.1 hs
      cases hl.1
    · exact List.length_pos_iff.2 h
  · rw [parentPath_of_not_isLone hl]
    split_ifs with hc
    · exact List.length_pos_iff.2 h
    · have hroom := Path.sum_length_components value
      have hparent := Path.length_parent_text (Path.regular_ofText value) hc hl
      omega

theorem iterate_parentPath : ∀ {n : ℕ} {value : Text}, value.length ≤ n → parentPath^[n] value = []
  | 0, value, h => by simpa using h
  | n + 1, value, h => by
    rw [Function.iterate_succ_apply]
    refine iterate_parentPath ?_
    rcases eq_or_ne value [] with rfl | hn
    · exact Nat.zero_le n
    · have := length_parentPath_lt hn
      omega

/-! ## The parts of a value -/

/-- The spelling of the parent spells the parent. -/
theorem ofText_parentPath {value : Text} (h : (Path.ofText value).components ≠ []) :
    Path.ofText (parentPath value) = (Path.ofText value).parent := by
  have hp := Path.ofText_text (Path.regular_ofText value).parent
  by_cases hl : (Path.ofText value).IsLone
  · rw [← hp, Path.parent_text_of_isLone hl, parentPath_of_isLone hl]
    split_ifs <;> rfl
  · rw [parentPath_of_not_isLone hl, if_neg h, hp]

theorem join_parentPath_fileName {value : Text}
    (h : (Path.ofText value).components ≠ [] ∨ (Path.ofText value).root = .none) :
    (Path.ofText (parentPath value)).join (Path.ofText (fileName value)) = Path.ofText value := by
  by_cases hc : (Path.ofText value).components = []
  · have hr := h.resolve_left (not_not.2 hc)
    rw [(parentPath_eq_nil_iff value).2 (.inl hc), fileName, Path.name_of_components_eq_nil hc]
    rcases hp : Path.ofText value with ⟨root, components⟩
    rw [hp] at hr hc
    obtain rfl : root = .none := hr
    obtain rfl : components = [] := hc
    rfl
  · rw [ofText_parentPath hc]
    exact Path.join_parent_name (Path.regular_ofText value) hc

/-- A root alone has one of two spellings. -/
theorem Path.Regular.text_eq_root_iff {path : Path} (h : path.Regular) :
    path.text = ['/'] ∨ path.text = ['/', '/'] ↔ path.components = [] ∧ path.root ≠ .none := by
  constructor
  · rintro (ht | ht) <;> rw [← Path.ofText_text h, ht] <;> decide
  · obtain ⟨root, components⟩ := path
    rintro ⟨hc, hr⟩
    obtain rfl : components = [] := hc
    cases root with
    | none => exact absurd rfl hr
    | single => exact .inl rfl
    | double => exact .inr rfl

theorem baseName_append_extension (value : Text) :
    baseName value ++ extension true value = fileName value := by
  change (Path.splitName _).1 ++ (Path.splitName _).2 = (Path.ofText value).name
  rcases Path.splitName_cases (Path.ofText value).name with h | ⟨stem, ending, hn, -, -, -, h⟩
  · rw [h, List.append_nil]
  · rw [h, ← hn]

theorem extension_cases (value : Text) : extension true value = []
    ∨ ∃ ending, extension true value = '.' :: ending ∧ ending ≠ [] ∧ '.' ∉ ending := by
  change (Path.splitName _).2 = [] ∨ ∃ ending, (Path.splitName _).2 = '.' :: ending ∧ _
  rcases Path.splitName_cases (Path.ofText value).name with h | ⟨stem, ending, -, -, hn, hd, h⟩
  · exact .inl (by rw [h])
  · exact .inr ⟨ending, by rw [h], hn, hd⟩

theorem baseName_extension_iff {value stem ending : Text} :
    baseName value = stem ∧ extension true value = '.' :: ending
      ↔ fileName value = stem ++ '.' :: ending ∧ stem ≠ [] ∧ ending ≠ [] ∧ '.' ∉ ending :=
  Prod.mk_inj.symm.trans Path.splitName_eq_iff

theorem extension_eq_nil_iff {value : Text} : extension true value = []
    ↔ ¬∃ stem ending, fileName value = stem ++ '.' :: ending
      ∧ stem ≠ [] ∧ ending ≠ [] ∧ '.' ∉ ending := by
  refine Iff.trans ⟨fun h => ?_, fun h => congrArg Prod.snd h⟩ Path.splitName_eq_self_iff
  rcases Path.splitName_cases (Path.ofText value).name with hn | ⟨stem, ending, -, -, -, -, hn⟩
  · exact hn
  · change (Path.splitName (Path.ofText value).name).2 = [] at h
    rw [hn] at h
    cases h

theorem fileName_eq_nil_of_baseName {value : Text} (hb : baseName value = []) :
    fileName value = [] := by
  change (Path.splitName _).1 = [] at hb
  change (Path.ofText value).name = []
  rcases Path.splitName_cases (Path.ofText value).name with h | ⟨stem, ending, -, hs, -, -, h⟩
  · rwa [h] at hb
  · rw [h] at hb
    exact absurd hb hs

section Rendering

variable {value result : Text}

/-- With the usual delimiters, one filter of one letter. -/
theorem renders_letter {c : Char} (hc : ({} : Delimiters).has c = false)
    (h : Filter.Gives [c] value result) :
    ({} : Delimiters).Renders ['\x7b', c, '\x7d'] value result :=
  ({} : Delimiters).renders_joinRaw h.givesAll fun text ht x hx => by
    rw [List.mem_singleton.1 ht] at hx
    rwa [List.mem_singleton.1 hx]

theorem renders_parentPath :
    ({} : Delimiters).Renders ['\x7b', 'd', '\x7d'] value (parentPath value) :=
  renders_letter rfl ⟨_, rfl, fun _ => rfl⟩

theorem renders_fileName :
    ({} : Delimiters).Renders ['\x7b', 'f', '\x7d'] value (fileName value) :=
  renders_letter rfl ⟨_, rfl, fun _ => rfl⟩

theorem renders_baseName_extension : ({} : Delimiters).Renders
    ['\x7b', 'b', '\x7d', '\x7b', 'E', '\x7d'] value (fileName value) := by
  have hb : ({} : Delimiters).Renders ['\x7b', 'b', '\x7d'] value (baseName value) :=
    renders_letter rfl ⟨_, rfl, fun _ => rfl⟩
  have he : ({} : Delimiters).Renders ['\x7b', 'E', '\x7d'] value (extension true value) :=
    renders_letter rfl ⟨_, rfl, fun _ => rfl⟩
  rw [← baseName_append_extension]
  exact hb.append he

end Rendering

/-- A path is made up of its parent and its name, and a name of its stem and its suffix, which starts
with the last dot of the name, if that is neither its first nor its last character. The parent of
anything but the empty value is shorter, so that taking parents comes to an end. -/
theorem path_parts (value : Text) :
    let path := Path.ofText value
    (path.text ≠ ['/'] → path.text ≠ ['/', '/'] →
      (Path.ofText (parentPath value)).join (Path.ofText (fileName value)) = path)
    ∧ (path.text = ['/'] ∨ path.text = ['/', '/'] → parentPath value = [] ∧ fileName value = [])
    ∧ baseName value ++ extension true value = fileName value
    ∧ ({} : Delimiters).Renders ['\x7b', 'b', '\x7d', '\x7b', 'E', '\x7d'] value (fileName value)
    ∧ ({} : Delimiters).Renders ['\x7b', 'f', '\x7d'] value (fileName value)
    ∧ (extension true value = []
      ∨ ∃ ending, extension true value = '.' :: ending ∧ ending ≠ [] ∧ '.' ∉ ending)
    ∧ (baseName value = [] → fileName value = [])
    ∧ extension false value = (extension true value).drop 1
    ∧ fileName (fileName value) = fileName value
    ∧ '/' ∉ fileName value
    ∧ (value ≠ [] → (parentPath value).length < value.length)
    ∧ ({} : Delimiters).Renders ['\x7b', 'd', '\x7d'] value (parentPath value)
    ∧ (∀ n, value.length ≤ n → parentPath^[n] value = [])
    ∧ (∀ stem ending, baseName value = stem ∧ extension true value = '.' :: ending
      ↔ fileName value = stem ++ '.' :: ending ∧ stem ≠ [] ∧ ending ≠ [] ∧ '.' ∉ ending)
    ∧ (extension true value = [] ↔ ¬∃ stem ending, fileName value = stem ++ '.' :: ending
      ∧ stem ≠ [] ∧ ending ≠ [] ∧ '.' ∉ ending) := by
  intro path
  have hr : path.Regular := Path.regular_ofText value
  refine ⟨fun hs hd => join_parentPath_fileName ?_, fun h => ?_, baseName_append_extension value,
    renders_baseName_extension, renders_fileName, extension_cases value,
    fileName_eq_nil_of_baseName, rfl, Path.name_ofText_name hr, Path.not_mem_name hr,
    length_parentPath_lt, renders_parentPath, fun n => iterate_parentPath,
    fun stem ending => baseName_extension_iff, extension_eq_nil_iff⟩
  · have hroot := hr.text_eq_root_iff.not.1 (not_or.2 ⟨hs, hd⟩)
    by_contra hn
    rw [not_or, not_not] at hn
    exact hroot hn
  · have hc := (hr.text_eq_root_iff.1 h).1
    exact ⟨(parentPath_eq_nil_iff value).2 (.inl hc), Path.name_of_components_eq_nil hc⟩

/-- A path with a root of its own, with a name that has two dots and a slash behind it. -/
theorem path_parts_slashes :
    let value : Text := ['/', '/', 'a', '/', 'b', '.', 'c', '.', 'd', '/']
    (Path.ofText (parentPath value)).join (Path.ofText (fileName value)) = Path.ofText value
      ∧ parentPath ['/', '/'] = [] ∧ fileName ['/', '/'] = []
      ∧ baseName value ++ extension true value = ['b', '.', 'c', '.', 'd']
      ∧ (parentPath value).length < value.length := by
  obtain ⟨hjoin, -, hname, -, -, -, -, -, -, -, hlt, -⟩ :=
    path_parts ['/', '/', 'a', '/', 'b', '.', 'c', '.', 'd', '/']
  obtain ⟨-, hroot, -⟩ := path_parts ['/', '/']
  obtain ⟨hp, hf⟩ := hroot (.inr rfl)
  exact ⟨hjoin (by decide) (by decide), hp, hf, hname, hlt (by decide)⟩

end FilterTemplate
