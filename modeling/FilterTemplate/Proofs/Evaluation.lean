import Mathlib
import FilterTemplate.Proofs.Padding
import FilterTemplate.Proofs.Replacement
import FilterTemplate.Proofs.SearchEnds
import FilterTemplate.Proofs.Validity
import FilterTemplate.Template.Run

/-!
# Templates apply to every value

What was checked when a template was read is nearly enough for all values that come later. A range
is cut out at positions that the text has, a mask has characters, and a replacement is read from the
pattern and the text that it was read from before, so it is the same for every match. Two things are
left. A filter may pad with more characters than an index can hold, and then it fails on every text
(`Filter.overlong?`). And the search for the matches of a pattern has to settle: to come to an end,
and to find no match of which the groups cannot be shown (`Filter.Settles`). Where all filters of a
template settle, it gives a text for every value if none of them pads with too many characters, and
for none otherwise.
-/

namespace FilterTemplate

/-! ## Matches -/

namespace Regex

namespace Replacement

variable {m : Match} {parts : List Part}

theorem expand?_eq_some (h : asksForGroups parts = true → m.marks.tangled = false) :
    expand? m parts = some (expand m parts) := by
  unfold expand?
  rw [if_neg]
  rw [Bool.and_eq_true, not_and]
  exact fun ha => by simp [h ha]

/-- A match is filled in if its groups can be shown, or if nothing asks for them. -/
theorem exists_expand?_iff : (∃ shown, expand? m parts = some shown)
    ↔ (asksForGroups parts = true → m.marks.tangled = false) := by
  refine ⟨fun ⟨shown, h⟩ ha => ?_, fun h => ⟨_, expand?_eq_some h⟩⟩
  unfold expand? at h
  split_ifs at h with ht
  rw [Bool.and_eq_true, not_and, Bool.not_eq_true] at ht
  exact ht ha

end Replacement

end Regex

/-! ## Ranges -/

/-- The positions in a text of the given length between which a range is cut out. -/
def cutBounds (start : ℤ) (extent : Extent) (length : ℤ) : ℤ × ℤ :=
  (clampPosition length (rangeBounds start extent length).1,
    clampPosition length (rangeBounds start extent length).2)

theorem clampPosition_mem {length : ℤ} (h : 1 ≤ length) (position : ℤ) :
    1 ≤ clampPosition length position ∧ clampPosition length position ≤ length := by
  unfold clampPosition
  omega

/-- A range that is not empty is cut out at positions of the text. -/
theorem substring_cut (start : ℤ) (extent : Extent) (value : Text) :
    ((value = [] ∨ (cutBounds start extent value.length).2 < (cutBounds start extent value.length).1)
        ∧ substring start extent value = [])
      ∨ ∃ low high : ℕ, cutBounds start extent value.length = (↑low, ↑high)
        ∧ 1 ≤ low ∧ low ≤ high ∧ high ≤ value.length
        ∧ substring start extent value = Text.slice value (low - 1) high := by
  by_cases h : value = [] ∨
      (cutBounds start extent value.length).2 < (cutBounds start extent value.length).1
  · exact .inl ⟨h, if_pos h⟩
  · have hs : substring start extent value
        = Text.slice value ((cutBounds start extent value.length).1 - 1).toNat
          (cutBounds start extent value.length).2.toNat := if_neg h
    simp only [not_or, not_lt] at h
    obtain ⟨hv, hle⟩ := h
    have hl : (1 : ℤ) ≤ value.length := by
      have := List.length_pos_iff.2 hv
      omega
    have hlow := clampPosition_mem hl (rangeBounds start extent value.length).1
    have hhigh := clampPosition_mem hl (rangeBounds start extent value.length).2
    change 1 ≤ (cutBounds start extent value.length).1 ∧ _ at hlow
    change _ ∧ (cutBounds start extent value.length).2 ≤ _ at hhigh
    refine .inr ⟨(cutBounds start extent value.length).1.toNat,
      (cutBounds start extent value.length).2.toNat, ?_, by omega, by omega, by omega, ?_⟩
    · ext <;> simp only [] <;> omega
    · rw [hs]
      congr 1
      omega

/-! ## Limits -/

/-- A result, if nothing stands against it. -/
def unlessOverlong (limit : Option Overlong) (result : Text) : Except ApplyError Text :=
  limit.elim (.ok result) fun overlong => .error (.overlong overlong)

/-- What stands against a text stands against it as soon as it stands against a part. -/
theorem unlessOverlong_or (first rest : Option Overlong) (between result : Text) :
    unlessOverlong (first.or rest) result
      = (unlessOverlong first between).bind fun _ => unlessOverlong rest result := by
  cases first <;> rfl

theorem exists_of_eq_unlessOverlong {limit : Option Overlong} {outcome : Except ApplyError Text}
    {result : Text} (h : outcome = unlessOverlong limit result) :
    (limit = none → ∃ result, outcome = .ok result)
      ∧ ∀ overlong, limit = some overlong → outcome = .error (.overlong overlong) := by
  subst h
  constructor
  · rintro rfl
    exact ⟨result, rfl⟩
  · rintro overlong rfl
    rfl

/-! ## Filters -/

namespace Filter

/-- What a filter looks for: the first match of a pattern, or all of its matches. -/
def searches? : Filter → Option (Regex.Pattern × Bool)
  | .regexMatch p => some (p, false)
  | .regexReplace p _ all => some (p, all)
  | _ => none

/-- Whether a filter shows something of its matches: what they take, or groups of theirs. -/
def shows : Filter → Bool
  | .regexMatch _ => true
  | .regexReplace p replacement _ =>
    match Regex.Replacement.read p replacement with
    | .ok parts => Regex.Replacement.asksForGroups parts
    | .error _ => false
  | _ => false

/-- Whether what a filter looks for comes to an end in every text and, if it has to be shown, can be
shown. -/
def Settles (filter : Filter) : Prop :=
  ∀ p all, filter.searches? = some (p, all) → ∀ text, ∃ found, p.replaced? all text = some found
    ∧ (filter.shows = true → ∀ m ∈ found, m.marks.tangled = false)

/-- What stands against padding with as many characters as a filter asks for. -/
def overlong? : Filter → Option Overlong
  | .pad _ mask (some count) => FilterTemplate.overlong? mask count.toNat
  | _ => none

theorem settles_of_isTame {filter : Filter} (hv : filter.Valid)
    (ht : ∀ p all, filter.searches? = some (p, all) → p.node.isTame = true) : filter.Settles := by
  intro p all hs text
  have hc : Regex.Pattern.compile p.source = .ok p := by
    cases filter <;> cases hs
    · exact hv.2
    · exact hv.1.2
  obtain ⟨found, hfound, hm⟩ :=
    Regex.Pattern.exists_replaced?_of_compile hc (ht p all hs) all text
  exact ⟨found, hfound, fun _ m h => (hm m h).shown⟩

theorem overlong?_pad_eq_none_iff {mask : Text} (hm : mask ≠ []) (side : Side) (count : Option ℤ) :
    overlong? (.pad side mask count) = none ↔ ∀ n, count = some n → Repeats mask n.toNat := by
  rcases count with _ | n
  · simp [overlong?]
  · obtain ⟨hfits, hlong⟩ := overlong?_eq hm n.toNat
    simp only [overlong?, Option.some.injEq, forall_eq']
    refine ⟨fun h => ?_, hfits⟩
    by_contra hr
    rw [hlong hr] at h
    cases h

theorem apply_pad_eq (special : SpecialCases) (side : Side) (mask : Text) (count : Option ℤ)
    (value : Text) : (Filter.pad side mask count).apply special value
      = unlessOverlong (overlong? (.pad side mask count)) (padded side mask count value) := by
  have hlimit : FilterTemplate.overlong? mask (paddingNeed mask count value).toNat
      = overlong? (.pad side mask count) := by
    cases count
    · exact overlong?_paddingNeed_none mask value
    · rfl
  rw [apply, pad_eq, hlimit]
  cases overlong? (.pad side mask count) <;> rfl

variable {filter : Filter} (special : SpecialCases)

theorem apply_regexMatch {p : Regex.Pattern} {value : Text} {m : Regex.Match}
    (h : p.search value = some m) :
    (Filter.regexMatch p).apply special value = (Regex.shownText m.shown?).mapError .noText := by
  simp only [apply, h]

theorem apply_regexReplace {p : Regex.Pattern} {replacement : Text} {parts : List Regex.Part}
    (hp : Regex.Replacement.read p replacement = .ok parts) (all : Bool) (value : Text) :
    (Filter.regexReplace p replacement all).apply special value
      = (p.replaceMatches all parts value).mapError .noText := by
  simp only [apply, hp]

/-- A filter that makes sense and settles gives a text for every text, unless it pads with too many
characters. -/
theorem Valid.exists_apply (hv : filter.Valid) (hs : filter.Settles) (value : Text) :
    ∃ result, filter.apply special value = unlessOverlong filter.overlong? result := by
  rcases filter with _ | _ | _ | _ | _ | _ | _ | _ | _ | _ | ⟨side, mask, count⟩ | _ | _ | p |
    ⟨p, replacement, all⟩
  case pad => exact ⟨_, apply_pad_eq special side mask count value⟩
  case regexMatch =>
    rcases hm : p.search value with _ | m
    · exact ⟨[], by rw [apply, hm]; rfl⟩
    · obtain ⟨found, hfound, ht⟩ := hs p false rfl value
      obtain rfl := Option.some.inj hfound
      have hshown : m.shown? = some m.text := by
        rw [Regex.Match.shown?, ht rfl m (Option.mem_toList.2 hm), if_neg Bool.false_ne_true]
      exact ⟨m.text, by rw [apply_regexMatch special hm, hshown]; rfl⟩
  case regexReplace =>
    obtain ⟨-, parts, hp⟩ := hv
    obtain ⟨found, hfound, ht⟩ := hs p all rfl value
    have hshows : (Filter.regexReplace p replacement all).shows
        = Regex.Replacement.asksForGroups parts := by rw [shows, hp]
    rw [hshows] at ht
    obtain ⟨result, hr⟩ := Regex.Pattern.exists_stitch_iff.2 fun m hm =>
      Regex.Replacement.exists_expand?_iff.2 fun ha => ht ha m hm
    have hreplace := Regex.Pattern.replaceMatches_eq_ok_iff.2 ⟨found, hfound, hr⟩
    exact ⟨result, by rw [apply_regexReplace special hp, hreplace]; rfl⟩
  all_goals exact ⟨_, rfl⟩

/-- A filter that makes sense settles exactly if it never fails on account of its matches. -/
theorem Valid.settles_iff (hv : filter.Valid) :
    filter.Settles ↔ ∀ value hitch, filter.apply special value ≠ .error (.noText hitch) := by
  constructor
  · intro hs value hitch he
    obtain ⟨result, hr⟩ := hv.exists_apply special hs value
    rw [he] at hr
    rcases hl : filter.overlong? with _ | limit <;> rw [hl] at hr <;> cases hr
  · intro h p all hsearch text
    rcases filter with _ | _ | _ | _ | _ | _ | _ | _ | _ | _ | _ | _ | _ | q |
      ⟨q, replacement, whole⟩ <;> cases hsearch
    case mpr.regexMatch.refl =>
      refine ⟨_, rfl, fun _ m hm => ?_⟩
      have hne := h text .tangledGroup
      rw [apply_regexMatch special (Option.mem_toList.1 hm)] at hne
      by_contra ht
      rw [Bool.not_eq_false] at ht
      simp [Regex.Match.shown?, ht, Regex.shownText] at hne
    case mpr.regexReplace.refl =>
      obtain ⟨-, parts, hp⟩ := hv
      have hne := h text
      rw [apply_regexReplace special hp] at hne
      rcases hr : p.replaceMatches all parts text with hitch | result
      · exact absurd (by rw [hr]; rfl) (hne hitch)
      · obtain ⟨found, hfound, hstitch⟩ := Regex.Pattern.replaceMatches_eq_ok_iff.1 hr
        refine ⟨found, hfound, fun hshows m hm => ?_⟩
        rw [shows, hp] at hshows
        have hexpand := Regex.Pattern.exists_stitch_iff.1 ⟨_, hstitch⟩ m hm
        exact Regex.Replacement.exists_expand?_iff.1 hexpand hshows

/-- Nothing else goes wrong with a filter that makes sense. -/
theorem Valid.apply_eq_error (hv : filter.Valid) {value : Text} {error : ApplyError}
    (h : filter.apply special value = .error error) :
    (∃ limit, filter.overlong? = some limit ∧ error = .overlong limit)
      ∨ ¬filter.Settles ∧ ∃ hitch, error = .noText hitch := by
  by_cases hs : filter.Settles
  · left
    obtain ⟨result, hr⟩ := hv.exists_apply special hs value
    rw [h] at hr
    rcases hl : filter.overlong? with _ | limit <;> rw [hl] at hr <;> cases hr
    exact ⟨limit, rfl, rfl⟩
  · right
    refine ⟨hs, ?_⟩
    rcases filter with _ | _ | _ | _ | _ | _ | _ | _ | _ | _ | ⟨side, mask, count⟩ | _ | _ | p |
      ⟨p, replacement, all⟩
    case regexMatch =>
      rcases hm : p.search value with _ | m
      · rw [apply, hm] at h
        cases h
      · rw [apply_regexMatch special hm] at h
        obtain ⟨hitch, -, rfl⟩ := Except.mapError_eq_error_iff.1 h
        exact ⟨hitch, rfl⟩
    case regexReplace =>
      obtain ⟨-, parts, hp⟩ := hv
      rw [apply_regexReplace special hp] at h
      obtain ⟨hitch, -, rfl⟩ := Except.mapError_eq_error_iff.1 h
      exact ⟨hitch, rfl⟩
    -- a filter without a pattern has nothing to look for, so it settles
    all_goals exact absurd (fun p all hsearch => by cases hsearch) hs

end Filter

/-! ## Templates -/

section Run

variable {special : SpecialCases}

/-- A chain fails with the first of its filters that pads with too many characters, and gives a text
if there is none. -/
theorem Chain.exists_run_eq : ∀ {filters : Chain},
    (∀ filter ∈ filters, ∀ value, ∃ result,
      filter.value.apply special value = unlessOverlong filter.value.overlong? result) →
      ∀ value, ∃ result, Chain.run special filters value
        = unlessOverlong ((filters.map Located.value).findSome? Filter.overlong?) result
  | [], _, value => ⟨value, rfl⟩
  | filter :: rest, h, value => by
    obtain ⟨between, hb⟩ := h filter List.mem_cons_self value
    obtain ⟨result, hr⟩ := exists_run_eq (fun f hf => h f (List.mem_cons_of_mem _ hf)) between
    refine ⟨result, ?_⟩
    rw [Chain.run, hb, List.map_cons, List.findSome?_cons]
    rcases filter.value.overlong? with _ | limit
    · exact hr
    · rfl

theorem exists_runSegments_eq : ∀ {segments : List (Located Segment)},
    (∀ segment ∈ segments, ∀ filter ∈ segment.value.filters, ∀ value, ∃ result,
      filter.value.apply special value = unlessOverlong filter.value.overlong? result) →
      ∀ value, ∃ result, runSegments special segments value
        = unlessOverlong ((segments.flatMap fun segment =>
          segment.value.filters.map Located.value).findSome? Filter.overlong?) result
  | [], _, _ => ⟨[], rfl⟩
  | ⟨.literal text, start, stop⟩ :: rest, h, value => by
    obtain ⟨behind, hb⟩ :=
      exists_runSegments_eq (fun s hs => h s (List.mem_cons_of_mem _ hs)) value
    refine ⟨text ++ behind, ?_⟩
    rw [runSegments, hb, List.flatMap_cons]
    change _ = unlessOverlong (List.findSome? _ ([] ++ _)) _
    rw [List.nil_append]
    cases List.findSome? Filter.overlong? _ <;> rfl
  | ⟨.chain filters, start, stop⟩ :: rest, h, value => by
    have hf : ∀ filter ∈ filters, ∀ value, ∃ result,
        filter.value.apply special value = unlessOverlong filter.value.overlong? result :=
      h _ List.mem_cons_self
    obtain ⟨text, ht⟩ := Chain.exists_run_eq hf value
    obtain ⟨behind, hb⟩ :=
      exists_runSegments_eq (fun s hs => h s (List.mem_cons_of_mem _ hs)) value
    refine ⟨text ++ behind, ?_⟩
    rw [runSegments, Segment.run, ht, hb, List.flatMap_cons, List.findSome?_append,
      unlessOverlong_or _ _ text]
    change _ = Except.bind (unlessOverlong ((filters.map _).findSome? _) _) _
    rcases (filters.map Located.value).findSome? Filter.overlong? with _ | limit
    · cases List.findSome? Filter.overlong? _ <;> rfl
    · rfl

/-- A chain fails only where one of its filters does. -/
theorem Chain.exists_apply_eq_error {error : ApplyError} : ∀ {filters : Chain} {value : Text},
    Chain.run special filters value = .error error →
      ∃ filter ∈ filters, ∃ value, filter.value.apply special value = .error error
  | [], _, h => by cases h
  | filter :: rest, value, h => by
    rw [Chain.run] at h
    rcases Except.bind_eq_error_iff.1 h with h | ⟨between, -, h⟩
    · exact ⟨filter, List.mem_cons_self, value, h⟩
    · obtain ⟨f, hf, v, hv⟩ := exists_apply_eq_error h
      exact ⟨f, List.mem_cons_of_mem _ hf, v, hv⟩

theorem exists_apply_eq_error_of_runSegments {error : ApplyError} {value : Text} :
    ∀ {segments : List (Located Segment)}, runSegments special segments value = .error error →
      ∃ segment ∈ segments, ∃ filter ∈ segment.value.filters,
        ∃ value, filter.value.apply special value = .error error
  | [], h => by cases h
  | ⟨segment, start, stop⟩ :: rest, h => by
    rw [runSegments] at h
    rcases Except.bind_eq_error_iff.1 h with h | ⟨text, -, h⟩
    · refine ⟨_, List.mem_cons_self, ?_⟩
      cases segment with
      | literal text => cases h
      | chain filters => exact Chain.exists_apply_eq_error h
    · rcases Except.bind_eq_error_iff.1 h with h | ⟨behind, -, h⟩
      · obtain ⟨s, hs, hf⟩ := exists_apply_eq_error_of_runSegments h
        exact ⟨s, List.mem_cons_of_mem _ hs, hf⟩
      · cases h

end Run

theorem Template.mem_filters {template : Template} {segment : Located Segment}
    (hs : segment ∈ template.segments) {filter : Located Filter}
    (hf : filter ∈ segment.value.filters) : filter.value ∈ template.filters :=
  List.mem_flatMap.2 ⟨segment, hs, List.mem_map.2 ⟨filter, hf, rfl⟩⟩

/-- Only padding with too many characters and patterns that do not settle make a compiled template
fail. -/
theorem Delimiters.run_eq_error_of_compile (d : Delimiters) {text : Text} {template : Template}
    (h : d.compile text = .ok template) {special : SpecialCases} {value : Text}
    {error : ApplyError} (he : template.run special value = .error error) :
    ∃ filter ∈ template.filters,
      (∃ limit, filter.overlong? = some limit ∧ error = .overlong limit)
        ∨ ¬filter.Settles ∧ ∃ hitch, error = .noText hitch := by
  obtain ⟨segment, hsegment, filter, hf, v, he⟩ := exists_apply_eq_error_of_runSegments he
  have hmem := Template.mem_filters hsegment hf
  exact ⟨_, hmem, (d.valid_of_compile h _ hmem).apply_eq_error special he⟩

/-- A compiled template, all filters of which settle, gives a text for every value, whatever the
table of special cases, if none of them pads with too many characters; otherwise it fails on every
value, with the first that does. So does each of its filters. Nothing else than such padding and
patterns that do not settle makes a template fail, and a pattern always settles if it repeats
nothing possessively that looks back or captures. A range that is not empty is cut out at positions
of the value. A mask has characters, and too many are asked for exactly where its copies do not fit.
A replacement can be read as it was when the template was compiled, asks only for groups that its
pattern has, and can be filled in from every match of which the groups can be shown. -/
theorem Delimiters.exists_run_of_compile (d : Delimiters) {text : Text} {template : Template}
    (h : d.compile text = .ok template) (special : SpecialCases) :
    ((∀ filter ∈ template.filters, filter.Settles) → ∀ value,
      (template.filters.findSome? Filter.overlong? = none →
        ∃ result, template.run special value = .ok result)
      ∧ ∀ limit, template.filters.findSome? Filter.overlong? = some limit →
        template.run special value = .error (.overlong limit))
    ∧ (∀ filter ∈ template.filters, filter.Settles → ∀ value,
      (filter.overlong? = none →
        ∃ result, (Operand.filter filter).apply special value = .ok result)
      ∧ ∀ limit, filter.overlong? = some limit →
        (Operand.filter filter).apply special value = .error (.overlong limit))
    ∧ (∀ value error, template.run special value = .error error →
      ∃ filter ∈ template.filters,
        (∃ limit, filter.overlong? = some limit ∧ error = .overlong limit)
          ∨ ¬filter.Settles ∧ ∃ hitch, error = .noText hitch)
    ∧ (∀ filter ∈ template.filters,
      (filter.Settles ↔ ∀ value hitch,
        (Operand.filter filter).apply special value ≠ .error (.noText hitch))
      ∧ ((∀ p all, filter.searches? = some (p, all) → p.node.isTame = true) → filter.Settles))
    ∧ (∀ start extent, .substring start extent ∈ template.filters → ∀ value,
        ((value = [] ∨
            (cutBounds start extent value.length).2 < (cutBounds start extent value.length).1)
          ∧ substring start extent value = [])
        ∨ ∃ low high : ℕ, cutBounds start extent value.length = (↑low, ↑high)
          ∧ 1 ≤ low ∧ low ≤ high ∧ high ≤ value.length
          ∧ substring start extent value = Text.slice value (low - 1) high)
    ∧ (∀ side mask count, .pad side mask count ∈ template.filters → 0 < mask.length
        ∧ ((Filter.pad side mask count).overlong? = none
          ↔ ∀ n, count = some n → Repeats mask n))
    ∧ ∀ p replacement all, .regexReplace p replacement all ∈ template.filters →
        ∃ parts, Regex.Replacement.read p replacement = .ok parts
          ∧ (∀ index, .group index ∈ parts → index ≤ p.groups)
          ∧ ∀ patience advance start m, p.matchAt patience advance start = some m →
            p.node.isTame = true ∨ m.marks.tangled = false →
            Regex.Replacement.expand? m parts = some (Regex.Replacement.expand m parts) := by
  have hv := d.valid_of_compile h
  refine ⟨fun hs value => ?_, fun filter hf hs value => ?_,
    fun value error he => d.run_eq_error_of_compile h he,
    fun filter hf => ⟨(hv filter hf).settles_iff special, Filter.settles_of_isTame (hv filter hf)⟩,
    fun start extent _ value => substring_cut start extent value, fun side mask count hf => ?_,
    fun p replacement all hf => ?_⟩
  · obtain ⟨result, hr⟩ := exists_runSegments_eq (fun segment hsegment filter hf value =>
      have hmem := Template.mem_filters hsegment hf
      (hv _ hmem).exists_apply special (hs _ hmem) value) value
    exact exists_of_eq_unlessOverlong hr
  · obtain ⟨result, hr⟩ := (hv filter hf).exists_apply special hs value
    exact exists_of_eq_unlessOverlong hr
  · obtain ⟨hm, hcount⟩ := hv _ hf
    refine ⟨List.length_pos_iff.2 hm, (Filter.overlong?_pad_eq_none_iff hm side count).trans ?_⟩
    refine forall_congr' fun n => forall_congr' fun hn => ?_
    rw [Int.toNat_of_nonneg (Int.one_nonneg.trans (hcount n hn).1)]
  · obtain ⟨hc, parts, hp⟩ := hv _ hf
    refine ⟨parts, hp, fun index hi => Regex.Replacement.group_le_of_read hp hi,
      fun patience advance start m hm ht => Regex.Replacement.expand?_eq_some fun _ => ?_⟩
    rcases ht with ht | ht
    · exact (Regex.Pattern.straight_of_compile hc.2 ht hm).shown
    · exact ht

/-- A group that a replacement repeats, a mask, and a range to the end. -/
theorem Delimiters.exists_run_of_compile_doubled :
    let text : Text := ['\x7b', 'S', '/', '(', 'a', ')', '/', '\\', '1', '\\', '1', '|',
      '<', '<', 'x', 'y', 'z', '|', '#', '2', '-', '\x7d']
    let p : Regex.Pattern :=
      ⟨['(', 'a', ')'], 1, [], .capture 1 (.one (.char .exact false 97)), 1, .literal⟩
    let twice : Text := ['\\', '1', '\\', '1']
    let template : Template := ⟨text, [⟨.chain [⟨.regexReplace p twice true, 1, 11⟩,
      ⟨.pad .left ['x', 'y', 'z'] none, 12, 17⟩, ⟨.substring 2 .toEnd, 18, 21⟩], 0, 22⟩]⟩
    (default : Delimiters).compile text = .ok template
      ∧ (∀ filter ∈ template.filters, filter.Settles)
      ∧ (∀ value, ∃ result, template.run .standard value = .ok result)
      ∧ ∃ parts, Regex.Replacement.read p twice = .ok parts
        ∧ ∀ patience advance start m, p.matchAt patience advance start = some m →
          Regex.Replacement.expand? m parts = some (Regex.Replacement.expand m parts) := by
  intro text p twice template
  have hc : (default : Delimiters).compile text = .ok template := by rfl
  obtain ⟨hrun, -, -, hsettles, -, -, hreplace⟩ := exists_run_of_compile default hc .standard
  have hs : ∀ filter ∈ template.filters, filter.Settles := by
    intro filter hf
    refine (hsettles filter hf).2 fun q all hq => ?_
    have hf : filter ∈ [.regexReplace p twice true, .pad .left ['x', 'y', 'z'] none,
      .substring 2 .toEnd] := hf
    simp only [List.mem_cons, List.not_mem_nil, or_false] at hf
    rcases hf with rfl | rfl | rfl <;> cases hq
    rfl
  obtain ⟨parts, hr, -, he⟩ := hreplace p twice true (by simp [template, Template.filters,
    Segment.filters])
  exact ⟨hc, hs, fun value => (hrun hs value).1 rfl, parts, hr,
    fun patience advance start m hm => he patience advance start m hm (.inl rfl)⟩

/-- A template that compiles and gives no text for any value: it asks for more characters than an
index can hold. -/
theorem Delimiters.compile_beyond_index :
    let text : Text := ['\x7b', '<', '9', '9', '9', '9', '9', '9', '9', '9', '9', '9', '9', '9', '9',
      '9', '9', '9', '9', '9', '9', '9', ':', 'x', '\x7d']
    ∃ template, (default : Delimiters).compile text = .ok template
      ∧ ∀ special value, template.run special value = .error (.overlong .count)
        ∧ ¬∃ result, template.run special value = .ok result := by
  intro text
  let template : Template :=
    ⟨text, [⟨.chain [⟨.pad .left ['x'] (some 99999999999999999999), 1, 24⟩], 0, 25⟩]⟩
  have hc : (default : Delimiters).compile text = .ok template := by decide +kernel
  refine ⟨template, hc, fun special value => ?_⟩
  have hlimit : Filter.overlong? (.pad .left ['x'] (some 99999999999999999999)) = some .count := by
    decide
  have happly := Filter.apply_pad_eq special .left ['x'] (some 99999999999999999999) value
  rw [hlimit] at happly
  have hrun : template.run special value = .error (.overlong .count) := by
    change (Filter.apply special (.pad .left ['x'] (some 99999999999999999999)) value >>= _)
      >>= _ = _
    rw [happly]
    rfl
  refine ⟨hrun, ?_⟩
  rintro ⟨result, hr⟩
  rw [hrun] at hr
  cases hr

end FilterTemplate
