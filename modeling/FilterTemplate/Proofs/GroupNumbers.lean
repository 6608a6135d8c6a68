import Mathlib
import FilterTemplate.Proofs.OrderedRuns
import FilterTemplate.Proofs.QuietReaders

/-!
# The numbers of groups

The groups of a pattern get their numbers as they open, from left to right. Nothing that a reader
makes of what it has read changes their order: a sequence is spliced, alternatives are joined and
what they have in common is moved in front, but that are single characters. So the groups of a
pattern, as they stand in what is matched, are numbered one by one (`Pattern.captures_of_compile`).
-/

namespace FilterTemplate.Regex

open Reader

/-! ## What is matched -/

theorem Expr.captures_of_resolve : ∀ {e : Expr} {flags : Flags} {node : Node},
    e.resolve flags = .ok node → node.captures = e.captures
  | .empty, _, _, h | .char _ _, _, _, h | .any, _, _, h | .set _ _, _, _, h | .anchor _, _, _, h
  | .reference _ _, _, _, h | .never, _, _, h => by
    cases h
    rfl
  | .seq first rest, flags, node, h => by
    obtain ⟨a, ha, h⟩ := Except.bind_eq_ok_iff.1 h
    obtain ⟨b, hb, h⟩ := Except.bind_eq_ok_iff.1 h
    cases h
    rw [Node.captures, captures_of_resolve ha, captures_of_resolve hb, captures]
  | .alt first rest, flags, node, h => by
    obtain ⟨a, ha, h⟩ := Except.bind_eq_ok_iff.1 h
    obtain ⟨b, hb, h⟩ := Except.bind_eq_ok_iff.1 h
    cases h
    rw [Node.captures, captures_of_resolve ha, captures_of_resolve hb, captures]
  | .loop greed least most body, flags, node, h => by
    rw [resolve] at h
    split_ifs at h
    obtain ⟨a, ha, h⟩ := Except.bind_eq_ok_iff.1 h
    have hbody := captures_of_resolve ha
    split at h
    · -- the repetition of a single character
      cases h
      exact hbody
    · cases h
      exact hbody
  | .group index added removed body, flags, node, h => by
    obtain ⟨a, ha, h⟩ := Except.bind_eq_ok_iff.1 h
    have hbody := captures_of_resolve ha
    rcases index with _ | number
    · cases h
      exact hbody
    · cases h
      exact congrArg (number :: ·) hbody
  | .atomic body, flags, node, h => by
    obtain ⟨a, ha, h⟩ := Except.bind_eq_ok_iff.1 h
    cases h
    have hbody := captures_of_resolve ha
    exact hbody
  | .look false positive body, flags, node, h => by
    obtain ⟨a, ha, h⟩ := Except.bind_eq_ok_iff.1 h
    cases h
    have hbody := captures_of_resolve ha
    exact hbody
  | .look true positive body, flags, node, h => by
    rw [resolve] at h
    split_ifs at h
    obtain ⟨a, ha, h⟩ := Except.bind_eq_ok_iff.1 h
    cases h
    have hbody := captures_of_resolve ha
    exact hbody
  | .conditional number yes no, flags, node, h => by
    obtain ⟨a, ha, h⟩ := Except.bind_eq_ok_iff.1 h
    obtain ⟨b, hb, h⟩ := Except.bind_eq_ok_iff.1 h
    cases h
    rw [Node.captures, captures_of_resolve ha, captures_of_resolve hb, captures]

/-! ## Items -/

namespace Expr

/-- The groups of a list of items. -/
abbrev capturesAll (items : List Expr) : List ℕ := items.flatMap captures

theorem captures_ofItems : ∀ items : List Expr, (ofItems items).captures = capturesAll items
  | [] => rfl
  | [item] => by simp [ofItems]
  | item :: other :: rest => by
    rw [ofItems, captures, captures_ofItems (other :: rest)]
    · simp
    · simp

theorem capturesAll_items : ∀ e : Expr, capturesAll e.items = e.captures := by
  intro e
  fun_induction items e with
  | case1 => rfl
  | case2 first rest ih => simp [captures, ← ih]
  | case3 item _ _ => simp

theorem capturesAll_concat (before : List (List Expr)) (branch : List Expr) :
    (before ++ [branch]).flatMap capturesAll
      = before.flatMap capturesAll ++ capturesAll branch := by
  rw [List.flatMap_append, List.flatMap_singleton]

theorem capturesAll_spliced (items : List Expr) :
    capturesAll (spliced items) = capturesAll items := by
  rw [capturesAll, spliced, List.flatMap_assoc]
  refine List.flatMap_congr fun item _ => ?_
  split_ifs
  · exact (capturesAll_items item.ungrouped).trans item.captures_ungrouped
  · simp

theorem captures_of_isLeaf {e : Expr} (h : e.isLeaf = true) : e.captures = [] := by
  cases e <;> first | rfl | cases h

/-- What alternatives have in common is moved in front, and captures nothing. -/
theorem capturesAll_commonStart : ∀ (first : List Expr) (others : List (List Expr)),
    capturesAll (commonStart first others).1 = []
      ∧ (commonStart first others).2.flatMap capturesAll = (first :: others).flatMap capturesAll
  | [], others => ⟨rfl, rfl⟩
  | item :: rest, others => by
    rw [commonStart]
    split_ifs with h
    · obtain ⟨hleaf, hall⟩ := Bool.and_eq_true_iff.1 h
      obtain ⟨hshared, hremaining⟩ := capturesAll_commonStart rest (others.map List.tail)
      have hitem := captures_of_isLeaf hleaf
      have htails : (others.map List.tail).flatMap capturesAll = others.flatMap capturesAll := by
        rw [List.flatMap_map]
        refine List.flatMap_congr fun other ho => ?_
        have hhead := List.all_eq_true.1 hall other ho
        rcases other with _ | ⟨start, behind⟩
        · rfl
        · obtain rfl : start = item := by simpa using hhead
          simp [capturesAll, hitem]
      refine ⟨?_, ?_⟩
      · simpa [capturesAll, hitem] using hshared
      · rw [hremaining, List.flatMap_cons, List.flatMap_cons, htails]
        simp [capturesAll, hitem]
    · exact ⟨rfl, rfl⟩

theorem captures_of_members? {items : List Expr} {members : List Member}
    (h : members? items = some members) : capturesAll items = [] := by
  unfold members? at h
  split at h
  · rfl
  · rfl
  · cases h

theorem capturesAll_of_mapM : ∀ {branches : List (List Expr)} {members : List (List Member)},
    branches.mapM members? = some members → branches.flatMap capturesAll = []
  | [], _, _ => rfl
  | first :: rest, members, h => by
    rw [List.mapM_cons] at h
    obtain ⟨found, hf, h⟩ := Option.bind_eq_some_iff.1 h
    obtain ⟨others, ho, -⟩ := Option.bind_eq_some_iff.1 h
    rw [List.flatMap_cons, captures_of_members? hf, capturesAll_of_mapM ho]
    rfl

theorem captures_alternatives (branches : List Expr) :
    (alternatives branches).captures = capturesAll branches := by
  induction branches with
  | nil => rfl
  | cons first rest ih => simp [alternatives, captures, ih]

theorem capturesAll_joined : ∀ branches : List (List Expr),
    capturesAll (joined branches) = branches.flatMap capturesAll
  | [] => rfl
  | [only] => by simp [joined]
  | first :: second :: others => by
    obtain ⟨hshared, hremaining⟩ := capturesAll_commonStart first (second :: others)
    rw [← hremaining, joined]
    · rcases hm : (commonStart first (second :: others)).2.mapM members? with _ | members
      · simp [hm, hshared, captures_alternatives, captures_ofItems, List.flatMap_map]
      · simp [hm, hshared, capturesAll_of_mapM hm, captures]
    · simp

end Expr

/-! ## Readers that open groups -/

/-- A reader that has opened the groups from `n` on, and gives what holds them behind others. -/
def Reader.Opens {α : Type} (n : ℕ) (reader : Reader α) (before : List ℕ) (groups : α → List ℕ) :
    Prop :=
  ∀ reading result after, reading.groups.length = n → reader reading = .ok (result, after) →
    ∃ k, after.groups.length = n + k ∧ groups result = before ++ List.range' (n + 1) k

namespace Reader

variable {α β : Type} {n : ℕ} {before : List ℕ} {P : α → Prop} {groups : α → List ℕ}
  {further : β → List ℕ}

theorem opens_of_yields {reader : Reader α} (h : Yields n reader fun a => groups a = before) :
    Opens n reader before groups := by
  intro reading result after hn hr
  obtain ⟨ha, hg⟩ := h reading result after hn hr
  exact ⟨0, ha, by rw [hg, List.range'_zero, List.append_nil]⟩

theorem opens_pure {a : α} (h : groups a = before) : Opens n (pure a : Reader α) before groups :=
  opens_of_yields (yields_pure h)

theorem opens_pure_bind {a : α} {rest : α → Reader β} (h : Opens n (rest a) before further) :
    Opens n (pure a >>= rest) before further := h

theorem opens_fail (error : Error) : Opens n (fail error : Reader α) before groups :=
  opens_of_yields (yields_fail error)

/-- The groups that come later have the greater numbers. -/
theorem opens_bind {reader : Reader α} {rest : α → Reader β} (h : Opens n reader [] groups)
    (hr : ∀ a k, Opens (n + k) (rest a) (before ++ groups a) further) :
    Opens n (reader >>= rest) before further := by
  intro reading result after hn he
  obtain ⟨⟨a, between⟩, ha, he⟩ := Except.bind_eq_ok_iff.1 he
  obtain ⟨k, hk, hg⟩ := h reading a between hn ha
  obtain ⟨j, hj, hf⟩ := hr a k between result after hk he
  refine ⟨k + j, by omega, ?_⟩
  rw [hf, hg, List.nil_append, List.append_assoc, Nat.add_right_comm, List.range'_append_1]

theorem opens_of_yields_bind {reader : Reader α} {rest : α → Reader β} (h : Yields n reader P)
    (hr : ∀ a, P a → Opens n (rest a) before further) :
    Opens n (reader >>= rest) before further := by
  intro reading result after hn he
  obtain ⟨⟨a, between⟩, ha, he⟩ := Except.bind_eq_ok_iff.1 he
  obtain ⟨hb, hp⟩ := h reading a between hn ha
  exact hr a hp between result after hb he

theorem opens_ite {c : Prop} [Decidable c] {first second : Reader α}
    (hf : c → Opens n first before groups) (hs : ¬c → Opens n second before groups) :
    Opens n (if c then first else second) before groups := by
  split_ifs with hc
  · exact hf hc
  · exact hs hc

end Reader

variable {n : ℕ}

/-- The group that is opened next has the next number. -/
theorem opens_modify {change : Reading → Reading}
    (h : ∀ reading, (change reading).groups.length = reading.groups.length + 1) :
    Opens n (modify change : Reader PUnit) [] fun _ => [n + 1] := by
  intro reading result after hn hr
  obtain ⟨-, rfl⟩ := Prod.mk.inj (Except.ok.inj hr)
  exact ⟨1, by rw [h, hn], rfl⟩

theorem opens_openGroup (name : Option Text) : Opens n (openGroup name) [] fun index => [index] := by
  refine opens_of_yields_bind yields_get fun reading hn => ?_
  rcases name with _ | name
  · exact opens_bind (opens_modify fun _ => by simp) fun _ _ => opens_pure (by rw [hn]; rfl)
  · refine opens_of_yields_bind yields_get fun _ _ => ?_
    split
    · exact opens_of_yields (yields_fail_bind _ _)
    · exact opens_bind (opens_modify fun _ => by simp) fun _ _ => opens_pure (by rw [hn]; rfl)

theorem yields_closeGroup (index : ℕ) (width : Width) :
    Yields n (closeGroup index width) fun _ => True :=
  yields_modify fun reading => by simp

mutual

theorem opens_sequence : ∀ (fuel : ℕ) (place : Place) (items : List Expr) {n : ℕ},
    Opens n (sequence fuel place items) (Expr.capturesAll items.reverse) Expr.capturesAll
  | 0, _, _, _ => opens_fail _
  | fuel + 1, place, items, n => by
    have ih (place : Place) (items : List Expr) {n : ℕ} :
        Opens n (sequence fuel place items) (Expr.capturesAll items.reverse) Expr.capturesAll :=
      opens_sequence fuel place items
    have hitem (item : Expr) {n : ℕ} : Opens n (sequence fuel place (item :: items))
        (Expr.capturesAll items.reverse ++ item.captures) Expr.capturesAll := by
      have h := @ih place (item :: items) n
      rwa [Expr.capturesAll, List.reverse_cons, List.flatMap_append, List.flatMap_singleton] at h
    have hquiet {item : Expr} (hi : item.captures = []) {n : ℕ} :
        Opens n (sequence fuel place (item :: items)) (Expr.capturesAll items.reverse)
          Expr.capturesAll := by
      have h := @hitem item n
      rwa [hi, List.append_nil] at h
    have hstop : Opens n (pure (Expr.spliced items.reverse) : Reader (List Expr))
        (Expr.capturesAll items.reverse) Expr.capturesAll :=
      opens_pure (Expr.capturesAll_spliced _)
    refine opens_of_yields_bind yields_peek fun token _ => ?_
    split
    · exact hstop
    · exact hstop
    · exact hstop
    · refine opens_of_yields_bind yields_next fun _ _ => ?_
      split
      · exact opens_of_yields_bind (yields_escape _) fun item hi => hquiet hi
      · refine opens_ite (fun _ => ih _ _) fun _ => opens_ite (fun _ => ?_) fun _ => ?_
        · exact opens_of_yields_bind yields_get fun _ _ =>
            opens_of_yields_bind (yields_skipLine _) fun _ _ => ih _ _
        refine opens_ite (fun _ => ?_) fun _ => ?_
        · exact opens_of_yields_bind yields_characterSet fun item hi => hquiet hi
        refine opens_ite (fun _ => hquiet rfl) fun _ => opens_ite (fun _ => hquiet rfl) fun _ => ?_
        refine opens_ite (fun _ => hquiet rfl) fun _ => opens_ite (fun _ => ?_) fun _ => ?_
        · refine opens_of_yields_bind yields_opening fun opened ho => ?_
          split
          · exact ih _ _
          · refine opens_ite (fun _ => opens_of_yields (yields_fail_bind _ _)) fun _ => ?_
            exact opens_of_yields_bind yields_get fun _ _ => ih _ _
          · exact opens_bind (opens_contents fuel place opened ho) fun item k => hitem item
        · refine opens_ite (fun _ => ?_) fun _ => hquiet rfl
          refine opens_of_yields_bind (yields_repetition? _) fun bounds _ => ?_
          rcases bounds with _ | ⟨least, most⟩
          · exact hquiet rfl
          · refine opens_of_yields_bind (yields_repeated least most items) fun result hr => ?_
            have h := @ih place result n
            rwa [Expr.capturesAll, hr] at h

theorem opens_contents : ∀ (fuel : ℕ) (place : Place) (opened : Opening) {n : ℕ},
    opened.IsQuiet → Opens n (contents fuel place opened) [] Expr.captures
  | 0, _, _, _, _ => opens_fail _
  | fuel + 1, place, opened, n, h => by
    have ih (place : Place) {n : ℕ} :
        Opens n (alternatives fuel place []) [] Expr.captures := opens_alternatives fuel place []
    cases opened with
    | item held => exact opens_pure h
    | capture name =>
      refine opens_bind (opens_openGroup name) fun index j => opens_bind (ih _) fun body k => ?_
      refine opens_of_yields_bind yields_closing fun _ _ => ?_
      exact opens_of_yields_bind (yields_closeGroup _ _) fun _ _ => opens_pure rfl
    | scope added removed =>
      refine opens_bind (ih _) fun body k => ?_
      exact opens_of_yields_bind yields_closing fun _ _ => opens_pure rfl
    | atomic =>
      refine opens_bind (ih _) fun body k => ?_
      exact opens_of_yields_bind yields_closing fun _ _ => opens_pure rfl
    | look behind positive =>
      have hlast (outer : Option ℕ) : Opens n (do
          let body ← alternatives fuel { verbose := place.verbose } []
          modify fun r => { r with behind := outer }
          closing
          return .look behind positive body) [] Expr.captures := by
        refine opens_bind (ih _) fun body k => ?_
        refine opens_of_yields_bind (yields_modify fun _ => rfl) fun _ _ => ?_
        exact opens_of_yields_bind yields_closing fun _ _ => opens_pure rfl
      refine opens_of_yields_bind yields_get fun reading _ => opens_ite (fun _ => ?_) fun _ => ?_
      · exact opens_of_yields_bind (yields_modify fun _ => rfl) fun _ _ => hlast _
      · exact hlast _
    | conditional group =>
      have hlast (yes no : List Expr) {n : ℕ} : Opens n (do
          closing
          return .conditional group (.ofItems yes) (.ofItems no))
          (Expr.capturesAll yes ++ Expr.capturesAll no) Expr.captures :=
        opens_of_yields_bind yields_closing fun _ _ => opens_pure (by
          rw [Expr.captures, Expr.captures_ofItems, Expr.captures_ofItems])
      refine opens_bind (opens_sequence fuel _ []) fun yes j => ?_
      refine opens_of_yields_bind (yields_accept _) fun other _ => ?_
      refine opens_ite (fun _ => ?_) fun _ => ?_
      · refine opens_bind (opens_sequence fuel _ []) fun no k => ?_
        refine opens_of_yields_bind yields_peek fun token _ => opens_ite (fun _ => ?_) fun _ => ?_
        · exact opens_of_yields (yields_fail_bind _ _)
        · exact opens_pure_bind (hlast yes no)
      · have h := @hlast yes [] (n + j)
        rw [show Expr.capturesAll [] = [] from rfl, List.append_nil] at h
        exact opens_pure_bind h
    | nothing => exact opens_pure rfl
    | globalFlags => exact opens_pure rfl

theorem opens_alternatives : ∀ (fuel : ℕ) (place : Place) (before : List (List Expr)) {n : ℕ},
    Opens n (alternatives fuel place before) (before.flatMap Expr.capturesAll) Expr.captures
  | 0, _, _, _ => opens_fail _
  | fuel + 1, place, before, n => by
    refine opens_bind (opens_sequence fuel place []) fun branch k => ?_
    rw [← Expr.capturesAll_concat]
    refine opens_of_yields_bind (yields_accept _) fun more _ => opens_ite (fun _ => ?_) fun _ => ?_
    · exact opens_alternatives fuel _ _
    · exact opens_pure (by rw [Expr.captures_ofItems, Expr.capturesAll_joined])

end

/-- The alternatives of the whole pattern, of which those before have been read. -/
theorem opens_topAlternatives : ∀ (fuel : ℕ) (before : List (List Expr)) {n : ℕ},
    Opens n (topAlternatives fuel before) (before.flatMap Expr.capturesAll) Expr.captures
  | 0, _, _ => opens_fail _
  | fuel + 1, before, n => by
    refine opens_of_yields_bind yields_get fun _ _ => opens_of_yields_bind yields_get fun _ _ => ?_
    refine opens_bind (opens_sequence _ _ []) fun branch k => ?_
    rw [← Expr.capturesAll_concat]
    refine opens_of_yields_bind (yields_accept _) fun more _ => opens_ite (fun _ => ?_) fun _ => ?_
    · exact opens_topAlternatives fuel _
    · exact opens_pure (by rw [Expr.captures_ofItems, Expr.capturesAll_joined])

theorem opens_wholePattern {n : ℕ} : Opens n wholePattern [] Expr.captures := by
  refine opens_of_yields_bind yields_get fun _ _ => opens_bind (opens_topAlternatives _ []) ?_
  intro expr k
  refine opens_of_yields_bind yields_get fun reading _ => opens_ite (fun _ => ?_) fun _ => ?_
  · exact opens_of_yields_bind (yields_throw (P := fun _ => False) _) fun _ h => h.elim
  · refine opens_of_yields_bind yields_peek fun token _ => opens_ite (fun _ => ?_) fun _ => ?_
    · exact opens_of_yields (yields_fail_bind _ _)
    · split
      · exact opens_fail _
      · exact opens_pure rfl

/-- The groups of a pattern are numbered one by one, in the order in which they open. -/
theorem Pattern.captures_of_compile {source : Text} {p : Pattern} (h : compile source = .ok p) :
    p.node.captures = List.range' 1 p.groups := by
  obtain ⟨⟨expr, reading⟩, hp, h⟩ := Except.bind_eq_ok_iff.1 h
  obtain ⟨rest, -, hp⟩ := Except.bind_eq_ok_iff.1 hp
  obtain ⟨k, hk, hc⟩ := opens_wholePattern { rest } expr reading rfl hp
  rcases hr : expr.resolve reading.flags with error | node
  · simp only [hr] at h
    cases h
  · simp only [hr] at h
    cases h
    rw [Expr.captures_of_resolve hr, hc, hk]
    simp

end FilterTemplate.Regex
