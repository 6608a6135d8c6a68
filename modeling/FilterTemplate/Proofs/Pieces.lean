import Mathlib
import FilterTemplate.Proofs.Escape

/-!
# The pieces of a chain and their raw texts

A text without separators of its own is one piece (`isRaw`), and a chain's text is such raw texts
with separators between them (`exists_raws`). Its pieces stand where the raw texts stand
(`pieces_joinRaw`), so what stands behind a separator is cut as if it stood alone
(`placePieces_append`).
-/

namespace FilterTemplate

@[simp] theorem Piece.stop_behind (piece : Piece) (chars : List (Char × ℕ)) (start : ℕ) :
    (piece.behind chars start).stop = piece.stop := rfl

namespace Delimiters

variable (d : Delimiters)

/-! ## Escapes and the characters behind them -/

/-- Whether every escape has a character behind it, which it takes with it, and all other characters
have the property. -/
def allBare (p : Char → Bool) : Text → Bool
  | [] => true
  | c :: rest =>
    if c = d.escape then
      match rest with
      | [] => false
      | _ :: behind => allBare p behind
    else p c && allBare p rest

/-- Whether every escape has a character behind it. -/
def isPaired (text : Text) : Bool := d.allBare (fun _ => true) text

section Bare

variable {p : Char → Bool}

theorem allBare_escape (next : Char) (behind : Text) :
    d.allBare p (d.escape :: next :: behind) = d.allBare p behind := by
  rw [allBare.eq_def]
  simp

theorem allBare_plain {c : Char} (h : c ≠ d.escape) (rest : Text) :
    d.allBare p (c :: rest) = (p c && d.allBare p rest) := by
  rw [allBare.eq_def]
  simp [h]

@[simp] theorem allBare_escape_end : d.allBare p [d.escape] = false := by simp [allBare]

@[simp] theorem isPaired_escape_end : d.isPaired [d.escape] = false := d.allBare_escape_end

theorem isPaired_escape (next : Char) (behind : Text) :
    d.isPaired (d.escape :: next :: behind) = d.isPaired behind :=
  d.allBare_escape next behind

theorem isPaired_plain {c : Char} (h : c ≠ d.escape) (rest : Text) :
    d.isPaired (c :: rest) = d.isPaired rest :=
  (d.allBare_plain h rest).trans (Bool.true_and _)

theorem isPaired_of_allBare : ∀ {text : Text}, d.allBare p text → d.isPaired text
  | [], _ => rfl
  | c :: text, h => by
    by_cases he : c = d.escape
    · subst he
      rcases text with _ | ⟨next, behind⟩
      · simp at h
      · rw [allBare_escape] at h
        rw [isPaired_escape]
        exact isPaired_of_allBare h
    · rw [d.allBare_plain he, Bool.and_eq_true] at h
      rw [d.isPaired_plain he]
      exact isPaired_of_allBare h.2

/-- No escape of the first text reaches into the second one. -/
theorem allBare_append (second : Text) : ∀ {first : Text}, d.isPaired first →
    d.allBare p (first ++ second) = (d.allBare p first && d.allBare p second)
  | [], _ => rfl
  | c :: first, h => by
    by_cases he : c = d.escape
    · subst he
      rcases first with _ | ⟨next, behind⟩
      · simp at h
      · rw [isPaired_escape] at h
        rw [List.cons_append, List.cons_append, allBare_escape, allBare_escape,
          allBare_append second h]
    · rw [d.isPaired_plain he] at h
      rw [List.cons_append, d.allBare_plain he, d.allBare_plain he, allBare_append second h,
        Bool.and_assoc]

end Bare

theorem isPaired_append (second : Text) {first : Text} (h : d.isPaired first) :
    d.isPaired (first ++ second) = d.isPaired second := by
  have ha : d.isPaired (first ++ second) = (d.isPaired first && d.isPaired second) :=
    d.allBare_append second h
  rw [ha, h, Bool.true_and]

theorem isBody_eq_allBare : ∀ body : Text, d.isBody body = d.allBare (fun c => !d.bounds c) body
  | [] => rfl
  | c :: body => by
    by_cases he : c = d.escape
    · subst he
      rcases body with _ | ⟨next, behind⟩
      · simp [isBody]
      · rw [isBody_escape, allBare_escape, isBody_eq_allBare behind]
    · rw [d.isBody_plain he, d.allBare_plain he, isBody_eq_allBare body]

theorem isPaired_of_isBody {body : Text} (h : d.isBody body) : d.isPaired body :=
  d.isPaired_of_allBare (d.isBody_eq_allBare body ▸ h)

theorem isBody_append (second : Text) {first : Text} (h : d.isPaired first) :
    d.isBody (first ++ second) = (d.isBody first && d.isBody second) := by
  rw [isBody_eq_allBare, isBody_eq_allBare, isBody_eq_allBare, d.allBare_append second h]

theorem isBody_separator (rest : Text) : d.isBody (d.separator :: rest) = d.isBody rest := by
  rw [d.isBody_plain d.separator_ne_escape, bounds_separator]
  rfl

/-! ## Raw texts -/

/-- Whether a text makes up one piece: no character that is not taken by an escape is a
separator. -/
def isRaw (text : Text) : Bool := d.allBare (fun c => c ≠ d.separator) text

/-- The characters that a raw text at position `i` stands for. -/
def resolve : Text → ℕ → List (Char × ℕ)
  | [], _ => []
  | c :: rest, i =>
    if c = d.escape then
      match rest with
      | [] => []
      | next :: behind => d.escaped next i ++ resolve behind (i + 2)
    else (c, i) :: resolve rest (i + 1)

/-- The piece that a raw text at position `i` makes up. -/
def rawPiece (raw : Text) (i : ℕ) : Piece := ⟨d.resolve raw i, i, i + raw.length⟩

/-- The pieces that raw texts make up if they stand one separator apart from position `i` on. -/
def placePieces : ℕ → List Text → List Piece
  | _, [] => []
  | i, raw :: rest => d.rawPiece raw i :: placePieces (i + raw.length + 1) rest

/-- Raw texts with separators between them. -/
def joinRaw (raws : List Text) : Text := Text.joinWith [d.separator] raws

/-- Raw texts with a separator behind each of them. -/
def separated (raws : List Text) : Text := raws.flatMap (· ++ [d.separator])

theorem isRaw_escape (next : Char) (behind : Text) :
    d.isRaw (d.escape :: next :: behind) = d.isRaw behind :=
  d.allBare_escape next behind

theorem isRaw_plain {c : Char} (h : c ≠ d.escape) (rest : Text) :
    d.isRaw (c :: rest) = (decide (c ≠ d.separator) && d.isRaw rest) :=
  d.allBare_plain h rest

@[simp] theorem isRaw_escape_end : d.isRaw [d.escape] = false := d.allBare_escape_end

@[simp] theorem isRaw_nil : d.isRaw [] = true := rfl

theorem resolve_escape (next : Char) (behind : Text) (i : ℕ) :
    d.resolve (d.escape :: next :: behind) i = d.escaped next i ++ d.resolve behind (i + 2) := by
  rw [resolve.eq_def]
  simp

theorem resolve_plain {c : Char} (h : c ≠ d.escape) (rest : Text) (i : ℕ) :
    d.resolve (c :: rest) i = (c, i) :: d.resolve rest (i + 1) := by
  rw [resolve.eq_def]
  simp [h]

theorem isPaired_of_isRaw {raw : Text} (h : d.isRaw raw) : d.isPaired raw := d.isPaired_of_allBare h

@[simp] theorem joinRaw_singleton (raw : Text) : d.joinRaw [raw] = raw := rfl

theorem joinRaw_cons_cons (first second : Text) (rest : List Text) :
    d.joinRaw (first :: second :: rest)
      = first ++ d.separator :: d.joinRaw (second :: rest) := by
  simp [joinRaw, Text.joinWith]

/-- What stands in front of raw texts goes into the first of them. -/
theorem joinRaw_cons_append (front raw : Text) (rest : List Text) :
    front ++ d.joinRaw (raw :: rest) = d.joinRaw ((front ++ raw) :: rest) := by
  rcases rest with _ | ⟨second, rest⟩
  · rfl
  · rw [joinRaw_cons_cons, joinRaw_cons_cons, List.append_assoc]

/-- Behind the first of raw texts there is nothing, or a separator. -/
theorem exists_joinRaw_cons (raw : Text) (rest : List Text) :
    ∃ tail, d.joinRaw (raw :: rest) = raw ++ tail
      ∧ (tail = [] ∨ ∃ text, tail = d.separator :: text) := by
  rcases rest with _ | ⟨second, rest⟩
  · exact ⟨[], (List.append_nil raw).symm, .inl rfl⟩
  · exact ⟨_, d.joinRaw_cons_cons raw second rest, .inr ⟨_, rfl⟩⟩

theorem separated_cons (raw : Text) (rest : List Text) :
    d.separated (raw :: rest) = raw ++ d.separator :: d.separated rest := by
  simp [separated]

theorem joinRaw_append (raw : Text) (rest : List Text) : ∀ raws : List Text,
    d.joinRaw (raws ++ raw :: rest) = d.separated raws ++ d.joinRaw (raw :: rest)
  | [] => rfl
  | [first] => by
    rw [List.singleton_append, joinRaw_cons_cons, separated_cons, List.append_assoc]
    rfl
  | first :: second :: raws => by
    have ih := joinRaw_append raw rest (second :: raws)
    rw [List.cons_append] at ih ⊢
    rw [List.cons_append, joinRaw_cons_cons, ih, d.separated_cons first, List.append_assoc,
      List.cons_append]

theorem separated_eq_joinRaw : ∀ (raw : Text) (rest : List Text),
    d.separated (raw :: rest) = d.joinRaw (raw :: rest) ++ [d.separator]
  | raw, [] => by simp [separated]
  | raw, second :: rest => by
    rw [separated_cons, separated_eq_joinRaw second rest, joinRaw_cons_cons, List.append_assoc,
      List.cons_append]

theorem placePieces_append (others : List Text) : ∀ (i : ℕ) (raws : List Text),
    d.placePieces i (raws ++ others)
      = d.placePieces i raws ++ d.placePieces (i + (d.separated raws).length) others
  | _, [] => rfl
  | i, raw :: raws => by
    rw [List.cons_append, placePieces, placePieces_append others, placePieces, separated_cons,
      List.cons_append, List.length_append, List.length_cons]
    congr 3
    omega

theorem isPaired_separated_append (behind : Text) : ∀ {raws : List Text}, (∀ r ∈ raws, d.isRaw r) →
    d.isPaired (d.separated raws ++ behind) = d.isPaired behind
  | [], _ => rfl
  | raw :: raws, h => by
    have hr := d.isPaired_of_isRaw (h raw List.mem_cons_self)
    rw [separated_cons, List.append_assoc, d.isPaired_append _ hr, List.cons_append,
      d.isPaired_plain d.separator_ne_escape,
      isPaired_separated_append behind fun r hr => h r (List.mem_cons_of_mem _ hr)]

theorem isPaired_separated {raws : List Text} (h : ∀ r ∈ raws, d.isRaw r) :
    d.isPaired (d.separated raws) := by
  have hs := d.isPaired_separated_append [] h
  rw [List.append_nil] at hs
  exact hs.trans rfl

/-! ## Cutting at separators -/

/-- Whether a text at position `i` is cut into a first piece and the other ones: character by
character, and an escape together with the character behind it. -/
inductive Cuts : Text → ℕ → Piece → List Piece → Prop
  | nil (i : ℕ) : Cuts [] i ⟨[], i, i⟩ []
  | escape {next : Char} {others : Text} {i : ℕ} {piece : Piece} {more : List Piece} :
    Cuts others (i + 2) piece more →
    Cuts (d.escape :: next :: others) i (piece.behind (d.escaped next i) i) more
  | separator {rest : Text} {i : ℕ} {piece : Piece} {more : List Piece} :
    Cuts rest (i + 1) piece more → Cuts (d.separator :: rest) i ⟨[], i, i⟩ (piece :: more)
  | plain {c : Char} {rest : Text} {i : ℕ} {piece : Piece} {more : List Piece} :
    c ≠ d.escape → c ≠ d.separator → Cuts rest (i + 1) piece more →
    Cuts (c :: rest) i (piece.behind [(c, i)] i) more

theorem cuts_of_pieces : ∀ {text : Text} {i : ℕ} {piece : Piece} {more : List Piece},
    d.pieces text i = .ok (piece, more) → d.Cuts text i piece more
  | [], i, piece, more, h => by
    obtain ⟨rfl, rfl⟩ := Prod.mk.inj (Except.ok.inj h)
    exact .nil i
  | c :: rest, i, piece, more, h => by
    by_cases he : c = d.escape
    · subst he
      rcases rest with _ | ⟨next, others⟩
      · simp [pieces_escape_end] at h
      · rw [pieces_escape] at h
        obtain ⟨⟨first, others⟩, hf, hp⟩ := Except.map_eq_ok_iff.1 h
        obtain ⟨rfl, rfl⟩ := Prod.mk.inj hp
        exact .escape (cuts_of_pieces hf)
    · by_cases hs : c = d.separator
      · subst hs
        rw [d.pieces_separator he] at h
        obtain ⟨⟨first, others⟩, hf, hp⟩ := Except.map_eq_ok_iff.1 h
        obtain ⟨rfl, rfl⟩ := Prod.mk.inj hp
        exact .separator (cuts_of_pieces hf)
      · rw [d.pieces_plain he hs] at h
        obtain ⟨⟨first, others⟩, hf, hp⟩ := Except.map_eq_ok_iff.1 h
        obtain ⟨rfl, rfl⟩ := Prod.mk.inj hp
        exact .plain he hs (cuts_of_pieces hf)

theorem start_of_pieces {text : Text} {i : ℕ} {piece : Piece} {more : List Piece}
    (h : d.pieces text i = .ok (piece, more)) : piece.start = i := by
  cases d.cuts_of_pieces h <;> rfl

/-- The characters of a raw text are read into the first piece. -/
theorem pieces_raw_append {rest : Text} {piece : Piece} {more : List Piece} :
    ∀ {raw : Text} {i : ℕ}, d.isRaw raw → d.pieces rest (i + raw.length) = .ok (piece, more) →
      d.pieces (raw ++ rest) i = .ok (piece.behind (d.resolve raw i) i, more)
  | [], i, _, h => by
    have hs := d.start_of_pieces h
    rw [List.length_nil, Nat.add_zero] at h hs
    rw [List.nil_append, h, resolve, Piece.behind, List.nil_append, ← hs]
  | c :: raw, i, hr, h => by
    by_cases he : c = d.escape
    · subst he
      rcases raw with _ | ⟨next, behind⟩
      · simp at hr
      · rw [isRaw_escape] at hr
        rw [List.length_cons, List.length_cons,
          show i + (behind.length + 1 + 1) = i + 2 + behind.length by omega] at h
        have ih := pieces_raw_append hr h
        rw [List.cons_append, List.cons_append, pieces_escape, ih, resolve_escape]
        simp [Piece.behind]
    · rw [d.isRaw_plain he, Bool.and_eq_true, decide_eq_true_eq] at hr
      rw [List.length_cons, show i + (raw.length + 1) = i + 1 + raw.length by omega] at h
      have ih := pieces_raw_append hr.2 h
      rw [List.cons_append, d.pieces_plain he hr.1, ih, d.resolve_plain he]
      simp [Piece.behind]

/-- The pieces of a chain stand where its raw texts stand. -/
theorem pieces_joinRaw : ∀ {raw : Text} {rest : List Text} {i : ℕ},
    (∀ r ∈ raw :: rest, d.isRaw r) →
      d.pieces (d.joinRaw (raw :: rest)) i
        = .ok (d.rawPiece raw i, d.placePieces (i + raw.length + 1) rest)
  | raw, [], i, h => by
    have hend : d.pieces [] (i + raw.length) = .ok (⟨[], i + raw.length, i + raw.length⟩, []) := rfl
    have hp := d.pieces_raw_append (h raw List.mem_cons_self) hend
    rw [List.append_nil] at hp
    rw [joinRaw_singleton, hp]
    simp [Piece.behind, rawPiece, placePieces]
  | raw, second :: rest, i, h => by
    have ih := pieces_joinRaw (i := i + raw.length + 1) fun r hr => h r (List.mem_cons_of_mem _ hr)
    have hs : d.pieces (d.separator :: d.joinRaw (second :: rest)) (i + raw.length)
        = .ok (⟨[], i + raw.length, i + raw.length⟩,
          d.placePieces (i + raw.length + 1) (second :: rest)) := by
      rw [d.pieces_separator d.separator_ne_escape, ih]
      rfl
    rw [joinRaw_cons_cons, d.pieces_raw_append (h raw List.mem_cons_self) hs]
    simp [Piece.behind, rawPiece]

/-- A text is raw texts with separators between them, if its escapes have what they take. -/
theorem exists_raws : ∀ {text : Text}, d.isPaired text →
    ∃ raw rest, (∀ r ∈ raw :: rest, d.isRaw r) ∧ d.joinRaw (raw :: rest) = text
  | [], _ => ⟨[], [], by simp, rfl⟩
  | c :: text, h => by
    by_cases he : c = d.escape
    · subst he
      rcases text with _ | ⟨next, behind⟩
      · simp at h
      · rw [isPaired_escape] at h
        obtain ⟨raw, rest, hr, rfl⟩ := exists_raws h
        refine ⟨d.escape :: next :: raw, rest, ?_, (d.joinRaw_cons_append [_, _] raw rest).symm⟩
        simpa [isRaw_escape] using hr
    · rw [d.isPaired_plain he] at h
      obtain ⟨raw, rest, hr, rfl⟩ := exists_raws h
      by_cases hs : c = d.separator
      · subst hs
        refine ⟨[], raw :: rest, ?_, d.joinRaw_cons_cons [] raw rest⟩
        simpa using hr
      · refine ⟨c :: raw, rest, ?_, (d.joinRaw_cons_append [c] raw rest).symm⟩
        simpa [d.isRaw_plain he, hs] using hr

end Delimiters

end FilterTemplate
