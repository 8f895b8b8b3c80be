import MarkupTidy.Markup.Signed

/-!
# Proofs/Scanning — the scan yields exactly the element tags, in order

`scan` walks a text from left to right, reading a tag at each `<` that no `!` follows. Three
facts make it exact:

* `exists_read?_of_mem_scanFrom` — each tag it yields is the element tag read at its own start;
* `scanFrom_pairwise` — the tags come in document order and never overlap;
* `read?_of_uncovered` — at a position that no yielded tag covers, a reading finds nothing, or a
  comment or a declaration: no element tag is missed.

`scan_exact` puts the three together for a whole text, reading with `readAt`. An element tag
written inside a comment, or after a `<!` that nothing closes, is yielded, since the scan steps
over a `<!` one character at a time instead of reading the comment.
-/

namespace MarkupTidy.Markup

/-! ## What a `<` starts -/

theorem lexeme?_cons_of_ne {c : Char} (rest : List Char) (h : c ≠ '<') :
    lexeme? (c :: rest) = none := by
  unfold lexeme?
  split <;> simp_all

/-- Classification only ever names an element tag. -/
@[simp] theorem isElement_classify (raw : List Char) (name : String) :
    (classify raw name).isElement = true := by
  unfold classify
  split
  · rfl
  · split <;> rfl

/-- An element tag read after its opening `lead` is an element tag whose text starts with it. -/
theorem elementLexeme?_eq_some {lead body : List Char} {k : Kind} {name : String}
    {raw : List Char} (h : elementLexeme? lead body = some (k, name, raw)) :
    k.isElement = true ∧ ∃ tail, raw = lead ++ tail := by
  obtain ⟨⟨n, tail⟩, -, hk⟩ := Option.map_eq_some_iff.1 h
  cases hk
  exact ⟨isElement_classify _ _, _, List.append_assoc _ _ _⟩

/-- **What a tag read at the head of a text can be.** It is read at a `<`, its text starts with that
`<`, and it is an element tag exactly when no `!` follows the `<`. -/
theorem lexeme?_eq_some {s : List Char} {k : Kind} {name : String} {raw : List Char}
    (h : lexeme? s = some (k, name, raw)) :
    ∃ rest tail, s = '<' :: rest ∧ raw = '<' :: tail ∧
      (k.isElement = true ↔ ∀ r, rest ≠ '!' :: r) := by
  unfold lexeme? at h
  split at h
  · cases h
    exact ⟨_, _, rfl, rfl, by simp [Kind.isElement]⟩
  · obtain ⟨d, -, hd⟩ := Option.map_eq_some_iff.1 h
    cases hd
    exact ⟨_, _, rfl, rfl, by simp [Kind.isElement]⟩
  · obtain ⟨hel, tail, rfl⟩ := elementLexeme?_eq_some h
    exact ⟨_, _, rfl, rfl, by simp [hel]⟩
  case h_4 body hbang _ =>
    obtain ⟨hel, tail, rfl⟩ := elementLexeme?_eq_some h
    exact ⟨_, _, rfl, rfl, by simpa [hel] using hbang⟩
  · simp at h

/-- A `<!` starts a comment, a declaration or nothing, never an element tag. -/
theorem isElement_of_lexeme?_bang {rest : List Char} {k : Kind} {name : String} {raw : List Char}
    (h : lexeme? ('<' :: '!' :: rest) = some (k, name, raw)) : k.isElement = false := by
  obtain ⟨_, _, hs, -, hel⟩ := lexeme?_eq_some h
  cases hs
  simpa using hel

/-- A `<` that no `!` follows starts an element tag, when it starts a tag. -/
theorem isElement_of_lexeme? {rest : List Char} (hbang : ∀ r, rest ≠ '!' :: r) {k : Kind}
    {name : String} {raw : List Char} (h : lexeme? ('<' :: rest) = some (k, name, raw)) :
    k.isElement = true := by
  obtain ⟨_, _, hs, -, hel⟩ := lexeme?_eq_some h
  cases hs
  exact hel.2 hbang

theorem length_pos_of_lexeme? {s : List Char} {k : Kind} {name : String} {raw : List Char}
    (h : lexeme? s = some (k, name, raw)) : 0 < raw.length := by
  obtain ⟨_, _, -, rfl, -⟩ := lexeme?_eq_some h
  simp

/-! ## Tags and positions -/

/-- A tag covers the positions from its start up to, not including, its stop. -/
def Tag.Covers (t : Tag) (p : Nat) : Prop := t.start ≤ p ∧ p < t.stop

/-- The text after a tag's `<` and the rest of the tag. -/
theorem drop_raw_length {rest : List Char} {raw : List Char} (h : 0 < raw.length) (i : Nat) :
    (rest.drop (raw.length - 1)).drop i = ('<' :: rest).drop (raw.length + i) := by
  obtain ⟨n, hn⟩ : ∃ n, raw.length = n + 1 := ⟨raw.length - 1, by omega⟩
  rw [hn, List.drop_drop, Nat.add_sub_cancel, Nat.add_right_comm, List.drop_succ_cons,
    Nat.add_comm]

/-- A reading one character further on, seen from the position before. -/
theorem read?_drop_succ (c : Char) (rest : List Char) (pos i : Nat) :
    read? ((c :: rest).drop (i + 1)) (pos + (i + 1)) = read? (rest.drop i) (pos + 1 + i) := by
  rw [List.drop_succ_cons, Nat.add_comm i 1, Nat.add_assoc]

/-! ## Soundness and order -/

/-- Every tag scanned from a position starts at or after it. -/
theorem le_start_of_mem_scanFrom {s : List Char} {pos : Nat} :
    ∀ t ∈ scanFrom s pos, (pos : Int) ≤ t.start := by
  fun_induction scanFrom s pos with
  | case1 => simp
  | case2 pos rest ih => intro t ht; have := ih t ht; omega
  | case3 pos rest _ k name raw _ ih =>
    intro t ht
    rcases List.mem_cons.1 ht with rfl | ht
    · exact Int.le_refl _
    · have := ih t ht; omega
  | case4 pos rest _ _ ih => intro t ht; have := ih t ht; omega
  | case5 pos c rest _ _ ih => intro t ht; have := ih t ht; omega

/-- **The scanned tags never overlap**: each stops at or before the start of every later one. -/
theorem scanFrom_pairwise (s : List Char) (pos : Nat) :
    (scanFrom s pos).Pairwise fun a b => (a.stop : Int) ≤ b.start := by
  fun_induction scanFrom s pos with
  | case1 => simp
  | case2 _ _ ih => exact ih
  | case3 pos rest _ k name raw _ ih =>
    refine List.pairwise_cons.2 ⟨fun b hb => ?_, ih⟩
    exact le_start_of_mem_scanFrom b hb
  | case4 _ _ _ _ ih => exact ih
  | case5 _ _ _ _ _ ih => exact ih

/-- A tag scanned one character further on, seen from the position before. -/
theorem exists_read?_succ {c : Char} {rest : List Char} {pos : Nat} {t : Tag}
    (h : ∃ i, t.start = ((pos + 1 + i : Nat) : Int) ∧ read? (rest.drop i) (pos + 1 + i) = some t ∧
      t.kind.isElement = true) :
    ∃ i, t.start = ((pos + i : Nat) : Int) ∧ read? ((c :: rest).drop i) (pos + i) = some t ∧
      t.kind.isElement = true := by
  obtain ⟨i, hstart, hread, hel⟩ := h
  refine ⟨i + 1, by rw [hstart]; omega, ?_, hel⟩
  rw [read?_drop_succ]
  exact hread

/-- **Every scanned tag is the element tag read at its start.** -/
theorem exists_read?_of_mem_scanFrom {s : List Char} {pos : Nat} :
    ∀ t ∈ scanFrom s pos, ∃ i, t.start = ((pos + i : Nat) : Int) ∧
      read? (s.drop i) (pos + i) = some t ∧ t.kind.isElement = true := by
  fun_induction scanFrom s pos with
  | case1 => simp
  | case2 pos rest ih => exact fun t ht => exists_read?_succ (ih t ht)
  | case3 pos rest hbang k name raw hlex ih =>
    intro t ht
    rcases List.mem_cons.1 ht with rfl | ht
    · exact ⟨0, rfl, by simp [read?, hlex], isElement_of_lexeme? (fun r h => hbang r h) hlex⟩
    · obtain ⟨i, hstart, hread, hel⟩ := ih t ht
      refine ⟨raw.length + i, by rw [hstart]; omega, ?_, hel⟩
      rw [← drop_raw_length (length_pos_of_lexeme? hlex), ← Nat.add_assoc]
      exact hread
  | case4 pos rest _ _ ih => exact fun t ht => exists_read?_succ (ih t ht)
  | case5 pos c rest _ _ ih => exact fun t ht => exists_read?_succ (ih t ht)

/-! ## Completeness -/

/-- What holds one character further on holds at the position after the first. -/
theorem read?_uncovered_succ {c : Char} {rest : List Char} {pos : Nat} {tags : List Tag}
    (ih : ∀ i, (∀ t ∈ tags, ¬ t.Covers (pos + 1 + i)) →
      ∀ t ∈ read? (rest.drop i) (pos + 1 + i), t.kind.isElement = false)
    (i : Nat) (hcov : ∀ t ∈ tags, ¬ t.Covers (pos + (i + 1))) :
    ∀ t ∈ read? ((c :: rest).drop (i + 1)) (pos + (i + 1)), t.kind.isElement = false := by
  rw [read?_drop_succ]
  rw [show pos + (i + 1) = pos + 1 + i by omega] at hcov
  exact ih i hcov

/-- **No element tag is missed.** At a position that no scanned tag covers, the tag read there, if
any, is a comment or a declaration. The induction follows the scan: a position before its next
stop is either the `<` it reads from, a `<!`, or a character that starts nothing, and the
positions inside a yielded tag are covered by it. -/
theorem read?_of_uncovered (s : List Char) (pos : Nat) :
    ∀ i, (∀ t ∈ scanFrom s pos, ¬ t.Covers (pos + i)) →
      ∀ t ∈ read? (s.drop i) (pos + i), t.kind.isElement = false := by
  fun_induction scanFrom s pos with
  | case1 => intro i _ t ht; simp [read?, lexeme?] at ht
  | case2 pos rest ih =>
    rintro (_ | i) hcov t ht
    · obtain ⟨⟨k, n, raw⟩, hlex, rfl⟩ := Option.map_eq_some_iff.1 ht
      exact isElement_of_lexeme?_bang hlex
    · exact read?_uncovered_succ ih i hcov t ht
  | case3 pos rest _ k name raw hlex ih =>
    intro i hcov t ht
    by_cases hi : i < raw.length
    · have hin : Tag.Covers ⟨name, k, String.ofList raw, pos, pos + raw.length⟩ (pos + i) :=
        ⟨show (pos : Int) ≤ ((pos + i : Nat) : Int) by omega, show pos + i < pos + raw.length by omega⟩
      exact absurd hin (hcov _ List.mem_cons_self)
    · obtain ⟨j, rfl⟩ : ∃ j, i = raw.length + j := ⟨i - raw.length, by omega⟩
      refine ih j (fun t' ht' => ?_) t ?_
      · simpa [Nat.add_assoc] using hcov t' (List.mem_cons_of_mem _ ht')
      · rw [drop_raw_length (length_pos_of_lexeme? hlex), Nat.add_assoc]
        exact ht
  | case4 pos rest _ hnone ih =>
    rintro (_ | i) hcov t ht
    · simp [read?, hnone] at ht
    · exact read?_uncovered_succ ih i hcov t ht
  | case5 pos c rest _ hc ih =>
    rintro (_ | i) hcov t ht
    · simp [read?, lexeme?_cons_of_ne rest hc] at ht
    · exact read?_uncovered_succ ih i hcov t ht

/-! ## The scan of a text -/

/-- **The scan of a text is exact.** Each tag it yields is the element tag that a reading at its
start finds; the tags come left to right without overlapping; and at every position that none of
them covers, a reading finds nothing, or a comment or a declaration. -/
theorem scan_exact (text : String) :
    (∀ t ∈ scan text, readAt text.toList t.start = .ok (some t) ∧ t.kind.isElement = true) ∧
    (scan text).Pairwise (fun a b => (a.stop : Int) ≤ b.start) ∧
    ∀ p : Nat, (∀ t ∈ scan text, ¬ t.Covers p) →
      ∃ r, readAt text.toList p = .ok r ∧ ∀ t ∈ r, t.kind.isElement = false := by
  refine ⟨fun t ht => ?_, scanFrom_pairwise _ 0, fun p hp => ?_⟩
  · obtain ⟨i, hstart, hread, hel⟩ := exists_read?_of_mem_scanFrom t ht
    rw [hstart, readAt_ofNat, Nat.zero_add] at *
    exact ⟨by rw [hread], hel⟩
  · refine ⟨_, readAt_ofNat _ p, ?_⟩
    simpa using read?_of_uncovered text.toList 0 p (by simpa [scan] using hp)

end MarkupTidy.Markup
