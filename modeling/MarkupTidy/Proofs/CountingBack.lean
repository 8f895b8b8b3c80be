import MarkupTidy.Proofs.Reading

/-!
# Proofs/CountingBack — reading at a position counted back from the end

A position `q - n` of a text of `n` characters, below zero, counts back from the end and stands
for the position `q`. A reading there resolves each of its steps on its own: the test for `<`,
every search, every cut and every look at one character. Each step's position is `q - n` plus
what the reading has passed, and it resolves to `q` plus the same, as long as that stays below
the end of the text. So the reading at `q - n` is the reading at `q`, with its start reported as
given, whenever the text goes on after the opening of the tag at `q` (`readAt_counting_back`):
after the `<!--` of a comment, the `<!` of a declaration, or the `<`, optional `/` and name of an
element tag (`openingEnd`).

Without that, a search starts at position zero and runs over the text from its beginning: at
`-4` in `a--><!--` the comment stops at the `-->` before it, and its text is empty
(`readAt_counting_back_comment_wraps`).

The bridge from the searches of the reading to first occurrences in the whole text is
`firstFrom_of_indexFrom` and `not_occursFrom_of_indexFrom`; the element's name runs to
`nameEnd_sub_length`.
-/

namespace MarkupTidy.Markup

open MarkupTidy.Text

/-! ## Searches -/

/-- What a search finds is the first occurrence from where it starts. -/
theorem indexFrom_eq_some {pat s : List Char} {i c : Nat} (h : indexFrom pat s i = some c) :
    i ≤ c ∧ FirstFrom s pat 0 (c - i) := by
  induction s generalizing i with
  | nil =>
    simp only [indexFrom] at h
    split at h
    · cases h
      subst pat
      exact ⟨le_rfl, Nat.zero_le _, List.nil_prefix, fun j hj _ => absurd hj (by omega)⟩
    · cases h
  | cons x rest ih =>
    simp only [indexFrom] at h
    split at h
    · rename_i hpat
      cases h
      exact ⟨le_rfl, Nat.zero_le _, by simpa using List.isPrefixOf_iff_prefix.1 hpat,
        fun j hj _ => absurd hj (by omega)⟩
    · rename_i hpat
      obtain ⟨hle, hfirst⟩ := ih h
      have hsucc : c - i = c - (i + 1) + 1 := by omega
      refine ⟨by omega, ?_⟩
      rw [hsucc]
      exact firstFrom_cons_succ.2 ⟨fun hp => hpat (List.isPrefixOf_iff_prefix.2 hp), hfirst⟩

/-- A search that finds nothing has nothing to find. -/
theorem indexFrom_eq_none {pat s : List Char} {i : Nat} (h : indexFrom pat s i = none) :
    ¬ OccursFrom s pat 0 := by
  induction s generalizing i with
  | nil =>
    simp only [indexFrom] at h
    split at h
    · cases h
    · rename_i hpat
      rintro ⟨j, -, hj⟩
      exact hpat (List.eq_nil_of_prefix_nil (by simpa using hj))
  | cons x rest ih =>
    simp only [indexFrom] at h
    split at h
    · cases h
    · rename_i hpat
      rw [occursFrom_cons]
      rintro (hp | ho)
      · exact hpat (List.isPrefixOf_iff_prefix.2 hp)
      · exact ih h ho

/-- A search of the text after `i`, counting from `i`, finds the first occurrence at or after
`i`. -/
theorem firstFrom_of_indexFrom {text pat : List Char} {i c : Nat}
    (h : indexFrom pat (text.drop i) i = some c) : FirstFrom text pat i c :=
  firstFrom_iff_drop.2 (indexFrom_eq_some h)

theorem not_occursFrom_of_indexFrom {text pat : List Char} {i : Nat}
    (h : indexFrom pat (text.drop i) i = none) : ¬ OccursFrom text pat i :=
  fun ho => indexFrom_eq_none h (occursFrom_iff_drop.1 ho)

/-- An occurrence lies within the text. -/
theorem FirstFrom.add_length_le {text pat : List Char} {i c : Nat} (hpat : pat ≠ [])
    (h : FirstFrom text pat i c) : c + pat.length ≤ text.length := by
  have hle := h.2.1.length_le
  have hpos := List.length_pos_iff.2 hpat
  rw [List.length_drop] at hle
  omega

/-! ## Positions counted back -/

section CountingBack

variable {text : List Char}

/-- A position counted back from the end stands for the position that many characters before the
end. -/
theorem resolve_sub_length {n i : Nat} (h : i < n) : resolve n ((i : Int) - n) = i := by
  unfold resolve
  split <;> omega

/-- A position at or after the start, seen by a cut, stays where it is within the text. -/
theorem resolve_ofNat_of_le {n m : Nat} (h : m ≤ n) : resolve n (m : Int) = m := by
  unfold resolve
  split <;> omega

theorem occursAt_sub_length {pat : List Char} {i : Nat} (h : i < text.length) :
    occursAt text pat ((i : Int) - text.length) = pat.isPrefixOf (text.drop i) := by
  rw [occursAt, resolve_sub_length h]

theorem findFrom_sub_length {pat : List Char} {i : Nat} (h : i < text.length) :
    findFrom text pat ((i : Int) - text.length) = indexFrom pat (text.drop i) i := by
  rw [findFrom, resolve_sub_length h]

/-- A cut from a position counted back to a position within the text is the text between the
positions they stand for. -/
theorem cut_sub_length {i m : Nat} (h : i < text.length) (hm : m ≤ text.length) :
    cut text ((i : Int) - text.length) m = text.extract i m := by
  rw [cut, resolve_sub_length h, resolve_ofNat_of_le hm, List.extract_eq_take_drop]

theorem cut_sub_length_sub_length {i j : Nat} (hi : i < text.length) (hj : j < text.length) :
    cut text ((i : Int) - text.length) ((j : Int) - text.length) = text.extract i j := by
  rw [cut, resolve_sub_length hi, resolve_sub_length hj, List.extract_eq_take_drop]

theorem charAt?_sub_length {i : Nat} (h : i < text.length) :
    charAt? text ((i : Int) - text.length) = text[i]? := by
  unfold charAt?
  rw [if_pos (by omega), if_neg (by omega)]
  congr 1
  omega

/-- **The name runs to the same place.** A run of name characters that starts at a position
counted back, and that the text's end does not cut short, stops where the run at the position it
stands for stops. -/
theorem nameEnd_sub_length (rest : List Char) :
    ∀ i, text.drop i = rest → i + (rest.takeWhile isNameChar).length < text.length →
      nameEnd text ((i : Int) - text.length) =
        ((i + (rest.takeWhile isNameChar).length : Nat) : Int) - text.length := by
  induction rest with
  | nil =>
    intro i hdrop hlt
    have : text.length ≤ i := by simpa using hdrop
    simp at hlt
    omega
  | cons c rest ih =>
    intro i hdrop hlt
    have hi : i < text.length := by
      have := congrArg List.length hdrop
      simp at this
      omega
    have hc : charAt? text ((i : Int) - text.length) = some c := by
      rw [charAt?_sub_length hi, ← List.head?_drop, hdrop]
      rfl
    rw [nameEnd.eq_1, if_pos (by omega), hc]
    simp only
    by_cases hname : isNameChar c = true
    · -- one more name character: the run goes on from the next position
      have hnext : text.drop (i + 1) = rest := by
        rw [← List.drop_drop, hdrop]
        rfl
      rw [List.takeWhile_cons_of_pos hname, List.length_cons] at hlt ⊢
      rw [if_pos hname, show (i : Int) - text.length + 1 = ((i + 1 : Nat) : Int) - text.length by
        omega, ih (i + 1) hnext (by omega)]
      congr 2
      omega
    · rw [List.takeWhile_cons_of_neg hname, if_neg hname]
      simp

/-! ## The three kinds of tag -/

variable {q : Nat}

/-- One character at a position. -/
theorem singleton_isPrefixOf_drop_iff {c : Char} {i : Nat} :
    [c].isPrefixOf (text.drop i) = true ↔ text[i]? = some c := by
  rw [← List.head?_drop]
  cases text.drop i with
  | nil => simp [List.isPrefixOf]
  | cons d rest =>
    simp only [List.isPrefixOf, List.head?_cons, Option.some.injEq, Bool.and_true, beq_iff_eq]
    exact eq_comm

theorem singleton_prefix_drop_iff {c : Char} {i : Nat} :
    [c] <+: text.drop i ↔ text[i]? = some c := by
  rw [← List.isPrefixOf_iff_prefix, singleton_isPrefixOf_drop_iff]

/-- Where no `<` stands, a reading counted back finds nothing, as the reading forward does. -/
theorem readAt_sub_length_of_not_lt (hq : q < text.length) (h : text[q]? ≠ some '<') :
    readAt text ((q : Int) - text.length) =
      (readAt text q).map (Option.map fun t => { t with start := (q : Int) - text.length }) := by
  have hnot : ['<'].isPrefixOf (text.drop q) = false := by
    rw [← Bool.not_eq_true, singleton_isPrefixOf_drop_iff]
    exact h
  rw [readAt, if_neg (by omega), occursAt_sub_length hq, hnot, readAt_of_not_lt h]
  rfl

/-- **A comment**, with a character after its `<!--`: its search for `-->` starts where the
forward one does. -/
theorem readAt_sub_length_comment (hq : q + 4 < text.length)
    (hc : ['<', '!', '-', '-'] <+: text.drop q) :
    readAt text ((q : Int) - text.length) =
      (readAt text q).map (Option.map fun t => { t with start := (q : Int) - text.length }) := by
  have hq' : q < text.length := by omega
  have hlt : ['<'].isPrefixOf (text.drop q) = true :=
    List.isPrefixOf_iff_prefix.2 ((List.prefix_append ['<'] ['!', '-', '-']).trans hc)
  have hopen : ['<', '!', '-', '-'].isPrefixOf (text.drop q) = true :=
    List.isPrefixOf_iff_prefix.2 hc
  have hfind : findFrom text ['-', '-', '>'] ((q : Int) - text.length + 4) =
      indexFrom ['-', '-', '>'] (text.drop (q + 4)) (q + 4) := by
    rw [show (q : Int) - text.length + 4 = ((q + 4 : Nat) : Int) - text.length by omega]
    exact findFrom_sub_length hq
  rw [readAt, if_neg (by omega), occursAt_sub_length hq', occursAt_sub_length hq', hlt, hopen,
    hfind]
  cases hi : indexFrom ['-', '-', '>'] (text.drop (q + 4)) (q + 4) with
  | none =>
    rw [(readAt_comment hq'.le hc).2 (not_occursFrom_of_indexFrom hi)]
    dsimp only
    rw [Int.ofNat_eq_natCast, cut_sub_length hq' le_rfl]
    rfl
  | some c =>
    have hfirst := firstFrom_of_indexFrom hi
    have hend : c + 3 ≤ text.length := hfirst.add_length_le (by simp)
    rw [(readAt_comment hq'.le hc).1 c hfirst]
    dsimp only
    rw [Int.ofNat_eq_natCast, cut_sub_length hq' hend]
    rfl

/-- **A declaration**, with a character after its `<!`: its search for `>` starts where the
forward one does. -/
theorem readAt_sub_length_declaration (hq : q + 2 < text.length)
    (hd : ['<', '!'] <+: text.drop q) (hc : ¬ ['<', '!', '-', '-'] <+: text.drop q) :
    readAt text ((q : Int) - text.length) =
      (readAt text q).map (Option.map fun t => { t with start := (q : Int) - text.length }) := by
  have hq' : q < text.length := by omega
  have hlt : ['<'].isPrefixOf (text.drop q) = true :=
    List.isPrefixOf_iff_prefix.2 ((List.prefix_append ['<'] ['!']).trans hd)
  have hcomment : ['<', '!', '-', '-'].isPrefixOf (text.drop q) = false := by
    rw [← Bool.not_eq_true, List.isPrefixOf_iff_prefix]
    exact hc
  have hbang : ['<', '!'].isPrefixOf (text.drop q) = true := List.isPrefixOf_iff_prefix.2 hd
  have hfind : findFrom text ['>'] ((q : Int) - text.length + 2) =
      indexFrom ['>'] (text.drop (q + 2)) (q + 2) := by
    rw [show (q : Int) - text.length + 2 = ((q + 2 : Nat) : Int) - text.length by omega]
    exact findFrom_sub_length hq
  rw [readAt, if_neg (by omega), occursAt_sub_length hq', occursAt_sub_length hq',
    occursAt_sub_length hq', hlt, hcomment, hbang, hfind]
  cases hi : indexFrom ['>'] (text.drop (q + 2)) (q + 2) with
  | none =>
    rw [(readAt_declaration hd hc).2 (not_occursFrom_of_indexFrom hi)]
    rfl
  | some c =>
    have hfirst := firstFrom_of_indexFrom hi
    have hend : c + 1 ≤ text.length := hfirst.add_length_le (by simp)
    rw [(readAt_declaration hd hc).1 c hfirst]
    dsimp only
    rw [show (c : Int) + 1 = ((c + 1 : Nat) : Int) by omega, cut_sub_length hq' hend]
    rfl

/-- Between the `<` of an element tag and the end of its name stands no `>`: only an optional `/`
and name characters. -/
theorem gt_not_mem_opening {j : Nat} (hj : q + 1 ≤ j)
    (hje : j < nameStart text q + ((text.drop (nameStart text q)).takeWhile isNameChar).length) :
    text[j]? ≠ some '>' := by
  intro hgt
  by_cases hjns : j < nameStart text q
  · -- before the name there is room for the `/` only
    unfold nameStart at hjns
    split at hjns
    · rename_i hslash
      rw [show j = q + 1 by omega, hslash] at hgt
      cases hgt
    · omega
  · -- within the name, every character is a name character
    have hk : j - nameStart text q < ((text.drop (nameStart text q)).takeWhile isNameChar).length := by
      omega
    have hget := List.prefix_iff_getElem?.1 (List.takeWhile_prefix isNameChar) _ hk
    rw [List.getElem?_drop, show nameStart text q + (j - nameStart text q) = j by omega, hgt,
      Option.some.injEq] at hget
    have := List.mem_takeWhile_imp (hget ▸ List.getElem_mem hk)
    exact absurd this (by decide)

/-- The first `>` after the opening of an element tag is the first after its `<`. -/
theorem firstFrom_gt_of_opening {c : Nat}
    (h : FirstFrom text ['>']
      (nameStart text q + ((text.drop (nameStart text q)).takeWhile isNameChar).length) c) :
    FirstFrom text ['>'] (q + 1) c := by
  have hns : q + 1 ≤ nameStart text q := by
    unfold nameStart
    split <;> omega
  refine ⟨by have := h.1; omega, h.2.1, fun j hjc hij hp => ?_⟩
  by_cases hje : j < nameStart text q + ((text.drop (nameStart text q)).takeWhile isNameChar).length
  · exact gt_not_mem_opening hij hje (singleton_prefix_drop_iff.1 hp)
  · exact h.2.2 j hjc (by omega) hp

theorem not_occursFrom_gt_of_opening
    (h : ¬ OccursFrom text ['>']
      (nameStart text q + ((text.drop (nameStart text q)).takeWhile isNameChar).length)) :
    ¬ OccursFrom text ['>'] (q + 1) := by
  rintro ⟨j, hij, hp⟩
  by_cases hje : j < nameStart text q + ((text.drop (nameStart text q)).takeWhile isNameChar).length
  · exact gt_not_mem_opening hij hje (singleton_prefix_drop_iff.1 hp)
  · exact h ⟨j, by omega, hp⟩

/-- A reading at a position of zero or more that finds no tag finds nothing. -/
theorem readAt_ofNat_eq_none {q : Nat} (h : ¬ ∃ t, readAt text q = .ok (some t)) :
    readAt text q = .ok none := by
  rw [readAt_ofNat] at h ⊢
  cases hr : read? (text.drop q) q with
  | none => rfl
  | some t => exact absurd ⟨t, by rw [hr]⟩ h

/-- **An element tag**, with a character after its name: the name runs to the same place, and the
search for `>` starts where the forward one's would find the same `>`. -/
theorem readElementAt_sub_length (hlt : text[q]? = some '<') (hbang : ¬ ['<', '!'] <+: text.drop q)
    (hend : nameStart text q + ((text.drop (nameStart text q)).takeWhile isNameChar).length <
      text.length) :
    readElementAt text ((q : Int) - text.length) ((nameStart text q : Int) - text.length) =
      (readAt text q).map (Option.map fun t => { t with start := (q : Int) - text.length }) := by
  have hns : nameStart text q < text.length := by omega
  obtain ⟨ch, hch⟩ : ∃ ch, text[nameStart text q]? = some ch :=
    ⟨_, List.getElem?_eq_getElem hns⟩
  rw [readElementAt, if_neg (by omega), charAt?_sub_length hns, hch]
  dsimp only
  by_cases hstart : isNameStart ch = true
  · rw [if_neg (by simp [hstart]), nameEnd_sub_length _ _ rfl hend, findFrom_sub_length hend,
      cut_sub_length_sub_length hns hend, List.extract_eq_take_drop, Nat.add_sub_cancel_left,
      ← List.prefix_iff_eq_take.1 (List.takeWhile_prefix _)]
    cases hi : indexFrom ['>'] (text.drop (nameStart text q +
        ((text.drop (nameStart text q)).takeWhile isNameChar).length))
        (nameStart text q + ((text.drop (nameStart text q)).takeWhile isNameChar).length) with
    | none =>
      -- no `>` after the name: nothing either way
      have hnone := not_occursFrom_gt_of_opening (not_occursFrom_of_indexFrom hi)
      rw [readAt_ofNat_eq_none fun ht => hnone ((readAt_element_iff hlt hbang).1.1 ht).2]
      rfl
    | some c =>
      have hfirst := firstFrom_gt_of_opening (firstFrom_of_indexFrom hi)
      have hc : c + 1 ≤ text.length := hfirst.add_length_le (by simp)
      rw [(readAt_element_iff hlt hbang).2 c hfirst ⟨ch, hch, hstart⟩]
      dsimp only
      rw [show (c : Int) + 1 = ((c + 1 : Nat) : Int) by omega,
        cut_sub_length (List.getElem?_eq_some_iff.1 hlt).1 hc]
      rfl
  · rw [if_pos (by simp [hstart])]
    -- no letter starts the name: nothing either way
    have hnone : ¬ ∃ t, readAt text q = .ok (some t) := fun ht => by
      obtain ⟨c', hc', hstart'⟩ := ((readAt_element_iff hlt hbang).1.1 ht).1
      rw [hch, Option.some.injEq] at hc'
      exact hstart (hc' ▸ hstart')
    rw [readAt_ofNat_eq_none hnone]
    rfl

theorem readAt_sub_length_element (hlt : text[q]? = some '<')
    (hbang : ¬ ['<', '!'] <+: text.drop q)
    (hend : nameStart text q + ((text.drop (nameStart text q)).takeWhile isNameChar).length <
      text.length) :
    readAt text ((q : Int) - text.length) =
      (readAt text q).map (Option.map fun t => { t with start := (q : Int) - text.length }) := by
  have hns : q + 1 ≤ nameStart text q := by
    unfold nameStart
    split <;> omega
  have hq : q < text.length := by omega
  have hq1 : q + 1 < text.length := by omega
  have hltb : ['<'].isPrefixOf (text.drop q) = true := singleton_isPrefixOf_drop_iff.2 hlt
  have hbangb : ['<', '!'].isPrefixOf (text.drop q) = false := by
    rw [← Bool.not_eq_true, List.isPrefixOf_iff_prefix]
    exact hbang
  have hcomment : ['<', '!', '-', '-'].isPrefixOf (text.drop q) = false := by
    rw [← Bool.not_eq_true, List.isPrefixOf_iff_prefix]
    exact fun hc => hbang ((List.prefix_append ['<', '!'] ['-', '-']).trans hc)
  rw [readAt, if_neg (by omega), occursAt_sub_length hq, occursAt_sub_length hq,
    occursAt_sub_length hq, hltb, hcomment, hbangb,
    show (q : Int) - text.length + 1 = ((q + 1 : Nat) : Int) - text.length by omega,
    occursAt_sub_length hq1, ← readElementAt_sub_length hlt hbang hend]
  simp only [Bool.not_true, Bool.false_eq_true, if_false]
  -- the name starts after the `<`, or after a `/` that follows it
  unfold nameStart
  by_cases hslash : text[q + 1]? = some '/'
  · rw [if_pos (singleton_isPrefixOf_drop_iff.2 hslash), if_pos hslash]
    congr 1
    omega
  · rw [if_neg (mt singleton_isPrefixOf_drop_iff.1 hslash), if_neg hslash]

end CountingBack

/-! ## Reading counted back -/

/-- Where a reading at `q` has read the opening of what starts there, and goes on to search for
its end: after `<!--`, after any other `<!`, and otherwise after the `<`, an optional `/` and the
run of name characters. -/
def openingEnd (text : List Char) (q : Nat) : Nat :=
  if ['<', '!', '-', '-'].isPrefixOf (text.drop q) then q + 4
  else if ['<', '!'].isPrefixOf (text.drop q) then q + 2
  else nameStart text q + ((text.drop (nameStart text q)).takeWhile isNameChar).length

/-- The reading at `q - n` is the reading at `q`, reported at `q - n`, when the text goes on after
the opening of the tag at `q`. -/
theorem readAt_sub_length {text : List Char} {q : Nat} (hq : q < text.length)
    (hopen : text[q]? = some '<' → openingEnd text q < text.length) :
    readAt text ((q : Int) - text.length) =
      (readAt text q).map (Option.map fun t => { t with start := (q : Int) - text.length }) := by
  by_cases hlt : text[q]? = some '<'
  · have hend := hopen hlt
    unfold openingEnd at hend
    by_cases hc : ['<', '!', '-', '-'] <+: text.drop q
    · rw [if_pos (List.isPrefixOf_iff_prefix.2 hc)] at hend
      exact readAt_sub_length_comment hend hc
    · rw [if_neg (mt List.isPrefixOf_iff_prefix.1 hc)] at hend
      by_cases hd : ['<', '!'] <+: text.drop q
      · rw [if_pos (List.isPrefixOf_iff_prefix.2 hd)] at hend
        exact readAt_sub_length_declaration hend hd hc
      · rw [if_neg (mt List.isPrefixOf_iff_prefix.1 hd)] at hend
        exact readAt_sub_length_element hlt hd hend
  · exact readAt_sub_length_of_not_lt hq hlt

/-- **A position counted back reads what the position it stands for reads**, reported where it was
asked, as long as the text goes on after the opening of what starts there (its `<!--`, its `<!`,
or its `<`, optional `/` and name): then both readings find nothing, or both find a tag with the
same name, kind, text and stop. -/
theorem readAt_counting_back (text : List Char) (pos : Int) (hlo : -(text.length : Int) ≤ pos)
    (hneg : pos < 0)
    (hopen : text[(pos + text.length).toNat]? = some '<' →
      openingEnd text (pos + text.length).toNat < text.length) :
    readAt text pos =
      (readAt text (pos + text.length)).map (Option.map fun t => { t with start := pos }) := by
  obtain ⟨q, hq⟩ : ∃ q : Nat, pos + text.length = q := ⟨(pos + text.length).toNat, by omega⟩
  have hpos : pos = (q : Int) - text.length := by omega
  rw [hq, Int.toNat_natCast] at hopen
  rw [hq, hpos]
  exact readAt_sub_length (by omega) hopen

/-- In `x<b>y`, the position `-4` stands for `1`, where `<b>` starts. -/
theorem readAt_counting_back_tag :
    (-("x<b>y".toList.length : Int) ≤ -4 ∧ (-4 : Int) < 0 ∧
      ("x<b>y".toList[((-4 : Int) + "x<b>y".toList.length).toNat]? = some '<' →
        openingEnd "x<b>y".toList ((-4 : Int) + "x<b>y".toList.length).toNat <
          "x<b>y".toList.length)) ∧
    readAt "x<b>y".toList (-4) = (readAt "x<b>y".toList (-4 + "x<b>y".toList.length)).map
      (Option.map fun t => { t with start := -4 }) :=
  ⟨⟨by decide, by decide, by decide⟩, readAt_counting_back _ _ (by decide) (by decide) (by decide)⟩

/-- **A comment at the very end of a text, counted back, wraps around**: at `-4` in `a--><!--` its
search for `-->` starts at position zero and finds the `-->` before it, so its text is empty and it
stops at `4`, where the reading at `4` runs to the end. -/
theorem readAt_counting_back_comment_wraps :
    readAt "a--><!--".toList (-4) = .ok (some ⟨"", .comment, "", -4, 4⟩) ∧
      readAt "a--><!--".toList (-4 + "a--><!--".toList.length) =
        .ok (some ⟨"", .comment, "<!--", 4, 8⟩) :=
  ⟨rfl, rfl⟩

end MarkupTidy.Markup
