import MarkupTidy.Markup.Balance
import MarkupTidy.Proofs.Scanning

/-!
# Proofs/Issues — the shape of a report

The check of `Markup.Balance` is one pass with a stack of open elements. Read one tag at a time,
the pass does two things: the tag may meet a fault on the stack (`Tag.clash`: a closing tag with
nothing open, or with an innermost open element of another name), and it leaves a new stack
(`Tag.pushPop`: push at an opening tag, pop at a closing tag whatever its name). The faults of a
whole list are therefore those met on the way, followed by what is still open at the end:

* `faultsFrom_cons` — one tag: the fault it meets, then the rest on the stack it leaves;
* `faultsFrom_eq_closeFaults_append` — a whole list: `closeFaults`, then `openAfter` as unclosed;
* `pairwise_openAfter` — the stack keeps its offsets strictly decreasing from top to bottom, so
  what is left open is reported at strictly decreasing offsets;
* `length_openAfter_add` — the stack grows by one at an opening tag and shrinks by one at a
  closing tag, unless that tag met an empty stack.

The tags of a text start at strictly increasing offsets (`pairwise_start_scan`); with the facts
above this fixes the order, the offsets and the counts of the issues of a report (`check_issues`).
-/

namespace MarkupTidy.Markup

/-! ## One tag against the stack -/

/-- The open elements, innermost first with their offsets, after one tag: an opening tag is pushed,
a closing tag pops the innermost whatever its name, and every other tag leaves the stack alone. -/
def Tag.pushPop (t : Tag) (stack : List (String × Nat)) : List (String × Nat) :=
  match t.kind with
  | .opening => (t.name, t.start.toNat) :: stack
  | .closing => stack.tail
  | _ => stack

/-- The fault a tag meets on the stack of open elements: a closing tag meets nothing open, or an
innermost open element of another name. -/
def Tag.clash (t : Tag) (stack : List (String × Nat)) : Option Problem :=
  match t.kind, stack with
  | .closing, [] => some ⟨.unexpectedClosing, t.name, t.start.toNat⟩
  | .closing, (top, _) :: _ =>
    if top = t.name then none else some ⟨.mismatched top, t.name, t.start.toNat⟩
  | _, _ => none

/-- **What a fault met at a tag can be.** Only a closing tag meets one, at its own name and offset:
either nothing is open, or the innermost open element has another name, which the fault names. -/
theorem Tag.clash_eq_some {t : Tag} {stack : List (String × Nat)} {p : Problem}
    (h : t.clash stack = some p) :
    t.kind = .closing ∧ p.tag = t.name ∧ p.offset = t.start.toNat ∧
      (stack = [] ∧ p.fault = .unexpectedClosing ∨
        ∃ top off rest, stack = (top, off) :: rest ∧ top ≠ t.name ∧ p.fault = .mismatched top) := by
  cases hk : t.kind <;> rcases stack with _ | ⟨⟨top, off⟩, rest⟩ <;> simp [Tag.clash, hk] at h
  case closing.nil => subst h; simp
  case closing.cons =>
    obtain ⟨hne, rfl⟩ := h
    simp [hne]

/-- A tag leaves the stack it met, less perhaps its top, with perhaps itself pushed. -/
theorem Tag.pushPop_sublist (t : Tag) (stack : List (String × Nat)) :
    (t.pushPop stack).Sublist ((t.name, t.start.toNat) :: stack) := by
  cases hk : t.kind <;> simp only [Tag.pushPop, hk]
  case opening => exact List.Sublist.refl _
  case closing => exact (List.tail_sublist stack).cons _
  all_goals exact List.sublist_cons_self _ _

/-- An entry of the stack a tag leaves was there before, or is that tag, opening. -/
theorem Tag.mem_pushPop {t : Tag} {stack : List (String × Nat)} {e : String × Nat}
    (h : e ∈ t.pushPop stack) :
    e ∈ stack ∨ t.kind = .opening ∧ e = (t.name, t.start.toNat) := by
  cases hk : t.kind <;> simp only [Tag.pushPop, hk] at h
  case opening =>
    rcases List.mem_cons.1 h with rfl | h
    · exact .inr ⟨rfl, rfl⟩
    · exact .inl h
  case closing => exact .inl (List.mem_of_mem_tail h)
  all_goals exact .inl h

/-- The stack grows by one at an opening tag, and shrinks by one at a closing tag unless that tag
finds it empty. -/
theorem Tag.length_pushPop (t : Tag) (stack : List (String × Nat)) :
    (t.pushPop stack).length + (if t.kind = .closing then 1 else 0) =
      stack.length + (if t.kind = .opening then 1 else 0) +
        (t.clash stack).toList.countP (·.fault = .unexpectedClosing) := by
  cases hk : t.kind <;> simp only [Tag.pushPop, hk]
  case closing =>
    rcases stack with _ | ⟨⟨top, off⟩, rest⟩
    · simp [Tag.clash, hk]
    · by_cases htop : top = t.name <;> simp [Tag.clash, hk, htop]
  all_goals simp [Tag.clash, hk]

/-- **One step of the check**: a tag reports the fault it meets, then the rest is checked on the
stack it leaves. -/
theorem faultsFrom_cons (stack : List (String × Nat)) (t : Tag) (ts : List Tag) :
    faultsFrom stack (t :: ts) = (t.clash stack).toList ++ faultsFrom (t.pushPop stack) ts := by
  cases hk : t.kind
  case closing =>
    rcases stack with _ | ⟨⟨top, off⟩, rest⟩
    · simp [faultsFrom, Tag.clash, Tag.pushPop, hk]
    · by_cases htop : top = t.name <;> simp [faultsFrom, Tag.clash, Tag.pushPop, hk, htop]
  all_goals simp [faultsFrom, Tag.clash, Tag.pushPop, hk]

/-! ## A whole list of tags -/

/-- The open elements after a list of tags, innermost first with their offsets. -/
def openAfter : List (String × Nat) → List Tag → List (String × Nat)
  | stack, [] => stack
  | stack, t :: ts => openAfter (t.pushPop stack) ts

/-- The faults the tags of a list meet on the stack, one at most at each tag, in order. -/
def closeFaults : List (String × Nat) → List Tag → List Problem
  | _, [] => []
  | stack, t :: ts => (t.clash stack).toList ++ closeFaults (t.pushPop stack) ts

/-- The fault of an element left open, at its name and offset. -/
def Problem.unclosedAt (e : String × Nat) : Problem := ⟨.unclosed, e.1, e.2⟩

@[simp] theorem openAfter_nil (stack : List (String × Nat)) : openAfter stack [] = stack := rfl

@[simp] theorem openAfter_cons (stack : List (String × Nat)) (t : Tag) (ts : List Tag) :
    openAfter stack (t :: ts) = openAfter (t.pushPop stack) ts := rfl

@[simp] theorem closeFaults_nil (stack : List (String × Nat)) : closeFaults stack [] = [] := rfl

@[simp] theorem closeFaults_cons (stack : List (String × Nat)) (t : Tag) (ts : List Tag) :
    closeFaults stack (t :: ts) = (t.clash stack).toList ++ closeFaults (t.pushPop stack) ts := rfl

/-- **The faults of a list**: those its tags meet on the way, then every element still open,
innermost first. -/
theorem faultsFrom_eq_closeFaults_append (stack : List (String × Nat)) (ts : List Tag) :
    faultsFrom stack ts = closeFaults stack ts ++ (openAfter stack ts).map Problem.unclosedAt := by
  induction ts generalizing stack with
  | nil => simp [faultsFrom, Problem.unclosedAt]
  | cons t ts ih => rw [faultsFrom_cons, ih, closeFaults_cons, openAfter_cons, List.append_assoc]

/-- Each fault met on the way is met at one tag of the list, on the stack its predecessors leave. -/
theorem exists_clash_of_mem_closeFaults {stack : List (String × Nat)} {ts : List Tag}
    {p : Problem} (h : p ∈ closeFaults stack ts) :
    ∃ pre t post, ts = pre ++ t :: post ∧ t.clash (openAfter stack pre) = some p := by
  induction ts generalizing stack with
  | nil => simp at h
  | cons t ts ih =>
    rcases List.mem_append.1 h with h | h
    · exact ⟨[], t, ts, rfl, by simpa using h⟩
    · obtain ⟨pre, t', post, rfl, hc⟩ := ih h
      exact ⟨t :: pre, t', post, rfl, hc⟩

/-- Each fault met on the way is at a closing tag of the list, at its name and offset, and says
that nothing was open there or that another element was. -/
theorem exists_closing_of_mem_closeFaults {stack : List (String × Nat)} {ts : List Tag}
    {p : Problem} (hp : p ∈ closeFaults stack ts) :
    (p.fault = .unexpectedClosing ∨ ∃ e, p.fault = .mismatched e) ∧
      ∃ t ∈ ts, t.kind = .closing ∧ t.start.toNat = p.offset ∧ t.name = p.tag := by
  obtain ⟨pre, t, post, rfl, hc⟩ := exists_clash_of_mem_closeFaults hp
  obtain ⟨hk, htag, hoff, hfault⟩ := Tag.clash_eq_some hc
  refine ⟨?_, t, List.mem_append_right _ List.mem_cons_self, hk, hoff.symm, htag.symm⟩
  rcases hfault with ⟨-, h⟩ | ⟨top, -, -, -, -, h⟩
  · exact .inl h
  · exact .inr ⟨top, h⟩

/-- The faults met on the way stand at the offsets of their tags, in the order of the list. -/
theorem map_offset_closeFaults_sublist (stack : List (String × Nat)) (ts : List Tag) :
    ((closeFaults stack ts).map (·.offset)).Sublist (ts.map (·.start.toNat)) := by
  induction ts generalizing stack with
  | nil => simp
  | cons t ts ih =>
    rw [closeFaults_cons, List.map_append, List.map_cons]
    cases hc : t.clash stack with
    | none => exact (ih _).cons _
    | some p =>
      rw [Option.toList_some, List.map_cons, List.map_nil, List.singleton_append,
        (Tag.clash_eq_some hc).2.2.1]
      exact (ih _).cons_cons _

/-- An element open after a list was open before it, or was opened by a tag of the list. -/
theorem mem_openAfter {stack : List (String × Nat)} {ts : List Tag} {e : String × Nat}
    (h : e ∈ openAfter stack ts) :
    e ∈ stack ∨ ∃ t ∈ ts, t.kind = .opening ∧ e = (t.name, t.start.toNat) := by
  induction ts generalizing stack with
  | nil => exact .inl h
  | cons t ts ih =>
    rcases ih h with h | ⟨t', ht', hk, rfl⟩
    · rcases Tag.mem_pushPop h with h | ⟨hk, rfl⟩
      · exact .inl h
      · exact .inr ⟨t, List.mem_cons_self, hk, rfl⟩
    · exact .inr ⟨t', List.mem_cons_of_mem t ht', hk, rfl⟩

/-- **The stack stays ordered.** If its offsets strictly decrease from top to bottom, all lie below
the starts of the tags to come, and these starts increase, then the offsets of what is left open
strictly decrease too. -/
theorem pairwise_openAfter {stack : List (String × Nat)} {ts : List Tag}
    (hstack : (stack.map Prod.snd).Pairwise (· > ·))
    (hbelow : ∀ e ∈ stack, ∀ t ∈ ts, e.2 < t.start.toNat)
    (hts : (ts.map (·.start.toNat)).Pairwise (· < ·)) :
    ((openAfter stack ts).map Prod.snd).Pairwise (· > ·) := by
  induction ts generalizing stack with
  | nil => exact hstack
  | cons t ts ih =>
    rw [List.map_cons, List.pairwise_cons] at hts
    -- the stack with `t` pushed is ordered, and so is what `t` leaves, a part of it
    have hpushed : (((t.name, t.start.toNat) :: stack).map Prod.snd).Pairwise (· > ·) := by
      rw [List.map_cons, List.pairwise_cons]
      refine ⟨?_, hstack⟩
      simp only [List.mem_map]
      rintro _ ⟨e, he, rfl⟩
      exact hbelow e he t List.mem_cons_self
    refine ih (hpushed.sublist ((t.pushPop_sublist stack).map _)) (fun e he t' ht' => ?_) hts.2
    rcases List.mem_cons.1 ((t.pushPop_sublist stack).subset he) with rfl | he
    · exact hts.1 _ (List.mem_map_of_mem ht')
    · exact hbelow e he t' (List.mem_cons_of_mem t ht')

/-- **What the stack counts.** What is left open, with the closing tags, balances what was open
before, the opening tags, and the closing tags that found nothing open. -/
theorem length_openAfter_add (stack : List (String × Nat)) (ts : List Tag) :
    (openAfter stack ts).length + ts.countP (·.kind = .closing) =
      stack.length + ts.countP (·.kind = .opening) +
        (closeFaults stack ts).countP (·.fault = .unexpectedClosing) := by
  induction ts generalizing stack with
  | nil => simp
  | cons t ts ih =>
    have hstep := t.length_pushPop stack
    have hrest := ih (t.pushPop stack)
    simp only [openAfter_cons, closeFaults_cons, List.countP_cons, List.countP_append,
      decide_eq_true_eq]
    omega

/-- **The count of faults.** Checked from nothing, the elements left open less the closing tags
that found nothing open are the opening tags less the closing tags. -/
theorem countP_unclosed_sub_unexpected (ts : List Tag) :
    ((faults ts).countP (·.fault = .unclosed) : Int) -
        (faults ts).countP (·.fault = .unexpectedClosing) =
      (ts.countP (·.kind = .opening) : Int) - ts.countP (·.kind = .closing) := by
  have hbal := length_openAfter_add [] ts
  -- the faults met on the way are never unclosed, and those left open are nothing else
  have hmet : (closeFaults [] ts).countP (·.fault = .unclosed) = 0 := by
    refine List.countP_eq_zero.2 fun p hp => ?_
    rcases (exists_closing_of_mem_closeFaults hp).1 with h | ⟨e, h⟩ <;> simp [h]
  have hleft : ((openAfter [] ts).map Problem.unclosedAt).countP (·.fault = .unclosed) =
      (openAfter [] ts).length := by
    simp [List.countP_map, Function.comp_def, Problem.unclosedAt]
  have hleft' :
      ((openAfter [] ts).map Problem.unclosedAt).countP (·.fault = .unexpectedClosing) = 0 := by
    simp [List.countP_map, Function.comp_def, Problem.unclosedAt]
  rw [faults, faultsFrom_eq_closeFaults_append, List.countP_append, List.countP_append, hmet,
    hleft, hleft']
  simp only [List.length_nil] at hbal
  omega

/-! ## Tags at increasing offsets -/

section Ascending

variable {ts : List Tag} (hts : (ts.map (·.start.toNat)).Pairwise (· < ·))
include hts

/-- The faults met on the way stand at strictly increasing offsets. -/
theorem pairwise_offset_closeFaults (stack : List (String × Nat)) :
    ((closeFaults stack ts).map (·.offset)).Pairwise (· < ·) :=
  hts.sublist (map_offset_closeFaults_sublist stack ts)

/-- What is left open, starting from nothing, stands at strictly decreasing offsets. -/
theorem pairwise_offset_openAfter : ((openAfter [] ts).map Prod.snd).Pairwise (· > ·) :=
  pairwise_openAfter List.Pairwise.nil (by simp) hts

/-- **A mismatch names an earlier opening tag.** The name a mismatched closing tag should have had
is not its own, and is that of an opening tag before it. -/
theorem mismatched_of_mem_closeFaults {p : Problem} {e : String} (hp : p ∈ closeFaults [] ts)
    (he : p.fault = .mismatched e) :
    e ≠ p.tag ∧ ∃ t ∈ ts, t.kind = .opening ∧ t.start.toNat < p.offset ∧ t.name = e := by
  obtain ⟨pre, t, post, rfl, hc⟩ := exists_clash_of_mem_closeFaults hp
  obtain ⟨-, htag, hoff, hfault⟩ := Tag.clash_eq_some hc
  rcases hfault with ⟨-, hun⟩ | ⟨top, off, rest, hopen, hne, hmis⟩
  · rw [hun] at he; cases he
  rw [hmis, Fault.mismatched.injEq] at he
  subst he
  -- the innermost open element was opened by a tag of `pre`, which starts before `t`
  have hmem : (top, off) ∈ openAfter [] pre := by rw [hopen]; exact List.mem_cons_self
  rcases mem_openAfter hmem with hnil | ⟨t', ht', hk, hname⟩
  · cases hnil
  rw [List.map_append, List.pairwise_append] at hts
  have hlt := hts.2.2 _ (List.mem_map_of_mem ht') _ (List.mem_map_of_mem List.mem_cons_self)
  rw [Prod.mk.injEq] at hname
  exact ⟨htag ▸ hne, t', List.mem_append_left _ ht', hk, hoff ▸ hlt, hname.1.symm⟩

/-- The same for every fault of the check: the elements left open are never mismatched. -/
theorem mismatched_of_mem_faults {p : Problem} {e : String} (hp : p ∈ faults ts)
    (he : p.fault = .mismatched e) :
    e ≠ p.tag ∧ ∃ t ∈ ts, t.kind = .opening ∧ t.start.toNat < p.offset ∧ t.name = e := by
  rw [faults, faultsFrom_eq_closeFaults_append, List.mem_append] at hp
  rcases hp with hp | hp
  · exact mismatched_of_mem_closeFaults hts hp he
  · obtain ⟨_, -, rfl⟩ := List.mem_map.1 hp
    cases he

end Ascending

/-! ## The tags of a text -/

/-- Every scanned tag starts before it stops. -/
theorem start_lt_stop_of_mem_scanFrom {s : List Char} {pos : Nat} :
    ∀ t ∈ scanFrom s pos, t.start < t.stop := by
  fun_induction scanFrom s pos with
  | case1 => simp
  | case2 _ _ ih => exact ih
  | case3 pos rest _ k name raw hlex ih =>
    intro t ht
    rcases List.mem_cons.1 ht with rfl | ht
    · have := length_pos_of_lexeme? hlex
      dsimp only
      omega
    · exact ih t ht
  | case4 _ _ _ _ ih => exact ih
  | case5 _ _ _ _ _ ih => exact ih

/-- The tags of a text start at offsets that are not negative. -/
theorem start_nonneg_of_mem_scan {text : String} {t : Tag} (ht : t ∈ scan text) : 0 ≤ t.start :=
  le_start_of_mem_scanFrom t ht

/-- **The tags of a text start at strictly increasing offsets**, since each stops at or before the
start of the next. -/
theorem pairwise_start_scan (text : String) :
    ((scan text).map (·.start.toNat)).Pairwise (· < ·) := by
  rw [List.pairwise_map]
  refine (scanFrom_pairwise text.toList 0).imp_of_mem fun ha _ hab => ?_
  have hlt := start_lt_stop_of_mem_scanFrom _ ha
  have hnonneg := start_nonneg_of_mem_scan ha
  omega

/-! ## Issues -/

/-- A problem as the check of a text reports it: with the line its offset lies on. -/
def Problem.issueIn (text : String) (p : Problem) : Issue := ⟨p, lineAt text.toList p.offset⟩

/-- The issues of a report are the faults of the text's tags, each with its line. -/
theorem Report.issues_check (text : String) :
    (Report.check text).issues = (faults (scan text)).map (Problem.issueIn text) := rfl

theorem Report.mem_check_issues {text : String} {i : Issue} :
    i ∈ (Report.check text).issues ↔ ∃ p ∈ faults (scan text), p.issueIn text = i := by
  rw [Report.issues_check, List.mem_map]

/-- Counting issues by a code is counting faults by the fault that code stands for. -/
theorem Report.countP_code_check (text : String) {c : String} {f : Fault}
    (hc : ∀ i : Issue, i.code = c ↔ i.problem.fault = f) :
    (Report.check text).issues.countP (·.code = c) = (faults (scan text)).countP (·.fault = f) := by
  rw [Report.issues_check, List.countP_map]
  refine List.countP_congr fun p _ => ?_
  simp only [Function.comp_apply, decide_eq_true_eq]
  exact hc (p.issueIn text)

/-- A code names one fault: these are read back from `Issue.code` and `Issue.expected`. -/
theorem Issue.code_eq_unclosed_iff (i : Issue) :
    i.code = "unclosed_tag" ↔ i.problem.fault = .unclosed := by
  unfold Issue.code
  split <;> simp_all

theorem Issue.code_eq_unexpected_iff (i : Issue) :
    i.code = "unexpected_closing" ↔ i.problem.fault = .unexpectedClosing := by
  unfold Issue.code
  split <;> simp_all

theorem Issue.expected_eq_some_iff (i : Issue) (e : String) :
    i.expected = some e ↔ i.problem.fault = .mismatched e := by
  unfold Issue.expected
  split <;> simp_all

/-- **The issues of a report.** They fall in two runs. First come the closing tags that met
nothing open or an innermost open element of another name, one issue each, at the offsets of those
tags in increasing order; a mismatch names an opening tag before it. Then come the elements left
open, at the offsets of their opening tags in decreasing order. Each issue carries the line its
offset lies on, the errors are the issues' messages, and the unclosed elements less the closing
tags with nothing open are the opening tags less the closing tags. -/
theorem check_issues (html : String) :
    ∃ closing unclosed : List Issue, (Report.check html).issues = closing ++ unclosed ∧
      closing.map Issue.problem = closeFaults [] (scan html) ∧
      (closing.map (·.problem.offset)).Pairwise (· < ·) ∧
      (∀ i ∈ closing, (i.code = "unexpected_closing" ∨ i.code = "mismatched_tag") ∧
        ∃ t ∈ scan html, t.kind = .closing ∧ t.start = i.problem.offset ∧ t.name = i.problem.tag) ∧
      unclosed.map Issue.problem = (openAfter [] (scan html)).map Problem.unclosedAt ∧
      (unclosed.map (·.problem.offset)).Pairwise (· > ·) ∧
      (∀ i ∈ unclosed, i.code = "unclosed_tag" ∧
        ∃ t ∈ scan html, t.kind = .opening ∧ t.start = i.problem.offset ∧ t.name = i.problem.tag) ∧
      (∀ i ∈ (Report.check html).issues, ∀ e, i.expected = some e → e ≠ i.problem.tag ∧
        ∃ t ∈ scan html, t.kind = .opening ∧ t.start < i.problem.offset ∧ t.name = e) ∧
      (∀ i ∈ (Report.check html).issues,
        i.line = (html.toList.take i.problem.offset).count '\n' + 1) ∧
      (Report.check html).errors = (Report.check html).issues.map Issue.message ∧
      ((Report.check html).issues.countP (·.code = "unclosed_tag") : Int) -
          (Report.check html).issues.countP (·.code = "unexpected_closing") =
        ((scan html).countP (·.kind = .opening) : Int) -
          (scan html).countP (·.kind = .closing) := by
  have hasc := pairwise_start_scan html
  -- a scanned tag starts at the offset its faults are reported at
  have hstart : ∀ t ∈ scan html, t.start = (t.start.toNat : Int) := fun t ht =>
    (Int.toNat_of_nonneg (start_nonneg_of_mem_scan ht)).symm
  refine ⟨(closeFaults [] (scan html)).map (Problem.issueIn html),
    ((openAfter [] (scan html)).map Problem.unclosedAt).map (Problem.issueIn html), ?split, ?met,
    ?metOrder, ?metAt, ?left, ?leftOrder, ?leftAt, ?expected, ?line, rfl, ?count⟩
  case split =>
    rw [Report.issues_check, faults, faultsFrom_eq_closeFaults_append, List.map_append]
  case met => simp [Problem.issueIn, Function.comp_def]
  case metOrder =>
    simpa [Problem.issueIn, Function.comp_def] using pairwise_offset_closeFaults hasc []
  case metAt =>
    simp only [List.mem_map]
    rintro _ ⟨p, hp, rfl⟩
    obtain ⟨hfault, t, ht, hk, hoff, hname⟩ := exists_closing_of_mem_closeFaults hp
    refine ⟨?_, t, ht, hk, by rw [hstart t ht, hoff]; rfl, hname⟩
    rcases hfault with h | ⟨e, h⟩ <;> simp [Issue.code, Problem.issueIn, h]
  case left => simp [Problem.issueIn, Function.comp_def]
  case leftOrder =>
    simpa [Problem.issueIn, Problem.unclosedAt, Function.comp_def] using
      pairwise_offset_openAfter hasc
  case leftAt =>
    simp only [List.mem_map]
    rintro _ ⟨p, ⟨e, he, rfl⟩, rfl⟩
    rcases mem_openAfter he with hnil | ⟨t, ht, hk, rfl⟩
    · cases hnil
    exact ⟨rfl, t, ht, hk, hstart t ht, rfl⟩
  case expected =>
    intro i hi e hexp
    obtain ⟨p, hp, rfl⟩ := Report.mem_check_issues.1 hi
    obtain ⟨hne, t, ht, hk, hlt, hname⟩ :=
      mismatched_of_mem_faults hasc hp ((Issue.expected_eq_some_iff _ e).1 hexp)
    refine ⟨hne, t, ht, hk, ?_, hname⟩
    rw [hstart t ht]
    exact_mod_cast hlt
  case line =>
    intro i hi
    obtain ⟨p, -, rfl⟩ := Report.mem_check_issues.1 hi
    rfl
  case count =>
    rw [Report.countP_code_check html Issue.code_eq_unclosed_iff,
      Report.countP_code_check html Issue.code_eq_unexpected_iff]
    exact countP_unclosed_sub_unexpected (scan html)

end MarkupTidy.Markup
