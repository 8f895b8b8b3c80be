import MarkupTidy.Proofs.Formatting

/-!
# Proofs/SettingsFile — what a settings file gives, and which check refuses it

A settings document goes through seven checks, in this order (`faults`): the root is false or a
mapping; `prettify` is absent, null or a mapping; its `indent_size`, if given, is an integer, and
is zero or more; its `use_tabs`, if given, is a switch; `minify` is absent, null or a mapping; its
`remove_comments`, if given, is a switch. Each check passes when what it looks at is not given, so
each can be stated on its own. A document is refused with the error of the first check that fails,
and otherwise gives each value given, coerced, with the defaults 2, no tabs and dropped comments
where none is given (`verdict`).

`ofDocument_eq_verdict` shows that the reader, which makes the checks one after another and stops
at the first that fails, comes to the verdict. Its steps are one lemma each: a section
(`sectionNode_eq`), the width (`readSetting_width`), and a switch (`readSetting_switch`, for both
switches). `settings_checks` puts together the settings file as a whole: a missing file, a blank
text, a text the loader refuses, and overrides given on top.

A width below zero is refused with its value, except when it has more digits than can be written:
then the refusal to write it is all that is reported (`negativeWidthFault`,
`ofDocument_huge_negative_width`).
-/

namespace MarkupTidy

open MarkupTidy.Text MarkupTidy.Yaml MarkupTidy.Host

namespace Settings

/-! ## The checks -/

/-- A check's outcome: the error it reports, or what it gives when it passes. -/
def checked {α : Type} (fault : Option SettingsError) (a : α) : Except SettingsError α :=
  match fault with
  | some e => .error e
  | none => .ok a

theorem checked_bind {α β : Type} (fault : Option SettingsError) (a : α)
    (k : α → Except SettingsError β) :
    checked fault a >>= k = match fault with
      | some e => .error e
      | none => k a := by
  cases fault <;> rfl

/-- The node of a section of the root mapping, when the section is a mapping. -/
def sectionAt (d : Document) (part : String) : Option Nat :=
  match d.root with
  | .mapping root =>
    match d.lookup root part with
    | some (.mapping n) => some n
    | _ => none
  | _ => none

/-- The value a section gives a key. -/
def given (d : Document) (part key : String) : Option Value :=
  sectionValue d (sectionAt d part) key

/-- The root is false or a mapping. -/
def rootFault (d : Document) : Option SettingsError :=
  if d.isFalsy d.root then none
  else
    match d.root with
    | .mapping _ => none
    | _ => some .rootNotMapping

/-- A section of the root mapping is absent, null or a mapping. -/
def sectionFault (d : Document) (part : String) : Option SettingsError :=
  match d.root with
  | .mapping root =>
    match d.lookup root part with
    | none | some .null | some (.mapping _) => none
    | some _ => some (.sectionNotMapping part)
  | _ => none

/-- A width given is an integer. -/
def widthTypeFault (d : Document) : Option SettingsError :=
  (given d "prettify" "indent_size").bind fun v =>
    if (integerSetting v).isSome then none else some .widthNotInteger

/-- What the refusal of a width below zero reports: the width, unless it has more digits than
can be written. -/
def negativeWidthFault (w : Int) : SettingsError :=
  match decimalText? w with
  | some _ => .negativeWidth w
  | none => .refused .badValue tooLongToWrite

/-- A width given is zero or more. -/
def widthSignFault (d : Document) : Option SettingsError :=
  ((given d "prettify" "indent_size").bind integerSetting).bind fun w =>
    if w < 0 then some (negativeWidthFault w) else none

/-- A switch given is a boolean or a word for one; the error names the section and the key. -/
def switchFault (d : Document) (part key : String) : Option SettingsError :=
  (given d part key).bind fun v =>
    if (switchSetting v).isSome then none else some (.notBoolean (part ++ "." ++ key))

/-- The checks of a settings document, in the order they are made. -/
def faults (d : Document) : List (Option SettingsError) :=
  [rootFault d, sectionFault d "prettify", widthTypeFault d, widthSignFault d,
    switchFault d "prettify" "use_tabs", sectionFault d "minify",
    switchFault d "minify" "remove_comments"]

/-- The settings a document gives when every check passes: each value given, coerced, and the
default where none is given. -/
def reading (d : Document) : Settings where
  indentSize := (((given d "prettify" "indent_size").bind integerSetting).map Int.toNat).getD 2
  useTabs := ((given d "prettify" "use_tabs").bind switchSetting).getD false
  dropsComments := ((given d "minify" "remove_comments").bind switchSetting).getD true

/-- What a settings document comes to: the error of the first check that fails, or its reading. -/
def verdict (d : Document) : Except SettingsError Settings :=
  checked ((faults d).findSome? id) (reading d)

/-! ## The reader's steps -/

section Steps

variable {d : Document} {root : Nat}

/-- A section is read as its check says. -/
theorem sectionNode_eq (hroot : d.root = .mapping root) (part : String) :
    sectionNode d root part = checked (sectionFault d part) (sectionAt d part) := by
  unfold sectionNode sectionFault sectionAt
  rw [hroot]
  dsimp only
  cases d.lookup root part with
  | none => rfl
  | some v => cases v <;> rfl

/-- **A switch is read as its check says**: nothing when not given, else its value as a
boolean, refused when it is none. Both switches are read so. -/
theorem readSetting_switch (part key : String) :
    readSetting d (sectionAt d part) key (requireSwitch (part ++ "." ++ key)) =
      checked (switchFault d part key) ((given d part key).bind switchSetting) := by
  unfold readSetting switchFault given
  cases sectionValue d (sectionAt d part) key with
  | none => rfl
  | some v =>
    unfold requireSwitch
    cases h : switchSetting v <;> simp [h, checked]

/-- **The width is read as its two checks say**, the integer check first. -/
theorem readSetting_width :
    readSetting d (sectionAt d "prettify") "indent_size" widthSetting =
      checked ((widthTypeFault d).or (widthSignFault d))
        (((given d "prettify" "indent_size").bind integerSetting).map Int.toNat) := by
  unfold readSetting widthTypeFault widthSignFault given
  cases sectionValue d (sectionAt d "prettify") "indent_size" with
  | none => rfl
  | some v =>
    unfold widthSetting
    cases hi : integerSetting v with
    | none => simp [hi, checked, throw, throwThe, MonadExceptOf.throw]
    | some w =>
      unfold checkWidth negativeWidthFault
      by_cases hw : w < 0
      · cases hd : decimalText? w <;> simp [hi, hw, hd, checked]
      · simp [hi, hw, checked]

/-- In a false mapping nothing is given. -/
theorem lookup_of_isFalsy (h : d.isFalsy (.mapping root) = true) (key : String) :
    d.lookup root key = none := by
  unfold Document.isFalsy at h
  dsimp only at h
  unfold Document.lookup
  cases hc : d.contentsOf root with
  | items vs => rfl
  | pairs ps =>
    rw [hc] at h
    simp only [List.isEmpty_iff] at h
    simp [h]

/-- A false root gives nothing and fails no section check. -/
theorem sectionAt_of_isFalsy (hf : d.isFalsy d.root = true) (part : String) :
    sectionAt d part = none ∧ sectionFault d part = none := by
  unfold sectionAt sectionFault
  cases hroot : d.root with
  | mapping root =>
    rw [hroot] at hf
    simp [lookup_of_isFalsy hf]
  | _ => exact ⟨rfl, rfl⟩

end Steps

/-! ## The reader comes to the verdict -/

/-- A false document passes every check and reads as the defaults. -/
theorem verdict_of_isFalsy {d : Document} (hf : d.isFalsy d.root = true) : verdict d = .ok {} := by
  have hsec := sectionAt_of_isFalsy hf
  have hgiven : ∀ part key, given d part key = none := fun part key => by
    simp [given, (hsec part).1, sectionValue]
  have hpass : (faults d).findSome? id = none := by
    rw [List.findSome?_eq_none_iff]
    intro f hmem
    simp only [faults, List.mem_cons, List.not_mem_nil, or_false] at hmem
    rcases hmem with rfl | rfl | rfl | rfl | rfl | rfl | rfl
    · simp only [rootFault, hf, if_true, id]
    · exact (hsec _).2
    · simp only [widthTypeFault, hgiven, Option.bind_none, id]
    · simp only [widthSignFault, hgiven, Option.bind_none, id]
    · simp only [switchFault, hgiven, Option.bind_none, id]
    · exact (hsec _).2
    · simp only [switchFault, hgiven, Option.bind_none, id]
  have hread : reading d = {} := by
    simp only [reading, hgiven, Option.bind_none, Option.map_none, Option.getD_none]
  rw [verdict, hpass, hread]
  rfl

/-- A mapping root that is not false: the reader makes the checks after the root's one after
another, and each fails with its error or passes on to the next. -/
theorem ofDocument_of_mapping {d : Document} {root : Nat} (hroot : d.root = .mapping root)
    (hf : d.isFalsy (.mapping root) = false) : ofDocument d = verdict d := by
  have hroot' : rootFault d = none := by simp [rootFault, hroot, hf]
  simp only [ofDocument, hroot, hf, Bool.false_eq_true, if_false]
  rw [sectionNode_eq hroot, checked_bind]
  cases hp : sectionFault d "prettify" with
  | some e => simp [verdict, faults, hroot', hp, checked]
  | none =>
    simp only
    rw [readSetting_width, checked_bind]
    cases hw : (widthTypeFault d).or (widthSignFault d) with
    | some e =>
      -- the width's two checks fail as one: the type check's error first
      cases ht : widthTypeFault d <;> simp_all [verdict, faults, checked]
    | none =>
      rw [Option.or_eq_none_iff] at hw
      rw [show "prettify.use_tabs" = "prettify" ++ "." ++ "use_tabs" by decide,
        readSetting_switch, checked_bind]
      cases htabs : switchFault d "prettify" "use_tabs" with
      | some e => simp [verdict, faults, hroot', hp, hw, htabs, checked]
      | none =>
        rw [sectionNode_eq hroot, checked_bind]
        cases hm : sectionFault d "minify" with
        | some e => simp [verdict, faults, hroot', hp, hw, htabs, hm, checked]
        | none =>
          rw [show "minify.remove_comments" = "minify" ++ "." ++ "remove_comments" by decide,
            readSetting_switch, checked_bind]
          cases hc : switchFault d "minify" "remove_comments" with
          | some e => simp [verdict, faults, hroot', hp, hw, htabs, hm, hc, checked]
          | none =>
            simp [verdict, faults, hroot', hp, hw, htabs, hm, hc, checked, reading, pure,
              Except.pure]

/-- **The reader comes to the verdict**: a settings document is refused with the error of the
first check that fails, and otherwise gives its reading. -/
theorem ofDocument_eq_verdict (d : Document) : ofDocument d = verdict d := by
  by_cases hf : d.isFalsy d.root = true
  · rw [verdict_of_isFalsy hf]
    simp only [ofDocument, hf, if_true]
    rfl
  · cases hroot : d.root
    case mapping root => exact ofDocument_of_mapping hroot (by simpa [hroot] using hf)
    all_goals
      -- a root that is neither false nor a mapping fails the first check
      rw [hroot] at hf
      simp [ofDocument, hroot, hf, verdict, faults, rootFault, checked, throw, throwThe,
        MonadExceptOf.throw]

theorem checked_eq_ok {α : Type} {fault : Option SettingsError} {a b : α} :
    checked fault a = .ok b ↔ fault = none ∧ a = b := by
  cases fault <;> simp [checked]

/-- **A width the verdict keeps is the integer given**: the sign check passed, so nothing of it
is lost. -/
theorem verdict_width {d : Document} {s : Settings} (h : verdict d = .ok s) {n : Int}
    (hn : (given d "prettify" "indent_size").bind integerSetting = some n) :
    (s.indentSize : Int) = n := by
  obtain ⟨hpass, rfl⟩ := checked_eq_ok.1 h
  have hsign : widthSignFault d = none :=
    List.findSome?_eq_none_iff.1 hpass _ (by
      simp only [faults, List.mem_cons]
      exact .inr (.inr (.inr (.inl rfl))))
  have hnonneg : 0 ≤ n := by
    simp only [widthSignFault, hn, Option.bind_some] at hsign
    split at hsign
    · cases hsign
    · omega
  simp only [reading, hn, Option.map_some, Option.getD_some]
  omega

/-! ## Overrides -/

/-- **Overrides replace what they give**, and a width below zero is refused as the settings file's
is. -/
theorem override_eq (s : Settings) (o : Overrides) :
    s.override o =
      checked (o.indentSize.bind fun n => if n < 0 then some (negativeWidthFault n) else none)
        { indentSize := (o.indentSize.map Int.toNat).getD s.indentSize,
          useTabs := o.useTabs.getD s.useTabs, dropsComments := o.dropsComments.getD s.dropsComments } := by
  obtain ⟨width, tabs, drops⟩ := o
  cases width with
  | none => rfl
  | some n =>
    simp only [override, checkWidth, negativeWidthFault, Option.bind_some]
    by_cases hn : n < 0
    · cases decimalText? n <;> simp [hn, checked]
    · simp [hn, checked]

/-- A width an override keeps is the integer given. -/
theorem override_width {s s' : Settings} {o : Overrides} (h : s.override o = .ok s') {n : Int}
    (hn : o.indentSize = some n) : (s'.indentSize : Int) = n := by
  rw [override_eq, checked_eq_ok] at h
  obtain ⟨hpass, rfl⟩ := h
  simp only [hn, Option.bind_some] at hpass
  split at hpass
  · cases hpass
  · simp only [hn, Option.map_some, Option.getD_some]
    omega

/-! ## The settings file -/

/-- **What a settings file gives.** A missing settings file gives the defaults. A blank text gives
the defaults; a text that is no YAML is refused as unreadable; a literal that the loader refuses
for its type is passed on; and the document a text loads to comes to its verdict: the error of the
first of the seven checks that fails, or else each value given, coerced, with the defaults where
none is given. A width kept is the integer given, so it is zero or more. Overrides replace what
they give, with the same refusal of a width below zero, and a width they keep is the one given. -/
theorem settings_checks (w : World) (depth : Nat) (written : Written) (text : String) :
    (∀ file, w.settingsFile written = .ok file → w.entry file = .missing →
      w.loadSettings depth written = .ok {}) ∧
    Settings.ofText depth text =
      (if (trim text.toList).isEmpty then .ok {}
       else
        match Document.load depth text with
        | .ok d => verdict d
        | .error .malformed => .error .unreadable
        | .error (.refused k m) => .error (.refused k m)) ∧
    (∀ d s, verdict d = .ok s → ∀ n, (given d "prettify" "indent_size").bind integerSetting = some n →
      (s.indentSize : Int) = n) ∧
    (∀ (s : Settings) (o : Overrides), s.override o =
      checked (o.indentSize.bind fun n => if n < 0 then some (negativeWidthFault n) else none)
        { indentSize := (o.indentSize.map Int.toNat).getD s.indentSize,
          useTabs := o.useTabs.getD s.useTabs,
          dropsComments := o.dropsComments.getD s.dropsComments }) ∧
    (∀ (s s' : Settings) (o : Overrides), s.override o = .ok s' → ∀ n, o.indentSize = some n →
      (s'.indentSize : Int) = n) := by
  refine ⟨fun file hfile hmissing => ?_, ?_, fun _ _ h _ hn => verdict_width h hn, override_eq,
    fun _ _ _ h _ hn => override_width h hn⟩
  · simp only [World.loadSettings, hfile, hmissing, except_ok_bind, if_true]
    rfl
  · unfold ofText
    split
    · rfl
    · cases Document.load depth text with
      | ok d => exact ofDocument_eq_verdict d
      | error e => cases e <;> rfl

/-! ## A width too long to write -/

/-- A width is too long to write exactly when it has more than `digitLimit` digits. -/
theorem decimalText?_eq_none_iff (n : Int) :
    decimalText? n = none ↔ Nat.pow 10 digitLimit ≤ n.natAbs := by
  have hlen := Nat.length_repr_le_iff (n := n.natAbs) (k := digitLimit) (by decide)
  simp only [decimalText?, Nat.toString_eq_repr]
  split
  · rename_i hlong
    simp only [true_iff]
    rw [Nat.pow_eq]
    omega
  · rename_i hshort
    simp only [reduceCtorEq, false_iff, Nat.not_le]
    rw [Nat.pow_eq]
    omega

/-- A mapping whose `prettify` section gives a width below zero is refused for that width. -/
theorem ofDocument_negative_width {d : Document} (hroot : rootFault d = none)
    (hp : sectionFault d "prettify" = none) {n : Int}
    (hn : (given d "prettify" "indent_size").bind integerSetting = some n) (hneg : n < 0) :
    ofDocument d = .error (negativeWidthFault n) := by
  obtain ⟨v, hv, hint⟩ := Option.bind_eq_some_iff.1 hn
  have htype : widthTypeFault d = none := by
    simp [widthTypeFault, hv, hint]
  have hsign : widthSignFault d = some (negativeWidthFault n) := by
    simp [widthSignFault, hn, hneg]
  rw [ofDocument_eq_verdict]
  simp [verdict, faults, hroot, hp, htype, hsign, checked]

/-- **A width below zero with more digits than can be written is not reported as a width below
zero**: the document that `prettify: {indent_size: -0x1000…0}`, a `1` and 3572 zeros, loads to
gives the width `-16^3572`, of 4302 digits, and it is refused with the refusal to write it. -/
theorem ofDocument_huge_negative_width :
    ofDocument ⟨.mapping 0, #[some (.pairs [(.str "prettify", .mapping 1)]),
      some (.pairs [(.str "indent_size", .int (-((Nat.pow 16 3572 : Nat) : Int)))])]⟩ =
      .error (.refused .badValue tooLongToWrite) := by
  have hlong : decimalText? (-((Nat.pow 16 3572 : Nat) : Int)) = none :=
    (decimalText?_eq_none_iff _).2 (by decide +kernel)
  rw [ofDocument_negative_width (n := -((Nat.pow 16 3572 : Nat) : Int)) (by decide +kernel)
    (by decide +kernel) (by decide +kernel) (by decide +kernel), negativeWidthFault, hlong]

end Settings

end MarkupTidy
