import MarkupTidy.Proofs.Formatting
import MarkupTidy.Cli.Commands

/-!
# Proofs/Modes — one output mode at most

`prettify` and `minify` take `--write`, `--check` and `--diff` as an exclusive group: once one of
them is given, reading refuses another (`apply`). So a command line that is read sets at most
one of the three (`oneMode_readLine`), and under `--check` or `--diff` it does not ask to write
(`flag_write_eq_false`).

A reading changes its bindings and the arguments it gave only in `apply`; `takeOperands` and
`takeOption` run it in loops, and `takeAll` runs those until its fuel is spent. So what every
step keeps (`Keeps`) a whole reading keeps, from the defaults (`Keeps.readKnown`). For a
formatting command the invariant is `ModesGiven`: every mode is bound, a mode that is set was
given, and one mode at most was given. The line's own grammar binds no mode: a subcommand's
bindings hide its defaults, and they bind every mode or none.
-/

namespace MarkupTidy.Cli

theorem except_bind_eq_ok {ε α β : Type} {x : Except ε α} {f : α → Except ε β} {b : β}
    (h : (x >>= f) = .ok b) : ∃ a, x = .ok a ∧ f a = .ok b := by
  cases x with
  | error e => cases h
  | ok a => exact ⟨a, rfl, h⟩

/-! ## Bindings -/

theorem Bindings.get?_bind (b : Bindings) (d e : String) (v : Given) :
    (b.bind d v).get? e = if d = e then some v else b.get? e := by
  by_cases h : d = e <;> simp [Bindings.bind, Bindings.get?, h]

theorem Bindings.get?_append (b₁ b₂ : Bindings) (d : String) :
    (b₁ ++ b₂).get? d = (b₁.get? d).or (b₂.get? d) := by
  simp only [Bindings.get?, List.find?_append]
  cases b₁.find? fun p => p.1 = d <;> rfl

theorem Bindings.flag_bind_of_ne {b : Bindings} {d e : String} (v : Given) (h : d ≠ e) :
    (b.bind d v).flag e = b.flag e := by
  simp only [Bindings.flag, Bindings.get?_bind, h, if_false]

theorem Bindings.flag_bind_text (b : Bindings) (d s : String) :
    (b.bind d (.text s)).flag d = false := by
  simp only [Bindings.flag, Bindings.get?_bind, if_true]

theorem Bindings.isSome_get?_bind {b : Bindings} {e : String} (d : String) (v : Given)
    (h : (b.get? e).isSome) : ((b.bind d v).get? e).isSome := by
  rw [Bindings.get?_bind]
  split
  · rfl
  · exact h

theorem Bindings.flag_append_of_isSome {b₁ : Bindings} {e : String} (h : (b₁.get? e).isSome)
    (b₂ : Bindings) : (b₁ ++ b₂).flag e = b₁.flag e := by
  obtain ⟨v, hv⟩ := Option.isSome_iff_exists.1 h
  simp only [Bindings.flag, Bindings.get?_append, hv, Option.some_or]

theorem Bindings.flag_append_of_none {b₁ : Bindings} {e : String} (h : b₁.get? e = none)
    (b₂ : Bindings) : (b₁ ++ b₂).flag e = b₂.flag e := by
  simp only [Bindings.flag, Bindings.get?_append, h, Option.none_or]

/-! ## A step of reading -/

/-- Where a step extends the arguments given, none of their rivals was given before. -/
def Extends (g : Grammar) (k : Nat) (given given' : List Nat) : Prop :=
  given' = given ∨ (given' = given ++ [k] ∧ ∀ j ∈ g.rivals k, j ∉ given)

section Step

variable {g : Grammar} {subRead : SubReader} {k : Nat} {ws : List String} {r r' : Reading}

theorem apply_of_none (ha : g.args[k]? = none) (h : apply g subRead k ws r = .ok r') : r' = r := by
  unfold apply at h
  simp only [ha] at h
  cases h
  rfl

theorem apply_of_opt {o : Opt} (ha : g.args[k]? = some (.opt o))
    (h : apply g subRead k ws r = .ok r') :
    (∀ j ∈ g.rivals k, j ∉ r.given) ∧ r'.given = r.given ++ [k] ∧
      ∃ v, (Arg.opt o).value ws = .ok v ∧ r'.bindings = r.bindings.bind o.dest v := by
  unfold apply at h
  simp only [ha] at h
  cases hv : (Arg.opt o).value ws with
  | error m =>
    simp only [hv] at h
    cases h
  | ok v =>
    cases hf : (g.rivals k).find? r.given.contains with
    | some j =>
      simp only [hv, hf] at h
      cases h
    | none =>
      have hrivals : ∀ j ∈ g.rivals k, j ∉ r.given := by simpa using hf
      -- help stops the reading; any other option binds its value
      cases he : o.effect <;> simp only [hv, hf, he, pure_bind, Bool.false_eq_true, if_false] at h <;>
        cases h <;> exact ⟨hrivals, rfl, v, rfl, rfl⟩

theorem apply_of_operand {d fallback help : String}
    (ha : g.args[k]? = some (.operand d fallback help)) (h : apply g subRead k ws r = .ok r') :
    Extends g k r.given r'.given ∧ ∃ s, r'.bindings = r.bindings.bind d (.text s) := by
  have hv : ∃ s, (Arg.operand d fallback help).value ws = .ok (.text s) := by
    simp only [Arg.value]
    split
    · exact ⟨_, rfl⟩
    · exact ⟨_, rfl⟩
  obtain ⟨s, hv⟩ := hv
  unfold apply at h
  simp only [ha, hv, pure_bind] at h
  split at h
  · -- an operand left out takes its fallback, and counts as not given
    cases h
    exact ⟨.inl rfl, s, rfl⟩
  · cases hf : (g.rivals k).find? r.given.contains with
    | some j =>
      simp only [hf] at h
      cases h
    | none =>
      simp only [hf] at h
      cases h
      exact ⟨.inr ⟨rfl, by simpa using hf⟩, s, rfl⟩

theorem apply_of_command {d : String} {cs : List (String × String)}
    (ha : g.args[k]? = some (.command d cs)) (h : apply g subRead k ws r = .ok r') :
    Extends g k r.given r'.given ∧ (r'.bindings = r.bindings ∨ ∃ name rest b extras,
      ws = name :: rest ∧ subRead name rest = .ok (b, extras) ∧
        r'.bindings = b ++ r.bindings.bind d (.text name)) := by
  unfold apply at h
  simp only [ha] at h
  cases hv : (Arg.command d cs).value ws with
  | error m =>
    simp only [hv] at h
    cases h
  | ok v =>
    cases hf : (g.rivals k).find? r.given.contains with
    | some j =>
      simp only [hv, hf] at h
      cases h
    | none =>
      have hext : Extends g k r.given (r.given ++ [k]) := .inr ⟨rfl, by simpa using hf⟩
      simp only [hv, hf, pure_bind, Bool.false_eq_true, if_false] at h
      cases ws with
      | nil =>
        cases h
        exact ⟨hext, .inl rfl⟩
      | cons name rest =>
        obtain ⟨out, hs, h⟩ := except_bind_eq_ok h
        cases h
        exact ⟨hext, .inr ⟨name, rest, out.1, out.2, rfl, hs, rfl⟩⟩

end Step

/-! ## Whole readings -/

/-- A property of the bindings of a reading and of the arguments it gave that every step keeps. -/
def Keeps (g : Grammar) (subRead : SubReader) (P : Bindings → List Nat → Prop) : Prop :=
  ∀ k ws r r', P r.bindings r.given → apply g subRead k ws r = .ok r' → P r'.bindings r'.given

/-- A loop keeps what its body keeps. -/
theorem forIn_invariant {σ γ : Type} (Q : σ → Prop) {f : γ → σ → Except Stop (ForInStep σ)}
    (hf : ∀ x s step, Q s → f x s = .ok step → Q step.value) :
    ∀ (l : List γ) {s s' : σ}, Q s → forIn l s f = .ok s' → Q s'
  | [], s, s', hs, h => by
    rw [List.forIn_nil] at h
    exact (Except.ok.inj h) ▸ hs
  | x :: l, s, s', hs, h => by
    rw [List.forIn_cons] at h
    obtain ⟨step, hx, hrest⟩ := except_bind_eq_ok h
    have hstep := hf x s step hs hx
    cases step with
    | done b => exact (Except.ok.inj hrest) ▸ hstep
    | yield b => exact forIn_invariant Q hf l hstep hrest

/-- Giving the words to the arguments passes the reading through. -/
theorem clusters_reading {g : Grammar} {words : List String} {pattern : List Char} {i fuel k : Nat}
    {name : String} {explicit : Option String} {steps : List (Nat × List String)} {r : Reading}
    {stop : Nat} {steps' : List (Nat × List String)} {r' : Reading}
    (h : clusters g words pattern i fuel k name explicit steps r = .ok (stop, steps', r')) :
    r' = r := by
  fun_induction clusters g words pattern i fuel k name explicit steps r <;> simp_all

section Keeps

variable {g : Grammar} {subRead : SubReader} {P : Bindings → List Nat → Prop}
  (hP : Keeps g subRead P) {words : List String} {pattern : List Char}
  {options : List (Nat × OptWord)}
include hP

theorem Keeps.takeOperands {i j : Nat} {r r' : Reading}
    (h : takeOperands g subRead words pattern i r = .ok (j, r')) (hr : P r.bindings r.given) :
    P r'.bindings r'.given := by
  unfold Cli.takeOperands at h
  dsimp only at h
  obtain ⟨⟨i', r''⟩, hl, hpure⟩ := except_bind_eq_ok h
  cases hpure
  refine forIn_invariant (fun s : Nat × Reading => P s.2.bindings s.2.given) ?_ _ hr hl
  rintro ⟨⟨k, _⟩, n⟩ ⟨i, r⟩ step hs hx
  obtain ⟨r₂, happ, hpure⟩ := except_bind_eq_ok hx
  cases hpure
  exact hP _ _ _ _ hs happ

theorem Keeps.takeOption {i j : Nat} {r r' : Reading}
    (h : takeOption g subRead words pattern options i r = .ok (j, r'))
    (hr : P r.bindings r.given) : P r'.bindings r'.given := by
  unfold Cli.takeOption at h
  split at h
  · split at h
    · obtain ⟨⟨stop, steps, r₁⟩, hc, hrest⟩ := except_bind_eq_ok h
      obtain rfl := clusters_reading hc
      dsimp only at hrest
      obtain ⟨r₂, hl, hpure⟩ := except_bind_eq_ok hrest
      cases hpure
      refine forIn_invariant (fun s : Reading => P s.bindings s.given) ?_ _ hr hl
      rintro ⟨k, ws⟩ r step hs hx
      obtain ⟨r₃, happ, hpure⟩ := except_bind_eq_ok hx
      cases hpure
      exact hP _ _ _ _ hs happ
    · cases h
      exact hr
  · cases h
    exact hr

theorem Keeps.takeAll {fuel i : Nat} {r r' : Reading}
    (h : takeAll g subRead words pattern options fuel i r = .ok r') (hr : P r.bindings r.given) :
    P r'.bindings r'.given := by
  induction fuel generalizing i r with
  | zero =>
    cases h
    exact hr
  | succ fuel ih =>
    unfold Cli.takeAll at h
    split at h
    · -- no option ahead: the operands, then the words left over
      obtain ⟨⟨stop, r₁⟩, ho, hpure⟩ := except_bind_eq_ok h
      have h₁ := hP.takeOperands ho hr
      cases hpure
      exact h₁
    · split at h
      · obtain ⟨⟨e, r₁⟩, ho, hrest⟩ := except_bind_eq_ok h
        have h₁ := hP.takeOperands ho hr
        dsimp only at hrest
        split at hrest
        · exact ih hrest h₁
        · obtain ⟨⟨i₂, r₂⟩, ht, hrest⟩ := except_bind_eq_ok hrest
          exact ih hrest (hP.takeOption ht h₁)
      · obtain ⟨⟨i₂, r₂⟩, ht, hrest⟩ := except_bind_eq_ok h
        exact ih hrest (hP.takeOption ht hr)

/-- **What every step keeps, a whole reading keeps**: it holds of the bindings `readKnown`
gives when it holds of the defaults, with no argument given. -/
theorem Keeps.readKnown {b : Bindings} {extras : List String}
    (h : readKnown g subRead words = .ok (b, extras)) (hd : P g.defaults []) :
    ∃ given, P b given := by
  unfold Cli.readKnown at h
  dsimp only at h
  obtain ⟨⟨pattern, options⟩, -, hrest⟩ := except_bind_eq_ok h
  dsimp only at hrest
  obtain ⟨r, ht, hrest⟩ := except_bind_eq_ok hrest
  have hr := hP.takeAll ht hd
  split at hrest
  · cases hrest
  · cases hrest
    exact ⟨r.given, hr⟩

end Keeps

/-! ## The output modes -/

/-- The destination an argument binds. -/
def Arg.dest : Arg → String
  | .opt o => o.dest
  | .operand d _ _ => d
  | .command d _ => d

/-- The output modes of a formatting command, with their positions among its arguments. -/
def modePositions : List (String × Nat) := [("write", 5), ("check", 6), ("diff", 7)]

/-- At most one output mode is set. -/
def OneMode (b : Bindings) : Prop :=
  ∀ m ∈ modePositions, ∀ m' ∈ modePositions, b.flag m.1 = true → b.flag m'.1 = true → m = m'

/-- At most one member of a group was given. -/
def OneOf (group given : List Nat) : Prop :=
  ∀ j ∈ given, ∀ k ∈ given, j ∈ group → k ∈ group → j = k

/-- A member of a lone exclusive group excludes the others. -/
theorem mem_rivals {g : Grammar} {group : List Nat} (hg : g.exclusive = [group]) {j k : Nat}
    (hj : j ∈ group) (hk : k ∈ group) (hjk : j ≠ k) : j ∈ g.rivals k := by
  simp [Grammar.rivals, hg, hk, hj, hjk]

/-- A step that gives an argument only when none of its rivals was given keeps a lone group to
one member. -/
theorem OneOf.extends {g : Grammar} {group : List Nat} (hg : g.exclusive = [group]) {k : Nat}
    {given given' : List Nat} (hone : OneOf group given) (h : Extends g k given given') :
    OneOf group given' := by
  rcases h with rfl | ⟨rfl, hriv⟩
  · exact hone
  · -- the new member meets an old one only if they are the same
    have hnew : ∀ j ∈ given, j ∈ group → k ∈ group → j = k := fun j hj hjg hkg =>
      Classical.byContradiction fun hjk => hriv j (mem_rivals hg hjg hkg hjk) hj
    intro j hj j' hj' hjg hj'g
    rcases List.mem_append.1 hj with hj | hj <;> rcases List.mem_append.1 hj' with hj' | hj'
    · exact hone j hj j' hj' hjg hj'g
    · rw [List.mem_singleton.1 hj'] at hj'g ⊢
      exact hnew j hj hjg hj'g
    · rw [List.mem_singleton.1 hj] at hjg ⊢
      exact (hnew j' hj' hj'g hjg).symm
    · rw [List.mem_singleton.1 hj, List.mem_singleton.1 hj']

/-! ## `prettify` and `minify` -/

/-- A grammar of a formatting command: its output modes stand at their positions, no other
argument binds one, they form its one exclusive group, its defaults bind them, and it has no
subcommand. -/
structure ModeGrammar (g : Grammar) : Prop where
  positions : ∀ k < g.args.length, ∀ m ∈ modePositions,
    g.args[k]?.map Arg.dest = some m.1 → k = m.2
  exclusive : g.exclusive = [modePositions.map Prod.snd]
  defaults : ∀ m ∈ modePositions, g.defaults.get? m.1 = some (.flag false)
  noCommand : ∀ a ∈ g.args, ∀ d cs, a ≠ .command d cs

/-- What reading a formatting command keeps: every mode is bound, a mode that is set was given,
and at most one mode was given. -/
structure ModesGiven (b : Bindings) (given : List Nat) : Prop where
  bound : ∀ m ∈ modePositions, (b.get? m.1).isSome
  given_of_flag : ∀ m ∈ modePositions, b.flag m.1 = true → m.2 ∈ given
  one : OneOf (modePositions.map Prod.snd) given

theorem ModesGiven.oneMode {b : Bindings} {given : List Nat} (h : ModesGiven b given) :
    OneMode b := by
  intro m hm m' hm' hf hf'
  have hpos := h.one m.2 (h.given_of_flag m hm hf) m'.2 (h.given_of_flag m' hm' hf')
    (List.mem_map_of_mem hm) (List.mem_map_of_mem hm')
  simp only [modePositions, List.mem_cons, List.not_mem_nil, or_false] at hm hm'
  rcases hm with rfl | rfl | rfl <;> rcases hm' with rfl | rfl | rfl <;> simp_all

theorem ModeGrammar.keeps {g : Grammar} (hg : ModeGrammar g) (subRead : SubReader) :
    Keeps g subRead ModesGiven := by
  intro k ws r r' hr h
  cases ha : g.args[k]? with
  | none => rw [apply_of_none ha h]; exact hr
  | some a =>
    have hk : k < g.args.length := (List.getElem?_eq_some_iff.1 ha).1
    cases a with
    | opt o =>
      obtain ⟨hriv, hgiven, v, -, hb⟩ := apply_of_opt ha h
      rw [hgiven, hb]
      refine ⟨fun m hm => Bindings.isSome_get?_bind _ _ (hr.bound m hm), fun m hm hf => ?_,
        hr.one.extends hg.exclusive (.inr ⟨rfl, hriv⟩)⟩
      by_cases hd : o.dest = m.1
      · -- the option set is the mode at its own position
        have : k = m.2 := hg.positions k hk m hm (by rw [ha, Option.map_some, ← hd]; rfl)
        exact List.mem_append_right _ (List.mem_singleton.2 this.symm)
      · rw [Bindings.flag_bind_of_ne _ hd] at hf
        exact List.mem_append_left _ (hr.given_of_flag m hm hf)
    | operand d fallback help =>
      obtain ⟨hext, s, hb⟩ := apply_of_operand ha h
      rw [hb]
      refine ⟨fun m hm => Bindings.isSome_get?_bind _ _ (hr.bound m hm), fun m hm hf => ?_,
        hr.one.extends hg.exclusive hext⟩
      -- an operand binds a text, which sets no flag
      have hd : d ≠ m.1 := fun hd => by rw [← hd, Bindings.flag_bind_text] at hf; cases hf
      rw [Bindings.flag_bind_of_ne _ hd] at hf
      have hold := hr.given_of_flag m hm hf
      rcases hext with h' | ⟨h', -⟩ <;> rw [h']
      · exact hold
      · exact List.mem_append_left _ hold
    | command d cs => exact absurd rfl (hg.noCommand _ (List.mem_of_getElem? ha) d cs)

theorem ModeGrammar.oneMode {g : Grammar} (hg : ModeGrammar g) {subRead : SubReader}
    {words : List String} {b : Bindings} {extras : List String}
    (h : readKnown g subRead words = .ok (b, extras)) :
    OneMode b ∧ ∀ m ∈ modePositions, (b.get? m.1).isSome := by
  have hstart : ModesGiven g.defaults [] := by
    refine ⟨fun m hm => by rw [hg.defaults m hm]; rfl, fun m hm hf => ?_, fun j hj => by cases hj⟩
    rw [Bindings.flag, hg.defaults m hm] at hf
    cases hf
  obtain ⟨given, hb⟩ := (hg.keeps subRead).readKnown h hstart
  exact ⟨hb.oneMode, hb.bound⟩

/-! ## `validate`, `serve` and the whole line -/

/-- A grammar none of whose arguments binds an output mode, and with no subcommand. -/
structure NoModeGrammar (g : Grammar) : Prop where
  dests : ∀ a ∈ g.args, ∀ m ∈ modePositions, a.dest ≠ m.1
  defaults : ∀ m ∈ modePositions, g.defaults.get? m.1 = none
  noCommand : ∀ a ∈ g.args, ∀ d cs, a ≠ .command d cs

/-- A step of a grammar that binds no mode itself binds one only through a subcommand. -/
theorem get?_mode_of_apply {g : Grammar} (hg : ∀ a ∈ g.args, ∀ m ∈ modePositions, a.dest ≠ m.1)
    {subRead : SubReader} {k : Nat} {ws : List String} {r r' : Reading}
    (h : apply g subRead k ws r = .ok r') :
    (∀ m ∈ modePositions, r'.bindings.get? m.1 = r.bindings.get? m.1) ∨
      ∃ d cs name rest b extras, g.args[k]? = some (.command d cs) ∧
        subRead name rest = .ok (b, extras) ∧
        r'.bindings = b ++ r.bindings.bind d (.text name) := by
  cases ha : g.args[k]? with
  | none => exact .inl fun m _ => by rw [apply_of_none ha h]
  | some a =>
    have hd := hg a (List.mem_of_getElem? ha)
    cases a with
    | opt o =>
      obtain ⟨-, -, v, -, hb⟩ := apply_of_opt ha h
      exact .inl fun m hm => by rw [hb, Bindings.get?_bind, if_neg (show o.dest ≠ m.1 from hd m hm)]
    | operand d fallback help =>
      obtain ⟨-, s, hb⟩ := apply_of_operand ha h
      exact .inl fun m hm => by rw [hb, Bindings.get?_bind, if_neg (show d ≠ m.1 from hd m hm)]
    | command d cs =>
      obtain ⟨-, hb | ⟨name, rest, b, extras, -, hs, hb⟩⟩ := apply_of_command ha h
      · exact .inl fun m _ => by rw [hb]
      · exact .inr ⟨d, cs, name, rest, b, extras, rfl, hs, hb⟩

theorem NoModeGrammar.unbound {g : Grammar} (hg : NoModeGrammar g) {subRead : SubReader}
    {words : List String} {b : Bindings} {extras : List String}
    (h : readKnown g subRead words = .ok (b, extras)) :
    ∀ m ∈ modePositions, b.get? m.1 = none := by
  have hkeeps : Keeps g subRead fun b _ => ∀ m ∈ modePositions, b.get? m.1 = none := by
    intro k ws r r' hr h
    rcases get?_mode_of_apply hg.dests h with hsame | ⟨d, cs, -, -, -, -, ha, -⟩
    · exact fun m hm => (hsame m hm).trans (hr m hm)
    · exact absurd rfl (hg.noCommand _ (List.mem_of_getElem? ha) d cs)
  obtain ⟨-, hb⟩ := hkeeps.readKnown h hg.defaults
  exact hb

theorem OneMode.congr {b b' : Bindings} (h : OneMode b)
    (hflag : ∀ m ∈ modePositions, b'.flag m.1 = b.flag m.1) : OneMode b' :=
  fun m hm m' hm' hf hf' => h m hm m' hm' (hflag m hm ▸ hf) (hflag m' hm' ▸ hf')

/-- The grammar of a whole line keeps to one mode when each of its subcommands does, binding
every mode or none. -/
theorem oneMode_readKnown {g : Grammar} (hg : ∀ a ∈ g.args, ∀ m ∈ modePositions, a.dest ≠ m.1)
    (hdef : ∀ m ∈ modePositions, g.defaults.get? m.1 = none) {subRead : SubReader}
    (hsub : ∀ name rest b extras, subRead name rest = .ok (b, extras) → OneMode b ∧
      ((∀ m ∈ modePositions, (b.get? m.1).isSome) ∨ ∀ m ∈ modePositions, b.get? m.1 = none))
    {words : List String} {b : Bindings} {extras : List String}
    (h : readKnown g subRead words = .ok (b, extras)) : OneMode b := by
  have hkeeps : Keeps g subRead fun b _ => OneMode b := by
    intro k ws r r' hr h
    rcases get?_mode_of_apply hg h with hsame | ⟨d, cs, name, rest, b, extras, ha, hs, hb⟩
    · exact hr.congr fun m hm => by simp only [Bindings.flag, hsame m hm]
    · -- a subcommand's modes hide the line's, when it binds them
      have hd := hg _ (List.mem_of_getElem? ha)
      rw [hb]
      obtain ⟨hone, hall | hnone⟩ := hsub name rest b extras hs
      · exact hone.congr fun m hm => Bindings.flag_append_of_isSome (hall m hm) _
      · exact hr.congr fun m hm => by
          rw [Bindings.flag_append_of_none (hnone m hm),
            Bindings.flag_bind_of_ne _ (show d ≠ m.1 from hd m hm)]
  have hstart : OneMode g.defaults := fun m hm m' _ hf _ => by
    rw [Bindings.flag, hdef m hm] at hf
    cases hf
  obtain ⟨-, hb⟩ := hkeeps.readKnown h hstart
  exact hb

/-! ## The command line of `htmlfmt` -/

theorem modeGrammar_prettify : ModeGrammar prettifyGrammar :=
  ⟨by decide, rfl, by decide, by
    simp [prettifyGrammar, commonArgs, outputModes, switch, helpOpt, verboseOpt, logFileOpt,
      pathArg, configOpt]⟩

theorem modeGrammar_minify : ModeGrammar minifyGrammar :=
  ⟨by decide, rfl, by decide, by
    simp [minifyGrammar, commonArgs, outputModes, switch, helpOpt, verboseOpt, logFileOpt,
      pathArg, configOpt]⟩

theorem noModeGrammar_validate : NoModeGrammar validateGrammar :=
  ⟨by decide, by decide, by
    simp [validateGrammar, commonArgs, switch, helpOpt, verboseOpt, logFileOpt, pathArg]⟩

theorem noModeGrammar_serve : NoModeGrammar serveGrammar :=
  ⟨by decide, by decide, by simp [serveGrammar, commonArgs, helpOpt, verboseOpt, logFileOpt]⟩

/-- A subcommand binds every mode, when it formats, or none. -/
theorem oneMode_subcommand {name : String} {rest : List String} {b : Bindings}
    {extras : List String}
    (h : (match commandGrammar name with
      | some sg => readNested commandGrammar 1 sg rest
      | none => .ok ([], rest)) = .ok (b, extras)) :
    OneMode b ∧ ((∀ m ∈ modePositions, (b.get? m.1).isSome) ∨
      ∀ m ∈ modePositions, b.get? m.1 = none) := by
  have hnone : (∀ m ∈ modePositions, b.get? m.1 = none) → OneMode b ∧
      ((∀ m ∈ modePositions, (b.get? m.1).isSome) ∨ ∀ m ∈ modePositions, b.get? m.1 = none) :=
    fun hb => ⟨fun m hm _ _ hf _ => (by rw [Bindings.flag, hb m hm] at hf; cases hf), .inr hb⟩
  cases hsg : commandGrammar name with
  | none =>
    rw [hsg] at h
    cases h
    exact hnone fun m _ => rfl
  | some sg =>
    rw [hsg] at h
    unfold readNested at h
    unfold commandGrammar at hsg
    split at hsg <;> cases hsg
    · exact ⟨(modeGrammar_prettify.oneMode h).1, .inl (modeGrammar_prettify.oneMode h).2⟩
    · exact ⟨(modeGrammar_minify.oneMode h).1, .inl (modeGrammar_minify.oneMode h).2⟩
    · exact hnone (noModeGrammar_validate.unbound h)
    · exact hnone (noModeGrammar_serve.unbound h)

/-- **A command line that is read sets one output mode at most.** -/
theorem oneMode_readLine {words : List String} {b : Bindings}
    (h : readLine commandGrammar mainGrammar words = .ok b) : OneMode b := by
  unfold readLine at h
  obtain ⟨⟨b', extras⟩, hn, hrest⟩ := except_bind_eq_ok h
  dsimp only at hrest
  have hb : b' = b := by
    split at hrest
    · cases hrest
    · exact Except.ok.inj hrest
  subst hb
  unfold readNested at hn
  exact oneMode_readKnown (by decide) (by decide) (fun _ _ _ _ hs => oneMode_subcommand hs) hn

/-- Under `--check` or `--diff`, a command line does not ask to write. -/
theorem flag_write_eq_false {words : List String} {b : Bindings}
    (h : readLine commandGrammar mainGrammar words = .ok b)
    (hmode : b.flag "check" = true ∨ b.flag "diff" = true) : b.flag "write" = false := by
  have hone := oneMode_readLine h
  cases hw : b.flag "write" with
  | false => rfl
  | true =>
    rcases hmode with hm | hm
    · exact absurd (hone ("write", 5) (by simp [modePositions]) ("check", 6)
        (by simp [modePositions]) hw hm) (by decide)
    · exact absurd (hone ("write", 5) (by simp [modePositions]) ("diff", 7)
        (by simp [modePositions]) hw hm) (by decide)

end MarkupTidy.Cli
