import Inspection.Proofs.Evaluation.Dependencies
import Inspection.Proofs.Formula.Locality

/-!
# Supplying more data

More inputs and more data of other items never break a variable. The evidence by which a step gives
a variable its value (`Resolution.Gains`) speaks only of what the variable reads, so it survives
wherever that is there as well (`Resolution.Gains.mono`). One resolution is `Ahead` of another if
all that is resolved there is resolved here, to the same values, and nothing fails that did not fail
there. Trying one more variable keeps that (`Resolution.Ahead.step`), and so does trying all of them
(`Resolution.Ahead.run`). Hence the failures can only become fewer, and variables that resolve go on
to resolve to the same (`resolve_improves`).
-/

namespace Inspection

open Formula

/-- All inputs of one kind are given among those of another. -/
def Inputs.Within (inputs inputs' : Inputs) : Prop :=
  ∀ n x, inputs n = some x → inputs' n = some x

/-- Each item that has numbers in one context has the same numbers in another. -/
def Context.Within (c c' : Context) : Prop :=
  ∀ n, c.values n ≠ [] → c'.values n = c.values n

/-- Members from outside that are all among others give inputs that are among those of these. -/
lemma Inputs.within_ofMembers {members members' : List (String × Json)}
    (more : ∀ n j, members.lookup n = some j → members'.lookup n = some j) :
    (Inputs.ofMembers members).Within (.ofMembers members') := by
  intro n x given
  rw [ofMembers] at given ⊢
  cases found : members.lookup n with
  | none =>
    rw [found] at given
    cases given
  | some j =>
    rw [found] at given
    rw [more n j found]
    exact given

/-- What can be averaged in a context without a fallback is averaged alike where there is more. -/
lemma Context.Within.averaged? {c c' : Context} (within : c.Within c') (plain : c.fallback = none)
    {n : String} (data : (c.averaged? n).isSome) : c'.averaged? n = c.averaged? n := by
  have some : c.values n ≠ [] := by
    intro none
    rw [averaged?_eq_none.2 ⟨none, plain⟩] at data
    cases data
  have kept : ¬ (c.values n).isEmpty := by simpa using some
  rw [Context.averaged?, Context.averaged?, within n some, if_neg kept, if_neg kept]

/-- A text is evaluated alike with bindings that agree on the names that it mentions. -/
lemma evaluateText_congr {text : String} {refs : References} (read : references text = .ok refs)
    {b b' : Bindings} (agree : ∀ n, refs.Mentions n → b n = b' n) :
    evaluateText b text = evaluateText b' text := by
  obtain ⟨e, parsed, rfl⟩ := references_eq_ok.1 read
  have same : e.eval standard b = e.eval standard b' :=
    e.eval_congr fun n mem => agree n (name_mem_leaves.1 mem)
  rw [evaluateText, evaluateText, Formula.evaluate, Formula.evaluate, parsed]
  dsimp only
  rw [Expr.number, Expr.number, same]

namespace Resolution

/-- The variables tried one after the other: what is resolved and what has failed in the end. -/
def tried (inputs : Inputs) (c : Context) (vs : List Variable) : Outcome Resolution :=
  vs.foldlM (step inputs c) .start

section

variable {inputs inputs' : Inputs} {c c' : Context} {r r' r₁ r₁' : Resolution} {v : Variable}
  {x : Float} {done : List String}

/-- The evidence by which a variable gets its value: it is declared, handed in, or computed by a
formula that reads no variable that has failed and averages no item without data. -/
inductive Gains (inputs : Inputs) (c : Context) (r : Resolution) (v : Variable) (x : Float) : Prop
  | fixed :
    v.kind = .fixed →
    v.value = some x →
    Gains inputs c r v x
  | manual :
    v.kind = .manual →
    inputs v.name = some (.ok x) →
    Gains inputs c r v x
  | formula {text refs} :
    v.kind = .formula →
    v.formula.filter (· ≠ "") = some text →
    references text = .ok refs →
    (∀ n ∈ refs.names, r.failures.contains n = false) →
    (∀ n ∈ refs.averaged, (c.averaged? n).isSome) →
    evaluateText (r.bindings c refs.averaged) text = .ok (.ok x) →
    Gains inputs c r v x

/-- A formula that reads no variable that has failed and averages no item without data is evaluated,
and its variable comes to what it computes. -/
lemma resolveFormula_of_free {name text : String} {refs : References}
    (read : references text = .ok refs) (free : ∀ n ∈ refs.names, r.failures.contains n = false)
    (data : ∀ n ∈ refs.averaged, (c.averaged? n).isSome) :
    r.resolveFormula c name text = (do
      match ← evaluateText (r.bindings c refs.averaged) text with
      | .ok x => return r.succeed name x
      | .error failure => return r.fail name (.formula failure) []) := by
  have blocked : refs.names.filter r.failures.contains = [] := by
    rw [List.filter_eq_nil_iff]
    intro n mem
    rw [free n mem]
    exact Bool.false_ne_true
  have missing : (refs.averaged.filter fun n => (c.averaged? n).isNone) = [] := by
    rw [List.filter_eq_nil_iff]
    intro n mem
    simpa [Option.isSome_iff_ne_none] using data n mem
  rw [resolveFormula, read]
  dsimp only
  rw [blocked, missing]
  rfl

/-- With the evidence for a value, a step notes the value. -/
lemma Gains.step (gains : Gains inputs c r v x) :
    r.step inputs c v = .ok (r.succeed v.name x) := by
  rw [Resolution.step]
  cases gains with
  | fixed kind given =>
    rw [kind]
    dsimp only
    rw [given]
  | manual kind given =>
    rw [kind]
    dsimp only
    rw [given]
    rfl
  | @formula text refs kind given read free data worked =>
    rw [kind]
    dsimp only
    rw [given]
    dsimp only
    rw [resolveFormula_of_free read free data, worked]
    rfl

/-- A step that does not stop has the evidence for a value that it notes, or notes a failure. -/
lemma gains_or_fails (h : r.step inputs c v = .ok r₁) :
    (∃ x, Gains inputs c r v x ∧ r₁ = r.succeed v.name x) ∨
      ∃ cause missing, r₁ = r.fail v.name cause missing := by
  rw [Resolution.step] at h
  cases kind : v.kind with
  | fixed =>
    rw [kind] at h
    dsimp only at h
    cases given : v.value with
    | none =>
      rw [given] at h
      exact .inr ⟨_, _, (Except.ok.inj h).symm⟩
    | some x =>
      rw [given] at h
      exact .inl ⟨x, .fixed kind given, (Except.ok.inj h).symm⟩
  | manual =>
    rw [kind] at h
    dsimp only at h
    cases given : inputs v.name with
    | none =>
      rw [given] at h
      exact .inr ⟨_, _, (Except.ok.inj h).symm⟩
    | some outcome =>
      rw [given] at h
      obtain ⟨x, rfl, h⟩ := bind_eq_ok.1 h
      exact .inl ⟨x, .manual kind given, (Except.ok.inj h).symm⟩
  | formula =>
    rw [kind] at h
    dsimp only at h
    cases given : v.formula.filter (· ≠ "") with
    | none =>
      rw [given] at h
      exact .inr ⟨_, _, (Except.ok.inj h).symm⟩
    | some text =>
      rw [given] at h
      dsimp only at h
      rw [resolveFormula] at h
      split at h
      case h_1 => cases h
      case h_2 => exact .inr ⟨_, _, (Except.ok.inj h).symm⟩
      case h_3 refs read =>
        dsimp only at h
        split at h
        case isTrue => exact .inr ⟨_, _, (Except.ok.inj h).symm⟩
        case isFalse free =>
          split at h
          case isTrue => exact .inr ⟨_, _, (Except.ok.inj h).symm⟩
          case isFalse data =>
            obtain ⟨outcome, worked, h⟩ := bind_eq_ok.1 h
            cases outcome with
            | error failure => exact .inr ⟨_, _, (Except.ok.inj h).symm⟩
            | ok x =>
              refine .inl ⟨x, .formula kind given read ?_ ?_ worked, (Except.ok.inj h).symm⟩
              · simpa using free
              · simpa [Option.isSome_iff_ne_none] using data

/-- One resolution is ahead of another, where the names are those of the variables tried so far:
what is resolved in the other one has the same value here, and what has failed here has failed
there. Where nothing has failed, they are the same. -/
structure Ahead (done : List String) (r r' : Resolution) : Prop where
  covers : r.Covers done
  among : ∀ n x, r.resolved.find? n = some x → n ∈ done
  resolved : ∀ n x, r.resolved.find? n = some x → r'.resolved.find? n = some x
  failed : ∀ n, r'.failures.contains n → r.failures.contains n
  same : r.failures.entries = [] → r' = r

/-- The evidence for a value of a variable that reads tried ones stays where more is given and
resolved: the formula is evaluated with the same at all names that it mentions. -/
lemma Gains.mono (gains : Gains inputs c r v x) (ahead : Ahead done r r')
    (reads : ∀ n, v.Reads n → n ∈ done) (given : inputs.Within inputs') (data : c.Within c')
    (plain : c.fallback = none) : Gains inputs' c' r' v x := by
  cases gains with
  | fixed kind value => exact .fixed kind value
  | manual kind input => exact .manual kind (given _ _ input)
  | @formula text refs kind text_given read free samples worked =>
    have free' : ∀ n ∈ refs.names, r'.failures.contains n = false := by
      intro n mem
      by_contra failed
      have before := ahead.failed n (by simpa using failed)
      rw [free n mem] at before
      cases before
    have samples' : ∀ n ∈ refs.averaged, c'.averaged? n = c.averaged? n :=
      fun n mem => data.averaged? plain (samples n mem)
    have agree : ∀ n, refs.Mentions n →
        r.bindings c refs.averaged n = r'.bindings c' refs.averaged n := by
      intro n mention
      rw [bindings, bindings]
      by_cases averaged : n ∈ refs.averaged
      · obtain ⟨numbers, found⟩ := Option.isSome_iff_exists.1 (samples n averaged)
        rw [if_pos averaged, if_pos averaged, samples' n averaged, found]
      · have name : n ∈ refs.names := mention.resolve_right averaged
        have tried : n ∈ done := reads n ⟨refs, ⟨kind, text, text_given, read⟩, name⟩
        -- it has been tried and has not failed, so it has its value in both
        have value : (r.resolved.find? n).isSome := by
          refine (ahead.covers n tried).resolve_right ?_
          rw [free n name]
          exact Bool.false_ne_true
        obtain ⟨y, found⟩ := Option.isSome_iff_exists.1 value
        rw [if_neg averaged, if_neg averaged, found, ahead.resolved n y found]
    refine .formula kind text_given read free' (fun n mem => ?_) ?_
    · rw [samples' n mem]
      exact samples n mem
    · rw [← evaluateText_congr read agree]
      exact worked

/-- Before any variable is tried, nothing is resolved and nothing has failed. -/
lemma Ahead.start : Ahead [] .start .start where
  covers := by
    intro n mem
    cases mem
  among := by
    intro n x found
    cases found
  resolved := fun _ _ found => found
  failed := fun _ failed => failed
  same := fun _ => rfl

/-- Noting the same value on both sides keeps the one ahead. -/
lemma Ahead.succeed (ahead : Ahead done r r') (name : String) (x : Float) :
    Ahead (done ++ [name]) (r.succeed name x) (r'.succeed name x) where
  covers := by
    intro n mem
    rw [Resolution.succeed, Table.find?_insert]
    by_cases own : n = name
    · simp [own]
    · rw [if_neg own]
      exact ahead.covers n (by simpa [own] using mem)
  among := by
    intro n y found
    rw [Resolution.succeed, Table.find?_insert] at found
    by_cases own : n = name
    · simp [own]
    · rw [if_neg own] at found
      exact List.mem_append_left _ (ahead.among n y found)
  resolved := by
    intro n y found
    rw [Resolution.succeed, Table.find?_insert] at found ⊢
    by_cases own : n = name
    · rwa [if_pos own] at found ⊢
    · rw [if_neg own] at found ⊢
      exact ahead.resolved n y found
  failed := ahead.failed
  same := by
    intro none
    rw [ahead.same none]

/-- A variable that fails on the one side may come to anything on the other: what is left of the
earlier ones stays ahead. -/
lemma Ahead.fail (ahead : Ahead done r r') {name : String} (new : name ∉ done)
    (cause : VariableCause) (missing : List String)
    (resolved : ∀ n, n ≠ name → r₁'.resolved.find? n = r'.resolved.find? n)
    (failed : ∀ n, n ≠ name → r₁'.failures.contains n = r'.failures.contains n) :
    Ahead (done ++ [name]) (r.fail name cause missing) r₁' where
  covers := by
    intro n mem
    rw [Resolution.fail, Table.contains, Table.find?_insert]
    by_cases own : n = name
    · simp [own]
    · rw [if_neg own]
      exact ahead.covers n (by simpa [own] using mem)
  among := fun n x found => List.mem_append_left _ (ahead.among n x found)
  resolved := by
    intro n x found
    have other : n ≠ name := by
      rintro rfl
      exact new (ahead.among n x found)
    rw [resolved n other]
    exact ahead.resolved n x found
  failed := by
    intro n failed'
    rw [Resolution.fail, Table.contains, Table.find?_insert]
    by_cases own : n = name
    · simp [own]
    · rw [if_neg own]
      rw [failed n own] at failed'
      exact ahead.failed n failed'
  same := by
    intro none
    have mem : name ∈ (r.failures.insert name ⟨name, cause, missing⟩).keys :=
      Table.mem_keys_of_find? (by rw [Table.find?_insert, if_pos rfl])
    rw [Table.keys, show (r.failures.insert name ⟨name, cause, missing⟩).entries = [] from none]
      at mem
    cases mem

/-- Trying one more variable on both sides keeps the one ahead. -/
lemma Ahead.step (ahead : Ahead done r r') (new : v.name ∉ done)
    (reads : ∀ n, v.Reads n → n ∈ done) (given : inputs.Within inputs') (data : c.Within c')
    (plain : c.fallback = none) (h : r.step inputs c v = .ok r₁)
    (h' : r'.step inputs' c' v = .ok r₁') : Ahead (done ++ [v.name]) r₁ r₁' := by
  rcases gains_or_fails h with ⟨x, gains, rfl⟩ | ⟨cause, missing, rfl⟩
  · have gains' := gains.mono ahead reads given data plain
    rw [gains'.step] at h'
    cases h'
    exact ahead.succeed v.name x
  · rcases gains_or_fails h' with ⟨y, -, rfl⟩ | ⟨cause', missing', rfl⟩
    · refine ahead.fail new cause missing (fun n other => ?_) fun n other => rfl
      rw [Resolution.succeed, Table.find?_insert, if_neg other]
    · refine ahead.fail new cause missing (fun n other => rfl) fun n other => ?_
      rw [Resolution.fail, Table.contains, Table.contains, Table.find?_insert, if_neg other]

/-- Trying variables without issues on both sides keeps the one ahead. -/
lemma Ahead.run {p : Point} {vs : List Variable} (ahead : Ahead done r r')
    (fine : p.variablesIssues done vs = []) (given : inputs.Within inputs') (data : c.Within c')
    (plain : c.fallback = none) (h : vs.foldlM (Resolution.step inputs c) r = .ok r₁)
    (h' : vs.foldlM (Resolution.step inputs' c') r' = .ok r₁') :
    Ahead (done ++ vs.map Variable.name) r₁ r₁' := by
  induction vs generalizing r r' done with
  | nil =>
    cases h
    cases h'
    simpa using ahead
  | cons v rest ih =>
    rw [List.foldlM_cons] at h h'
    obtain ⟨r₂, first, h⟩ := bind_eq_ok.1 h
    obtain ⟨r₂', first', h'⟩ := bind_eq_ok.1 h'
    obtain ⟨new, reads, later⟩ := Point.fresh_of_variablesIssues fine
    rw [List.map_cons, List.append_cons]
    exact ih (ahead.step new reads given data plain first first') later h h'

end

/-- The failures of variables without issues bear the names that they are noted under. -/
lemma named_of_tried {p : Point} (fine : p.issues = []) {inputs : Inputs} (numeric : inputs.Numeric)
    {c : Context} {r : Resolution} (h : tried inputs c p.declarations = .ok r) {n : String} :
    n ∈ r.failures.values.map VariableFailure.name ↔ r.failures.contains n := by
  simp only [Point.issues, List.append_eq_nil_iff] at fine
  have acc : r.Accounts c p.declarations := Accounts.start.run numeric fine.1.1.2 h
  rw [Table.contains, Option.isSome_iff_exists, List.mem_map]
  constructor
  · rintro ⟨failure, mem, rfl⟩
    obtain ⟨key, found⟩ := Table.mem_values.1 mem
    rw [(acc.named key failure found).1]
    exact ⟨failure, found⟩
  · rintro ⟨failure, found⟩
    exact ⟨failure, Table.mem_values.2 ⟨n, found⟩, (acc.named n failure found).1⟩

/-- What comes of variables that were tried to the end. -/
lemma resolve_of_tried {inputs : Inputs} {c : Context} {vs : List Variable} {r : Resolution}
    (h : tried inputs c vs = .ok r) (item : Option String) :
    resolve vs inputs c item =
      if r.failures.entries.isEmpty then .ok r.resolved
      else raise (.unresolved item r.failures.values) := by
  rw [resolve, show vs.foldlM (step inputs c) .start = .ok r from h, ok_bind]
  rfl

/-- Where variables either resolve or are told to be unresolved, they are tried to the end. -/
lemma exists_tried {inputs : Inputs} (numeric : inputs.Numeric) {c : Context} {vs : List Variable}
    {item : Option String}
    (only : ∀ fault, resolve vs inputs c item = .error fault →
      ∃ failures, fault = .error (.unresolved item failures)) :
    ∃ r, tried inputs c vs = .ok r := by
  cases h : tried inputs c vs with
  | ok r => exact ⟨r, rfl⟩
  | error fault =>
    have ends : resolve vs inputs c item = .error fault := by
      rw [resolve, show vs.foldlM (step inputs c) .start = .error fault from h, error_bind]
    obtain ⟨failures, rfl⟩ := only fault ends
    exact absurd h (run_ne_raise numeric _)

end Resolution

/-- **Supplying more data never breaks a variable.** Let more inputs be given, and let each item
that has numbers have the same ones still. Unless something else than an unresolved variable ends
the resolution of a point without issues, what is resolved goes on to have the same value, the
variables that fail are among those that failed before, and variables that all resolve do so to the
same. -/
theorem resolve_improves {p : Point} (fine : p.issues = [])
    {members members' : List (String × Json)}
    (more : ∀ n j, members.lookup n = some j → members'.lookup n = some j)
    {c c' : Context} (plain : c.fallback = none)
    (data : ∀ n, c.values n ≠ [] → c'.values n = c.values n) {item : Option String}
    (only : ∀ fault, resolve p.declarations (.ofMembers members) c item = .error fault →
      ∃ failures, fault = .error (.unresolved item failures))
    (only' : ∀ fault, resolve p.declarations (.ofMembers members') c' item = .error fault →
      ∃ failures, fault = .error (.unresolved item failures)) :
    (∃ r r', Resolution.tried (.ofMembers members) c p.declarations = .ok r ∧
      Resolution.tried (.ofMembers members') c' p.declarations = .ok r' ∧
      (∀ n x, r.resolved.find? n = some x → r'.resolved.find? n = some x) ∧
      ∀ n ∈ r'.failures.keys, n ∈ r.failures.keys) ∧
    (∀ failures',
      resolve p.declarations (.ofMembers members') c' item = raise (.unresolved item failures') →
      ∃ failures,
        resolve p.declarations (.ofMembers members) c item = raise (.unresolved item failures) ∧
        failures'.map VariableFailure.name ⊆ failures.map VariableFailure.name) ∧
    ∀ t, resolve p.declarations (.ofMembers members) c item = .ok t →
      resolve p.declarations (.ofMembers members') c' item = .ok t := by
  obtain ⟨r, run⟩ := Resolution.exists_tried (Inputs.numeric_ofMembers members) only
  obtain ⟨r', run'⟩ := Resolution.exists_tried (Inputs.numeric_ofMembers members') only'
  have named : p.variablesIssues [] p.declarations = [] := by
    simp only [Point.issues, List.append_eq_nil_iff] at fine
    exact fine.1.1.2
  have ahead := Resolution.Ahead.start.run named (Inputs.within_ofMembers more) data plain run run'
  have failed : ∀ n, n ∈ r'.failures.keys → n ∈ r.failures.keys := by
    intro n mem
    have before := ahead.failed n (Option.isSome_iff_exists.2 (Table.mem_keys.1 mem))
    exact Table.mem_keys.2 (Option.isSome_iff_exists.1 before)
  rw [Resolution.resolve_of_tried run, Resolution.resolve_of_tried run']
  refine ⟨⟨r, r', run, run', ahead.resolved, failed⟩, ?_, ?_⟩
  · intro failures' h
    have names : r'.failures.values.map VariableFailure.name ⊆
        r.failures.values.map VariableFailure.name := by
      intro n mem
      rw [Resolution.named_of_tried fine (Inputs.numeric_ofMembers _) run'] at mem
      rw [Resolution.named_of_tried fine (Inputs.numeric_ofMembers _) run]
      exact ahead.failed n mem
    split at h
    case isTrue => cases h
    case isFalse some =>
      cases h
      refine ⟨r.failures.values, if_neg fun none => some ?_, names⟩
      rw [ahead.same (List.isEmpty_iff.1 none)]
      exact none
  · intro t h
    split at h
    case isFalse => cases h
    case isTrue none =>
      rw [ahead.same (List.isEmpty_iff.1 none), if_pos none]
      exact h

namespace Strip

/-- The width has been measured along with the drift. -/
def withWidth : Context :=
  { Context.empty with submissions := .ofList [("width", reading "width" 3.0)] }

/-- Without a width the limit of a drift fails; with a width, and a play that nothing asks for, it
resolves, and the slack stays as it was. -/
theorem resolve_improves_with_width :
    resolve drift.declarations (.ofMembers [("slack", .float 0.25)]) .empty (some "drift") =
      raise (.unresolved (some "drift") [⟨"limit", .noData ["width"], ["width"]⟩]) ∧
    (∃ t, resolve drift.declarations (.ofMembers [("slack", .float 0.25), ("play", .float 1.0)])
      withWidth (some "drift") = .ok t) ∧
    ∃ r r',
      Resolution.tried (.ofMembers [("slack", .float 0.25)]) .empty drift.declarations = .ok r ∧
      Resolution.tried (.ofMembers [("slack", .float 0.25), ("play", .float 1.0)]) withWidth
        drift.declarations = .ok r' ∧
      (∀ n x, r.resolved.find? n = some x → r'.resolved.find? n = some x) ∧
      ∀ n ∈ r'.failures.keys, n ∈ r.failures.keys := by
  have lacking : resolve drift.declarations (.ofMembers [("slack", .float 0.25)]) .empty
      (some "drift") =
        raise (.unresolved (some "drift") [⟨"limit", .noData ["width"], ["width"]⟩]) :=
    resolve_drift rfl _
  have told : (resolve drift.declarations
      (.ofMembers [("slack", .float 0.25), ("play", .float 1.0)]) withWidth
      (some "drift")).toOption.isSome := by decide +kernel
  obtain ⟨t, told⟩ := Option.isSome_iff_exists.1 told
  have resolves := eq_ok_of_toOption told
  have more : ∀ n j, [("slack", Json.float 0.25)].lookup n = some j →
      [("slack", Json.float 0.25), ("play", .float 1.0)].lookup n = some j := by
    intro n j found
    rw [List.lookup_cons] at found ⊢
    cases own : n == "slack" with
    | true => simpa [own] using found
    | false => simp [own] at found
  have only : ∀ fault, resolve drift.declarations (.ofMembers [("slack", .float 0.25)]) .empty
      (some "drift") = .error fault →
      ∃ failures, fault = .error (.unresolved (some "drift") failures) := by
    intro fault h
    rw [lacking] at h
    cases h
    exact ⟨_, rfl⟩
  obtain ⟨ahead, -, -⟩ := resolve_improves issues_drift more rfl
    (fun n some => absurd rfl some) only fun fault h => nomatch resolves.symm.trans h
  exact ⟨lacking, ⟨t, resolves⟩, ahead⟩

end Strip

end Inspection
