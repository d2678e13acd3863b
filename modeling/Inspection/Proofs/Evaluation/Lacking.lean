import Inspection.Proofs.Evaluation.Scope

/-!
# Data that variables lack

A variable whose formula averages an item without data fails, and its failure names the item, unless
a variable that it reads has failed before: then it only hands on what that one lacks. A resolution
`Accounts` for its failures if what they lack is just what some unblocked variable lacks
(`Resolution.Lacks`). Whatever a step makes of a variable (`Resolution.Turns`) keeps that. So the
missing items of the error are told exactly (`missingItems_of_unresolved`), and where variables
resolve none of them lacks data (`Resolution.data_of_resolve`). An item that only blocked variables
average is not reported (`Strip.missing_may_be_silent`).
-/

namespace Inspection

open Formula

/-- Names that are added one after the other are there, besides those before. -/
lemma mem_foldl_addNew {names more : List String} {n : String} :
    n ∈ more.foldl addNew names ↔ n ∈ names ∨ n ∈ more := by
  induction more generalizing names with
  | nil => simp
  | cons name rest ih => rw [List.foldl_cons, ih, mem_addNew, List.mem_cons, or_assoc]

/-- The missing items of variables are those that some failure misses. -/
lemma mem_missingItems {item : Option String} {failures : List VariableFailure} {n : String} :
    n ∈ (Error.unresolved item failures).missingItems ↔
      ∃ failure ∈ failures, n ∈ failure.missing := by
  rw [Error.missingItems, mem_foldl_addNew, List.mem_flatMap]
  simp

/-- What halts a formula is no error of an evaluation: a failure is told as such. -/
lemma evaluateText_ne_raise {bindings : Bindings} {text : String} (e : Error) :
    evaluateText bindings text ≠ raise e := by
  intro h
  rw [evaluateText] at h
  split at h
  case h_1 => cases h
  case h_2 => cases h
  case h_3 halt other _ =>
    cases halt with
    | failure cause => exact other cause rfl
    | hugeInteger => cases h
    | unreadable t => cases t <;> cases h

namespace Variable

/-- The variable takes its value from a formula with the references. -/
def Refers (v : Variable) (r : References) : Prop :=
  v.kind = .formula ∧ ∃ text, v.formula.filter (· ≠ "") = some text ∧ references text = .ok r

/-- The variable's formula takes the average of the item. -/
def Averages (v : Variable) (item : String) : Prop :=
  ∃ r, v.Refers r ∧ item ∈ r.averaged

/-- The variable's formula reads the other variable. -/
def Reads (v : Variable) (name : String) : Prop :=
  ∃ r, v.Refers r ∧ name ∈ r.names

variable {v : Variable} {r : References}

/-- A variable has the references of one formula. -/
lemma Refers.unique {r' : References} (h : v.Refers r) (h' : v.Refers r') : r = r' := by
  obtain ⟨-, text, given, read⟩ := h
  obtain ⟨-, text', given', read'⟩ := h'
  rw [given] at given'
  cases given'
  rw [read] at read'
  exact Except.ok.inj read'

/-- What a variable averages is what the references of its formula average. -/
lemma Refers.averages_iff (refers : v.Refers r) {n : String} : v.Averages n ↔ n ∈ r.averaged := by
  constructor
  · rintro ⟨r', refers', mem⟩
    rwa [refers.unique refers']
  · exact fun mem => ⟨r, refers, mem⟩

/-- What a variable reads is what the references of its formula read. -/
lemma Refers.reads_iff (refers : v.Refers r) {n : String} : v.Reads n ↔ n ∈ r.names := by
  constructor
  · rintro ⟨r', refers', mem⟩
    rwa [refers.unique refers']
  · exact fun mem => ⟨r, refers, mem⟩

end Variable

/-- The first of some variables without issues has a new name and reads variables before it, and the
others have no issues after it. -/
lemma Point.fresh_of_variablesIssues {p : Point} {declared : List String} {v : Variable}
    {rest : List Variable} (fine : p.variablesIssues declared (v :: rest) = []) :
    v.name ∉ declared ∧ (∀ n, v.Reads n → n ∈ declared) ∧
      p.variablesIssues (declared ++ [v.name]) rest = [] := by
  rw [variablesIssues, List.append_eq_nil_iff, List.map_eq_nil_iff] at fine
  obtain ⟨own, later⟩ := fine
  have new : v.name ∉ declared := by
    intro mem
    rw [variableIssues, if_pos mem] at own
    cases own
  refine ⟨new, ?_, ?_⟩
  · rintro n ⟨refs, ⟨kind, text, given, read⟩, mem⟩
    exact declared_of_variableIssues own kind given read n mem
  · rwa [addNew, if_neg new] at later

/-- Where an input is no number, it fails as a value does and not as an evaluation. -/
def Inputs.Numeric (inputs : Inputs) : Prop :=
  ∀ name e, inputs name ≠ some (raise e)

/-- Numbers are numeric. -/
lemma Inputs.numeric_ofTable (t : Table Float) : (Inputs.ofTable t).Numeric := by
  intro name e h
  rw [ofTable] at h
  obtain ⟨x, -, h⟩ := Option.map_eq_some_iff.1 h
  cases h

/-- A value that is no number fails as such. -/
lemma Inputs.number_ne_raise (j : Json) (e : Error) : number j ≠ raise e := by
  intro h
  cases j with
  | null => cases h
  | bool b => cases h
  | int n =>
    rw [number] at h
    split at h <;> cases h
  | float x => cases h
  | text s =>
    rw [number] at h
    split at h <;> cases h
  | list items => cases h
  | record members => cases h

/-- Inputs from outside are numeric. -/
lemma Inputs.numeric_ofMembers (members : List (String × Json)) :
    (Inputs.ofMembers members).Numeric := by
  intro name e h
  rw [ofMembers] at h
  split at h
  case h_1 => cases h
  case h_2 => cases h
  case h_3 j _ _ => exact number_ne_raise j e (Option.some.inj h)

namespace Resolution

variable {inputs : Inputs} {c : Context} {r r' : Resolution} {v : Variable}

/-- A failure misses the item. -/
def Misses (r : Resolution) (item : String) : Prop :=
  ∃ failure ∈ r.failures.values, item ∈ failure.missing

/-- The variable averages an item without data, and reads no variable that has failed. -/
def Lacks (r : Resolution) (c : Context) (v : Variable) (item : String) : Prop :=
  v.Averages item ∧ c.averaged? item = none ∧ ∀ n, v.Reads n → r.failures.contains n = false

/-- What a failure takes over from others they miss. -/
lemma misses_of_inherited {names : List String} {n : String} (mem : n ∈ r.inherited names) :
    r.Misses n := by
  rw [inherited, mem_foldl_addNew, List.mem_flatMap] at mem
  obtain ⟨m, -, mem⟩ := mem.resolve_left List.not_mem_nil
  cases found : r.failures.find? m with
  | none => simp [found] at mem
  | some failure =>
    rw [found, Option.map_some, Option.getD_some] at mem
    exact ⟨failure, Table.mem_values.2 ⟨m, found⟩, mem⟩

/-- All that a step makes of a variable. One that is resolved lacks no data; one that fails misses
what it lacks, and else only what others miss; and what stops the step is no error of its own. -/
inductive Turns (r : Resolution) (c : Context) (v : Variable) : Outcome Resolution → Prop
  | resolved {x} :
    (∀ n, ¬ r.Lacks c v n) →
    Turns r c v (.ok (r.succeed v.name x))
  | failed {cause missing} :
    (∀ n, r.Lacks c v n → n ∈ missing) →
    (∀ n ∈ missing, r.Lacks c v n ∨ r.Misses n) →
    Turns r c v (.ok (r.fail v.name cause missing))
  | stopped {fault} :
    (∀ e, fault ≠ .error e) →
    Turns r c v (.error fault)

/-- A variable that lacks no data may fail for another reason, which misses none. -/
lemma Turns.failed_otherwise {cause : VariableCause} (none : ∀ n, ¬ r.Lacks c v n) :
    r.Turns c v (.ok (r.fail v.name cause [])) :=
  .failed (fun n lack => absurd lack (none n)) (by simp)

/-- What resolving a formula makes of a variable. -/
lemma turns_of_resolveFormula {text : String} (kind : v.kind = .formula)
    (given : v.formula.filter (· ≠ "") = some text) :
    r.Turns c v (r.resolveFormula c v.name text) := by
  rw [resolveFormula]
  split
  case h_1 o _ =>
    refine .stopped fun e h => ?_
    cases o <;> cases h
  case h_2 cause other unread =>
    refine .failed_otherwise ?_
    rintro n ⟨⟨refs, ⟨-, text', given', read⟩, -⟩, -⟩
    rw [given] at given'
    cases given'
    rw [unread] at read
    cases read
  case h_3 refs read =>
    have refers : v.Refers refs := ⟨kind, text, given, read⟩
    dsimp only
    split
    case isTrue blocked =>
      refine .failed ?_ fun n mem => .inr (misses_of_inherited mem)
      rintro n ⟨-, -, free⟩
      have none : refs.names.filter r.failures.contains = [] := by
        rw [List.filter_eq_nil_iff]
        intro m mem
        rw [free m (refers.reads_iff.2 mem)]
        exact Bool.false_ne_true
      simp [none] at blocked
    case isFalse free =>
      have free : ∀ m, v.Reads m → r.failures.contains m = false := by
        intro m reads
        simp only [Bool.not_eq_true', List.isEmpty_eq_false_iff, not_not, List.filter_eq_nil_iff,
          Bool.not_eq_true] at free
        exact free m (refers.reads_iff.1 reads)
      -- nothing blocks the formula, so the names it looks up without success are what it lacks
      have lacks : ∀ n, r.Lacks c v n ↔
          n ∈ refs.averaged.filter fun n => (c.averaged? n).isNone := by
        intro n
        rw [List.mem_filter, Option.isNone_iff_eq_none, ← refers.averages_iff]
        exact ⟨fun h => ⟨h.1, h.2.1⟩, fun h => ⟨h.1, h.2, free⟩⟩
      split
      case isTrue =>
        exact .failed (fun n => (lacks n).1) fun n mem => .inl ((lacks n).2 mem)
      case isFalse data =>
        have none : ∀ n, ¬ r.Lacks c v n := by
          intro n lack
          rw [lacks] at lack
          simp only [Bool.not_eq_true', List.isEmpty_eq_false_iff, not_not] at data
          rw [data] at lack
          cases lack
        cases evaluated : evaluateText (r.bindings c refs.averaged) text with
        | error fault =>
          refine .stopped ?_
          rintro e rfl
          exact evaluateText_ne_raise e evaluated
        | ok outcome =>
          cases outcome with
          | ok x => exact .resolved none
          | error failure => exact .failed_otherwise none

/-- What a step makes of a variable. -/
lemma turns_of_step (numeric : inputs.Numeric) : r.Turns c v (r.step inputs c v) := by
  have formula : ∀ n, r.Lacks c v n → v.kind = .formula := fun n ⟨⟨_, ⟨kind, _⟩, _⟩, _⟩ => kind
  rw [step]
  cases kind : v.kind with
  | fixed =>
    have none : ∀ n, ¬ r.Lacks c v n := fun n lack => by cases kind.symm.trans (formula n lack)
    cases v.value with
    | some x => exact .resolved none
    | none => exact .failed_otherwise none
  | manual =>
    have none : ∀ n, ¬ r.Lacks c v n := fun n lack => by cases kind.symm.trans (formula n lack)
    cases given : inputs v.name with
    | none => exact .failed_otherwise none
    | some outcome =>
      cases outcome with
      | ok x => exact .resolved none
      | error fault =>
        refine .stopped ?_
        rintro e rfl
        exact numeric v.name e given
  | formula =>
    cases given : v.formula.filter (· ≠ "") with
    | some text => exact turns_of_resolveFormula kind given
    | none =>
      refine .failed_otherwise ?_
      rintro n ⟨⟨_, ⟨-, text, given', -⟩, -⟩, -⟩
      rw [given] at given'
      cases given'

/-- What a run stops with is no error of an evaluation. -/
lemma run_ne_raise (numeric : inputs.Numeric) (e : Error) {vs : List Variable} :
    vs.foldlM (step inputs c) r ≠ raise e := by
  intro h
  induction vs generalizing r with
  | nil => cases h
  | cons v rest ih =>
    rw [List.foldlM_cons] at h
    obtain h | ⟨r₁, -, h⟩ := bind_eq_error.1 h
    · have turns : r.Turns c v (r.step inputs c v) := turns_of_step numeric
      rw [h] at turns
      cases turns with
      | stopped other => exact other e rfl
    · exact ih h

/-- A failure of one variable changes nothing about another one that does not read it. -/
lemma lacks_fail {name : String} {cause : VariableCause} {missing : List String} {n : String}
    (other : ∀ m, v.Reads m → m ≠ name) :
    (r.fail name cause missing).Lacks c v n ↔ r.Lacks c v n := by
  have kept : ∀ m, v.Reads m →
      (r.fail name cause missing).failures.contains m = r.failures.contains m := by
    intro m read
    rw [fail, Table.contains, Table.contains, Table.find?_insert, if_neg (other m read)]
  constructor
  · rintro ⟨averages, data, free⟩
    exact ⟨averages, data, fun m read => (kept m read).symm.trans (free m read)⟩
  · rintro ⟨averages, data, free⟩
    exact ⟨averages, data, fun m read => (kept m read).trans (free m read)⟩

/-- With a failure under a new name, what it misses is missed too. -/
lemma misses_fail {name : String} {cause : VariableCause} {missing : List String} {n : String}
    (new : name ∉ r.failures.keys) :
    (r.fail name cause missing).Misses n ↔ r.Misses n ∨ n ∈ missing := by
  simp only [Misses, fail, Table.values, Table.insert, putEntry_of_new new]
  simp [or_and_right, exists_or]

/-- What some variables lack is just what the failures miss: failures bear the names of these
variables, which read one another only. -/
structure Accounts (r : Resolution) (c : Context) (done : List Variable) : Prop where
  named : ∀ n failure, r.failures.find? n = some failure →
    failure.name = n ∧ n ∈ done.map Variable.name
  reads : ∀ v ∈ done, ∀ n, v.Reads n → n ∈ done.map Variable.name
  missing : ∀ n, r.Misses n ↔ ∃ v ∈ done, r.Lacks c v n

namespace Accounts

variable {done : List Variable}

/-- Before any variable nothing is missed. -/
lemma start : Accounts .start c [] := by
  refine ⟨?_, by simp, fun n => ?_⟩
  · intro n failure found
    cases found
  · simp [Misses, Resolution.start, Table.values, Table.empty]

/-- A name that no variable bears has not failed. -/
lemma notMem_keys (acc : r.Accounts c done) {name : String} (new : name ∉ done.map Variable.name) :
    name ∉ r.failures.keys := by
  intro mem
  obtain ⟨failure, found⟩ := Table.mem_keys.1 mem
  exact new (acc.named _ failure found).2

/-- A variable under a new name is accounted for by what a step makes of it. -/
lemma turn (acc : r.Accounts c done) (new : v.name ∉ done.map Variable.name)
    (reads : ∀ n, v.Reads n → n ∈ done.map Variable.name) (turns : r.Turns c v (.ok r')) :
    r'.Accounts c (done ++ [v]) := by
  have before : ∀ w ∈ done ++ [v], ∀ n, w.Reads n → n ∈ done.map Variable.name := by
    intro w mem n read
    rcases List.mem_append.1 mem with old | last
    · exact acc.reads w old n read
    · cases List.mem_singleton.1 last
      exact reads n read
  have reads' : ∀ w ∈ done ++ [v], ∀ n, w.Reads n → n ∈ (done ++ [v]).map Variable.name := by
    intro w mem n read
    rw [List.map_append]
    exact List.mem_append_left _ (before w mem n read)
  cases turns with
  | resolved none =>
    refine ⟨?_, reads', fun n => (acc.missing n).trans ?_⟩
    · intro n failure found
      obtain ⟨name, mem⟩ := acc.named n failure found
      rw [List.map_append]
      exact ⟨name, List.mem_append_left _ mem⟩
    · constructor
      · rintro ⟨w, mem, lack⟩
        exact ⟨w, List.mem_append_left _ mem, lack⟩
      · rintro ⟨w, mem, lack⟩
        rcases List.mem_append.1 mem with old | last
        · exact ⟨w, old, lack⟩
        · cases List.mem_singleton.1 last
          exact absurd lack (none n)
  | @failed cause missing lacked missed =>
    -- what these variables read has an older name, so the new failure blocks none of them
    have same : ∀ w ∈ done ++ [v], ∀ n,
        (r.fail v.name cause missing).Lacks c w n ↔ r.Lacks c w n := by
      intro w mem n
      refine lacks_fail fun m read => ?_
      rintro rfl
      exact new (before w mem _ read)
    refine ⟨?_, reads', fun n => ?_⟩
    · intro n failure found
      rw [fail, Table.find?_insert] at found
      rw [List.map_append]
      split at found
      case isTrue own =>
        cases found
        exact ⟨own.symm, List.mem_append_right _ (by simp [own])⟩
      case isFalse =>
        obtain ⟨name, mem⟩ := acc.named n failure found
        exact ⟨name, List.mem_append_left _ mem⟩
    · rw [misses_fail (acc.notMem_keys new), acc.missing]
      have old : ∀ w, w ∈ done → w ∈ done ++ [v] := fun w => List.mem_append_left _
      have last : v ∈ done ++ [v] := List.mem_append_right _ List.mem_cons_self
      constructor
      · rintro (⟨w, mem, lack⟩ | mem)
        · exact ⟨w, old w mem, (same w (old w mem) n).2 lack⟩
        · rcases missed n mem with lack | miss
          · exact ⟨v, last, (same v last n).2 lack⟩
          · obtain ⟨w, mem, lack⟩ := (acc.missing n).1 miss
            exact ⟨w, old w mem, (same w (old w mem) n).2 lack⟩
      · rintro ⟨w, mem, lack⟩
        replace lack := (same w mem n).1 lack
        rcases List.mem_append.1 mem with mem | mem
        · exact .inl ⟨w, mem, lack⟩
        · cases List.mem_singleton.1 mem
          exact .inr (lacked n lack)

/-- Variables without issues are accounted for by the steps that resolve them. -/
lemma run {p : Point} {vs : List Variable} (numeric : inputs.Numeric) (acc : r.Accounts c done)
    (fine : p.variablesIssues (done.map Variable.name) vs = [])
    (h : vs.foldlM (Resolution.step inputs c) r = .ok r') : r'.Accounts c (done ++ vs) := by
  induction vs generalizing r done with
  | nil =>
    cases h
    rwa [List.append_nil]
  | cons v rest ih =>
    rw [List.foldlM_cons] at h
    obtain ⟨r₁, first, h⟩ := bind_eq_ok.1 h
    obtain ⟨new, reads, later⟩ := Point.fresh_of_variablesIssues fine
    rw [show done.map Variable.name ++ [v.name] = (done ++ [v]).map Variable.name by simp] at later
    rw [List.append_cons]
    have turns : r.Turns c v (.ok r₁) := first ▸ turns_of_step numeric
    exact ih (acc.turn new reads turns) later h

end Accounts

/-- The failures of variables that do not resolve, and what they account for. -/
lemma accounts_of_resolve_error {p : Point} (fine : p.issues = []) (numeric : inputs.Numeric)
    {item : Option String} {e : Error} (h : resolve p.declarations inputs c item = raise e) :
    ∃ r : Resolution, r.Accounts c p.declarations ∧ r.failures.values ≠ [] ∧
      e = .unresolved item r.failures.values := by
  simp only [Point.issues, List.append_eq_nil_iff] at fine
  obtain h | ⟨r, run, h⟩ := bind_eq_error.1 h
  · exact absurd h (run_ne_raise numeric e)
  · split at h
    case isTrue => cases h
    case isFalse some =>
      cases h
      refine ⟨r, Accounts.start.run numeric fine.1.1.2 run, ?_, rfl⟩
      simpa [Table.values] using some

/-- Where variables without issues resolve, what they average has data. -/
lemma data_of_resolve {p : Point} (fine : p.issues = []) (numeric : inputs.Numeric)
    {item : Option String} {t : Table Float} (h : resolve p.declarations inputs c item = .ok t) :
    ∀ v ∈ p.declarations, ∀ n, v.Averages n → (c.averaged? n).isSome := by
  simp only [Point.issues, List.append_eq_nil_iff] at fine
  obtain ⟨r, run, h⟩ := bind_eq_ok.1 h
  split at h
  case isFalse => cases h
  case isTrue none =>
    have acc : r.Accounts c p.declarations := Accounts.start.run numeric fine.1.1.2 run
    have empty : r.failures.entries = [] := List.isEmpty_iff.1 none
    intro v mem n averages
    by_contra missing
    have lack : r.Lacks c v n := by
      refine ⟨averages, by simpa using missing, fun m _ => ?_⟩
      rw [Table.contains, Table.find?, empty]
      rfl
    obtain ⟨failure, failed, -⟩ := (acc.missing n).2 ⟨v, mem, lack⟩
    rw [Table.values, empty] at failed
    cases failed

end Resolution

/-- There is nothing to average just where there are no numbers and no fallback. -/
lemma Context.averaged?_eq_none {c : Context} {n : String} :
    c.averaged? n = none ↔ c.values n = [] ∧ c.fallback = none := by
  rw [averaged?]
  cases c.values n with
  | nil => simp
  | cons x rest => simp

/-- **What is missing is told as far as nothing else blocks it.** Where variables of a point without
issues do not resolve, the error's missing items are just those without data that some variable
averages which reads no variable that has failed. -/
theorem missingItems_of_unresolved {p : Point} (fine : p.issues = [])
    (members : List (String × Json)) {c : Context} (plain : c.fallback = none)
    {item : Option String} {failures : List VariableFailure}
    (h : resolve p.declarations (.ofMembers members) c item = raise (.unresolved item failures))
    (n : String) :
    n ∈ (Error.unresolved item failures).missingItems ↔
      ∃ v ∈ p.declarations, v.Averages n ∧ c.values n = [] ∧
        ∀ m, v.Reads m → m ∉ failures.map VariableFailure.name := by
  obtain ⟨r, acc, -, e⟩ :=
    Resolution.accounts_of_resolve_error fine (Inputs.numeric_ofMembers members) h
  obtain rfl : failures = r.failures.values := by
    injection e
  have failed : ∀ m, m ∉ r.failures.values.map VariableFailure.name ↔
      r.failures.contains m = false := by
    intro m
    rw [Table.contains, Option.isSome_eq_false_iff, Option.isNone_iff_eq_none,
      Option.eq_none_iff_forall_ne_some, List.mem_map]
    constructor
    · intro absent failure found
      exact absent ⟨failure, Table.mem_values.2 ⟨m, found⟩, (acc.named m failure found).1⟩
    · rintro absent ⟨failure, mem, name⟩
      obtain ⟨key, found⟩ := Table.mem_values.1 mem
      obtain rfl : key = m := (acc.named key failure found).1.symm.trans name
      exact absent failure found
  rw [mem_missingItems]
  refine (acc.missing n).trans ?_
  simp only [Resolution.Lacks, Context.averaged?_eq_none, plain, and_true, failed]

namespace Strip

/-- A point of a strip: by how much a reading is above the average width and a slack that is handed
in. -/
def drift : Point where
  name := "drift"
  setup := ⟨none, .quantitative, .single, .manual, none, ⟨1, Nat.one_pos⟩⟩
  declarations := [⟨"slack", .manual, none, none⟩,
    ⟨"limit", .formula, none, some "AVG(width) + slack"⟩]
  sampleFormulas := [⟨"excess", "single_value - limit", true⟩]
  strategy := .perSample
  setting := ⟨some ⟨false, some "excess"⟩, none, none⟩
  rule := some ⟨.max, 0.0, "mm", none, none⟩

/-- The drift of a strip has no issues. -/
lemma issues_drift : drift.issues = [] := by decide +kernel

/-- The limit is read from the slack and the width. -/
lemma references_limit :
    references "AVG(width) + slack" = .ok ⟨["slack"], ["width"], ["AVG"]⟩ := by decide +kernel

/-- The limit averages the width. -/
lemma averages_limit :
    Variable.Averages ⟨"limit", .formula, none, some "AVG(width) + slack"⟩ "width" :=
  ⟨_, ⟨rfl, _, rfl, references_limit⟩, List.mem_cons_self⟩

/-- With a slack and no width, the limit is all that fails. -/
lemma resolve_drift {inputs : Inputs} {x : Float} (given : inputs "slack" = some (.ok x))
    (item : Option String) :
    resolve drift.declarations inputs .empty item =
      raise (.unresolved item [⟨"limit", .noData ["width"], ["width"]⟩]) := by
  have slack : Resolution.start.step inputs .empty ⟨"slack", .manual, none, none⟩ =
      .ok (.succeed .start "slack" x) := by
    simp only [Resolution.step, given]
    rfl
  have limit : (Resolution.succeed .start "slack" x).step inputs .empty
      ⟨"limit", .formula, none, some "AVG(width) + slack"⟩ =
      .ok (.fail (.succeed .start "slack" x) "limit" (.noData ["width"]) ["width"]) := by
    change Resolution.resolveFormula _ .empty "limit" "AVG(width) + slack" = _
    rw [Resolution.resolveFormula, references_limit]
    rfl
  rw [resolve, drift, List.foldlM_cons, slack, ok_bind, List.foldlM_cons, limit]
  rfl

/-- With a slack, the width is all that is missing, and it is reported. -/
theorem missingItems_of_width :
    drift.issues = [] ∧ Context.empty.fallback = none ∧
      resolve drift.declarations (.ofMembers [("slack", .float 0.25)]) .empty (some "drift") =
        raise (.unresolved (some "drift") [⟨"limit", .noData ["width"], ["width"]⟩]) ∧
      "width" ∈ (Error.unresolved (some "drift")
        [⟨"limit", .noData ["width"], ["width"]⟩]).missingItems := by
  have h : resolve drift.declarations (.ofMembers [("slack", .float 0.25)]) .empty (some "drift") =
      raise (.unresolved (some "drift") [⟨"limit", .noData ["width"], ["width"]⟩]) :=
    resolve_drift rfl _
  refine ⟨issues_drift, rfl, h, ?_⟩
  refine (missingItems_of_unresolved issues_drift _ rfl h "width").2
    ⟨_, List.mem_cons_of_mem _ List.mem_cons_self, averages_limit, rfl, fun m read => ?_⟩
  have slack : m ∈ ["slack"] := (Variable.Refers.reads_iff ⟨rfl, _, rfl, references_limit⟩).1 read
  rw [List.mem_singleton.1 slack]
  decide

/-- Without a slack, the limit is blocked by it, and the missing width is not reported. -/
theorem missing_may_be_silent :
    ∃ failures, resolve drift.declarations (.ofMembers []) .empty (some "drift") =
        raise (.unresolved (some "drift") failures) ∧
      drift.issues = [] ∧ Context.empty.fallback = none ∧
      (∃ v ∈ drift.declarations, v.Averages "width") ∧ Context.empty.values "width" = [] ∧
      (Error.unresolved (some "drift") failures).missingItems = [] := by
  have slack : Resolution.start.step (.ofMembers []) .empty ⟨"slack", .manual, none, none⟩ =
      .ok (.fail .start "slack" .inputMissing []) := by rfl
  have limit : (Resolution.fail .start "slack" .inputMissing []).step (.ofMembers []) .empty
      ⟨"limit", .formula, none, some "AVG(width) + slack"⟩ =
      .ok (.fail (.fail .start "slack" .inputMissing []) "limit" (.blocked ["slack"]) []) := by
    change Resolution.resolveFormula _ .empty "limit" "AVG(width) + slack" = _
    rw [Resolution.resolveFormula, references_limit]
    rfl
  refine ⟨[⟨"slack", .inputMissing, []⟩, ⟨"limit", .blocked ["slack"], []⟩], ?_, issues_drift, rfl,
    ⟨_, List.mem_cons_of_mem _ List.mem_cons_self, averages_limit⟩, rfl, rfl⟩
  rw [resolve, drift, List.foldlM_cons, slack, ok_bind, List.foldlM_cons, limit]
  rfl

end Strip

end Inspection
