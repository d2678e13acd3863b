import Inspection.Proofs.Diagnostics
import Inspection.Proofs.Evaluation.Errors
import Inspection.Proofs.Session.Merging
import Inspection.Proofs.Session.SavingFirst

/-!
# What a saving explains

Each item that is saved without a status is explained. What is noted of an item tells something
wherever its result is kept without a status, and no error where it is kept with one
(`Point.note_eq`). A saving of items with names keeps to that, and says nothing about anything else
(`Saving.Explained`). So its report has one entry for each item that was submitted, which explains
the result that is stored of it, and the status of the whole follows from theirs
(`saveProgress_explains`).
-/

namespace Inspection

open Formula

/-- What was found about an item explains the result that is kept of it: without a status something
was found, and with one there is no error. -/
structure ItemFindings.Explains (f : ItemFindings) (r : Result) : Prop where
  waiting : r.status = none → f.Tells
  judged : r.status.isSome → f.errors = []

namespace Diagnostics

variable {d : Diagnostics} {item : String} {f g : ItemFindings} {r : Result}

/-- The diagnostics with findings about an item that explain its result; with a status it came to a
verdict. -/
def explain (d : Diagnostics) (item : String) (f : ItemFindings) (r : Result) : Diagnostics :=
  { d.add item f with
    evaluated := if r.status.isSome then addNew d.evaluated item else d.evaluated }

/-- Further findings about an item explain that it has no status, if they tell something. -/
lemma exists_explain_of_none (status : r.status = none) (told : g.Tells) :
    ∃ h : ItemFindings, h.Explains r ∧ (d.add item f).add item g = d.explain item h r := by
  refine ⟨f.append g, ⟨fun _ => ?_, fun some => ?_⟩, ?_⟩
  · exact told.imp (List.append_ne_nil_of_right_ne_nil _) (List.append_ne_nil_of_right_ne_nil _)
  · rw [status] at some
    cases some
  · rw [add_add, explain, status]
    rfl

end Diagnostics

namespace Point

variable {p : Point} {x : Submission} {c : Context} {r : Result} {d : Diagnostics}
  {f : ItemFindings}

/-- What is noted of an evaluated item, of which no error was found before, explains the result that
is kept of it. -/
lemma noteResult_eq (named : p.name ≠ "") (fine : f.errors = []) :
    ∃ g : ItemFindings, g.Explains (p.keepResult r) ∧
      p.noteResult r (d.add p.name f) = d.explain p.name g (p.keepResult r) := by
  by_cases waiting : r.status = none
  · have kept : (p.keepResult r).status = none := by
      rw [keepResult]
      split
      case isTrue => rfl
      case isFalse => exact waiting
    rw [noteResult, waiting, if_pos (by rfl), Diagnostics.addWarning_eq named rfl]
    exact Diagnostics.exists_explain_of_none kept (.inr (List.cons_ne_nil _ _))
  have judged : ¬r.status.isNone := by simpa using waiting
  rw [noteResult, if_neg judged, keepResult]
  by_cases few : r.samples.length < p.setup.sampleAmount.val
  · rw [if_pos few, if_pos few, Diagnostics.addWarning_eq named rfl]
    exact Diagnostics.exists_explain_of_none rfl (.inr (List.cons_ne_nil _ _))
  · rw [if_neg few, if_neg few, Diagnostics.markEvaluated, Diagnostics.mention_eq,
      Diagnostics.add_add]
    refine ⟨f.append ⟨[], []⟩, ⟨fun none => absurd none waiting, fun _ => ?_⟩, ?_⟩
    · simpa [ItemFindings.append] using fine
    · rw [Diagnostics.explain, if_pos (by simpa [Option.isSome_iff_ne_none] using waiting)]
      rfl

/-- What is noted of an item explains the result that is kept of it. -/
lemma note_eq (named : p.name ≠ "") (kept : p.keep x c = .ok r) :
    ∃ f : ItemFindings, f.Explains r ∧ p.note x c d = d.explain p.name f r := by
  obtain ⟨f, added, found⟩ := Diagnostics.addValidation_eq (d := d) (v := x.validate p false) named
  rw [keep] at kept
  rw [note, added]
  by_cases valid : (x.validate p false).isValid
  · have fine : f.errors = [] := found.2 (by simpa [Validation.isValid] using valid)
    simp only [valid, Bool.not_true, Bool.false_eq_true, if_false] at kept ⊢
    split at kept
    case h_1 =>
      cases kept
      exact noteResult_eq named fine
    case h_2 e evaluated =>
      cases kept
      obtain ⟨g, failed, told⟩ :=
        Diagnostics.addFailure_eq named (raises_of_evaluate evaluated).ne_unresolved
      rw [failed]
      exact Diagnostics.exists_explain_of_none rfl told
    case h_3 => cases kept
  · have told : f.errors ≠ [] := by
      rw [Ne, found]
      simpa [Validation.isValid] using valid
    simp only [valid, Bool.not_false, if_true] at kept ⊢
    cases kept
    exact ⟨f, ⟨fun _ => .inl told, fun judged => by cases judged⟩, rfl⟩

end Point

/-- What a saving has noted so far explains the results that it keeps, and says nothing else. -/
structure Saving.Explained (s : Saving) : Prop where
  errors : s.diagnostics.errors = []
  warnings : s.diagnostics.warnings = []
  items : List.Forall₂ (fun r entry => entry.1 = r.item ∧ entry.2.Explains r) s.results
    s.diagnostics.items.entries
  evaluated : s.diagnostics.evaluated =
    (s.results.filter fun r => r.status.isSome).map Result.item

namespace Saving.Explained

variable {product : Product} {submissions : Table Submission} {s s' : Saving}

/-- The items that something is noted of are those whose results are kept. -/
lemma keys (explained : s.Explained) :
    s.diagnostics.items.keys = s.results.map Result.item :=
  map_of_forall₂ explained.items fun _ _ h => h.1

/-- Nothing is explained before anything is kept. -/
lemma start (c : Context) : Explained ⟨c, .empty, []⟩ :=
  ⟨rfl, rfl, .nil, rfl⟩

/-- One more item that is saved is explained, besides those before. -/
lemma evaluate (explained : s.Explained) {p : Point} {x : Submission} (named : p.name ≠ "")
    (new : p.name ∉ s.results.map Result.item) (h : s.evaluate p x = .ok s') :
    s'.Explained ∧ s'.results.map Result.item = s.results.map Result.item ++ [p.name] := by
  rw [evaluate_eq, map_eq_ok] at h
  obtain ⟨r, kept, rfl⟩ := h
  obtain ⟨f, explains, noted⟩ := Point.note_eq (d := s.diagnostics) named kept
  have own := Point.item_of_keep kept
  have absent : p.name ∉ s.diagnostics.items.keys := by rwa [explained.keys]
  have nothing : s.diagnostics.findings p.name = ⟨[], []⟩ := by
    rw [Diagnostics.findings, Table.find?_eq_none.2 absent]
    rfl
  have entries : (s.diagnostics.add p.name f).items.entries =
      s.diagnostics.items.entries ++ [(p.name, f)] := by
    rw [Diagnostics.add, nothing]
    exact putEntry_of_new absent
  rw [noted]
  refine ⟨⟨explained.errors, explained.warnings, ?_, ?_⟩, by simp [own]⟩
  · rw [Diagnostics.explain, entries]
    exact List.rel_append explained.items (.cons ⟨own.symm, explains⟩ .nil)
  · have unjudged : p.name ∉ s.diagnostics.evaluated := by
      rw [explained.evaluated]
      exact fun mem => new (List.map_subset _ List.filter_sublist.subset mem)
    rw [Diagnostics.explain]
    by_cases judged : r.status.isSome
    · rw [if_pos judged, addNew, if_neg unjudged, explained.evaluated]
      simp [judged, own]
    · rw [if_neg judged, explained.evaluated]
      simp [judged]

/-- An item came to a verdict just if its result has a status. -/
lemma mem_evaluated (explained : s.Explained) (distinct : (s.results.map Result.item).Nodup)
    {r : Result} (mem : r ∈ s.results) :
    r.item ∈ s.diagnostics.evaluated ↔ r.status.isSome := by
  rw [explained.evaluated, List.mem_map]
  constructor
  · rintro ⟨r', mem', same⟩
    obtain ⟨mem', judged⟩ := List.mem_filter.1 mem'
    rwa [← List.inj_on_of_nodup_map distinct mem' mem same]
  · exact fun judged => ⟨r, List.mem_filter.2 ⟨mem, judged⟩, rfl⟩

/-- All items that are saved one after the other are explained, besides those before. -/
lemma evaluateAll (named : ∀ p ∈ product.points, p.name ≠ "") {order : List String}
    (explained : s.Explained) (once : (s.results.map Result.item ++ order).Nodup)
    (h : s.evaluateAll product submissions order = .ok s') : s'.Explained := by
  induction order generalizing s with
  | nil =>
    cases h
    exact explained
  | cons n rest ih =>
    obtain ⟨p, found, h⟩ := bind_eq_ok.1 h
    obtain ⟨mem, rfl⟩ := Product.point?_eq_some (Session.pointOf_eq_ok.1 found)
    split at h
    case h_1 => exact ih explained (once.sublist (by simp)) h
    case h_2 x _ =>
      obtain ⟨s₁, saved, h⟩ := bind_eq_ok.1 h
      have new : p.name ∉ s.results.map Result.item := fun there =>
        List.disjoint_of_nodup_append once there List.mem_cons_self
      obtain ⟨explained₁, items⟩ := explained.evaluate (named p mem) new saved
      exact ih explained₁ (by rwa [items, List.append_assoc, List.singleton_append]) h

end Saving.Explained

/-! ## Reports -/

/-- What a report says of an item explains the result that is stored of it. -/
structure ItemReport.Explains (i : ItemReport) (r : Result) : Prop where
  waiting : r.status = none → i.errors ≠ [] ∨ i.warnings ≠ []
  failed : i.status = .failed ↔ i.errors ≠ []
  success : i.status = .success ↔ r.status.isSome ∧ i.errors = [] ∧ i.warnings = []

/-- A report explains what a batch holds of some items: it has one entry for each of them, counts
those with a status, and has the status of its worst entry. -/
structure Report.Explains (report : Report) (b : Batch) (submitted : List String) : Prop where
  items : (report.items.map ItemReport.item).Perm submitted
  each : ∀ i ∈ report.items, ∃ r, b.result? i.item = some r ∧ i.Explains r
  evaluated : report.evaluated =
    submitted.countP fun n => (b.result? n).any fun r => r.status.isSome
  failed : report.status = .failed ↔ ∃ i ∈ report.items, i.status = .failed
  success : report.status = .success ↔ ∀ i ∈ report.items, i.status = .success
  partially : report.status = .partially ↔
    (¬∃ i ∈ report.items, i.status = .failed) ∧ ¬∀ i ∈ report.items, i.status = .success

/-- A report explains what has the same statuses. -/
lemma Report.Explains.congr {report : Report} {b b' : Batch} {submitted : List String}
    (explains : report.Explains b submitted)
    (same : ∀ n, (b'.result? n).map Result.status = (b.result? n).map Result.status) :
    report.Explains b' submitted := by
  have judged : ∀ n, ((b'.result? n).any fun r => r.status.isSome) =
      (b.result? n).any fun r => r.status.isSome := by
    intro n
    have status := congrArg (Option.any Option.isSome) (same n)
    rwa [Option.any_map, Option.any_map] at status
  refine { explains with
    each := fun i mem => ?_
    evaluated := by simp only [judged, explains.evaluated] }
  obtain ⟨r, found, waiting, failed, success⟩ := explains.each i mem
  have status := same i.item
  rw [found] at status
  obtain ⟨r', found', status⟩ := Option.map_eq_some_iff.1 status
  exact ⟨r', found', status ▸ waiting, failed, status ▸ success⟩

namespace Diagnostics

variable {d : Diagnostics} {item : String}

/-- The status of the whole is that of the worst item, where nothing was found about no item. -/
lemma status_eq (errors : d.errors = []) (warnings : d.warnings = []) :
    (d.status = .failed ↔ ∃ i ∈ d.itemReports, i.status = .failed) ∧
    (d.status = .success ↔ ∀ i ∈ d.itemReports, i.status = .success) ∧
    (d.status = .partially ↔
      (¬∃ i ∈ d.itemReports, i.status = .failed) ∧ ¬∀ i ∈ d.itemReports, i.status = .success) := by
  have all : d.status = if ∃ i ∈ d.itemReports, i.status = .failed then .failed
      else if ∃ i ∈ d.itemReports, i.status = .partially then .partially else .success := by
    simp [status, errors, warnings]
  rw [all]
  by_cases failed : ∃ i ∈ d.itemReports, i.status = .failed
  · have mixed : ¬∀ i ∈ d.itemReports, i.status = .success := by
      intro all
      obtain ⟨i, mem, e⟩ := failed
      rw [all i mem] at e
      cases e
    rw [if_pos failed]
    exact ⟨iff_of_true rfl failed, iff_of_false nofun mixed, iff_of_false nofun fun h => h.1 failed⟩
  rw [if_neg failed]
  by_cases waiting : ∃ i ∈ d.itemReports, i.status = .partially
  · have mixed : ¬∀ i ∈ d.itemReports, i.status = .success := by
      intro all
      obtain ⟨i, mem, e⟩ := waiting
      rw [all i mem] at e
      cases e
    rw [if_pos waiting]
    exact ⟨iff_of_false nofun failed, iff_of_false nofun mixed, iff_of_true rfl ⟨failed, mixed⟩⟩
  · have all : ∀ i ∈ d.itemReports, i.status = .success := by
      intro i mem
      cases e : i.status with
      | success => rfl
      | partially => exact absurd ⟨i, mem, e⟩ waiting
      | failed => exact absurd ⟨i, mem, e⟩ failed
    rw [if_neg waiting]
    exact ⟨iff_of_false nofun failed, iff_of_true rfl all, iff_of_false nofun fun h => h.2 all⟩

/-- What is reported of an item explains its result if what was found about it does. -/
lemma explains_itemReport {f : ItemFindings} {r : Result} (explains : f.Explains r) :
    ItemReport.Explains ⟨item, itemStatus f r.status.isSome, f.errors, f.warnings⟩ r := by
  obtain ⟨errors, warnings⟩ := f
  refine ⟨explains.waiting, ?_, ?_⟩
  · cases errors with
    | nil => cases warnings <;> cases r.status.isSome <;> simp [itemStatus]
    | cons x rest => simp [itemStatus]
  · cases errors with
    | nil => cases warnings <;> cases r.status.isSome <;> simp [itemStatus]
    | cons x rest => simp [itemStatus]

end Diagnostics

namespace Session

variable {s s' : Session} {product : Product} {b : Batch} {id : String} {items : List Json}
  {progress : Progress}

/-- The report of a saving explains the batch to which its results are put. -/
lemma explains_report {saving : Saving} (explained : saving.Explained)
    (distinct : (saving.results.map Result.item).Nodup) {b' : Batch}
    (held : ∀ r ∈ saving.results, b'.result? r.item = some r) (id product : String)
    {submitted : List String} (perm : (saving.results.map Result.item).Perm submitted) :
    (saving.diagnostics.report id product).Explains b' submitted := by
  obtain ⟨failed, success, partially⟩ :=
    Diagnostics.status_eq explained.errors explained.warnings
  refine ⟨?_, ?_, ?_, failed, success, partially⟩
  · have names : saving.diagnostics.itemReports.map ItemReport.item =
        saving.diagnostics.items.keys := by simp [Diagnostics.itemReports, Table.keys]
    rw [Diagnostics.report, names, explained.keys]
    exact perm
  · intro i mem
    obtain ⟨⟨n, f⟩, here, rfl⟩ := List.mem_map.1 mem
    obtain ⟨r, hr, rfl, explains⟩ := exists_mem_of_forall₂ explained.items here
    refine ⟨r, held r hr, ?_⟩
    simp only [explained.mem_evaluated distinct hr, Bool.decide_eq_true]
    exact Diagnostics.explains_itemReport explains
  · rw [Diagnostics.report, explained.evaluated, List.length_map, ← List.countP_eq_length_filter,
      ← perm.countP_eq, List.countP_map]
    refine List.countP_congr fun r mem => ?_
    simp [held r mem]

/-- Whatever numbers are lost, an item of a batch that was stored is loaded with the same status. -/
lemma status_of_save {b' : Batch} (stored : s.save b = .ok s') (loaded : s'.batch b.id = .ok b')
    (n : String) : (b'.result? n).map Result.status = (b.result? n).map Result.status := by
  obtain ⟨-, both, -⟩ := returns_of_save stored loaded
  have same := Batch.result?_rel (fun _ _ h => h.reread.item) both n
  generalize b.result? n = old at same ⊢
  generalize b'.result? n = new at same ⊢
  cases same with
  | none => rfl
  | some h => exact congrArg some h.reread.status

/-- **Every open item is explained.** Where the points of a product have names, a saving that
returns reports one entry for each item that was submitted. It explains the result that is stored of
the item: without a status there is an error or a warning. The report counts the items that are
stored with a status, and it failed just if an item did, and succeeded just if all did. -/
theorem saveProgress_explains (named : ∀ p ∈ product.points, p.name ≠ "")
    (loaded : s.batch id = .ok b) (found : s.product b.product = .ok product)
    (h : s.saveProgress id items = .ok (progress, s')) :
    ∃ submissions report, Submission.parseAll items = .ok submissions ∧
      (submissions.map Submission.item).Nodup ∧ progress.report = some report ∧
      report.Explains progress.batch (submissions.map Submission.item) ∧
      ∀ b', s'.batch progress.batch.id = .ok b' →
        report.Explains b' (submissions.map Submission.item) := by
  obtain ⟨submissions, product', order, saving, read, isOpen, found', e, kept, done, stored⟩ :=
    saveProgress_steps loaded h
  obtain rfl : product = product' := Except.ok.inj (found.symm.trans found')
  have distinct := (Submission.parseAll_eq_ok.1 read).2
  rw [Submission.keys_table distinct] at e
  have perm := Product.perm_evaluationOrder distinct e
  have listed : ∀ n ∈ order, n ∈ (Submission.table submissions).keys :=
    fun n mem => Submission.mem_keys_table.2 (perm.subset mem)
  have once : order.Nodup := perm.symm.nodup distinct
  have own := items_of_evaluateAll listed kept
  have explained := (Saving.Explained.start _).evaluateAll named (by simpa using once) kept
  have held : ∀ r ∈ saving.results, progress.batch.result? r.item = some r := by
    obtain ⟨-, rfl⟩ := Batch.save_eq_ok.1 done
    exact fun r mem => Batch.result?_putAll_of_mem (own ▸ once) mem
  have explains := explains_report explained (own ▸ once) held id b.product (own ▸ perm)
  obtain ⟨-, rfl⟩ := Batch.save_eq_ok.1 done
  exact ⟨submissions, _, read, distinct, rfl, explains,
    fun b' loaded => explains.congr (status_of_save stored loaded)⟩

end Session

namespace Plate

open Session

/-- A copy that waits for its thickness is reported, and it is said why. -/
theorem saveProgress_explains_copy : ∃ report : Report,
    (session opened).saveProgress opened.id [document "copy" []] =
      .ok (⟨copied awaited, 1, some report⟩, session (copied awaited)) ∧
    report.Explains (copied awaited) ["copy"] ∧
    ∃ i, report.items = [i] ∧ (i.errors ≠ [] ∨ i.warnings ≠ []) := by
  obtain ⟨report, saved⟩ := saveProgress_copy (by rfl) saves_awaited
  obtain ⟨submissions, report', read, -, own, explains, -⟩ :=
    saveProgress_explains (by decide) (batch_session opened) (product_session opened) saved
  obtain rfl := Option.some.inj own
  obtain rfl : [submission "copy" []] = submissions := Except.ok.inj read
  obtain ⟨i, only, name⟩ := List.map_eq_singleton_iff.1 (List.perm_singleton.1 explains.items)
  obtain ⟨r, held, own⟩ := explains.each i (by simp [only])
  have waiting : r.status = none := by
    rw [name] at held
    cases held
    rfl
  exact ⟨report, saved, explains, i, only, own.waiting waiting⟩

end Plate

end Inspection
