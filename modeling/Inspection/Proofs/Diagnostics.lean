import Inspection.Diagnostics.Report
import Inspection.Proofs.Product.Soundness

/-!
# Diagnostics of items

What is noted of one item says nothing about the others. A change of diagnostics is `About` an item
if it leaves those of all other items, and makes of those of the item what depends on them only;
validations and failures are noted so (`about_addValidation`, `about_addFailure`). Diagnostics that
say the same about every item lead to the same reports of the items (`itemReports_perm`).

Whatever is noted of an item with a name is added to what was found about it (`Diagnostics.add`),
and nothing is said about no item. A validation adds an error for each issue (`addValidation_eq`),
and a failure adds something, unless it is one of variables and names none of them
(`addFailure_eq`).
-/

namespace Inspection.Diagnostics

/-- Diagnostics that say the same about an item. -/
structure Same (n : String) (d d' : Diagnostics) : Prop where
  items : d.items.find? n = d'.items.find? n
  evaluated : n ∈ d.evaluated ↔ n ∈ d'.evaluated

namespace Same

variable {n : String} {d d' d'' : Diagnostics}

lemma refl : Same n d d := ⟨rfl, .rfl⟩

lemma symm (same : Same n d d') : Same n d' d := ⟨same.items.symm, same.evaluated.symm⟩

lemma trans (same : Same n d d') (same' : Same n d' d'') : Same n d d'' :=
  ⟨same.items.trans same'.items, same.evaluated.trans same'.evaluated⟩

/-- What was found about the item is the same. -/
lemma findings (same : Same n d d') : d.findings n = d'.findings n := by
  rw [Diagnostics.findings, Diagnostics.findings, same.items]

end Same

/-- A note of an item: it leaves the others, and adds to what was said about the item. -/
structure About (item : String) (note : Diagnostics → Diagnostics) : Prop where
  frame : ∀ {n d}, n ≠ item → Same n (note d) d
  congr : ∀ {d d'}, Same item d d' → Same item (note d) (note d')

namespace About

variable {item : String} {note note' : Diagnostics → Diagnostics}

/-- A note after another one of the same item is one of it. -/
lemma comp (about : About item note) (about' : About item note') :
    About item fun d => note' (note d) where
  frame other := (about'.frame other).trans (about.frame other)
  congr same := about'.congr (about.congr same)

/-- Notes of an item one after the other are one of it. -/
lemma foldl {α : Type} {f : Diagnostics → α → Diagnostics}
    (about : ∀ a, About item fun d => f d a) (l : List α) : About item fun d => l.foldl f d := by
  induction l with
  | nil => exact ⟨fun _ => .refl, fun same => same⟩
  | cons a rest ih => exact (about a).comp ih

end About

variable {item : String}

/-- Findings about an item are a note of it. -/
lemma about_findings (g : ItemFindings → ItemFindings) :
    About item fun d => { d with items := d.items.insert item (g (d.findings item)) } where
  frame other := by
    refine ⟨?_, .rfl⟩
    rw [Table.find?_insert, if_neg other]
  congr same := by
    refine ⟨?_, same.evaluated⟩
    rw [Table.find?_insert, Table.find?_insert, if_pos rfl, if_pos rfl, same.findings]

/-- Mentioning an item is a note of it. -/
lemma about_mention : About item fun d => d.mention item :=
  about_findings id

/-- An error about an item is a note of it. -/
lemma about_addError {x : Diagnostic} (own : x.item = some item) :
    About item fun d => d.addError x := by
  by_cases empty : item = ""
  · subst empty
    simp only [addError, own]
    exact ⟨fun _ => ⟨rfl, .rfl⟩, fun same => ⟨same.items, same.evaluated⟩⟩
  · have named : x.item.filter (· ≠ "") = some item := by simp [own, empty]
    simp only [addError, named]
    exact about_findings fun f => { f with errors := f.errors ++ [x] }

/-- A warning about an item is a note of it. -/
lemma about_addWarning {x : Diagnostic} (own : x.item = some item) :
    About item fun d => d.addWarning x := by
  by_cases empty : item = ""
  · subst empty
    simp only [addWarning, own]
    exact ⟨fun _ => ⟨rfl, .rfl⟩, fun same => ⟨same.items, same.evaluated⟩⟩
  · have named : x.item.filter (· ≠ "") = some item := by simp [own, empty]
    simp only [addWarning, named]
    exact about_findings fun f => { f with warnings := f.warnings ++ [x] }

/-- That an item came to a verdict is a note of it. -/
lemma about_markEvaluated : About item fun d => d.markEvaluated item where
  frame {n d} other := by
    refine ⟨(about_mention.frame other).items, ?_⟩
    simp only [markEvaluated, mem_addNew]
    exact or_iff_left other
  congr {d d'} same := by
    refine ⟨(about_mention.congr same).items, ?_⟩
    simp only [markEvaluated, mem_addNew]
    rw [same.evaluated]

/-- What a validation found is a note of its item. -/
lemma about_addValidation (v : Validation) : About v.item fun d => d.addValidation v := by
  simp only [addValidation]
  exact (about_mention.comp (.foldl (fun _ => about_addError rfl) v.issues)).comp
    (.foldl (fun _ => about_addWarning rfl) v.notes)

/-- Why an item could not be evaluated is a note of it. -/
lemma about_addFailure (e : Error) : About item fun d => d.addFailure (some item) e := by
  cases e with
  | missingDependency => exact about_addWarning rfl
  | unresolved _ failures => exact .foldl (fun _ => about_addError rfl) failures
  | _ => exact about_addError rfl

/-- Where the same is said about every item, the reports of the items are the same. -/
lemma itemReports_perm {d d' : Diagnostics} (same : ∀ n, Same n d d') :
    d.itemReports.Perm d'.itemReports := by
  have entries := Table.entries_perm fun n => (same n).items
  have reports : ∀ n f, itemStatus f (n ∈ d.evaluated) = itemStatus f (n ∈ d'.evaluated) := by
    intro n f
    simp only [(same n).evaluated]
  simp only [itemReports, reports]
  exact entries.map _

end Inspection.Diagnostics

namespace Inspection

/-! ## What is added -/

/-- Of two values that are written under one name, one after the other, the last one stays. -/
lemma Table.insert_insert {α : Type} (t : Table α) (key : String) (a b : α) :
    (t.insert key a).insert key b = t.insert key b := by
  have same : ∀ entries : List (String × α),
      putEntry key b (putEntry key a entries) = putEntry key b entries := by
    intro entries
    induction entries with
    | nil => simp [putEntry]
    | cons entry rest ih =>
      by_cases here : entry.1 = key
      · simp [putEntry, here]
      · simp [putEntry, here, ih]
  simp only [insert, same]

namespace ItemFindings

/-- Findings about an item, and further ones. -/
def append (f g : ItemFindings) : ItemFindings :=
  ⟨f.errors ++ g.errors, f.warnings ++ g.warnings⟩

/-- Something was found. -/
def Tells (f : ItemFindings) : Prop :=
  f.errors ≠ [] ∨ f.warnings ≠ []

end ItemFindings

namespace Diagnostics

variable {d : Diagnostics} {item : String} {f g : ItemFindings}

/-- The diagnostics with further findings about an item. -/
def add (d : Diagnostics) (item : String) (f : ItemFindings) : Diagnostics :=
  { d with items := d.items.insert item ((d.findings item).append f) }

/-- Findings about an item are added to those before. -/
lemma add_add : (d.add item f).add item g = d.add item (f.append g) := by
  simp [add, findings, Table.insert_insert, ItemFindings.append]

/-- An item that is mentioned has no findings for that. -/
lemma mention_eq : d.mention item = d.add item ⟨[], []⟩ := by
  simp [mention, add, ItemFindings.append]

/-- An error about a named item is added to it. -/
lemma addError_eq {x : Diagnostic} (named : item ≠ "") (own : x.item = some item) :
    d.addError x = d.add item ⟨[x], []⟩ := by
  have kept : x.item.filter (· ≠ "") = some item := by simp [own, named]
  rw [addError, kept]
  simp [add, ItemFindings.append]

/-- A warning about a named item is added to it. -/
lemma addWarning_eq {x : Diagnostic} (named : item ≠ "") (own : x.item = some item) :
    d.addWarning x = d.add item ⟨[], [x]⟩ := by
  have kept : x.item.filter (· ≠ "") = some item := by simp [own, named]
  rw [addWarning, kept]
  simp [add, ItemFindings.append]

/-- Errors about a named item are added to what was found about it. -/
lemma foldl_addError {α : Type} {x : α → Diagnostic} (named : item ≠ "")
    (own : ∀ a, (x a).item = some item) (l : List α) :
    l.foldl (fun d a => d.addError (x a)) (d.add item f) =
      d.add item (f.append ⟨l.map x, []⟩) := by
  induction l generalizing f with
  | nil => simp [ItemFindings.append]
  | cons a rest ih =>
    rw [List.foldl_cons, addError_eq named (own a), add_add, ih]
    simp [ItemFindings.append]

/-- Warnings about a named item are added to what was found about it. -/
lemma foldl_addWarning {α : Type} {x : α → Diagnostic} (named : item ≠ "")
    (own : ∀ a, (x a).item = some item) (l : List α) :
    l.foldl (fun d a => d.addWarning (x a)) (d.add item f) =
      d.add item (f.append ⟨[], l.map x⟩) := by
  induction l generalizing f with
  | nil => simp [ItemFindings.append]
  | cons a rest ih =>
    rw [List.foldl_cons, addWarning_eq named (own a), add_add, ih]
    simp [ItemFindings.append]

/-- A validation adds an error for each issue to its item. -/
lemma addValidation_eq {v : Validation} (named : v.item ≠ "") :
    ∃ f, d.addValidation v = d.add v.item f ∧ (f.errors = [] ↔ v.issues = []) := by
  rw [addValidation, mention_eq, foldl_addError named fun _ => rfl,
    foldl_addWarning named fun _ => rfl]
  exact ⟨_, rfl, by simp [ItemFindings.append]⟩

/-- A failure adds something to its item, unless it is one of variables and names none. -/
lemma addFailure_eq {e : Error} (named : item ≠ "") (told : ∀ i, e ≠ .unresolved i []) :
    ∃ f, d.addFailure (some item) e = d.add item f ∧ f.Tells := by
  cases e with
  | missingDependency => exact ⟨_, addWarning_eq named rfl, .inr nofun⟩
  | unresolved i failures =>
    cases failures with
    | nil => exact absurd rfl (told i)
    | cons first rest =>
      rw [addFailure, List.foldl_cons, addError_eq named rfl, foldl_addError named fun _ => rfl]
      exact ⟨_, rfl, .inl nofun⟩
  | _ => exact ⟨_, addError_eq named rfl, .inl nofun⟩

end Diagnostics

end Inspection
