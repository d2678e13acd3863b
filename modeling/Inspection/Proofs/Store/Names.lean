import Inspection.Proofs.Session.Reachable
import Inspection.Proofs.Store.Frame

/-!
# Names of batches

A name without a slash is the name of a document in the directory of a store. Such names are in
different places unless they are the same (`Session.place?_inj`). The names of new batches are such
where codes are hexadecimal (`Session.plain_of_createBatch`).
-/

namespace Inspection

open Disk

/-- A name that leads to no other directory. -/
def Plain (id : String) : Prop :=
  '/' ∉ id.toList

/-- A text without a slash is its only part. -/
lemma Path.parts_of_notMem {cs : List Char} (plain : '/' ∉ cs) : parts cs = [cs] := by
  induction cs with
  | nil => rfl
  | cons c cs ih =>
    rw [List.mem_cons, not_or] at plain
    unfold parts
    rw [ih plain.2]
    split
    case h_1 => exact absurd rfl plain.1
    case h_2 e => cases e
    case h_3 e =>
      cases e
      rfl

/-- The name of a document is no shorter than its ending. -/
lemma documentName_ne {id n : String} (short : n.length < 5) : id ++ ".json" ≠ n := by
  rintro rfl
  rw [String.length_append] at short
  exact absurd short (Nat.not_lt_of_le (Nat.le_add_left 5 _))

/-- The document of a plain name is in the directory of the store. -/
lemma Plain.documentPath {id : String} (plain : Plain id) (root : Path) :
    Store.documentPath root id = ⟨root.absolute, root.names ++ [id ++ ".json"]⟩ := by
  have own : '/' ∉ (id ++ ".json").toList := by
    rw [String.toList_append, List.mem_append, not_or]
    exact ⟨plain, by decide⟩
  have filled : id ++ ".json" ≠ "" := documentName_ne (by decide)
  have other : id ++ ".json" ≠ "." := documentName_ne (by decide)
  have relative : (id ++ ".json").toList.head? ≠ some '/' :=
    fun first => own (List.mem_of_mem_head? first)
  have name : Path.ofText (id ++ ".json") = ⟨false, [id ++ ".json"]⟩ := by
    rw [Path.ofText, Path.parts_of_notMem own, decide_eq_false relative]
    simp [filled, other]
  rw [Store.documentPath, Path.child, name]
  rfl

namespace Disk

variable {d : Disk}

/-- Names from a directory on lead to what they end in. -/
lemma follow_last {here further names : List String} {n : String} (other : n ≠ "..")
    (h : d.follow here (further ++ [n]) = .ok names) :
    ∃ directory, names = directory ++ [n] ∧ ∀ m names', m ≠ ".." →
      d.follow here (further ++ [m]) = .ok names' → names' = directory ++ [m] := by
  have end_eq : ∀ {here names : List String} {n : String}, n ≠ ".." →
      d.follow here [n] = .ok names → names = here ++ [n] := by
    intro here names n other h
    rw [follow] at h
    · split at h
      case isTrue => cases h
      case isFalse => exact (Except.ok.inj h).symm
    · exact other
  induction further generalizing here with
  | nil => exact ⟨here, end_eq other h, fun m names' other' h' => end_eq other' h'⟩
  | cons k rest ih =>
    by_cases back : k = ".."
    · subst back
      rw [List.cons_append, follow] at h
      obtain ⟨directory, e, all⟩ := ih h
      refine ⟨directory, e, fun m names' other' h' => ?_⟩
      rw [List.cons_append, follow] at h'
      exact all m names' other' h'
    · rw [List.cons_append, follow_cons_eq_ok back (by simp)] at h
      obtain ⟨directory, e, all⟩ := ih h.2.2
      refine ⟨directory, e, fun m names' other' h' => ?_⟩
      rw [List.cons_append, follow_cons_eq_ok back (by simp)] at h'
      exact all m names' other' h'.2.2

/-- In a directory there is one name for a place. -/
lemma placeOf_concat_inj {directory : List String} {n m : String}
    (same : placeOf (directory ++ [n]) = placeOf (directory ++ [m])) : n = m := by
  rw [placeOf, placeOf, String.append_right_inj] at same
  by_cases top : directory = []
  · subst top
    simpa using same
  · rw [String.intercalate_append_of_ne_nil top (by simp),
      String.intercalate_append_of_ne_nil top (by simp), String.append_right_inj] at same
    simpa using same

/-- Where paths to a directory and names in it lead. -/
lemma locate_concat {absolute : Bool} {steps names : List String} {n : String} (other : n ≠ "..")
    (located : d.locate ⟨absolute, steps ++ [n]⟩ = .ok names) :
    ∃ directory, names = directory ++ [n] ∧ ∀ m names', m ≠ ".." →
      d.locate ⟨absolute, steps ++ [m]⟩ = .ok names' → names' = directory ++ [m] := by
  have split : ∀ m, (d.workingDirectory.join ⟨absolute, steps ++ [m]⟩).names =
      (d.workingDirectory.join ⟨absolute, steps⟩).names ++ [m] := by
    intro m
    rw [Path.join, Path.join]
    split
    case isTrue => rfl
    case isFalse => exact (List.append_assoc ..).symm
  obtain ⟨further, hf, h⟩ := bind_eq_ok.1 located
  rw [names_of_ok hf, split] at h
  obtain ⟨directory, e, all⟩ := follow_last other h
  refine ⟨directory, e, fun m names' other' located' => ?_⟩
  obtain ⟨further', hf', h'⟩ := bind_eq_ok.1 located'
  rw [names_of_ok hf', split] at h'
  exact all m names' other' h'

end Disk

/-! ## Codes -/

/-- The digits that codes are written with. -/
def codeDigits : List Char :=
  ['0', '1', '2', '3', '4', '5', '6', '7', '8', '9', 'a', 'b', 'c', 'd', 'e', 'f']

/-- Codes of a source that draws hexadecimal digits. -/
def Codes.Hexadecimal (c : Codes) : Prop :=
  ∀ n, ∀ x ∈ (c.draw n).toList, x ∈ codeDigits

/-- A number is written with such digits. -/
lemma mem_codeDigits_of_hexDigits {width n : Nat} {x : Char} (mem : x ∈ Text.hexDigits width n) :
    x ∈ codeDigits := by
  have digit : ∀ n < 16, Text.hexDigit n ∈ codeDigits := by decide
  induction width generalizing n with
  | zero => cases mem
  | succ width ih =>
    rw [Text.hexDigits, List.mem_append, List.mem_singleton] at mem
    rcases mem with mem | rfl
    · exact ih mem
    · exact digit _ (Nat.mod_lt n (by decide))

/-- Digits of codes in upper case hold no slash. -/
lemma plain_of_codeDigits {cs : List Char} (digits : ∀ x ∈ cs, x ∈ codeDigits) (length : Nat) :
    Plain (String.ofList ((cs.take length).map Char.toUpper)) := by
  have upper : ∀ x ∈ codeDigits, x.toUpper ≠ '/' := by simp [codeDigits]
  intro slash
  rw [String.toList_ofList, List.mem_map] at slash
  obtain ⟨x, mem, e⟩ := slash
  exact upper x (digits x (List.mem_of_mem_take mem)) e

namespace Codes.Hexadecimal

variable {c : Codes} {seed : String} {length : Nat}

/-- The next code of a source is plain. -/
lemma plain_next (hex : c.Hexadecimal) : Plain (c.next seed length).1 := by
  rw [Codes.next]
  split
  case isTrue =>
    refine plain_of_codeDigits (fun x mem => ?_) length
    obtain ⟨w, -, mem⟩ := List.mem_flatMap.1 mem
    exact mem_codeDigits_of_hexDigits mem
  case isFalse => exact plain_of_codeDigits (hex _) length

/-- A source draws the same after its next code. -/
lemma next (hex : c.Hexadecimal) : (c.next seed length).2.Hexadecimal := by
  rw [Codes.next]
  split
  case isTrue => exact hex
  case isFalse => exact hex

/-- A source draws the same after the number of a batch. -/
lemma takeNumber (hex : c.Hexadecimal) {request : BatchRequest} {product : Product}
    {now : Timestamp} : (request.takeNumber product now c).2.Hexadecimal := by
  rw [BatchRequest.takeNumber]
  split
  case h_1 => exact hex.next
  case h_2 => exact hex

end Codes.Hexadecimal

namespace Session

variable {s s' : Session} {id id' : String}

/-- The names of new batches are plain. -/
lemma plain_of_createBatch (hex : s.codes.Hexadecimal) {name : Json} {request : BatchRequest}
    {b : Batch} (created : s.createBatch name request = (.ok b, s')) : Plain b.id := by
  obtain ⟨product, codes, -, -, id, -, -⟩ := createBatch_steps created
  rw [id, Plain, String.toList_append, List.mem_append, not_or]
  exact ⟨by decide, hex.takeNumber.plain_next⟩

/-- A name that a batch can be kept under for itself: in a directory, a plain one. -/
def Names (s : Session) (id : String) : Prop :=
  ∀ root, s.store = .directory root → Plain id

/-- Names under which batches are kept for themselves are the same if their places are. -/
lemma place?_inj (named : s.Names id) (named' : s.Names id') (there : (s.place? id).isSome)
    (same : s.place? id = s.place? id') : id = id' := by
  cases place : s.store with
  | memory batches =>
    rw [place?_memory place, place?_memory place] at same
    exact Option.some.inj same
  | directory root =>
    rw [place?_directory place, Option.isSome_iff_exists] at there
    obtain ⟨own, reached⟩ := there
    rw [place?_directory place, place?_directory place, reached] at same
    obtain ⟨names, located, rfl⟩ := place?_eq_some.1 reached
    obtain ⟨names', located', e⟩ := place?_eq_some.1 same.symm
    rw [(named root place).documentPath] at located
    rw [(named' root place).documentPath] at located'
    -- both documents are in the directory that the root leads to
    obtain ⟨directory, rfl, all⟩ := locate_concat (documentName_ne (by decide)) located
    obtain rfl := all _ _ (documentName_ne (by decide)) located'
    exact (String.append_left_inj ".json").1 (placeOf_concat_inj e).symm

end Session

end Inspection
