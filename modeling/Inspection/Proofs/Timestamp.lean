import Inspection.Proofs.Decimal.Written
import Inspection.Timestamp

/-!
# Points in time as text

A point in time is read back from its text (`ofText?_text`).
-/

namespace Inspection.Timestamp

open Decimal

/-- A number that has no more digits than places fills them with digits, and these write it. -/
lemma padded_spec {width n : Nat} (some : 0 < width) (fits : n < 10 ^ width) :
    (padded width n).length = width ∧ digits? (padded width n) = .some n := by
  have short : (Nat.toDigits 10 n).length ≤ width :=
    (Nat.length_toDigits_le_iff (by decide) some).2 fits
  have zeros : ∀ k (cs : List Char), ofDigits (List.replicate k '0' ++ cs) = ofDigits cs := by
    intro k cs
    induction k with
    | zero => rfl
    | succ k ih => exact ih
  refine ⟨?_, ?_⟩
  · rw [padded, NumberFormat.padLeft, List.length_append, List.length_replicate]
    omega
  · have all : (padded width n).all Char.isDigit := by
      rw [padded, NumberFormat.padLeft, List.all_append, List.all_replicate, List.all_eq_true.2]
      · simp
      · exact fun c mem => (digits_toDigits n).all c mem
    rw [digits?, if_pos all, padded, NumberFormat.padLeft, zeros, ofDigits_toDigits]

/-- Two places hold two digits. -/
lemma padded_two {n : Nat} (fits : n < 10 ^ 2) :
    ∃ a b, padded 2 n = [a, b] ∧ digits? [a, b] = some n := by
  obtain ⟨length, read⟩ := padded_spec (by decide) fits
  match e : padded 2 n with
  | [a, b] => exact ⟨a, b, rfl, e ▸ read⟩
  | [] | [_] | _ :: _ :: _ :: _ => simp [e] at length

/-- Four places hold four digits. -/
lemma padded_four {n : Nat} (fits : n < 10 ^ 4) :
    ∃ a b c d, padded 4 n = [a, b, c, d] ∧ digits? [a, b, c, d] = some n := by
  obtain ⟨length, read⟩ := padded_spec (by decide) fits
  match e : padded 4 n with
  | [a, b, c, d] => exact ⟨a, b, c, d, rfl, e ▸ read⟩
  | [] | [_] | [_, _] | [_, _, _] | _ :: _ :: _ :: _ :: _ :: _ => simp [e] at length

/-- A point in time is read back from its text. -/
lemma ofText?_text (t : Timestamp) : ofText? t.text = some t := by
  obtain ⟨⟨-, year⟩, ⟨-, month⟩, ⟨-, day⟩, hour, minute, second⟩ := t.inRange
  have days : Calendar.daysOf t.year t.month ≤ 31 := by
    rw [Calendar.daysOf]
    split
    · split <;> decide
    · split <;> decide
  obtain ⟨y₁, y₂, y₃, y₄, years, ys⟩ := padded_four year
  obtain ⟨m₁, m₂, months, ms⟩ := padded_two (by omega : t.month < 10 ^ 2)
  obtain ⟨d₁, d₂, dates, ds⟩ := padded_two (by omega : t.day < 10 ^ 2)
  obtain ⟨h₁, h₂, hours, hs⟩ := padded_two (by omega : t.hour < 10 ^ 2)
  obtain ⟨n₁, n₂, minutes, ns⟩ := padded_two (by omega : t.minute < 10 ^ 2)
  obtain ⟨s₁, s₂, seconds, ss⟩ := padded_two (by omega : t.second < 10 ^ 2)
  rw [ofText?, text, String.toList_ofList, years, months, dates, hours, minutes, seconds]
  simp [ys, ms, ds, hs, ns, ss, ofParts?, t.inRange]

/-- A point in time is read back from its document. -/
lemma read_json (t : Timestamp) : read t.json = .found t := by
  rw [json, read, ofText?_text]

end Inspection.Timestamp
