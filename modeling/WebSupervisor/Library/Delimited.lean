import Mathlib.Data.List.Basic
import Mathlib.Tactic.Common

/-! Texts that are put together from numerals and separators can be taken apart
again. -/

namespace WebSupervisor.Library

/-- What stands before the first separator is determined. -/
theorem split_unique {α : Type} {separator : α} {first second left right : List α} (free : separator ∉ first)
    (clean : separator ∉ second) (same : first ++ separator :: left = second ++ separator :: right) :
    first = second ∧ left = right := by
  induction first generalizing second with
  | nil =>
    cases second with
    | nil =>
      cases same
      exact ⟨rfl, rfl⟩
    | cons head tail =>
      cases same
      exact absurd (List.mem_cons_self ..) clean
  | cons head tail ih =>
    cases second with
    | nil =>
      cases same
      exact absurd (List.mem_cons_self ..) free
    | cons other rest =>
      rw [List.cons_append, List.cons_append, List.cons.injEq] at same
      rw [List.mem_cons, not_or] at free clean
      obtain ⟨rfl, equal⟩ := ih free.2 clean.2 same.2
      exact ⟨by rw [same.1], equal⟩

theorem nat_toString_digit {number : Nat} {character : Char} (member : character ∈ (toString number).toList) :
    character.isDigit = true := by
  rw [Nat.toString_eq_ofList_toDigits, String.toList_ofList] at member
  exact Nat.isDigit_of_mem_toDigits (by omega) (by omega) member

theorem nat_toString_injective {first second : Nat} (same : toString first = toString second) : first = second := by
  rw [Nat.toString_eq_ofList_toDigits, Nat.toString_eq_ofList_toDigits] at same
  have digits := congrArg String.toList same
  rw [String.toList_ofList, String.toList_ofList] at digits
  rw [← @Nat.ofDigitChars_ten_toDigits first, digits, Nat.ofDigitChars_ten_toDigits]

private theorem int_toString_negSucc (number : Nat) :
    (toString (Int.negSucc number)).toList = '-' :: (toString (number + 1)).toList := by
  have unfolded : toString (Int.negSucc number) = "-" ++ toString (number + 1) := rfl
  rw [unfolded, String.toList_append]
  rfl

theorem int_toString_plain {number : Int} {separator : Char} (plain : separator.isDigit = false)
    (sign : separator ≠ '-') : separator ∉ (toString number).toList := by
  intro member
  cases number with
  | ofNat number =>
    have digit : separator.isDigit = true := @nat_toString_digit number _ member
    rw [plain] at digit
    cases digit
  | negSucc number =>
    rw [int_toString_negSucc] at member
    rcases List.mem_cons.mp member with same | digits
    · exact sign same
    · have digit := nat_toString_digit digits
      rw [plain] at digit
      cases digit

theorem int_toString_injective {first second : Int} (same : toString first = toString second) : first = second := by
  have dash {number other : Nat} : toString (Int.ofNat number) ≠ toString (Int.negSucc other) := by
    intro equal
    have member : '-' ∈ (toString number).toList := by
      have lists := congrArg String.toList equal
      rw [int_toString_negSucc] at lists
      have unfolded : toString (Int.ofNat number) = toString number := rfl
      rw [← unfolded, lists]
      exact List.mem_cons_self ..
    have digit := nat_toString_digit member
    cases digit
  cases first with
  | ofNat number =>
    cases second with
    | ofNat other => exact congrArg Int.ofNat (nat_toString_injective same)
    | negSucc other => exact absurd same dash
  | negSucc number =>
    cases second with
    | ofNat other => exact absurd same.symm dash
    | negSucc other =>
      have lists := congrArg String.toList same
      rw [int_toString_negSucc, int_toString_negSucc, List.cons.injEq] at lists
      have equal := nat_toString_injective (String.toList_inj.mp lists.2)
      rw [Nat.succ.inj equal]

end WebSupervisor.Library
