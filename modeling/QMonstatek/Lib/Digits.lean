import Mathlib.Data.List.Basic
import Mathlib.Tactic.Common

/-!
# Decimal numerals

The characters of `toString n` are digits and at least one (`isDigit_of_mem`, `ne_nil`), a text of
digits ends where something else begins (`takeWhile_append`, `dropWhile_append`), and a numeral is
read back from its digits (`ofDigitChars_toString`).
-/

namespace QMon.Digits

variable {text rest : List Char}

theorem toList_toString (n : Nat) : (toString n).toList = Nat.toDigits 10 n := by
  rw [Nat.toString_eq_ofList_toDigits, String.toList_ofList]

theorem isDigit_of_mem {n : Nat} {c : Char} (h : c ∈ (toString n).toList) : c.isDigit = true := by
  rw [toList_toString] at h
  exact Nat.isDigit_of_mem_toDigits (by decide) (by decide) h

theorem ne_nil (n : Nat) : (toString n).toList ≠ [] := by
  rw [toList_toString]
  exact Nat.toDigits_ne_nil

/-- no sign stands in front -/
theorem head?_ne (n : Nat) {sign : Char} (hs : sign.isDigit = false) :
    (toString n).toList.head? ≠ some sign := by
  intro hhead
  have hdigit := isDigit_of_mem (List.mem_of_head? hhead)
  rw [hs] at hdigit
  cases hdigit

/-- **A numeral is read back.** -/
theorem ofDigitChars_toString (n : Nat) : Nat.ofDigitChars 10 (toString n).toList 0 = n := by
  rw [toList_toString]
  exact Nat.ofDigitChars_ten_toDigits

theorem toList_inj {m n : Nat} (h : (toString m).toList = (toString n).toList) : m = n := by
  rw [← ofDigitChars_toString m, h, ofDigitChars_toString n]

/-! ## Texts that begin with digits -/

theorem head_nil : ∀ c ∈ ([] : List Char).head?, c.isDigit = false := by
  intro c hc
  cases hc

theorem head_cons {c : Char} (hc : c.isDigit = false) (rest : List Char) :
    ∀ c' ∈ (c :: rest).head?, c'.isDigit = false := by
  intro c' hc'
  obtain rfl : c = c' := Option.some.inj hc'
  exact hc

section
variable (hrest : ∀ c ∈ rest.head?, c.isDigit = false) (h : ∀ c ∈ text, c.isDigit = true)
include hrest

theorem span_rest :
    rest.takeWhile Char.isDigit = [] ∧ rest.dropWhile Char.isDigit = rest := by
  cases rest with
  | nil => exact ⟨rfl, rfl⟩
  | cons c rest =>
    have hc : ¬ c.isDigit = true := by
      rw [hrest c rfl]
      exact Bool.false_ne_true
    exact ⟨List.takeWhile_cons_of_neg hc, List.dropWhile_cons_of_neg hc⟩

include h

theorem takeWhile_append : (text ++ rest).takeWhile Char.isDigit = text := by
  rw [List.takeWhile_append_of_pos h, (span_rest hrest).1, List.append_nil]

theorem dropWhile_append : (text ++ rest).dropWhile Char.isDigit = rest := by
  rw [List.dropWhile_append_of_pos h, (span_rest hrest).2]

end

/-- **Trimming leaves digits alone**, whatever the space around them is. -/
theorem trim_eq {space : Char → Bool} (hspace : ∀ c, c.isDigit = true → space c = false)
    (h : ∀ c ∈ text, c.isDigit = true) :
    ((text.dropWhile space).reverse.dropWhile space).reverse = text := by
  have kept (l : List Char) (hl : ∀ c ∈ l, c.isDigit = true) : l.dropWhile space = l := by
    cases l with
    | nil => rfl
    | cons c l =>
      apply List.dropWhile_cons_of_neg
      rw [hspace c (hl c List.mem_cons_self)]
      exact Bool.false_ne_true
  have hreverse : ∀ c ∈ text.reverse, c.isDigit = true := by
    intro c hc
    exact h c (List.mem_reverse.mp hc)
  rw [kept text h, kept text.reverse hreverse, List.reverse_reverse]

end QMon.Digits
