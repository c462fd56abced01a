import InventorySearch.Text.Blank
import InventorySearch.Text.Digit

/-! Numbers written with decimal digits, and the order of texts. Among lists of ASCII digits of one length, the
number tells the list, and the order of the numbers is that of the lists as texts. -/

namespace InventorySearch.Text

/-- Among the ASCII characters the decimal digits are the ten ASCII digits. -/
theorem isDecimalDigit_of_ascii {c : Char} (h : c.toNat < 128) : isDecimalDigit c = c.isDigit := by
  have hall : ∀ n < 128, isDecimalDigit (Char.ofNat n) = (Char.ofNat n).isDigit := by decide
  simpa only [Char.ofNat_toNat] using hall c.toNat h

/-- The ASCII digits are among the decimal digits of all scripts. -/
theorem isDecimalDigit_of_isDigit {c : Char} (h : c.isDigit = true) : isDecimalDigit c = true := by
  have hc : 48 ≤ c.toNat ∧ c.toNat ≤ 57 := Char.isDigit_iff_toNat.mp h
  rw [isDecimalDigit_of_ascii (by omega), h]

theorem isBlank_of_isDigit {c : Char} (h : c.isDigit = true) : isBlank c = false := by
  have hc : 48 ≤ c.toNat ∧ c.toNat ≤ 57 := Char.isDigit_iff_toNat.mp h
  simp only [isBlank, Bool.or_eq_false_iff, Bool.and_eq_false_iff, beq_eq_false_iff_ne, decide_eq_false_iff_not]
  omega

theorem digitsValue_eq_ofDigitChars (cs : List Char) : digitsValue cs = Nat.ofDigitChars 10 cs 0 :=
  rfl

theorem lt_iff_toNat_lt {c d : Char} : c < d ↔ c.toNat < d.toNat :=
  Char.lt_def.trans UInt32.lt_iff_toNat_lt

/-- Texts whose first parts are equally long are compared part by part. -/
theorem append_lt_append_iff {as bs cs ds : List Char} (hlength : as.length = bs.length) :
    as ++ cs < bs ++ ds ↔ as < bs ∨ as = bs ∧ cs < ds := by
  induction as generalizing bs with
  | nil =>
      cases bs with
      | nil => simp
      | cons b bs => cases hlength
  | cons a as ih =>
      cases bs with
      | nil => cases hlength
      | cons b bs =>
          rw [List.cons_append, List.cons_append, List.cons_lt_cons_iff, List.cons_lt_cons_iff,
            ih (Nat.succ.inj hlength), List.cons.injEq, and_or_left, or_assoc, and_assoc]

section SameLength

variable {cs ds : List Char} (hlength : cs.length = ds.length) (hcs : ∀ c ∈ cs, c.isDigit = true)
  (hds : ∀ d ∈ ds, d.isDigit = true)
include hlength hcs hds

/-- Digits behind two numbers are compared only when the numbers are equal. -/
theorem ofDigitChars_lt_iff (m n : Nat) :
    Nat.ofDigitChars 10 cs m < Nat.ofDigitChars 10 ds n ↔ m < n ∨ m = n ∧ cs < ds := by
  induction cs generalizing ds m n with
  | nil =>
      cases ds with
      | nil => simp
      | cons d ds => cases hlength
  | cons c cs ih =>
      cases ds with
      | nil => cases hlength
      | cons d ds =>
          have hc : 48 ≤ c.toNat ∧ c.toNat ≤ 57 := Char.isDigit_iff_toNat.mp (hcs c List.mem_cons_self)
          have hd : 48 ≤ d.toNat ∧ d.toNat ≤ 57 := Char.isDigit_iff_toNat.mp (hds d List.mem_cons_self)
          rw [Nat.ofDigitChars_cons, Nat.ofDigitChars_cons, ih (Nat.succ.inj hlength)
            (fun x hx => hcs x (List.mem_cons_of_mem c hx)) (fun x hx => hds x (List.mem_cons_of_mem d hx)),
            List.cons_lt_cons_iff, lt_iff_toNat_lt, ← Char.toNat_inj]
          show 10 * m + (c.toNat - 48) < 10 * n + (d.toNat - 48) ∨
            10 * m + (c.toNat - 48) = 10 * n + (d.toNat - 48) ∧ cs < ds ↔ _
          by_cases hrest : cs < ds <;> simp only [hrest, and_true, and_false, or_false] <;> omega

theorem digitsValue_lt_iff : digitsValue cs < digitsValue ds ↔ cs < ds := by
  rw [digitsValue_eq_ofDigitChars, digitsValue_eq_ofDigitChars, ofDigitChars_lt_iff hlength hcs hds]
  simp

theorem digitsValue_inj : digitsValue cs = digitsValue ds ↔ cs = ds := by
  constructor
  · intro h
    have hle : ¬ds < cs := by
      rw [← digitsValue_lt_iff hlength.symm hds hcs]
      omega
    have hge : ¬cs < ds := by
      rw [← digitsValue_lt_iff hlength hcs hds]
      omega
    exact List.le_antisymm hle hge
  · exact congrArg digitsValue

end SameLength

end InventorySearch.Text
