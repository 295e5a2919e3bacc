import L4lb.Text.Chars
import Mathlib.Data.List.DropRight
import Mathlib.Data.List.Infix

/-!
# Layout: margins, lines and decimal numbers

What reading a text undoes. A text in margins is what is left when the margins are
trimmed; a number is the decimal that says it; a text of lines is the lines.

* `trim p` — a text without what `p` holds of at its ends; `Inner p` — a text with no such ends.
* `decimal` — the decimal of a number, without a zero in front.
-/

namespace Text

variable {p : UInt8 → Bool} {text core before after : Chars}

/-! ### Margins -/

/-- A text without its margins. -/
def trim (p : UInt8 → Bool) (text : Chars) : Chars := (text.dropWhile p).rdropWhile p

/-- A text that is not empty and has no margins. -/
structure Inner (p : UInt8 → Bool) (text : Chars) : Prop where
  /-- It is not empty. -/
  ne_nil : text ≠ []
  /-- It does not begin with a margin. -/
  head : ∀ c, text.head? = some c → p c = false
  /-- It does not end with one. -/
  last : ∀ c, text.getLast? = some c → p c = false

/-- A text in margins. -/
def InMargins (p : UInt8 → Bool) (core text : Chars) : Prop :=
  ∃ before after, text = before ++ core ++ after ∧ (∀ c ∈ before, p c = true) ∧ ∀ c ∈ after, p c = true

theorem dropWhile_eq_self (h : ∀ c, text.head? = some c → p c = false) : text.dropWhile p = text := by
  cases text with
  | nil => rfl
  | cons x xs => simp [h x rfl]

theorem rdropWhile_eq_self (h : ∀ c, text.getLast? = some c → p c = false) : text.rdropWhile p = text := by
  rw [List.rdropWhile_eq_self_iff]
  intro hne
  simpa using h _ (List.getLast?_eq_some_getLast hne)

theorem rdropWhile_append_of_all (h : ∀ c ∈ after, p c = true) :
    (text ++ after).rdropWhile p = text.rdropWhile p := by
  induction after using List.reverseRecOn with
  | nil => rw [List.append_nil]
  | append_singleton xs x ih =>
    rw [← List.append_assoc, List.rdropWhile_concat_pos p _ x (h x (by simp))]
    exact ih fun c hc => h c (by simp [hc])

theorem trim_eq_nil_iff : trim p text = [] ↔ ∀ c ∈ text, p c = true := by
  unfold trim
  constructor
  · intro h
    have hall := List.rdropWhile_eq_nil_iff.mp h
    have hnil : text.dropWhile p = [] := by
      by_contra hne
      have := List.head_dropWhile_not p hne
      rw [hall _ (List.head_mem hne)] at this
      cases this
    exact List.dropWhile_eq_nil_iff.mp hnil
  · intro h
    rw [List.dropWhile_eq_nil_iff.mpr h]
    rfl

/-- Every text is its trimmed text in margins. -/
theorem inMargins_trim (p : UInt8 → Bool) (text : Chars) : InMargins p (trim p text) text := by
  refine ⟨text.takeWhile p, (text.dropWhile p).rtakeWhile p, ?_, fun c hc => List.mem_takeWhile_imp hc,
    fun c hc => List.mem_rtakeWhile_imp hc⟩
  rw [List.append_assoc, trim, List.rdropWhile_append_rtakeWhile, List.takeWhile_append_dropWhile]

theorem inner_trim (h : trim p text ≠ []) : Inner p (trim p text) where
  ne_nil := h
  head c hc := by
    have hne : text.dropWhile p ≠ [] := fun hnil => h (by rw [trim, hnil]; rfl)
    have hhead : (text.dropWhile p).head? = some c := by
      obtain ⟨rest, hrest⟩ := List.rdropWhile_prefix (p := p) (l := text.dropWhile p)
      rw [← hrest]
      exact (List.head?_append_of_ne_nil _ h).trans hc
    have := List.head_dropWhile_not p hne
    rwa [List.head_of_head?_eq_some hhead] at this
  last c hc := by
    have := List.rdropWhile_last_not (p := p) (text.dropWhile p) h
    rw [List.getLast?_eq_some_getLast h] at hc
    rw [← Option.some.inj hc]
    exact Bool.not_eq_true _ ▸ this

/-- **What is in margins is what trimming leaves.** -/
theorem trim_eq_iff (hcore : Inner p core) : trim p text = core ↔ InMargins p core text := by
  constructor
  · rintro rfl
    exact inMargins_trim p text
  · rintro ⟨before, after, rfl, hbefore, hafter⟩
    have hhead : (core ++ after).dropWhile p = core ++ after := by
      refine dropWhile_eq_self fun c hc => hcore.head c ?_
      rwa [List.head?_append_of_ne_nil _ hcore.ne_nil] at hc
    rw [trim, List.append_assoc, List.dropWhile_append_of_pos hbefore, hhead, rdropWhile_append_of_all hafter]
    exact rdropWhile_eq_self hcore.last

/-! ### Decimals -/

/-- The byte of a digit. -/
def digitByte (d : ℕ) : UInt8 := (48 + d).toUInt8

theorem digitByte_toNat {d : ℕ} (h : d < 10) : (digitByte d).toNat = 48 + d := by
  rw [digitByte, Nat.toUInt8, UInt8.toNat_ofNat_of_lt' (by simp only [UInt8.size]; omega)]

/-- A byte that is a digit. -/
def IsDigit (c : UInt8) : Prop := 48 ≤ c ∧ c ≤ 57

theorem IsDigit.toNat {c : UInt8} (h : IsDigit c) : 48 ≤ c.toNat ∧ c.toNat ≤ 57 :=
  ⟨UInt8.le_iff_toNat_le.mp h.1, UInt8.le_iff_toNat_le.mp h.2⟩

theorem isDigit_digitByte {d : ℕ} (h : d < 10) : IsDigit (digitByte d) := by
  have := digitByte_toNat h
  exact ⟨UInt8.le_iff_toNat_le.mpr (by rw [this]; show 48 ≤ _; omega),
    UInt8.le_iff_toNat_le.mpr (by rw [this]; show _ ≤ 57; omega)⟩

/-- A digit is the byte of its value. -/
theorem digitByte_sub {c : UInt8} (h : IsDigit c) : digitByte (c.toNat - 48) = c := by
  have hc := h.toNat
  apply UInt8.toNat_inj.mp
  rw [digitByte_toNat (by omega)]
  omega

/-- The decimal of a number. -/
def decimal (n : ℕ) : Chars :=
  if n < 10 then [digitByte n] else decimal (n / 10) ++ [digitByte (n % 10)]

/-- The number of a decimal. -/
def decimalValue (text : Chars) : ℕ := text.foldl (fun n c => n * 10 + (c.toNat - 48)) 0

theorem decimalValue_concat (text : Chars) (c : UInt8) :
    decimalValue (text ++ [c]) = decimalValue text * 10 + (c.toNat - 48) := by
  simp [decimalValue, List.foldl_append]

/-- A number without a zero in front. -/
structure IsDecimal (text : Chars) : Prop where
  /-- It has a digit. -/
  ne_nil : text ≠ []
  /-- All are digits. -/
  digits : ∀ c ∈ text, IsDigit c
  /-- It begins with a zero only if it is the zero. -/
  head : text.head? = some 48 → text.length = 1

theorem decimalValue_pos (h : ∀ c ∈ text, IsDigit c) (hne : text ≠ []) (hhead : text.head? ≠ some 48) :
    decimalValue text ≠ 0 := by
  induction text using List.reverseRecOn with
  | nil => exact absurd rfl hne
  | append_singleton xs c ih =>
    rw [decimalValue_concat]
    have hc := (h c (by simp)).toNat
    by_cases hxs : xs = []
    · subst hxs
      have : c.toNat ≠ 48 := fun heq => hhead (congrArg some (UInt8.toNat_inj.mp heq))
      omega
    · rw [List.head?_append_of_ne_nil _ hxs] at hhead
      have := ih (fun x hx => h x (by simp [hx])) hxs hhead
      omega

/-- A decimal is that of its number. -/
theorem decimal_decimalValue (h : IsDecimal text) : decimal (decimalValue text) = text := by
  obtain ⟨hne, hdigits, hhead⟩ := h
  induction text using List.reverseRecOn with
  | nil => exact absurd rfl hne
  | append_singleton xs c ih =>
    have hc : IsDigit c := hdigits c (by simp)
    have hcn := hc.toNat
    have hxs : ∀ x ∈ xs, IsDigit x := fun x hx => hdigits x (by simp [hx])
    rw [decimalValue_concat]
    by_cases hnil : xs = []
    · subst hnil
      rw [decimal, if_pos (by simp [decimalValue]; omega)]
      simpa [decimalValue] using digitByte_sub hc
    · have hhead' : xs.head? ≠ some 48 := by
        intro hz
        have hlen := hhead (by rw [List.head?_append_of_ne_nil _ hnil]; exact hz)
        have hpos := List.length_pos_iff.mpr hnil
        rw [List.length_append, List.length_singleton] at hlen
        omega
      have hpos := decimalValue_pos hxs hnil hhead'
      rw [decimal, if_neg (by omega)]
      rw [show (decimalValue xs * 10 + (c.toNat - 48)) / 10 = decimalValue xs by omega,
        show (decimalValue xs * 10 + (c.toNat - 48)) % 10 = c.toNat - 48 by omega,
        ih hnil hxs (fun hz => absurd hz hhead'), digitByte_sub hc]

theorem decimalValue_decimal (n : ℕ) : decimalValue (decimal n) = n := by
  induction n using Nat.strong_induction_on with
  | _ n ih =>
    rw [decimal]
    split
    · rename_i hlt
      simp [decimalValue, digitByte_toNat hlt]
    · rename_i hge
      rw [decimalValue_concat, ih (n / 10) (by omega), digitByte_toNat (by omega)]
      omega

theorem isDecimal_decimal (n : ℕ) : IsDecimal (decimal n) := by
  induction n using Nat.strong_induction_on with
  | _ n ih =>
    rw [decimal]
    split
    · rename_i hlt
      exact ⟨by simp, fun c hc => by rw [List.mem_singleton.mp hc]; exact isDigit_digitByte hlt, fun _ => rfl⟩
    · rename_i hge
      obtain ⟨hne, hdigits, hhead⟩ := ih (n / 10) (by omega)
      refine ⟨by simp, fun c hc => ?_, fun hz => ?_⟩
      · rcases List.mem_append.mp hc with hc | hc
        · exact hdigits c hc
        · rw [List.mem_singleton.mp hc]
          exact isDigit_digitByte (by omega)
      · -- what begins with a zero is zero, but what is before the last digit is not
        rw [List.head?_append_of_ne_nil _ hne] at hz
        obtain ⟨c, hc⟩ := List.length_eq_one_iff.mp (hhead hz)
        have hval := decimalValue_decimal (n / 10)
        rw [hc] at hz hval
        have hcz : c = 48 := Option.some.inj hz
        rw [hcz] at hval
        simp [decimalValue] at hval
        omega

theorem decimal_injective : Function.Injective decimal :=
  Function.LeftInverse.injective decimalValue_decimal

/-- **A text is the decimal of a number** exactly if it is a decimal with that value. -/
theorem eq_decimal_iff {n : ℕ} : text = decimal n ↔ IsDecimal text ∧ decimalValue text = n := by
  constructor
  · rintro rfl
    exact ⟨isDecimal_decimal n, decimalValue_decimal n⟩
  · rintro ⟨h, rfl⟩
    exact (decimal_decimalValue h).symm

end Text
