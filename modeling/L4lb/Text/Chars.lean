import Mathlib.Data.List.Induction
import Mathlib.Data.List.TakeWhile
import Mathlib.Tactic.Ring
import Mathlib.Data.Vector.Basic

/-!
# Text of bytes

What a parser asks of the standard library, on text as a list of bytes: where a
character is found, the lines and words of a text, numbers and dotted addresses.

* `cut c` — the text before and after the first `c`.
* `lines`, `words` — what `getline` and `>>` read, one after the other.
* `fromChars base` — `std::from_chars` of an `unsigned`.
* `inetPton` — `inet_pton` of an IPv4 address.
-/

namespace Text

/-- The bytes of a string. -/
abbrev Chars := List UInt8

instance : LawfulBEq Chars := inferInstance

/-- A character as a byte. -/
def char (c : Char) : UInt8 := c.toNat.toUInt8

/-- A literal, in the encoding of the source. -/
def literal (s : String) : Chars := s.toUTF8.toList

theorem toList_loop (bytes : ByteArray) (i : ℕ) (before : List UInt8) :
    ByteArray.toList.loop bytes i before = before.reverse ++ bytes.data.toList.drop i := by
  fun_induction ByteArray.toList.loop bytes i before with
  | case1 i before hi ih =>
    have hlt : i < bytes.data.toList.length := hi
    rw [ih, List.reverse_cons, List.append_assoc, List.singleton_append, List.drop_eq_getElem_cons hlt]
    congr 2
    exact getElem!_pos bytes.data i hi
  | case2 i before hi =>
    have hle : bytes.data.toList.length ≤ i := Nat.not_lt.mp hi
    rw [List.drop_eq_nil_of_le hle, List.append_nil]

/-- A literal is what its characters are in UTF-8. -/
theorem literal_eq (s : String) : literal s = s.toList.flatMap String.utf8EncodeChar := by
  rw [literal, String.toUTF8, ByteArray.toList, toList_loop, List.reverse_nil, List.nil_append, List.drop_zero,
    ← String.utf8Encode_toList, List.utf8Encode, List.toList_data_toByteArray]

/-! ### Where a character is -/

/-- What is before and after the first `c`. -/
def cut (c : UInt8) : Chars → Option (Chars × Chars)
  | [] => none
  | x :: xs => if x = c then some ([], xs) else (cut c xs).map fun r => (x :: r.1, r.2)

theorem cut_append {c : UInt8} {before : Chars} (h : c ∉ before) (after : Chars) :
    cut c (before ++ c :: after) = some (before, after) := by
  induction before with
  | nil => simp [cut]
  | cons x xs ih =>
    obtain ⟨hx, hxs⟩ := not_or.mp (fun hm => h (List.mem_cons.mpr hm))
    rw [List.cons_append, cut, if_neg (Ne.symm hx), ih hxs]
    rfl

theorem eq_of_cut {c : UInt8} {text before after : Chars} (h : cut c text = some (before, after)) :
    text = before ++ c :: after ∧ c ∉ before := by
  induction text generalizing before with
  | nil => cases h
  | cons x xs ih =>
    rw [cut] at h
    split at h
    · rename_i hx
      obtain ⟨rfl, rfl⟩ := Prod.mk.inj (Option.some.inj h)
      exact ⟨by rw [hx]; rfl, List.not_mem_nil⟩
    · rename_i hx
      obtain ⟨⟨b, a⟩, hcut, hr⟩ := Option.map_eq_some_iff.mp h
      obtain ⟨rfl, rfl⟩ := Prod.mk.inj hr
      obtain ⟨rfl, hnot⟩ := ih hcut
      refine ⟨rfl, fun hm => ?_⟩
      rcases List.mem_cons.mp hm with rfl | hm
      · exact hx rfl
      · exact hnot hm

/-- What a C string ends with is not part of it. -/
def cString (text : Chars) : Chars := text.takeWhile (· ≠ 0)

/-! ### Lines and words -/

/-- What `getline` reads, line by line; a text that ends with a line break has no more. -/
def lines : Chars → List Chars
  | [] => []
  | x :: xs =>
    if x = 10 then [] :: lines xs
    else
      match lines xs with
      | [] => [[x]]
      | l :: ls => (x :: l) :: ls

/-- `isspace`. -/
def isSpace (c : UInt8) : Bool := c = 32 || (9 ≤ c && c ≤ 13)

/-- What `>>` reads, word by word. -/
def words : Chars → List Chars
  | [] => []
  | x :: xs =>
    if isSpace x then words xs
    else
      match words xs with
      | [] => [[x]]
      | w :: ws => if (xs.head?.map isSpace).getD true then [x] :: w :: ws else (x :: w) :: ws

/-! ### Numbers -/

/-- The value of a digit. -/
def digit (base : ℕ) (c : UInt8) : Option ℕ :=
  let value :=
    if 48 ≤ c ∧ c ≤ 57 then some (c.toNat - 48)
    else if 97 ≤ c ∧ c ≤ 122 then some (c.toNat - 87)
    else if 65 ≤ c ∧ c ≤ 90 then some (c.toNat - 55)
    else none
  value.filter (· < base)

theorem digit_lt {base n : ℕ} {c : UInt8} (h : digit base c = some n) : n < base := by
  unfold digit at h
  simpa using (Option.filter_eq_some_iff.mp h).2

/-- The number that digits say. -/
def digitsValue (base : ℕ) (digits : Chars) : ℕ :=
  digits.foldl (fun n c => n * base + (digit base c).getD 0) 0

/-- `std::from_chars` of an `unsigned`: the number, unless there is none or it is too
large, and what is left of the text. -/
def fromChars (base : ℕ) (text : Chars) : Option ℕ × Chars :=
  let digits := text.takeWhile fun c => (digit base c).isSome
  let value := digitsValue base digits
  (if digits = [] ∨ value ≥ 2 ^ 32 then none else some value, text.drop digits.length)

/-- The whole of a text is a number. -/
def number (base : ℕ) (text : Chars) : Option ℕ :=
  match fromChars base text with
  | (some n, []) => some n
  | _ => none

theorem digitsValue_lt {base : ℕ} {digits : Chars} (h : ∀ c ∈ digits, (digit base c).isSome) :
    digitsValue base digits < base ^ digits.length := by
  induction digits using List.reverseRecOn with
  | nil => exact Nat.one_pos
  | append_singleton cs c ih =>
    have hc := h c (by simp)
    have hcs := ih fun x hx => h x (by simp [hx])
    obtain ⟨n, hn⟩ := Option.isSome_iff_exists.mp hc
    have hlt := digit_lt hn
    simp only [digitsValue, List.foldl_append, List.foldl_cons, List.foldl_nil, List.length_append,
      List.length_singleton, hn, Option.getD_some] at hcs ⊢
    calc cs.foldl (fun n c => n * base + (digit base c).getD 0) 0 * base + n
        < cs.foldl (fun n c => n * base + (digit base c).getD 0) 0 * base + base := by omega
      _ = (cs.foldl (fun n c => n * base + (digit base c).getD 0) 0 + 1) * base := by ring
      _ ≤ base ^ cs.length * base := Nat.mul_le_mul_right base hcs
      _ = base ^ (cs.length + 1) := rfl

/-- A number is below the power of its length. -/
theorem number_lt {base n : ℕ} {text : Chars} (h : number base text = some n) : n < base ^ text.length := by
  unfold number at h
  split at h
  · rename_i m hfrom
    cases h
    unfold fromChars at hfrom
    obtain ⟨hvalue, hrest⟩ := Prod.mk.inj hfrom
    split at hvalue
    · cases hvalue
    have hall : text.takeWhile (fun c => (digit base c).isSome) = text := by
      refine (List.takeWhile_prefix _).eq_of_length_le ?_
      exact List.drop_eq_nil_iff.mp hrest
    rw [← Option.some.inj hvalue, hall]
    refine digitsValue_lt fun c hc => ?_
    rw [← hall] at hc
    exact List.mem_takeWhile_imp (p := fun c => (digit base c).isSome) hc
  · cases h

/-- A part of a dotted address: up to three digits, without a zero in front. -/
def octet (text : Chars) : Option UInt8 :=
  if text.all (fun c => (digit 10 c).isSome) ∧ text ≠ [] ∧ text.length ≤ 3 ∧
      (text.head? = some 48 → text.length = 1) ∧ digitsValue 10 text ≤ 255 then
    some (digitsValue 10 text).toUInt8
  else none

/-- `inet_pton` of an IPv4 address. -/
def inetPton (text : Chars) : Option (Vector UInt8 4) := do
  let (a, text) ← cut 46 text
  let (b, text) ← cut 46 text
  let (c, d) ← cut 46 text
  pure #v[← octet a, ← octet b, ← octet c, ← octet d]

end Text
