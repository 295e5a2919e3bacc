import L4lb.Text.Layout

/-!
# JSON

Values of JSON with natural numbers and plain strings, the compact text that says a value, and
a reader of such texts. What is read from the text of a value is the value (`Json.read_render`),
so no two values have one text.

## The model

* `Json` — a value; the members of an object keep their order.
* `Json.render` — its text, without blanks.
* `Json.read` — the value of a text; strings are of printable ASCII, without escapes.
-/

namespace Text

/-- A value. -/
inductive Json where
  /-- A natural number. -/
  | number (n : ℕ)
  /-- A string. -/
  | string (text : Chars)
  /-- `true` or `false`. -/
  | boolean (b : Bool)
  /-- Values in a row. -/
  | array (items : List Json)
  /-- Values with names. -/
  | object (members : List (Chars × Json))

namespace Json

/-! ### Rendering -/

/-- A text in quotes. -/
def quoted (text : Chars) : Chars := 34 :: text ++ [34]

mutual

/-- The text of a value. -/
def render : Json → Chars
  | .number n => decimal n
  | .string text => quoted text
  | .boolean b => if b then literal "true" else literal "false"
  | .array items => 91 :: renderItems items ++ [93]
  | .object members => 123 :: renderMembers members ++ [125]

/-- Values, with commas between them. -/
def renderItems : List Json → Chars
  | [] => []
  | x :: xs => render x ++ renderMoreItems xs

/-- Values, each after a comma. -/
def renderMoreItems : List Json → Chars
  | [] => []
  | x :: xs => 44 :: (render x ++ renderMoreItems xs)

/-- Values with their names, with commas between them. -/
def renderMembers : List (Chars × Json) → Chars
  | [] => []
  | (key, x) :: xs => quoted key ++ 58 :: render x ++ renderMoreMembers xs

/-- Values with their names, each after a comma. -/
def renderMoreMembers : List (Chars × Json) → Chars
  | [] => []
  | (key, x) :: xs => 44 :: (quoted key ++ 58 :: render x ++ renderMoreMembers xs)

end

/-! ### Reading -/

/-- What is after a `c` that comes first. -/
def expect (c : UInt8) : Chars → Option Chars
  | [] => none
  | x :: rest => if x = c then some rest else none

/-- A string, after its first quote, and what is after it. -/
def readString : Chars → Option (Chars × Chars)
  | [] => none
  | c :: rest =>
    if c = 34 then some ([], rest)
    else if c = 92 ∨ c < 32 ∨ 127 ≤ c then none
    else (readString rest).map fun r => (c :: r.1, r.2)

/-- Whether a byte is a digit. -/
def isDigit (c : UInt8) : Bool := decide (48 ≤ c ∧ c ≤ 57)

/-- A number, without a zero in front, and what is after it. -/
def readNumber (text : Chars) : Option (ℕ × Chars) :=
  let digits := text.takeWhile isDigit
  if digits = [] ∨ digits.head? = some 48 ∧ digits.length ≠ 1 then none
  else some (decimalValue digits, text.dropWhile isDigit)

mutual

/-- A value, and what is after it. -/
def readValue : ℕ → Chars → Option (Json × Chars)
  | 0, _ => none
  | _ + 1, [] => none
  | fuel + 1, c :: rest =>
    if c = 34 then (readString rest).map fun r => (.string r.1, r.2)
    else if c = 91 then
      match expect 93 rest with
      | some rest => some (.array [], rest)
      | none => (readItems fuel rest).map fun r => (.array r.1, r.2)
    else if c = 123 then
      match expect 125 rest with
      | some rest => some (.object [], rest)
      | none => (readMembers fuel rest).map fun r => (.object r.1, r.2)
    else if (literal "true").isPrefixOf (c :: rest) then some (.boolean true, rest.drop 3)
    else if (literal "false").isPrefixOf (c :: rest) then some (.boolean false, rest.drop 4)
    else (readNumber (c :: rest)).map fun r => (.number r.1, r.2)

/-- The values of an array, up to its end. -/
def readItems : ℕ → Chars → Option (List Json × Chars)
  | 0, _ => none
  | fuel + 1, text =>
    (readValue fuel text).bind fun x =>
      match expect 44 x.2 with
      | some rest => (readItems fuel rest).map fun r => (x.1 :: r.1, r.2)
      | none => (expect 93 x.2).map fun rest => ([x.1], rest)

/-- The members of an object, up to its end. -/
def readMembers : ℕ → Chars → Option (List (Chars × Json) × Chars)
  | 0, _ => none
  | fuel + 1, text =>
    (expect 34 text).bind fun text =>
      (readString text).bind fun key =>
        (expect 58 key.2).bind fun text =>
          (readValue fuel text).bind fun x =>
            match expect 44 x.2 with
            | some rest => (readMembers fuel rest).map fun r => ((key.1, x.1) :: r.1, r.2)
            | none => (expect 125 x.2).map fun rest => ([(key.1, x.1)], rest)

end

/-- The value of a text. -/
def read (text : Chars) : Option Json :=
  match readValue (text.length + 1) text with
  | some (x, []) => some x
  | _ => none

/-! ### Round trip -/

/-- A text that needs no escapes. -/
def Plain (text : Chars) : Prop := ∀ c ∈ text, c ≠ 34 ∧ c ≠ 92 ∧ 32 ≤ c ∧ c < 127

instance (text : Chars) : Decidable (Plain text) := inferInstanceAs (Decidable (∀ c ∈ text, _))

/-- That is seen byte by byte. -/
theorem plain_of_all {text : Chars} (h : (text.all fun c => c ≠ 34 ∧ c ≠ 92 ∧ 32 ≤ c ∧ c < 127) = true) :
    Plain text := fun c hc => of_decide_eq_true (List.all_eq_true.mp h c hc)

mutual

/-- A value whose strings need no escapes. -/
def Clean : Json → Prop
  | .number _ => True
  | .string text => Plain text
  | .boolean _ => True
  | .array items => CleanItems items
  | .object members => CleanMembers members

/-- Values whose strings need none. -/
def CleanItems : List Json → Prop
  | [] => True
  | x :: xs => Clean x ∧ CleanItems xs

/-- Members whose names and strings need none. -/
def CleanMembers : List (Chars × Json) → Prop
  | [] => True
  | (key, x) :: xs => Plain key ∧ Clean x ∧ CleanMembers xs

end

/-- No number goes on. -/
def Ends (rest : Chars) : Prop := ∀ c, rest.head? = some c → isDigit c = false

theorem readString_plain {text : Chars} (h : Plain text) (rest : Chars) :
    readString (text ++ 34 :: rest) = some (text, rest) := by
  induction text with
  | nil => simp [readString]
  | cons c text ih =>
    obtain ⟨hquote, hescape, hlow, hhigh⟩ := h c List.mem_cons_self
    have hrest := ih fun x hx => h x (List.mem_cons_of_mem c hx)
    rw [List.cons_append, readString, if_neg hquote, if_neg, hrest]
    · rfl
    · rintro (rfl | hlt | hge)
      · exact hescape rfl
      · exact absurd hlow (UInt8.not_le.mpr hlt)
      · exact absurd hhigh (UInt8.not_lt.mpr hge)

theorem readNumber_decimal (n : ℕ) {rest : Chars} (h : Ends rest) :
    readNumber (decimal n ++ rest) = some (n, rest) := by
  have hdecimal := isDecimal_decimal n
  have hdigits : ∀ c ∈ decimal n, isDigit c = true := fun c hc => decide_eq_true (hdecimal.digits c hc)
  have hrest : rest.takeWhile isDigit = [] ∧ rest.dropWhile isDigit = rest := by
    cases rest with
    | nil => exact ⟨rfl, rfl⟩
    | cons c rest =>
      have := h c rfl
      simp [this]
  have htake : (decimal n ++ rest).takeWhile isDigit = decimal n := by
    rw [List.takeWhile_append_of_pos hdigits, hrest.1, List.append_nil]
  have hdrop : (decimal n ++ rest).dropWhile isDigit = rest := by
    rw [List.dropWhile_append_of_pos hdigits, hrest.2]
  simp only [readNumber, htake, hdrop, decimalValue_decimal]
  refine if_neg ?_
  rintro (hnil | ⟨hhead, hlength⟩)
  · exact hdecimal.ne_nil hnil
  · exact hlength (hdecimal.head hhead)

theorem ends_cons {c : UInt8} (h : isDigit c = false) (rest : Chars) : Ends (c :: rest) := by
  intro x hx
  exact Option.some.inj hx ▸ h

theorem ends_nil : Ends [] := by
  intro c hc
  cases hc

@[simp] theorem expect_cons (c : UInt8) (rest : Chars) : expect c (c :: rest) = some rest := by
  simp [expect]

theorem expect_cons_of_ne {c x : UInt8} (h : x ≠ c) (rest : Chars) : expect c (x :: rest) = none := by
  simp [expect, h]

/-- What a value begins with. -/
theorem head_render (v : Json) : ∃ c rest, render v = c :: rest ∧ c ≠ 93 ∧ c ≠ 125 := by
  cases v with
  | number n =>
    have hdecimal := isDecimal_decimal n
    obtain ⟨c, rest, hn⟩ := List.exists_cons_of_ne_nil hdecimal.ne_nil
    have hc := hdecimal.digits c (hn ▸ List.mem_cons_self)
    refine ⟨c, rest, hn, ?_, ?_⟩
    · rintro rfl
      exact absurd hc.2 (by decide)
    · rintro rfl
      exact absurd hc.2 (by decide)
  | string text => exact ⟨34, text ++ [34], rfl, by decide, by decide⟩
  | boolean b =>
    cases b with
    | false => exact ⟨102, [97, 108, 115, 101], by decide +kernel, by decide, by decide⟩
    | true => exact ⟨116, [114, 117, 101], by decide +kernel, by decide, by decide⟩
  | array items => exact ⟨91, renderItems items ++ [93], rfl, by decide, by decide⟩
  | object members => exact ⟨123, renderMembers members ++ [125], rfl, by decide, by decide⟩

/-- A number is read as a number. -/
theorem readValue_number (n fuel : ℕ) {rest : Chars} (h : Ends rest) :
    readValue (fuel + 1) (decimal n ++ rest) = some (.number n, rest) := by
  have hdecimal := isDecimal_decimal n
  have hnumber := readNumber_decimal n h
  obtain ⟨c, digits, hn⟩ := List.exists_cons_of_ne_nil hdecimal.ne_nil
  have hc := hdecimal.digits c (hn ▸ List.mem_cons_self)
  have hne : ∀ x : UInt8, x < 48 ∨ 57 < x → c ≠ x := by
    rintro x hx rfl
    rcases hx with hlt | hgt
    · exact absurd hc.1 (UInt8.not_le.mpr hlt)
    · exact absurd hc.2 (UInt8.not_le.mpr hgt)
  have hkeyword : ∀ (x : UInt8) (keyword : Chars), (x < 48 ∨ 57 < x) →
      (x :: keyword).isPrefixOf (c :: (digits ++ rest)) = false := by
    intro x keyword hx
    simp [List.isPrefixOf, (hne x hx).symm]
  rw [hn, List.cons_append] at hnumber ⊢
  rw [readValue, if_neg (hne 34 (by decide)), if_neg (hne 91 (by decide)), if_neg (hne 123 (by decide)),
    if_neg, if_neg, hnumber]
  · rfl
  · rw [show literal "false" = 102 :: [97, 108, 115, 101] by simp only [literal_eq]; decide, hkeyword 102 _ (by decide)]
    exact Bool.false_ne_true
  · rw [show literal "true" = 116 :: [114, 117, 101] by simp only [literal_eq]; decide, hkeyword 116 _ (by decide)]
    exact Bool.false_ne_true

theorem readValue_boolean (b : Bool) (fuel : ℕ) (rest : Chars) :
    readValue (fuel + 1) (render (.boolean b) ++ rest) = some (.boolean b, rest) := by
  have htrue : literal "true" = [116, 114, 117, 101] := by simp only [literal_eq]; decide
  have hfalse : literal "false" = [102, 97, 108, 115, 101] := by simp only [literal_eq]; decide
  cases b with
  | false => simp [render, readValue, htrue, hfalse, List.isPrefixOf]
  | true => simp [render, readValue, htrue, List.isPrefixOf]

theorem renderMoreItems_cons (x : Json) (xs : List Json) :
    renderMoreItems (x :: xs) = 44 :: renderItems (x :: xs) := rfl

theorem renderMoreMembers_cons (x : Chars × Json) (xs : List (Chars × Json)) :
    renderMoreMembers (x :: xs) = 44 :: renderMembers (x :: xs) := rfl

mutual

/-- **What is read from the text of a value is the value.** -/
theorem readValue_render : ∀ (v : Json) (fuel : ℕ) (rest : Chars), Clean v → Ends rest → (render v).length ≤ fuel →
    readValue fuel (render v ++ rest) = some (v, rest)
  | .number n, fuel, rest, _, hrest, hfuel => by
    obtain ⟨c, _, hrender, _⟩ := head_render (.number n)
    obtain ⟨fuel, rfl⟩ : ∃ k, fuel = k + 1 := ⟨fuel - 1, by rw [hrender, List.length_cons] at hfuel; omega⟩
    exact readValue_number n fuel hrest
  | .boolean b, fuel, rest, _, _, hfuel => by
    obtain ⟨c, _, hrender, _⟩ := head_render (.boolean b)
    obtain ⟨fuel, rfl⟩ : ∃ k, fuel = k + 1 := ⟨fuel - 1, by rw [hrender, List.length_cons] at hfuel; omega⟩
    exact readValue_boolean b fuel rest
  | .string text, fuel, rest, hclean, _, hfuel => by
    obtain ⟨fuel, rfl⟩ : ∃ k, fuel = k + 1 := ⟨fuel - 1, by simp [render, quoted] at hfuel; omega⟩
    have htext : render (.string text) ++ rest = 34 :: (text ++ 34 :: rest) := by simp [render, quoted]
    rw [htext, readValue, if_pos rfl, readString_plain hclean]
    rfl
  | .array items, fuel, rest, hclean, _, hfuel => by
    have htext : render (.array items) ++ rest = 91 :: (renderItems items ++ 93 :: rest) := by simp [render]
    have hlength : (render (.array items)).length = (renderItems items).length + 2 := by simp [render]
    obtain ⟨fuel, rfl⟩ : ∃ k, fuel = k + 1 := ⟨fuel - 1, by omega⟩
    rw [htext, readValue, if_neg (by decide), if_pos rfl]
    cases items with
    | nil => simp [renderItems]
    | cons x xs =>
      have hitems := readItems_render (x :: xs) fuel rest (List.cons_ne_nil x xs) hclean (by omega)
      obtain ⟨c, more, hx, hc, _⟩ := head_render x
      rw [hitems]
      simp only [renderItems, hx, List.cons_append, expect_cons_of_ne hc]
      rfl
  | .object members, fuel, rest, hclean, _, hfuel => by
    have htext : render (.object members) ++ rest = 123 :: (renderMembers members ++ 125 :: rest) := by simp [render]
    have hlength : (render (.object members)).length = (renderMembers members).length + 2 := by simp [render]
    obtain ⟨fuel, rfl⟩ : ∃ k, fuel = k + 1 := ⟨fuel - 1, by omega⟩
    rw [htext, readValue, if_neg (by decide), if_neg (by decide), if_pos rfl]
    cases members with
    | nil => simp [renderMembers]
    | cons x xs =>
      have hmembers := readMembers_render (x :: xs) fuel rest (List.cons_ne_nil x xs) hclean (by omega)
      rw [hmembers]
      simp only [renderMembers, quoted, List.cons_append, expect_cons_of_ne (show (34 : UInt8) ≠ 125 by decide)]
      rfl

theorem readItems_render : ∀ (items : List Json) (fuel : ℕ) (rest : Chars), items ≠ [] → CleanItems items →
    (renderItems items).length < fuel → readItems fuel (renderItems items ++ 93 :: rest) = some (items, rest)
  | [], _, _, hne, _, _ => absurd rfl hne
  | [x], fuel, rest, _, hclean, hfuel => by
    obtain ⟨fuel, rfl⟩ : ∃ k, fuel = k + 1 := ⟨fuel - 1, by omega⟩
    have hx := readValue_render x fuel (93 :: rest) hclean.1 (ends_cons (by decide) rest)
      (Nat.le_of_lt_succ (by simpa [renderItems, renderMoreItems] using hfuel))
    rw [renderItems, renderMoreItems, List.append_nil, readItems, hx]
    simp [expect_cons_of_ne (show (93 : UInt8) ≠ 44 by decide)]
  | x :: y :: ys, fuel, rest, _, hclean, hfuel => by
    obtain ⟨fuel, rfl⟩ : ∃ k, fuel = k + 1 := ⟨fuel - 1, by omega⟩
    rw [renderItems, renderMoreItems_cons, List.length_append, List.length_cons] at hfuel
    have hx := readValue_render x fuel (44 :: (renderItems (y :: ys) ++ 93 :: rest)) hclean.1
      (ends_cons (by decide) _) (by omega)
    have hys := readItems_render (y :: ys) fuel rest (List.cons_ne_nil y ys) hclean.2 (by omega)
    rw [renderItems, renderMoreItems_cons, List.append_assoc, List.cons_append, readItems, hx]
    simp [hys]

theorem readMembers_render : ∀ (members : List (Chars × Json)) (fuel : ℕ) (rest : Chars), members ≠ [] →
    CleanMembers members → (renderMembers members).length < fuel →
    readMembers fuel (renderMembers members ++ 125 :: rest) = some (members, rest)
  | [], _, _, hne, _, _ => absurd rfl hne
  | [(key, x)], fuel, rest, _, hclean, hfuel => by
    obtain ⟨fuel, rfl⟩ : ∃ k, fuel = k + 1 := ⟨fuel - 1, by omega⟩
    have hx := readValue_render x fuel (125 :: rest) hclean.2.1 (ends_cons (by decide) rest)
      (by simp [renderMembers, renderMoreMembers] at hfuel; omega)
    have htext : renderMembers [(key, x)] ++ 125 :: rest = 34 :: (key ++ 34 :: (58 :: (render x ++ 125 :: rest))) := by
      simp [renderMembers, renderMoreMembers, quoted]
    rw [htext, readMembers, expect_cons]
    simp [readString_plain hclean.1, hx, expect_cons_of_ne (show (125 : UInt8) ≠ 44 by decide)]
  | (key, x) :: y :: ys, fuel, rest, _, hclean, hfuel => by
    obtain ⟨fuel, rfl⟩ : ∃ k, fuel = k + 1 := ⟨fuel - 1, by omega⟩
    have hlength : (renderMembers ((key, x) :: y :: ys)).length =
        (quoted key).length + (render x).length + (renderMembers (y :: ys)).length + 2 := by
      rw [renderMembers, renderMoreMembers_cons]
      simp
      omega
    have hx := readValue_render x fuel (44 :: (renderMembers (y :: ys) ++ 125 :: rest)) hclean.2.1
      (ends_cons (by decide) _) (by omega)
    have hys := readMembers_render (y :: ys) fuel rest (List.cons_ne_nil y ys) hclean.2.2 (by omega)
    have htext : renderMembers ((key, x) :: y :: ys) ++ 125 :: rest =
        34 :: (key ++ 34 :: (58 :: (render x ++ 44 :: (renderMembers (y :: ys) ++ 125 :: rest)))) := by
      rw [renderMembers, renderMoreMembers_cons]
      simp [quoted]
    rw [htext, readMembers, expect_cons]
    simp [readString_plain hclean.1, hx, hys]

end

/-- The bytes of a text that needs no escapes can be printed, and quoted they can too. -/
theorem printable_quoted {text : Chars} (h : Plain text) : ∀ c ∈ quoted text, 32 ≤ c := by
  simp only [quoted, List.cons_append, List.mem_cons, List.mem_append, List.not_mem_nil, or_false]
  rintro c (rfl | hc | rfl)
  · decide
  · exact (h c hc).2.2.1
  · decide

mutual

/-- A text that says a value is of one line. -/
theorem printable_render : ∀ (v : Json), Clean v → ∀ c ∈ render v, 32 ≤ c
  | .number n, _ => fun c hc => UInt8.le_trans (show (32 : UInt8) ≤ 48 by decide) ((isDecimal_decimal n).digits c hc).1
  | .string text, hclean => printable_quoted hclean
  | .boolean b, _ => by
    cases b with
    | false => exact (by decide +kernel : ∀ c ∈ literal "false", 32 ≤ c)
    | true => exact (by decide +kernel : ∀ c ∈ literal "true", 32 ≤ c)
  | .array items, hclean => by
    have hitems := printable_renderItems items hclean
    simp only [render, List.cons_append, List.mem_cons, List.mem_append, List.not_mem_nil, or_false]
    rintro c (rfl | hc | rfl)
    · decide
    · exact hitems c hc
    · decide
  | .object members, hclean => by
    have hmembers := printable_renderMembers members hclean
    simp only [render, List.cons_append, List.mem_cons, List.mem_append, List.not_mem_nil, or_false]
    rintro c (rfl | hc | rfl)
    · decide
    · exact hmembers c hc
    · decide

theorem printable_renderItems : ∀ (items : List Json), CleanItems items → ∀ c ∈ renderItems items, 32 ≤ c
  | [], _ => fun c hc => absurd hc List.not_mem_nil
  | [x], hclean => by
    have hx := printable_render x hclean.1
    simpa [renderItems, renderMoreItems] using hx
  | x :: y :: ys, hclean => by
    have hx := printable_render x hclean.1
    have hys := printable_renderItems (y :: ys) hclean.2
    rw [renderItems, renderMoreItems_cons]
    simp only [List.mem_append, List.mem_cons]
    rintro c (hc | rfl | hc)
    · exact hx c hc
    · decide
    · exact hys c hc

theorem printable_renderMembers : ∀ (members : List (Chars × Json)), CleanMembers members →
    ∀ c ∈ renderMembers members, 32 ≤ c
  | [], _ => fun c hc => absurd hc List.not_mem_nil
  | [(key, x)], hclean => by
    have hkey := printable_quoted hclean.1
    have hx := printable_render x hclean.2.1
    simp only [renderMembers, renderMoreMembers, List.append_nil, List.mem_append, List.mem_cons]
    rintro c (hc | rfl | hc)
    · exact hkey c hc
    · decide
    · exact hx c hc
  | (key, x) :: y :: ys, hclean => by
    have hkey := printable_quoted hclean.1
    have hx := printable_render x hclean.2.1
    have hys := printable_renderMembers (y :: ys) hclean.2.2
    rw [renderMembers, renderMoreMembers_cons]
    simp only [List.mem_append, List.mem_cons]
    rintro c ((hc | rfl | hc) | rfl | hc)
    · exact hkey c hc
    · decide
    · exact hx c hc
    · decide
    · exact hys c hc

end

/-- **The text of a value says the value.** -/
theorem read_render {v : Json} (h : Clean v) : read (render v) = some v := by
  have hread := readValue_render v ((render v).length + 1) [] h ends_nil (Nat.le_succ _)
  rw [List.append_nil] at hread
  rw [read, hread]

end Json

end Text
