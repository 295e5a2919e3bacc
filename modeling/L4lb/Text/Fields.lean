import L4lb.Text.Chars

/-!
# Lines and fields

What a text is made of, said of the text itself: lines with their endings, and fields
between blanks. What `getline` and `>>` read is just that.

* `TextOf text contents` — the text is lines with those contents, each ended by LF or CR LF; the
  last may be unended.
* `stripReturn` — a line as it is read, without the CR of its ending.
* `FieldsOf blank line fields` — the line is those fields, with blanks between them.
-/

namespace Text

variable {text line rest before field : Chars}

/-! ### Lines -/

/-- What a line may hold. -/
def IsContent (line : Chars) : Prop := 10 ∉ line ∧ 13 ∉ line

/-- A text of lines. -/
inductive TextOf : Chars → List Chars → Prop where
  /-- There are no more. -/
  | nil : TextOf [] []
  /-- The last line is not ended. -/
  | unended {line : Chars} (hne : line ≠ []) (hline : IsContent line) : TextOf line [line]
  /-- A line and its ending. -/
  | ended {line ending rest : Chars} {contents : List Chars} (hline : IsContent line)
      (hending : ending = [10] ∨ ending = [13, 10]) (h : TextOf rest contents) :
      TextOf (line ++ ending ++ rest) (line :: contents)

/-- A line as it is read, without the CR of its ending. -/
def stripReturn (line : Chars) : Chars := if line.getLast? = some 13 then line.dropLast else line

theorem stripReturn_of_notMem (h : 13 ∉ line) : stripReturn line = line :=
  if_neg fun hlast => h (List.mem_of_getLast? hlast)

theorem stripReturn_concat (line : Chars) : stripReturn (line ++ [13]) = line := by
  simp [stripReturn]

theorem lines_ended (h : 10 ∉ line) (rest : Chars) : lines (line ++ 10 :: rest) = line :: lines rest := by
  induction line with
  | nil => rw [List.nil_append, lines, if_pos rfl]
  | cons x xs ih =>
    obtain ⟨hx, hxs⟩ := not_or.mp (fun hm => h (List.mem_cons.mpr hm))
    rw [List.cons_append, lines, if_neg (Ne.symm hx), ih hxs]

theorem lines_unended (hne : line ≠ []) (h : 10 ∉ line) : lines line = [line] := by
  induction line with
  | nil => exact absurd rfl hne
  | cons x xs ih =>
    obtain ⟨hx, hxs⟩ := not_or.mp (fun hm => h (List.mem_cons.mpr hm))
    rw [lines, if_neg (Ne.symm hx)]
    cases xs with
    | nil => rfl
    | cons y ys => rw [ih (by simp) hxs]

/-- A line holds bytes of the text, but not the one that ends it. -/
theorem mem_lines (h : line ∈ lines text) : 10 ∉ line ∧ ∀ c ∈ line, c ∈ text := by
  induction text generalizing line with
  | nil => cases h
  | cons x xs ih =>
    have hmore : ∀ {line}, line ∈ lines xs → 10 ∉ line ∧ ∀ c ∈ line, c ∈ x :: xs := fun hm =>
      ⟨(ih hm).1, fun c hc => List.mem_cons_of_mem _ ((ih hm).2 c hc)⟩
    rw [lines] at h
    split at h
    · rcases List.mem_cons.mp h with rfl | h
      · simp
      · exact hmore h
    · rename_i hx
      split at h
      · rw [List.mem_singleton.mp h]
        exact ⟨by simpa using Ne.symm hx, by simp⟩
      · rename_i l ls hlines
        rcases List.mem_cons.mp h with rfl | h
        · obtain ⟨hnot, hsub⟩ := @hmore l (by simp [hlines])
          refine ⟨fun hm => ?_, fun c hc => ?_⟩
          · rcases List.mem_cons.mp hm with heq | hm
            · exact hx heq.symm
            · exact hnot hm
          · rcases List.mem_cons.mp hc with rfl | hc
            · exact List.mem_cons_self
            · exact hsub c hc
        · exact hmore (by simp [hlines, h])

/-- An ending adds no line. -/
theorem lines_concat {c : UInt8} (hlast : text.getLast? = some c) (hc : c ≠ 10) : lines (text ++ [10]) = lines text := by
  induction text with
  | nil => cases hlast
  | cons x xs ih =>
    rw [List.cons_append, lines, lines]
    cases xs with
    | nil =>
      obtain rfl : x = c := by simpa using hlast
      rw [if_neg hc, if_neg hc]
      rfl
    | cons y ys => rw [ih (by simpa [List.getLast?_cons_cons] using hlast)]

/-- What is read of a text of lines. -/
theorem TextOf.lines_eq {contents : List Chars} (h : TextOf text contents) :
    (lines text).map stripReturn = contents ∧ ∀ line ∈ contents, 13 ∉ line := by
  induction h with
  | nil => exact ⟨rfl, by simp⟩
  | unended hne hline =>
    rw [lines_unended hne hline.1, List.map_singleton, stripReturn_of_notMem hline.2]
    exact ⟨rfl, by simpa using hline.2⟩
  | @ended line ending rest contents hline hending h ih =>
    obtain ⟨hlines, hclean⟩ := ih
    refine ⟨?_, by simpa using ⟨hline.2, hclean⟩⟩
    rcases hending with rfl | rfl
    · rw [List.append_assoc, List.singleton_append, lines_ended hline.1, List.map_cons, hlines,
        stripReturn_of_notMem hline.2]
    · have hreturn : 10 ∉ line ++ [13] := by simpa using hline.1
      rw [show line ++ [13, 10] ++ rest = (line ++ [13]) ++ 10 :: rest by simp, lines_ended hreturn, List.map_cons,
        hlines, stripReturn_concat]

/-- **A text is the lines that are read of it**, unless one of them holds a CR or the text
ends with one. -/
theorem textOf_lines {text : Chars} (h : ∀ line ∈ (lines text).map stripReturn, 13 ∉ line)
    (hlast : text.getLast? ≠ some 13) : TextOf text ((lines text).map stripReturn) := by
  induction hn : text.length using Nat.strong_induction_on generalizing text with | _ n ih
  by_cases hlf : 10 ∈ text
  · obtain ⟨before, after, rfl, hbefore⟩ := List.eq_append_cons_of_mem hlf
    rw [lines_ended hbefore, List.map_cons] at h ⊢
    have hafter : after.getLast? ≠ some 13 := by
      cases after with
      | nil => simp
      | cons x xs => simpa [List.getLast?_append] using hlast
    have hrest := ih after.length (by simp [← hn]; omega) (fun line hm => h line (List.mem_cons_of_mem _ hm)) hafter rfl
    have hclean := h _ List.mem_cons_self
    by_cases hreturn : before.getLast? = some 13
    · obtain ⟨content, rfl⟩ := List.getLast?_eq_some_iff.mp hreturn
      rw [stripReturn_concat] at hclean ⊢
      have hcontent : IsContent content := ⟨fun hm => hbefore (by simp [hm]), hclean⟩
      have hended := TextOf.ended hcontent (Or.inr rfl) hrest
      rwa [show content ++ [13, 10] ++ after = content ++ [13] ++ 10 :: after by simp] at hended
    · rw [stripReturn, if_neg hreturn] at hclean ⊢
      have hended := TextOf.ended ⟨hbefore, hclean⟩ (Or.inl rfl) hrest
      rwa [List.append_assoc, List.singleton_append] at hended
  · cases text with
    | nil => exact .nil
    | cons x xs =>
      rw [lines_unended (by simp) hlf, List.map_singleton, stripReturn, if_neg hlast] at h ⊢
      exact .unended (by simp) ⟨hlf, h _ (by simp)⟩

/-- In a text of lines a CR is followed by LF. -/
theorem TextOf.followed {contents : List Chars} (h : TextOf text contents) {before after : Chars}
    (htext : text = before ++ 13 :: after) : after.head? = some 10 := by
  induction h generalizing before with
  | nil => simp at htext
  | unended hne hline => exact absurd (by simp [htext]) hline.2
  | @ended line ending rest contents hline hending h ih =>
    rw [List.append_assoc] at htext
    -- the CR is in the line, in its ending or after it
    rcases List.append_eq_append_iff.mp htext with ⟨more, hbefore, hrest⟩ | ⟨more, hline', hrest⟩
    · rcases hending with rfl | rfl
      · cases more with
        | nil => simp at hrest
        | cons c more => exact ih (List.cons.inj hrest).2
      · rcases more with _ | ⟨c, _ | ⟨d, more⟩⟩
        · rw [List.nil_append] at hrest
          obtain ⟨-, rfl⟩ := List.cons.inj hrest
          rfl
        · simp at hrest
        · exact ih (List.cons.inj (List.cons.inj hrest).2).2
    · cases more with
      | nil =>
        rcases hending with rfl | rfl
        · simp at hrest
        · obtain ⟨-, rfl⟩ := List.cons.inj hrest
          rfl
      | cons c more =>
        obtain ⟨rfl, -⟩ := List.cons.inj hrest
        exact absurd (by simp [hline']) hline.2

/-! ### Fields -/

/-- A line of fields. -/
inductive FieldsOf (blank : UInt8 → Bool) : Chars → List Chars → Prop where
  /-- There are no more. -/
  | blanks {line : Chars} (h : ∀ c ∈ line, blank c = true) : FieldsOf blank line []
  /-- A field, up to a blank or the end. -/
  | field {before field rest : Chars} {fields : List Chars} (hbefore : ∀ c ∈ before, blank c = true)
      (hne : field ≠ []) (hfield : ∀ c ∈ field, blank c = false) (hend : ∀ c, rest.head? = some c → blank c = true)
      (h : FieldsOf blank rest fields) : FieldsOf blank (before ++ field ++ rest) (field :: fields)

variable {blank : UInt8 → Bool} {fields : List Chars}

theorem FieldsOf.cons_blank {c : UInt8} (hc : blank c = true) (h : FieldsOf blank line fields) :
    FieldsOf blank (c :: line) fields := by
  cases h with
  | blanks h => exact .blanks (List.forall_mem_cons.mpr ⟨hc, h⟩)
  | field hbefore hne hfield hend h => exact .field (List.forall_mem_cons.mpr ⟨hc, hbefore⟩) hne hfield hend h

theorem FieldsOf.first (hne : field ≠ []) (hfield : ∀ c ∈ field, blank c = false)
    (hend : ∀ c, rest.head? = some c → blank c = true) (h : FieldsOf blank rest fields) :
    FieldsOf blank (field ++ rest) (field :: fields) :=
  @FieldsOf.field blank [] field rest fields (by simp) hne hfield hend h

/-- Only what is blank in the line matters. -/
theorem FieldsOf.congr {blank' : UInt8 → Bool} (h : FieldsOf blank line fields) (hsame : ∀ c ∈ line, blank c = blank' c) :
    FieldsOf blank' line fields := by
  induction h with
  | blanks h => exact .blanks fun c hc => by rw [← hsame c hc, h c hc]
  | field hbefore hne hfield hend h ih =>
    refine .field (fun c hc => ?_) hne (fun c hc => ?_) (fun c hc => ?_) (ih fun c hc => hsame c (by simp [hc]))
    · rw [← hsame c (by simp [hc]), hbefore c hc]
    · rw [← hsame c (by simp [hc]), hfield c hc]
    · rw [← hsame c (by simp [List.mem_of_mem_head? hc]), hend c hc]

/-- A line of fields begins with the first, after blanks. -/
theorem FieldsOf.dropWhile_eq (h : FieldsOf blank line (field :: fields)) :
    ∃ rest, line.dropWhile blank = field ++ rest := by
  obtain ⟨⟩ | ⟨hbefore, hne, hfield, hend, h⟩ := h
  rename_i before rest
  refine ⟨rest, ?_⟩
  obtain ⟨c, field, rfl⟩ := List.exists_cons_of_ne_nil hne
  have hc : ¬ blank c = true := by simp [hfield c (by simp)]
  rw [List.append_assoc, List.dropWhile_append_of_pos hbefore, List.cons_append, List.dropWhile_cons_of_neg hc]

theorem fieldsOf_words (line : Chars) : FieldsOf isSpace line (words line) := by
  induction line with
  | nil => exact .blanks (by simp)
  | cons x xs ih =>
    rw [words]
    split
    · rename_i hx
      exact ih.cons_blank hx
    · rename_i hx
      have hone : ∀ c ∈ [x], isSpace c = false := by simpa using hx
      generalize words xs = fields at ih
      cases ih with
      | blanks h =>
        exact FieldsOf.first (by simp) hone (fun c hc => h c (List.mem_of_mem_head? hc)) (.blanks h)
      | @field before w rest fields hbefore hne hfield hend h =>
        cases before with
        | nil =>
          obtain ⟨y, w, rfl⟩ := List.exists_cons_of_ne_nil hne
          have hy : isSpace y = false := hfield y (by simp)
          simp only [List.nil_append, List.cons_append, List.head?_cons, Option.map_some, Option.getD_some, hy,
            Bool.false_eq_true, if_false]
          exact FieldsOf.first (by simp) (List.forall_mem_cons.mpr ⟨by simpa using hx, hfield⟩) hend h
        | cons b before =>
          have hb : isSpace b = true := hbefore b (by simp)
          simp only [List.cons_append, List.head?_cons, Option.map_some, Option.getD_some, hb, if_true]
          exact FieldsOf.first (by simp) hone (by simpa using hb)
            (.field hbefore hne hfield hend h)

theorem words_blanks (h : ∀ c ∈ before, isSpace c = true) (rest : Chars) : words (before ++ rest) = words rest := by
  induction before with
  | nil => rfl
  | cons x xs ih =>
    rw [List.cons_append, words, if_pos (h x (by simp)), ih fun c hc => h c (by simp [hc])]

theorem words_field (hne : field ≠ []) (hfield : ∀ c ∈ field, isSpace c = false)
    (hend : ∀ c, rest.head? = some c → isSpace c = true) : words (field ++ rest) = field :: words rest := by
  induction field with
  | nil => exact absurd rfl hne
  | cons x xs ih =>
    have hx : ¬ isSpace x = true := by simp [hfield x (by simp)]
    rw [List.cons_append, words, if_neg hx]
    cases xs with
    | nil =>
      rw [List.nil_append]
      cases hwords : words rest with
      | nil => rfl
      | cons w ws =>
        cases rest with
        | nil => cases hwords
        | cons y ys => simp [hend y rfl]
    | cons y ys =>
      have hy : isSpace y = false := hfield y (by simp)
      rw [ih (by simp) fun c hc => hfield c (List.mem_cons_of_mem _ hc)]
      simp [hy]

/-- **The words that are read are the fields.** -/
theorem words_eq_iff : words line = fields ↔ FieldsOf isSpace line fields := by
  constructor
  · rintro rfl
    exact fieldsOf_words line
  · intro h
    induction h with
    | blanks h => simpa [words] using words_blanks h []
    | field hbefore hne hfield hend h ih =>
      rw [List.append_assoc, words_blanks hbefore, words_field hne hfield hend, ih]

end Text
