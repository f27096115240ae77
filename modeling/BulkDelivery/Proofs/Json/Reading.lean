import BulkDelivery.Proofs.Json.Text
import BulkDelivery.Proofs.Text.Decimal

/-!
# Values are read as they were written

A value is read wherever it stands.  Only a number does not end by itself: it ends where something
follows that cannot go on with it, and in an array or an object that is a comma or a closing bracket
or brace.  So what is read as a value on its own is read as the same value among others, and arrays
and objects are read from how their values are read.

## Main definitions

* `Json.Stops` — what may follow a value.
* `Json.ReadsAs` — some characters are read as a value wherever they stand.
* `Json.memberText` — what is written for a member of an object.

## Main results

* `Json.readsAs_null`, `Json.readsAs_quote`, `Json.readsAs_integerText` — values without brackets.
* `Json.readsAs_array`, `Json.readsAs_object` — **arrays and objects are read value by value.**
* `Json.ReadsAs.parse?_eq` — what is read as a value is a whole text of that value.
-/

namespace BulkDelivery

namespace Json

/-- What may follow a value: nothing, a comma, or a closing bracket or brace. -/
def Stops (rest : List Char) : Prop :=
  ∀ c, rest.head? = some c → c = ',' ∨ c = ']' ∨ c = '\x7d'

theorem stops_nil : Stops [] := by
  intro c hc
  cases hc

theorem stops_cons {c : Char} (h : c = ',' ∨ c = ']' ∨ c = '\x7d') (rest : List Char) :
    Stops (c :: rest) := by
  intro d hd
  rw [List.head?_cons, Option.some.injEq] at hd
  exact hd ▸ h

/-- Some characters are read as a value wherever they stand, if the fuel exceeds their number. -/
def ReadsAs (text : List Char) (v : Value) : Prop :=
  ∀ fuel rest, text.length ≤ fuel → Stops rest → value? (fuel + 1) (text ++ rest) = some (v, rest)

variable {text rest cs : List Char} {v : Value} {c : Char} {fuel : Nat}

theorem skipBlanks_cons (h : isBlank c = false) (cs : List Char) :
    skipBlanks (c :: cs) = c :: cs := by
  rw [skipBlanks, List.dropWhile_cons, h, if_neg Bool.false_ne_true]

/-! ### Numbers -/

theorem Stops.ends_isDigit (h : Stops rest) : Ends isDigit rest := by
  intro c hc
  rcases h c hc with rfl | rfl | rfl <;> rfl

theorem isDigit_of_mem_decimal {n : Nat} (h : c ∈ decimal n) : isDigit c :=
  isDigit_of_mem_toDigits h

theorem ofDecimal_decimal (n : Nat) : ofDecimal (decimal n) = n :=
  Nat.ofDigitChars_ten_toDigits

theorem exists_decimal_eq_cons (n : Nat) :
    ∃ d digits, decimal n = d :: digits ∧ isDigit d :=
  exists_toDigits_eq_cons n

/-- Digits that were written are read to their end, because only zero starts with a zero. -/
theorem whole?_decimal (n : Nat) (h : Ends isDigit rest) :
    whole? (decimal n ++ rest) = some (n, rest) := by
  obtain ⟨d, digits, hdigits, -⟩ := exists_decimal_eq_cons n
  unfold whole?
  split
  · next c more hmore =>
    rw [hdigits, List.cons_append, List.cons.injEq] at hmore
    have hzero : n = 0 := eq_zero_of_head?_toDigits (by rw [← decimal, hdigits, hmore.1]; rfl)
    subst hzero
    cases hdigits
    rw [List.nil_append] at hmore
    rw [hmore.2, h c (by rw [hmore.2]; rfl), if_neg Bool.false_ne_true]
  · rw [takeWhile_run (fun c hc => isDigit_of_mem_decimal hc) h,
      dropWhile_run (fun c hc => isDigit_of_mem_decimal hc) h]
    split
    · next hnil => simp [hnil] at hdigits
    · rw [ofDecimal_decimal]

theorem fraction?_eq (h : Stops rest) : fraction? rest = some (false, rest) := by
  unfold fraction?
  split
  · have := h '.' rfl
    simp at this
  · rfl

theorem exponent?_eq (h : Stops rest) : exponent? rest = some (false, rest) := by
  unfold exponent?
  split
  · have := h 'e' rfl
    simp at this
  · have := h 'E' rfl
    simp at this
  · rfl

/-- The integer that digits stand for behind a sign. -/
theorem unsigned?_decimal (negative : Bool) (n : Nat) (h : Stops rest) :
    unsigned? negative (decimal n ++ rest) =
      some (if negative then if n = 0 then none else some (-(n : Int)) else some (n : Int),
        rest) := by
  simp [unsigned?, whole?_decimal n h.ends_isDigit, fraction?_eq h, exponent?_eq h]

theorem number?_integerText (z : Int) (h : Stops rest) :
    number? (integerText z ++ rest) = some (some z, rest) := by
  cases z with
  | ofNat n =>
    obtain ⟨d, digits, hdigits, hd⟩ := exists_decimal_eq_cons n
    have hunsigned := unsigned?_decimal false n h
    rw [integerText]
    rw [hdigits, List.cons_append] at hunsigned ⊢
    unfold number?
    split
    · next hminus =>
      rw [List.cons.injEq] at hminus
      rw [hminus.1] at hd
      cases hd
    · exact hunsigned
  | negSucc n =>
    have hunsigned := unsigned?_decimal true (n + 1) h
    rw [if_pos rfl, if_neg (Nat.succ_ne_zero n)] at hunsigned
    exact hunsigned

theorem isBlank_of_number (h : isDigit c ∨ c = '-') : isBlank c = false := by
  rw [Bool.eq_false_iff]
  intro hblank
  simp only [isBlank, Bool.or_eq_true, beq_iff_eq] at hblank
  rcases hblank with ((rfl | rfl) | rfl) | rfl <;> revert h <;> decide

theorem exists_integerText_eq_cons (z : Int) :
    ∃ c cs, integerText z = c :: cs ∧ (isDigit c ∨ c = '-') := by
  cases z with
  | ofNat n =>
    obtain ⟨d, digits, hdigits, hd⟩ := exists_decimal_eq_cons n
    exact ⟨d, digits, hdigits, .inl hd⟩
  | negSucc n => exact ⟨'-', decimal (n + 1), rfl, .inr rfl⟩

/-- A value that starts with a digit or a minus sign is a number. -/
theorem value?_of_number (h : isDigit c ∨ c = '-') :
    value? (fuel + 1) (c :: cs) = (number? (c :: cs)).map fun (n, rest) => (.number n, rest) := by
  rw [value?, skipBlanks_cons (isBlank_of_number h)]
  split <;> simp_all [isDigit]

theorem readsAs_integerText (z : Int) : ReadsAs (integerText z) (.number (some z)) := by
  intro fuel rest _ hrest
  have hnumber := number?_integerText z hrest
  obtain ⟨c, cs, htext, hc⟩ := exists_integerText_eq_cons z
  rw [htext, List.cons_append] at hnumber ⊢
  rw [value?_of_number hc, hnumber, Option.map_some]

/-! ### Words and texts -/

theorem readsAs_null : ReadsAs ['n', 'u', 'l', 'l'] .null := by
  intro fuel rest hfuel _
  simp [value?, skipBlanks_cons, isBlank, word?]

theorem quote_append (s rest : List Char) :
    quote s ++ rest = '"' :: (s.flatMap escape ++ '"' :: rest) := by
  simp [quote]

theorem readsAs_quote (s : List Char) : ReadsAs (quote s) (.text (some (String.ofList s))) := by
  intro fuel rest hfuel _
  rw [quote_append, value?, skipBlanks_cons (by decide)]
  simp only [text?_flatMap_escape, Option.map_some]

/-! ### Arrays -/

section

variable {texts : List (List Char)}

theorem intercalate_cons (text : List Char) (h : texts ≠ []) :
    List.intercalate [','] (text :: texts) = text ++ ',' :: List.intercalate [','] texts := by
  obtain ⟨next, texts, rfl⟩ := List.exists_cons_of_ne_nil h
  simp [List.intercalate]

/-- Among others a text is no longer than all of them, and there are no more of them than
characters and one. -/
theorem length_add_length_le (h : text ∈ texts) :
    text.length + texts.length ≤ (List.intercalate [','] texts).length + 1 := by
  induction texts generalizing text with
  | nil => cases h
  | cons first texts ih =>
    by_cases hlast : texts = []
    · subst hlast
      rw [List.mem_singleton] at h
      simp [h, List.intercalate]
    · obtain ⟨next, hnext⟩ := List.exists_mem_of_ne_nil texts hlast
      have hcount := ih hnext
      rw [intercalate_cons first hlast, List.length_append, List.length_cons, List.length_cons]
      rcases List.mem_cons.1 h with rfl | hlater
      · omega
      · have hrest := ih hlater
        omega

end

section

variable {α : Type} {items : List α} {writeItem : α → List Char} {valueOf : α → Value}

theorem items?_intercalate (h : ∀ x ∈ items, ReadsAs (writeItem x) (valueOf x)) (hne : items ≠ [])
    (depth fuel : Nat) (hdepth : ∀ x ∈ items, (writeItem x).length ≤ depth)
    (hfuel : items.length ≤ fuel) (rest : List Char) :
    items? (value? (depth + 1)) fuel
        (List.intercalate [','] (items.map writeItem) ++ ']' :: rest) =
      some (items.map valueOf, rest) := by
  induction items generalizing fuel with
  | nil => exact absurd rfl hne
  | cons x items ih =>
    obtain ⟨fuel, rfl⟩ := Nat.exists_eq_add_one_of_ne_zero (Nat.ne_of_gt (Nat.zero_lt_of_lt hfuel))
    obtain ⟨hx, hitems⟩ := List.forall_mem_cons.1 h
    obtain ⟨hdx, hditems⟩ := List.forall_mem_cons.1 hdepth
    by_cases hlast : items = []
    · subst hlast
      have hread := hx depth (']' :: rest) hdx (stops_cons (by decide) rest)
      simp [items?, List.intercalate, hread, skipBlanks_cons, isBlank]
    · have hlater := ih hitems hlast fuel hditems (Nat.le_of_succ_le_succ hfuel)
      have hread := hx depth _ hdx (stops_cons (.inl rfl)
        (List.intercalate [','] (items.map writeItem) ++ ']' :: rest))
      rw [List.map_cons, intercalate_cons _ (mt List.map_eq_nil_iff.1 hlast), List.append_assoc,
        List.cons_append, items?, hread]
      simp [skipBlanks_cons, isBlank, hlater]

theorem value?_of_closing (h : skipBlanks cs = ']' :: rest) : value? fuel cs = none := by
  cases fuel with
  | zero => rfl
  | succ fuel => simp [value?, h, number?, unsigned?, whole?, isDigit]

/-- Behind a bracket there are values, unless it is closed at once. -/
theorem value?_of_bracket (h : ∀ more, skipBlanks cs ≠ ']' :: more) :
    value? (fuel + 1) ('[' :: cs) =
      (items? (value? fuel) fuel cs).map fun (vs, rest) => (.array vs, rest) := by
  simp only [value?, skipBlanks_cons (c := '[') (by decide)]

/-- An array is read value by value. -/
theorem readsAs_array (h : ∀ x ∈ items, ReadsAs (writeItem x) (valueOf x)) :
    ReadsAs ('[' :: (List.intercalate [','] (items.map writeItem) ++ [']']))
      (.array (items.map valueOf)) := by
  intro fuel rest hfuel _
  rw [List.length_cons, List.length_append, List.length_singleton] at hfuel
  rw [List.cons_append, List.append_assoc, List.singleton_append]
  by_cases hne : items = []
  · subst hne
    simp [value?, List.intercalate, skipBlanks_cons, isBlank]
  · obtain ⟨fuel, rfl⟩ := Nat.exists_eq_add_one_of_ne_zero (by omega : fuel ≠ 0)
    have hlength : ∀ x ∈ items, (writeItem x).length ≤ fuel ∧ items.length ≤ fuel + 1 := by
      intro x hx
      have htogether := length_add_length_le (List.mem_map_of_mem (f := writeItem) hx)
      rw [List.length_map] at htogether
      omega
    obtain ⟨x, hx⟩ := List.exists_mem_of_ne_nil items hne
    have hread := items?_intercalate h hne fuel (fuel + 1) (fun x hx => (hlength x hx).1)
      (hlength x hx).2 rest
    -- what starts with a closing bracket is no value, so the array is not taken for an empty one
    have hopen : ∀ more, skipBlanks (List.intercalate [','] (items.map writeItem) ++ ']' :: rest) ≠
        ']' :: more := by
      intro more hclosing
      rw [items?, value?_of_closing hclosing] at hread
      cases hread
    rw [value?_of_bracket hopen, hread, Option.map_some]

end

/-! ### Objects -/

/-- What is written for a member: its name, a colon and what is written for its value. -/
def memberText (m : String × List Char × Value) : List Char :=
  quote m.1.toList ++ ':' :: m.2.1

section

variable {members : List (String × List Char × Value)}

theorem members?_intercalate (h : ∀ m ∈ members, ReadsAs m.2.1 m.2.2) (hne : members ≠ [])
    (depth fuel : Nat) (hdepth : ∀ m ∈ members, m.2.1.length ≤ depth)
    (hfuel : members.length ≤ fuel) (rest : List Char) :
    members? (value? (depth + 1)) fuel
        (List.intercalate [','] (members.map memberText) ++ '\x7d' :: rest) =
      some (members.map fun m => (some m.1, m.2.2), rest) := by
  induction members generalizing fuel with
  | nil => exact absurd rfl hne
  | cons m members ih =>
    obtain ⟨fuel, rfl⟩ := Nat.exists_eq_add_one_of_ne_zero (Nat.ne_of_gt (Nat.zero_lt_of_lt hfuel))
    obtain ⟨hm, hmembers⟩ := List.forall_mem_cons.1 h
    obtain ⟨hdm, hdmembers⟩ := List.forall_mem_cons.1 hdepth
    by_cases hlast : members = []
    · subst hlast
      have hread := hm depth ('\x7d' :: rest) hdm (stops_cons (by decide) rest)
      simp [members?, List.intercalate, memberText, quote, hread, skipBlanks_cons, isBlank,
        text?_flatMap_escape]
    · have hlater := ih hmembers hlast fuel hdmembers (Nat.le_of_succ_le_succ hfuel)
      have hread := hm depth _ hdm (stops_cons (.inl rfl)
        (List.intercalate [','] (members.map memberText) ++ '\x7d' :: rest))
      rw [List.map_cons, intercalate_cons _ (mt List.map_eq_nil_iff.1 hlast), List.append_assoc,
        List.cons_append, memberText, List.append_assoc, quote_append, List.cons_append]
      simp [members?, skipBlanks_cons, isBlank, text?_flatMap_escape, hread, hlater]

/-- Behind a brace there are members, unless it is closed at once. -/
theorem value?_of_brace (h : ∀ more, skipBlanks cs ≠ '\x7d' :: more) :
    value? (fuel + 1) ('\x7b' :: cs) =
      (members? (value? fuel) fuel cs).map fun (ms, rest) => (.object ms, rest) := by
  simp only [value?, skipBlanks_cons (c := '\x7b') (by decide)]

/-- An object is read value by value. -/
theorem readsAs_object (h : ∀ m ∈ members, ReadsAs m.2.1 m.2.2) :
    ReadsAs ('\x7b' :: (List.intercalate [','] (members.map memberText) ++ ['\x7d']))
      (.object (members.map fun m => (some m.1, m.2.2))) := by
  intro fuel rest hfuel _
  rw [List.length_cons, List.length_append, List.length_singleton] at hfuel
  rw [List.cons_append, List.append_assoc, List.singleton_append]
  by_cases hne : members = []
  · subst hne
    simp [value?, List.intercalate, skipBlanks_cons, isBlank]
  · obtain ⟨fuel, rfl⟩ := Nat.exists_eq_add_one_of_ne_zero (by omega : fuel ≠ 0)
    have hlength : ∀ m ∈ members, m.2.1.length ≤ fuel ∧ members.length ≤ fuel + 1 := by
      intro m hm
      have htogether := length_add_length_le (List.mem_map_of_mem (f := memberText) hm)
      rw [List.length_map, memberText, List.length_append, List.length_cons] at htogether
      omega
    obtain ⟨m, hm⟩ := List.exists_mem_of_ne_nil members hne
    have hread := members?_intercalate h hne fuel (fuel + 1) (fun m hm => (hlength m hm).1)
      (hlength m hm).2 rest
    -- what starts with a closing brace is no member, so the object is not taken for an empty one
    have hopen : ∀ more, skipBlanks (List.intercalate [','] (members.map memberText) ++
        '\x7d' :: rest) ≠ '\x7d' :: more := by
      intro more hclosing
      simp [members?, hclosing] at hread
    rw [value?_of_brace hopen, hread, Option.map_some]

end

/-! ### Whole texts -/

/-- What is read as a value is a whole text of that value. -/
theorem ReadsAs.parse?_eq (h : ReadsAs text v) : parse? text = some v := by
  have hread := h text.length [] (Nat.le_refl _) stops_nil
  rw [List.append_nil] at hread
  simp [parse?, hread, skipBlanks]

end Json

end BulkDelivery
