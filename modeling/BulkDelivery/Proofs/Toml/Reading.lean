import BulkDelivery.Proofs.Text.Decimal
import BulkDelivery.Toml.Document
import Mathlib.Data.List.Basic

/-!
# Lines are read as they were written

A document of lines `key = value` is read line by line.  A value at the end of a line is a whole
number or a truth value here.  Digits could also begin a date, a time, a fraction or a number in
another base, but none of these ends with the digits: each needs a further mark, and behind the
digits there is only the end of the line.

## Main definitions

* `Toml.ReadsAs` — some characters are read as a value at the end of a line.
* `Toml.BareKey` — a key that stands without quotation marks.
* `Toml.pairText` — the line of a key and a value.

## Main results

* `Toml.readsAs_toDigits`, `Toml.readsAs_true`, `Toml.readsAs_false` — the values.
* `Toml.lines?_flatMap_pairText` — **lines with different keys become entries in their order.**
* `Toml.parse?_flatMap_pairText` — the same for a document.
-/

namespace BulkDelivery

namespace Toml

variable {cs rest run text : List Char} {c : Char} {n : Nat} {v : Value}

/-- What stands for a value before the end of a line is read as it. -/
def ReadsAs (text : List Char) (v : Value) : Prop :=
  ∀ rest, value? maxDepth (skipBlanks (text ++ '\n' :: rest)) = some (v, '\n' :: rest)

theorem skipBlanks_cons (h : isBlank c = false) (cs : List Char) :
    skipBlanks (c :: cs) = c :: cs := by
  rw [skipBlanks, List.dropWhile_cons, h, if_neg Bool.false_ne_true]

/-- A value that starts neither with a bracket nor with a brace has none. -/
theorem value?_eq_scalar? (hbracket : c ≠ '[') (hbrace : c ≠ '\x7b') (depth : Nat) :
    value? depth (c :: cs) = scalar? (c :: cs) := by
  cases depth with
  | zero => rfl
  | succ depth => simp [value?, hbracket, hbrace]

/-! ### Truth values -/

theorem readsAs_true : ReadsAs ['t', 'r', 'u', 'e'] (.boolean true) := by
  intro rest
  simp [skipBlanks, isBlank, value?_eq_scalar?, scalar?, word?]

theorem readsAs_false : ReadsAs ['f', 'a', 'l', 's', 'e'] (.boolean false) := by
  intro rest
  simp [skipBlanks, isBlank, value?_eq_scalar?, scalar?, word?]

/-! ### Whole numbers -/

/-- A fixed number of digits is only read within a run, because the end of a line is no digit. -/
theorem eq_of_fixedDigits? {width number : Nat}
    (h : fixedDigits? width (run ++ '\n' :: rest) = some (number, cs)) :
    cs = run.drop width ++ '\n' :: rest := by
  rw [fixedDigits?] at h
  split at h
  · next hall =>
    rw [Option.some.injEq, Prod.mk.injEq] at h
    have hinside : width ≤ run.length := by
      by_contra hbeyond
      have hnewline : '\n' ∈ (run ++ '\n' :: rest).take width := by
        obtain ⟨more, hmore⟩ := Nat.exists_eq_add_one_of_ne_zero (by omega : width - run.length ≠ 0)
        rw [List.take_append, List.mem_append, hmore, List.take_succ_cons]
        exact .inr List.mem_cons_self
      exact absurd (List.all_eq_true.1 hall.2 _ hnewline) (by decide)
    rw [← h.2, List.drop_append_of_le_length hinside]
  · cases h

section

variable (hrun : ∀ c ∈ run, isDigit c)

include hrun

theorem moreDigits?_run (done : List Char) (rest : List Char) :
    moreDigits? isDigit done (run ++ '\n' :: rest) = some (done.reverse ++ run, '\n' :: rest) := by
  induction run generalizing done with
  | nil => simp [moreDigits?, isDigit]
  | cons c run ih =>
    obtain ⟨hc, hrun⟩ := List.forall_mem_cons.1 hrun
    have hmark : c ≠ '_' := ne_of_kind hc rfl
    have hlater := ih hrun (c :: done)
    rw [List.reverse_cons, List.append_assoc, List.singleton_append] at hlater
    simp [moreDigits?, hmark, hc, hlater]

theorem expect?_run {mark : Char} (hmark : isDigit mark = false) (hend : mark ≠ '\n')
    (rest : List Char) : expect? mark (run ++ '\n' :: rest) = none := by
  cases run with
  | nil => rw [List.nil_append, expect?, if_neg hend.symm]
  | cons d digits =>
    have hd : d ≠ mark := ne_of_kind (hrun d List.mem_cons_self) hmark
    rw [List.cons_append, expect?, if_neg hd]

/-- A date or a time needs a mark behind its first digits, and there is none. -/
theorem expect?_fixedDigits? (mark : Char) (hmark : isDigit mark = false) (hend : mark ≠ '\n')
    {width number : Nat} (h : fixedDigits? width (run ++ '\n' :: rest) = some (number, cs)) :
    expect? mark cs = none := by
  rw [eq_of_fixedDigits? h]
  exact expect?_run (fun c hc => hrun c (List.mem_of_mem_drop hc)) hmark hend rest

theorem dateTime?_run : dateTime? (run ++ '\n' :: rest) = none := by
  have hdate : date? (run ++ '\n' :: rest) = none := by
    unfold date?
    rcases hyear : fixedDigits? 4 (run ++ '\n' :: rest) with - | ⟨year, cs⟩
    · rfl
    · simp [expect?_fixedDigits? hrun '-' (by decide) (by decide) hyear]
  have htime : time? (run ++ '\n' :: rest) = none := by
    unfold time?
    rcases hhour : fixedDigits? 2 (run ++ '\n' :: rest) with - | ⟨hour, cs⟩
    · rfl
    · simp [expect?_fixedDigits? hrun ':' (by decide) (by decide) hhour]
  simp [dateTime?, hdate, htime]

end

theorem hexValue?_of_isDigit (h : isDigit c) : hexValue? c = some (c.toNat - 48) := by
  simp only [isDigit, Bool.and_eq_true, decide_eq_true_eq] at h
  exact if_pos h

theorem ofDigits_toDigits (n : Nat) : ofDigits 10 (Nat.toDigits 10 n) = n := by
  have hvalue : ofDigits 10 (Nat.toDigits 10 n) = Nat.ofDigitChars 10 (Nat.toDigits 10 n) 0 := by
    rw [ofDigits, Nat.ofDigitChars_eq_foldl]
    refine List.foldl_ext _ _ _ fun value c hc => ?_
    rw [hexValue?_of_isDigit (isDigit_of_mem_toDigits hc), Option.getD_some]
    rfl
  rw [hvalue, Nat.ofDigitChars_ten_toDigits]

theorem exists_digits_eq_cons (n : Nat) :
    ∃ d digits, Nat.toDigits 10 n = d :: digits ∧ isDigit d :=
  exists_toDigits_eq_cons n

/-- Digits that were written are read to their end, because only zero starts with a zero. -/
theorem wholePart?_toDigits (n : Nat) (rest : List Char) :
    wholePart? (Nat.toDigits 10 n ++ '\n' :: rest) = some (Nat.toDigits 10 n, '\n' :: rest) := by
  obtain ⟨d, digits, hdigits, hd⟩ := exists_digits_eq_cons n
  unfold wholePart?
  split
  · next more hmore =>
    rw [hdigits, List.cons_append, List.cons.injEq] at hmore
    have hzero : n = 0 := eq_zero_of_head?_toDigits (by rw [hdigits, hmore.1]; rfl)
    subst hzero
    cases hdigits
    rw [← hmore.2]
    rfl
  · have hmore : ∀ c ∈ digits, isDigit c :=
      fun c hc => isDigit_of_mem_toDigits (n := n) (hdigits ▸ List.mem_cons_of_mem d hc)
    rw [hdigits, List.cons_append, digits?, if_pos hd, moreDigits?_run hmore]
    rfl

/-- Before the end of a line there is neither a fraction nor an exponent. -/
theorem decimal?_eq (hwhole : wholePart? (text ++ '\n' :: rest) = some (text, '\n' :: rest))
    (hvalue : integer? (ofDigits 10 text) = some v) :
    decimal? false (text ++ '\n' :: rest) = some (v, '\n' :: rest) := by
  have hmark : ¬('\n' :: rest).head?.any isFloatMark = true := Bool.false_ne_true
  rw [decimal?, hwhole, Option.bind_eq_bind, Option.bind_some]
  dsimp only
  rw [if_neg hmark, if_neg Bool.false_ne_true, hvalue]
  rfl

theorem decimal?_toDigits (h : n < 0x8000000000000000) (rest : List Char) :
    decimal? false (Nat.toDigits 10 n ++ '\n' :: rest) = some (.integer n, '\n' :: rest) := by
  have hbound : -0x8000000000000000 ≤ (n : Int) ∧ (n : Int) < 0x8000000000000000 := by omega
  refine decimal?_eq (wholePart?_toDigits n rest) ?_
  rw [ofDigits_toDigits, integer?, if_pos hbound]

/-- A digit begins a decimal number unless a letter follows that marks another base. -/
theorem number?_of_isDigit (hc : isDigit c) (hnext : ∀ d, cs.head? = some d → isDigit d ∨ d = '\n')
    (hdate : dateTime? (c :: cs) = none) : number? (c :: cs) = decimal? false (c :: cs) := by
  have hmark : ∀ d, isDigit d = false → d ≠ '\n' → cs.head? ≠ some d := by
    intro d hd hline hhead
    rcases hnext d hhead with hdigit | hnewline
    · rw [hd] at hdigit
      cases hdigit
    · exact hline hnewline
  rw [number?, hdate]
  · rintro rest hbase
    cases hbase
    exact hmark 'x' rfl (by decide) rfl
  · rintro rest hbase
    cases hbase
    exact hmark 'o' rfl (by decide) rfl
  · rintro rest hbase
    cases hbase
    exact hmark 'b' rfl (by decide) rfl
  · rintro rest hsign
    cases hsign
    cases hc
  · rintro rest hsign
    cases hsign
    cases hc

theorem number?_toDigits (h : n < 0x8000000000000000) (rest : List Char) :
    number? (Nat.toDigits 10 n ++ '\n' :: rest) = some (.integer n, '\n' :: rest) := by
  have hdate : dateTime? (Nat.toDigits 10 n ++ '\n' :: rest) = none :=
    dateTime?_run fun c hc => isDigit_of_mem_toDigits hc
  have hdecimal := decimal?_toDigits h rest
  obtain ⟨d, digits, hdigits, hd⟩ := exists_digits_eq_cons n
  rw [hdigits, List.cons_append] at hdate hdecimal ⊢
  rw [number?_of_isDigit hd ?_ hdate, hdecimal]
  intro e he
  cases digits with
  | nil => exact .inr (Option.some.inj he).symm
  | cons f digits =>
    cases Option.some.inj he
    exact .inl (isDigit_of_mem_toDigits (n := n) (by simp [hdigits]))

/-- Every number that fits sixty-four bits with a sign is read from its digits. -/
theorem readsAs_toDigits (h : n < 0x8000000000000000) :
    ReadsAs (Nat.toDigits 10 n) (.integer n) := by
  intro rest
  have hnumber := number?_toDigits h rest
  obtain ⟨d, digits, hdigits, hd⟩ := exists_digits_eq_cons n
  rw [hdigits, List.cons_append] at hnumber ⊢
  have hother : ∀ c, isDigit c = false → d ≠ c := fun _ hc => ne_of_kind hd hc
  have hblank : isBlank d = false := by simp [isBlank, hother ' ' rfl, hother '\t' rfl]
  rw [skipBlanks_cons hblank, value?_eq_scalar? (hother '[' rfl) (hother '\x7b' rfl)]
  simp [scalar?, hother '"' rfl, hother '\x27' rfl, hother 't' rfl, hother 'f' rfl, hother 'i' rfl,
    hother 'n' rfl, hd, hnumber]

/-! ### Keys -/

/-- A key that stands without quotation marks. -/
def BareKey (key : String) : Prop :=
  key ≠ "" ∧ key.toList.all isBareKey

theorem isBareKey_ne (h : isBareKey c) (d : Char) (hd : isBareKey d = false) : c ≠ d :=
  ne_of_kind h hd

theorem isBlank_of_isBareKey (h : isBareKey c) : isBlank c = false := by
  simp [isBlank, isBareKey_ne h ' ' rfl, isBareKey_ne h '\t' rfl]

theorem BareKey.exists_cons {key : String} (h : BareKey key) :
    ∃ c more, key.toList = c :: more ∧ isBareKey c := by
  obtain ⟨c, more, hkey⟩ := List.exists_cons_of_ne_nil (l := key.toList) (by simpa using h.1)
  exact ⟨c, more, hkey, List.all_eq_true.1 h.2 c (hkey ▸ List.mem_cons_self)⟩

/-- A key is read up to the blank behind it. -/
theorem dottedKey?_eq {key : String} (h : BareKey key) (rest : List Char) :
    dottedKey? (key.toList ++ ' ' :: '=' :: rest) = some ([key], '=' :: rest) := by
  have hends : Ends isBareKey (' ' :: '=' :: rest) := ends_cons rfl _
  have hkey : simpleKey? (key.toList ++ ' ' :: '=' :: rest) =
      some (key.toList, ' ' :: '=' :: rest) := by
    rw [simpleKey?, takeWhile_run (List.all_eq_true.1 h.2) hends,
      dropWhile_run (List.all_eq_true.1 h.2) hends]
    split
    · next hnil => exact absurd hnil (by simpa using h.1)
    · rfl
  obtain ⟨c, more, htext, hc⟩ := h.exists_cons
  have hskip : skipBlanks (key.toList ++ ' ' :: '=' :: rest) = key.toList ++ ' ' :: '=' :: rest := by
    rw [htext, List.cons_append, skipBlanks_cons (isBlank_of_isBareKey hc)]
  rw [dottedKey?, maxKeyParts, dottedKeyUpTo, hskip, hkey]
  simp [skipBlanks, isBlank]

/-! ### Lines -/

/-- The line of a key and a value. -/
def pairText (key : String) (text : List Char) : List Char :=
  key.toList ++ ' ' :: '=' :: ' ' :: (text ++ ['\n'])

theorem pairText_append (key : String) (text rest : List Char) :
    pairText key text ++ rest = key.toList ++ ' ' :: '=' :: ' ' :: (text ++ '\n' :: rest) := by
  simp [pairText]

/-- Nothing is skipped before a line that starts with a key. -/
theorem skipLines_of_isBareKey (h : isBareKey c) (cs : List Char) :
    skipLines (c :: cs) = c :: cs := by
  have hblanks : skipBlanks (c :: cs) = c :: cs := skipBlanks_cons (isBlank_of_isBareKey h) cs
  simp [skipLines, skipLinesUpTo, hblanks, skipComment, newline?, isBareKey_ne h '#' rfl,
    isBareKey_ne h '\n' rfl, isBareKey_ne h '\r' rfl]

section

variable {key : String} {draft : Draft} (hkey : BareKey key)

include hkey

theorem exists_pairText_append (text rest : List Char) :
    ∃ c more, pairText key text ++ rest = c :: more ∧ isBareKey c := by
  obtain ⟨c, more, htext, hc⟩ := hkey.exists_cons
  exact ⟨c, _, by rw [pairText, htext]; rfl, hc⟩

theorem pair?_pairText (h : ReadsAs text v) (rest : List Char) :
    pair? (value? maxDepth) (pairText key text ++ rest) = some ([key], v, '\n' :: rest) := by
  have hvalue : value? maxDepth (skipBlanks (' ' :: (text ++ '\n' :: rest))) =
      some (v, '\n' :: rest) := h rest
  rw [pairText_append, pair?, dottedKey?_eq hkey]
  simp [expect?, hvalue]

/-- A line adds its entry to the table that no header has opened. -/
theorem line?_pairText (h : ReadsAs text v) (htop : draft.header = [])
    (hnew : draft.entries.lookup key = none) (rest : List Char) :
    line? draft (pairText key text ++ rest) =
      some ({ draft with entries := draft.entries ++ [(key, v)] }, rest) := by
  have hpair := pair?_pairText hkey h rest
  obtain ⟨c, more, htext, hc⟩ := exists_pairText_append hkey text rest
  rw [htext] at hpair ⊢
  have hline : line? draft (c :: more) = pairLine? draft (c :: more) := by
    simp [line?, isBareKey_ne hc '[' rfl]
  rw [hline]
  simp [pairLine?, hpair, lineEnd?, skipBlanks, isBlank, skipComment, newline?, htop, descend,
    insert, hnew]

end

/-! ### Documents -/

section

variable {α : Type} {items : List α} {keyOf : α → String} {textOf : α → List Char}
  {valueOf : α → Value} {draft : Draft}

/-- Lines with different keys become entries in their order, behind the entries that are there. -/
theorem lines?_flatMap_pairText (hkeys : ∀ x ∈ items, BareKey (keyOf x))
    (hvalues : ∀ x ∈ items, ReadsAs (textOf x) (valueOf x)) (htop : draft.header = [])
    (hnodup : (draft.entries.map Prod.fst ++ items.map keyOf).Nodup) (fuel : Nat)
    (hfuel : items.length < fuel) :
    lines? fuel draft (items.flatMap fun x => pairText (keyOf x) (textOf x)) =
      some (draft.entries ++ items.map fun x => (keyOf x, valueOf x)) := by
  induction items generalizing draft fuel with
  | nil =>
    obtain ⟨fuel, rfl⟩ := Nat.exists_eq_add_one_of_ne_zero (Nat.ne_of_gt hfuel)
    simp [lines?, skipLines, skipLinesUpTo]
  | cons x items ih =>
    obtain ⟨fuel, rfl⟩ := Nat.exists_eq_add_one_of_ne_zero (Nat.ne_of_gt (Nat.zero_lt_of_lt hfuel))
    obtain ⟨hkey, hkeys⟩ := List.forall_mem_cons.1 hkeys
    obtain ⟨hvalue, hvalues⟩ := List.forall_mem_cons.1 hvalues
    have hnew : draft.entries.lookup (keyOf x) = none := by
      rw [List.lookup_eq_none_iff]
      intro entry hentry
      have hdistinct := (List.nodup_append.1 hnodup).2.2 entry.1 (List.mem_map_of_mem hentry)
        (keyOf x) List.mem_cons_self
      simpa using Ne.symm hdistinct
    have hline := line?_pairText hkey hvalue htop hnew
      (items.flatMap fun x => pairText (keyOf x) (textOf x))
    have hlater :
        lines? fuel { draft with entries := draft.entries ++ [(keyOf x, valueOf x)] }
            (items.flatMap fun x => pairText (keyOf x) (textOf x)) =
          some (draft.entries ++ [(keyOf x, valueOf x)] ++
            items.map fun x => (keyOf x, valueOf x)) :=
      ih hkeys hvalues (by exact htop) (by simpa using hnodup) fuel
        (Nat.lt_of_succ_lt_succ hfuel)
    obtain ⟨c, more, htext, hc⟩ := exists_pairText_append hkey (textOf x)
      (items.flatMap fun x => pairText (keyOf x) (textOf x))
    rw [htext] at hline
    rw [List.flatMap_cons, htext, lines?, skipLines_of_isBareKey hc]
    simp only [hline, hlater, List.map_cons, List.append_assoc, List.singleton_append]

theorem length_le_length_flatMap_pairText (items : List α) (keyOf : α → String)
    (textOf : α → List Char) :
    items.length ≤ (items.flatMap fun x => pairText (keyOf x) (textOf x)).length := by
  induction items with
  | nil => exact Nat.le_refl 0
  | cons x items ih =>
    rw [List.flatMap_cons, List.length_append, List.length_cons, pairText, List.length_append,
      List.length_cons]
    omega

/-- **A document of lines with different keys has their entries, in their order.** -/
theorem parse?_flatMap_pairText (hkeys : ∀ x ∈ items, BareKey (keyOf x))
    (hvalues : ∀ x ∈ items, ReadsAs (textOf x) (valueOf x)) (hnodup : (items.map keyOf).Nodup) :
    parse? (String.ofList (items.flatMap fun x => pairText (keyOf x) (textOf x))) =
      some (items.map fun x => (keyOf x, valueOf x)) := by
  rw [parse?, String.toList_ofList]
  split
  · next rest hmark =>
    -- a document starts with a key, so no mark of the byte order is taken away
    cases items with
    | nil => cases hmark
    | cons x items =>
      obtain ⟨c, more, htext, hc⟩ := exists_pairText_append (hkeys x List.mem_cons_self) (textOf x)
        (items.flatMap fun x => pairText (keyOf x) (textOf x))
      rw [List.flatMap_cons, htext, List.cons.injEq] at hmark
      exact absurd hmark.1 (isBareKey_ne hc '\ufeff' rfl)
  · exact lines?_flatMap_pairText hkeys hvalues rfl (by simpa using hnodup) _
      (Nat.lt_succ_of_le (length_le_length_flatMap_pairText items keyOf textOf))

end

end Toml

end BulkDelivery
