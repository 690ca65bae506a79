/-
Laws of the operations on text: what the parts of a text are, and that a text put
together from parts comes apart into the same parts again. A separator must not
occur in a part; apart from that the parts are arbitrary. The laws of results come
first: all readers give them.
-/
import BranchingTime.Text.Blank
import BranchingTime.Text.Integer
import BranchingTime.Text.Letter

namespace BranchingTime

/-! ## Results -/

section

variable {ε δ α β : Type} {x : Except ε α} {a : α} {b : β}

theorem bind_eq_ok_iff {f : α → Except ε β} : x >>= f = .ok b ↔ ∃ a, x = .ok a ∧ f a = .ok b := by
  cases x with
  | error error => simp [bind, Except.bind]
  | ok a => simp [bind, Except.bind]

theorem bind_eq_error_iff {f : α → Except ε β} {e : ε} :
    x >>= f = .error e ↔ x = .error e ∨ ∃ a, x = .ok a ∧ f a = .error e := by
  cases x with
  | error error => simp [bind, Except.bind]
  | ok a => simp [bind, Except.bind]

theorem toOption_eq_some_iff : x.toOption = some a ↔ x = .ok a := by
  cases x with
  | error error => simp [Except.toOption]
  | ok a => simp [Except.toOption]

/-- The error, if there is one. -/
def error? : Except ε α → Option ε
  | .ok _ => none
  | .error e => some e

theorem error?_eq_some_iff {e : ε} : error? x = some e ↔ x = .error e := by
  cases x with
  | error error => simp [error?]
  | ok a => simp [error?]

theorem mapError_eq_ok_iff {f : ε → δ} : x.mapError f = .ok a ↔ x = .ok a := by
  cases x with
  | error error => constructor <;> intro h <;> cases h
  | ok a => constructor <;> intro h <;> cases h <;> rfl

theorem mapError_eq_error_iff {f : ε → δ} {d : δ} :
    x.mapError f = .error d ↔ ∃ e, x = .error e ∧ d = f e := by
  cases x with
  | error error =>
    constructor
    · intro h
      cases h
      exact ⟨error, rfl, rfl⟩
    · rintro ⟨e, he, rfl⟩
      cases he
      rfl
  | ok a =>
    constructor
    · intro h
      cases h
    · rintro ⟨e, he, -⟩
      cases he

theorem mapError_bind (x : Except ε α) (k : α → Except ε β) (f : ε → δ) :
    (x >>= k).mapError f = x.mapError f >>= fun a => (k a).mapError f := by
  cases x <;> rfl

theorem mapError_mapError {γ : Type} (x : Except ε α) (f : ε → δ) (g : δ → γ) :
    (x.mapError f).mapError g = x.mapError fun e => g (f e) := by
  cases x <;> rfl

theorem mapError_foldlM (take : β → α → Except ε β) (f : ε → δ) (as : List α) (start : β) :
    (as.foldlM take start).mapError f =
      as.foldlM (fun b a => (take b a).mapError f) start := by
  induction as generalizing start with
  | nil => rfl
  | cons a as ih =>
    rw [List.foldlM_cons, List.foldlM_cons, mapError_bind]
    simp only [ih]

/-- Steps taken one after another fail at the first one that fails after the others. -/
theorem foldlM_eq_error_iff {take : β → α → Except ε β} {as : List α} {start : β} {e : ε} :
    as.foldlM take start = .error e ↔ ∃ before a after b, as = before ++ a :: after ∧
      before.foldlM take start = .ok b ∧ take b a = .error e := by
  constructor
  · intro h
    induction as generalizing start with
    | nil => cases h
    | cons a as ih =>
      rw [List.foldlM_cons] at h
      rcases bind_eq_error_iff.1 h with hfirst | ⟨next, hfirst, hrest⟩
      · exact ⟨[], a, as, start, rfl, rfl, hfirst⟩
      · obtain ⟨before, a', after, b, rfl, hbefore, ha'⟩ := ih hrest
        refine ⟨a :: before, a', after, b, rfl, ?_, ha'⟩
        rw [List.foldlM_cons]
        exact bind_eq_ok_iff.2 ⟨next, hfirst, hbefore⟩
  · rintro ⟨before, a, after, b, rfl, hbefore, ha⟩
    rw [List.foldlM_append]
    refine bind_eq_error_iff.2 (.inr ⟨b, hbefore, ?_⟩)
    rw [List.foldlM_cons]
    exact bind_eq_error_iff.2 (.inl ha)

end

namespace Text

variable {p : Char → Bool} {c : Char} {cs rest before after separator part word : List Char}

/-! ## Parts between separators -/

theorem splitWhere_eq_splitOnP (p : Char → Bool) (cs : List Char) :
    splitWhere p cs = cs.splitOnP p := by
  induction cs with
  | nil => simp [splitWhere]
  | cons c cs ih =>
    rw [splitWhere, List.splitOnP_cons_eq_if_modifyHead, ih]
    split
    · rfl
    · cases hparts : cs.splitOnP p with
      | nil => exact absurd hparts (List.splitOnP_ne_nil p cs)
      | cons part parts => rfl

/-- The parts are made of the characters that are no separators. -/
theorem of_mem_splitWhere (hpart : part ∈ splitWhere p cs) :
    ∀ d ∈ part, p d = false ∧ d ∈ cs := by
  induction cs generalizing part with
  | nil =>
    rw [splitWhere, List.mem_singleton] at hpart
    simp [hpart]
  | cons c cs ih =>
    rw [splitWhere] at hpart
    split at hpart
    next hc =>
      rcases List.mem_cons.1 hpart with rfl | htail
      · simp
      · exact fun d hd => ⟨(ih htail d hd).1, List.mem_cons_of_mem _ (ih htail d hd).2⟩
    next hc =>
      cases hparts : splitWhere p cs with
      | nil =>
        rw [hparts, ontoFirst, List.mem_singleton] at hpart
        simp [hpart, hc]
      | cons first others =>
        rw [hparts] at ih hpart
        rcases List.mem_cons.1 hpart with rfl | htail
        · intro d hd
          rcases List.mem_cons.1 hd with rfl | hd
          · exact ⟨Bool.eq_false_iff.2 hc, List.mem_cons_self⟩
          · have hfirst := ih List.mem_cons_self d hd
            exact ⟨hfirst.1, List.mem_cons_of_mem _ hfirst.2⟩
        · intro d hd
          have hothers := ih (List.mem_cons_of_mem _ htail) d hd
          exact ⟨hothers.1, List.mem_cons_of_mem _ hothers.2⟩

/-! ## Lines -/

theorem beq_feed_eq_false (hfeed : '\n' ∉ cs) : ∀ d ∈ cs, (d == '\n') = false := by
  intro d hd
  rw [beq_eq_false_iff_ne]
  rintro rfl
  exact hfeed hd

theorem lines_eq_singleton (hfeed : '\n' ∉ cs) (hne : cs ≠ []) : lines cs = [cs] := by
  rw [lines, splitWhere_eq_splitOnP, List.splitOnP_eq_singleton (beq_feed_eq_false hfeed), linesOf,
    if_neg (by simpa using hne)]

/-- A line feed ends a line. -/
theorem lines_append_cons (hfeed : '\n' ∉ cs) :
    lines (cs ++ '\n' :: rest) = dropReturn cs :: lines rest := by
  rw [lines, splitWhere_eq_splitOnP,
    List.splitOnP_append_cons_of_forall_mem (beq_feed_eq_false hfeed) '\n' (by decide),
    ← splitWhere_eq_splitOnP, linesOf, lines]
  exact fun h => List.splitOnP_ne_nil _ _ (splitWhere_eq_splitOnP _ _ ▸ h)

/-- A carriage return is dropped from the end only. -/
theorem exists_dropReturn_append (hreturn : cs.getLast? ≠ some '\r') (rest : List Char) :
    ∃ r, dropReturn (cs ++ rest) = cs ++ r ∧ ∀ d ∈ r, d ∈ rest := by
  rw [dropReturn]
  split
  next hlast =>
    have hne : rest ≠ [] := by
      rintro rfl
      exact hreturn (by simpa using hlast)
    exact ⟨rest.dropLast, List.dropLast_append_of_ne_nil hne,
      fun d hd => (List.dropLast_sublist rest).subset hd⟩
  next => exact ⟨rest, rfl, fun d hd => hd⟩

/-- The first line starts with all that stands before the first line feed. -/
theorem exists_lines_append (hfeed : '\n' ∉ cs) (hne : cs ≠ [])
    (hreturn : cs.getLast? ≠ some '\r') (rest : List Char) :
    ∃ r others, lines (cs ++ rest) = (cs ++ r) :: others ∧ ∀ d ∈ r, d ∈ rest := by
  by_cases hmem : '\n' ∈ rest
  · obtain ⟨first, others, rfl, hfirst⟩ := List.eq_append_cons_of_mem hmem
    obtain ⟨r, hr, hsub⟩ := exists_dropReturn_append hreturn first
    refine ⟨r, lines others, ?_, fun d hd => List.mem_append_left _ (hsub d hd)⟩
    rw [← List.append_assoc, lines_append_cons (by simp [hfeed, hfirst]), hr]
  · refine ⟨rest, [], lines_eq_singleton (by simp [hfeed, hmem]) (by simp [hne]), fun d hd => hd⟩

/-! ## The first occurrence of a separator -/

theorem eq_append_of_cut? (h : cut? separator cs = some (before, after)) :
    cs = before ++ separator ++ after := by
  induction cs generalizing before with
  | nil =>
    rw [cut?] at h
    split at h
    next hempty =>
      cases h
      simpa using (List.isEmpty_iff.1 hempty).symm
    next => cases h
  | cons c cs ih =>
    rw [cut?] at h
    split at h
    next hprefix =>
      cases h
      obtain ⟨suffix, hsuffix⟩ := List.isPrefixOf_iff_prefix.1 hprefix
      simp [← hsuffix]
    next =>
      obtain ⟨⟨before', after'⟩, htail, heq⟩ := Option.map_eq_some_iff.1 h
      cases heq
      rw [ih htail]
      rfl

/-- A separator is found after a text in which its first character does not occur. -/
theorem cut?_append (hc : c ∉ before) :
    cut? (c :: separator) (before ++ (c :: separator ++ after)) = some (before, after) := by
  induction before with
  | nil =>
    have hprefix : (c :: separator).isPrefixOf (c :: (separator ++ after)) = true :=
      List.isPrefixOf_iff_prefix.2 (List.prefix_append _ _)
    rw [List.nil_append, List.cons_append, cut?, if_pos hprefix]
    simp
  | cons d before ih =>
    obtain ⟨hd, hbefore⟩ := not_or.1 (mt List.mem_cons.2 hc)
    have hprefix : ¬(c :: separator).isPrefixOf (d :: (before ++ (c :: separator ++ after))) =
        true := by
      simp [hd]
    rw [List.cons_append, cut?, if_neg hprefix, ih hbefore]
    rfl

/-- A separator of one character is found where it occurs first. -/
theorem cut?_eq_some_iff :
    cut? [c] cs = some (before, after) ↔ cs = before ++ c :: after ∧ c ∉ before := by
  constructor
  · intro h
    have hmem : c ∈ cs := by simp [eq_append_of_cut? h]
    obtain ⟨first, others, rfl, hfirst⟩ := List.eq_append_cons_of_mem hmem
    have hcut : cut? [c] (first ++ c :: others) = some (first, others) := cut?_append hfirst
    cases hcut.symm.trans h
    exact ⟨rfl, hfirst⟩
  · rintro ⟨rfl, hc⟩
    exact cut?_append hc

theorem not_mem_of_cut?_eq_none (h : cut? [c] cs = none) : c ∉ cs := by
  intro hmem
  obtain ⟨first, others, rfl, hfirst⟩ := List.eq_append_cons_of_mem hmem
  cases h.symm.trans (cut?_append hfirst)

/-! ## Blanks -/

theorem Ranges.exists_of_covers {ranges : Ranges} {code : Nat} (h : ranges.covers code = true) :
    ∃ range ∈ ranges, range.1 ≤ code ∧ code ≤ range.2 := by
  fun_induction Ranges.covers ranges code with
  | case1 => cases h
  | case2 => cases h
  | case3 code first last rest hlt ih =>
    rcases Bool.or_eq_true_iff.1 h with hle | hrest
    · exact ⟨_, List.mem_cons_self, Nat.not_lt.1 hlt, of_decide_eq_true hle⟩
    · obtain ⟨range, hmem, hrange⟩ := ih hrest
      exact ⟨range, List.mem_cons_of_mem _ hmem, hrange⟩

/-- What holds of all code points in the ranges of blanks holds of every blank. -/
theorem of_isBlank {p : Nat → Bool} (h : isBlank c = true) (hall : blankRanges.all (fun range =>
    (List.range' range.1 (range.2 + 1 - range.1)).all p) = true) : p c.toNat = true := by
  obtain ⟨range, hmem, hfirst, hlast⟩ := Ranges.exists_of_covers h
  exact List.all_eq_true.1 (List.all_eq_true.1 hall range hmem) c.toNat
    (List.mem_range'_1.2 ⟨hfirst, by omega⟩)

/-- No letter is a blank. -/
theorem isLetter_eq_false_of_isBlank {c : Char} (h : isBlank c = true) : isLetter c = false := by
  have hcode : (!letterRanges.covers c.toNat) = true :=
    of_isBlank (p := fun code => !letterRanges.covers code) h (by decide +kernel)
  simpa [isLetter] using hcode

theorem isNumber_eq_false_of_isBlank {c : Char} (h : isBlank c = true) : isNumber c = false := by
  have hcode : (!numberRanges.covers c.toNat) = true :=
    of_isBlank (p := fun code => !numberRanges.covers code) h (by decide +kernel)
  simpa [isNumber] using hcode

theorem isBlank_eq_false_of_isDigit (h : c.isDigit = true) : isBlank c = false := by
  have hcode : 48 ≤ c.toNat ∧ c.toNat ≤ 57 := by
    simpa [Char.isDigit, UInt32.le_iff_toNat_le] using h
  simp only [isBlank, blankRanges, Ranges.covers]
  grind

theorem trim_cons (h : isBlank c = true) : trim (c :: cs) = trim cs := by
  rw [trim, List.dropWhile_cons_of_pos h, trim]

/-- Blanks after a text without blanks are trimmed off. -/
theorem trim_append (hword : ∀ d ∈ word, isBlank d = false)
    (hrest : ∀ d ∈ rest, isBlank d = true) : trim (word ++ rest) = word := by
  have hend : word.reverse.dropWhile isBlank = word.reverse := by
    cases hrev : word.reverse with
    | nil => rfl
    | cons d ds =>
      have hd : d ∈ word := List.mem_reverse.1 (hrev ▸ List.mem_cons_self)
      rw [List.dropWhile_cons_of_neg (by simp [hword d hd])]
  cases word with
  | nil =>
    rw [trim, List.nil_append, ← List.append_nil rest, List.dropWhile_append_of_pos hrest]
    rfl
  | cons d ds =>
    have hd := hword d List.mem_cons_self
    rw [trim, List.cons_append, List.dropWhile_cons_of_neg (by simp [hd]), ← List.cons_append,
      trimEnd, List.reverse_append, List.dropWhile_append_of_pos (by simpa using hrest), hend,
      List.reverse_reverse]

theorem trim_eq_self (h : ∀ d ∈ word, isBlank d = false) : trim word = word := by
  have htrim : trim (word ++ []) = word := trim_append h (by simp)
  rwa [List.append_nil] at htrim

theorem trimEnd_cons (h : isBlank c = false) : trimEnd (c :: cs) = c :: trimEnd cs := by
  rw [trimEnd, List.reverse_cons, List.dropWhile_append]
  split
  next hnil => simp [h, trimEnd, List.isEmpty_iff.1 hnil]
  next => simp [trimEnd]

theorem length_trim_le (cs : List Char) : (trim cs).length ≤ cs.length := by
  have hend := (List.dropWhile_sublist isBlank (l := (cs.dropWhile isBlank).reverse)).length_le
  have hstart := (List.dropWhile_sublist isBlank (l := cs)).length_le
  rw [trim, trimEnd, List.length_reverse]
  rw [List.length_reverse] at hend
  omega

/-- A text that is its own trim does not start with a blank. -/
theorem isBlank_eq_false_of_trim (h : trim (c :: cs) = c :: cs) : isBlank c = false := by
  cases hc : isBlank c with
  | false => rfl
  | true =>
    have hle := length_trim_le cs
    have htrim : trim cs = c :: cs := by rw [← h, trim, trim, List.dropWhile_cons_of_pos hc]
    rw [htrim, List.length_cons] at hle
    omega

/-! ## Words -/

theorem words_cons (h : isBlank c = true) : words (c :: cs) = words cs := by
  rw [words, splitWhere, if_pos h, List.filter_cons_of_neg (by simp), words]

theorem words_eq_singleton (hne : word ≠ []) (h : ∀ d ∈ word, isBlank d = false) :
    words word = [word] := by
  rw [words, splitWhere_eq_splitOnP, List.splitOnP_eq_singleton h]
  simp [hne]

theorem words_append_cons (hne : word ≠ []) (h : ∀ d ∈ word, isBlank d = false)
    (hc : isBlank c = true) : words (word ++ c :: rest) = word :: words rest := by
  rw [words, splitWhere_eq_splitOnP, List.splitOnP_append_cons_of_forall_mem h c hc,
    ← splitWhere_eq_splitOnP, List.filter_cons_of_pos (by simpa using hne), words]

/-- Words with single blanks between them are the words of that text. -/
theorem words_intercalate {ws : List (List Char)} (hne : ∀ w ∈ ws, w ≠ [])
    (h : ∀ w ∈ ws, ∀ d ∈ w, isBlank d = false) : words ([' '].intercalate ws) = ws := by
  induction ws with
  | nil => rfl
  | cons w ws ih =>
    obtain ⟨hw, hws⟩ := List.forall_mem_cons.1 h
    obtain ⟨hnew, hnews⟩ := List.forall_mem_cons.1 hne
    cases ws with
    | nil => rw [List.intercalate_singleton, words_eq_singleton hnew hw]
    | cons v ws =>
      rw [List.intercalate_cons_cons, List.append_assoc, List.singleton_append,
        words_append_cons hnew hw (by decide), ih hnews hws]

theorem of_mem_words (h : word ∈ words cs) : word ≠ [] ∧ ∀ d ∈ word, isBlank d = false := by
  obtain ⟨hpart, hne⟩ := List.mem_filter.1 h
  exact ⟨by simpa using hne, fun d hd => (of_mem_splitWhere hpart d hd).1⟩

/-! ## Numbers -/

variable {limit value n : Nat} {overflow : IntegerError} {i : Int}

theorem digit?_of_isDigit (h : c.isDigit = true) : digit? c = some (c.toNat - '0'.toNat) :=
  if_pos h

theorem le_ofDigitChars (value : Nat) (cs : List Char) : value ≤ Nat.ofDigitChars 10 cs value := by
  rw [Nat.ofDigitChars_eq_ofDigitChars_zero]
  exact Nat.le_trans (Nat.le_mul_of_pos_left _ (Nat.pow_pos (by decide))) (Nat.le_add_right _ _)

/-- Digits are read as the number that they are the digits of, if it is in range. -/
theorem readDigits_eq_ok (hdigits : ∀ d ∈ cs, d.isDigit = true)
    (hlimit : Nat.ofDigitChars 10 cs value ≤ limit) :
    readDigits limit overflow value cs = .ok (Nat.ofDigitChars 10 cs value) := by
  induction cs generalizing value with
  | nil => rfl
  | cons c cs ih =>
    obtain ⟨hc, hcs⟩ := List.forall_mem_cons.1 hdigits
    rw [Nat.ofDigitChars_cons, Nat.mul_comm 10 value] at hlimit ⊢
    have hsofar : value * 10 + (c.toNat - '0'.toNat) ≤ limit :=
      Nat.le_trans (le_ofDigitChars _ cs) hlimit
    rw [readDigits, digit?_of_isDigit hc]
    simp only [if_pos hsofar]
    exact ih hcs hlimit

theorem readDigits_le (hvalue : value ≤ limit) (h : readDigits limit overflow value cs = .ok n) :
    n ≤ limit := by
  induction cs generalizing value with
  | nil => cases h; exact hvalue
  | cons c cs ih =>
    rw [readDigits] at h
    split at h
    next => cases h
    next d hd =>
      split at h
      next hle => exact ih hle h
      next => cases h

theorem readMagnitude_toDigits (h : n ≤ limit) :
    readMagnitude limit overflow (Nat.toDigits 10 n) = .ok n := by
  have hdigits : ∀ d ∈ Nat.toDigits 10 n, d.isDigit = true :=
    fun d hd => Nat.isDigit_of_mem_toDigits (by decide) (by decide) hd
  have hvalue : Nat.ofDigitChars 10 (Nat.toDigits 10 n) 0 = n := Nat.ofDigitChars_ten_toDigits
  rw [readMagnitude, if_neg (by simp [Nat.toDigits_ne_nil]), readDigits_eq_ok hdigits (by omega),
    hvalue]

theorem readMagnitude_le (h : readMagnitude limit overflow cs = .ok n) : n ≤ limit := by
  rw [readMagnitude] at h
  split at h
  next => cases h
  next => exact readDigits_le (Nat.zero_le _) h

theorem toList_toString_nat (n : Nat) : (toString n).toList = Nat.toDigits 10 n := by
  rw [Nat.toString_eq_ofList_toDigits, String.toList_ofList]

/-- A number in text is made of digits. -/
theorem isDigit_of_mem_toString (h : c ∈ (toString n).toList) : c.isDigit = true := by
  rw [toList_toString_nat] at h
  exact Nat.isDigit_of_mem_toDigits (by decide) (by decide) h

theorem toString_nat_ne_nil (n : Nat) : (toString n).toList ≠ [] := by
  rw [toList_toString_nat]
  exact Nat.toDigits_ne_nil

/-- The text of a number is read as the number. -/
theorem readNat_toString (h : n ≤ largestNat) : readNat (toString n).toList = .ok n := by
  have hdigits : ∀ d ∈ (toString n).toList, d.isDigit = true :=
    fun d hd => isDigit_of_mem_toString hd
  have hread : readMagnitude largestNat .tooLarge (toString n).toList = .ok n := by
    rw [toList_toString_nat, readMagnitude_toDigits h]
  rw [readNat]
  · exact hread
  · exact toString_nat_ne_nil n
  · intro cs hcs
    exact absurd (hdigits '+' (hcs ▸ List.mem_cons_self)) (by decide)

theorem toList_toString_negSucc (n : Nat) :
    (toString (Int.negSucc n)).toList = '-' :: (toString (n + 1)).toList := by
  have happend : toString (Int.negSucc n) = "-" ++ toString (n + 1) := rfl
  rw [happend, String.toList_append]
  rfl

theorem toString_nat_no_blank (n : Nat) : ∀ c ∈ (toString n).toList, isBlank c = false :=
  fun _ hc => isBlank_eq_false_of_isDigit (isDigit_of_mem_toString hc)

theorem toString_int_no_blank (i : Int) : ∀ c ∈ (toString i).toList, isBlank c = false := by
  cases i with
  | ofNat n => exact toString_nat_no_blank n
  | negSucc n =>
    rw [toList_toString_negSucc]
    exact List.forall_mem_cons.2 ⟨by decide, toString_nat_no_blank (n + 1)⟩

/-- The same for signed numbers. -/
theorem readInt_toString (hle : i ≤ largestInt) (hge : -(largestInt + 1 : Nat) ≤ i) :
    readInt (toString i).toList = .ok i := by
  cases i with
  | ofNat n =>
    have hdigits : ∀ d ∈ (toString n).toList, d.isDigit = true :=
      fun d hd => isDigit_of_mem_toString hd
    have hread : readMagnitude largestInt .tooLarge (toString n).toList = .ok n := by
      rw [toList_toString_nat, readMagnitude_toDigits (Int.ofNat_le.1 hle)]
    have htext : toString (Int.ofNat n) = toString n := rfl
    rw [htext, readInt]
    · rw [hread]
      rfl
    · exact toString_nat_ne_nil n
    · intro cs hcs
      exact absurd (hdigits '+' (hcs ▸ List.mem_cons_self)) (by decide)
    · intro cs hcs
      exact absurd (hdigits '-' (hcs ▸ List.mem_cons_self)) (by decide)
  | negSucc n =>
    have hread : readMagnitude (largestInt + 1) .tooSmall (toString (n + 1)).toList =
        .ok (n + 1) := by
      rw [toList_toString_nat, readMagnitude_toDigits (by omega)]
    rw [toList_toString_negSucc, readInt, hread]
    rfl

/-- A signed number is at most the largest one. -/
theorem readInt_le (h : readInt cs = .ok i) : i ≤ largestInt := by
  unfold readInt at h
  split at h
  next => cases h
  next cs =>
    obtain ⟨n, hread, hn⟩ := bind_eq_ok_iff.1 h
    cases hn
    exact Int.ofNat_le.2 (readMagnitude_le hread)
  next cs =>
    obtain ⟨n, hread, hn⟩ := bind_eq_ok_iff.1 h
    cases hn
    show -(n : Int) ≤ largestInt
    omega
  next =>
    obtain ⟨n, hread, hn⟩ := bind_eq_ok_iff.1 h
    cases hn
    exact Int.ofNat_le.2 (readMagnitude_le hread)

end Text

end BranchingTime
