/-
What the readers of text accept, said without reading. A number is a sign, which may be
missing, and digits, and it is in its range (`IsUnsigned`, `IsSigned`); a text is split
at the first place where a separator stands (`SplitsAt`); the lines that count are all up
to the last one which is not blank (`IsContent`). For each of these the function that
computes it is shown to find what is there, and nothing else.
-/
import BranchingTime.System.Reading
import BranchingTime.Proofs.Text
import Mathlib.Data.List.DropRight

namespace BranchingTime.Text

variable {c : Char} {cs before after separator : List Char} {limit value n : Nat} {i : Int}
  {overflow : IntegerError}

/-! ## Numbers -/

/-- The text is digits, and these are the digits of the number. -/
structure IsMagnitude (cs : List Char) (n : Nat) : Prop where
  ne_nil : cs ≠ []
  digits : ∀ c ∈ cs, c.isDigit = true
  value : Nat.ofDigitChars 10 cs 0 = n

/-- The text is an unsigned number of 64 bits. -/
def IsUnsigned (cs : List Char) (n : Nat) : Prop :=
  ∃ digits, (cs = digits ∨ cs = '+' :: digits) ∧ IsMagnitude digits n ∧ n ≤ largestNat

/-- The text is a signed number of 64 bits. There is one more negative number than there
are positive ones. -/
def IsSigned (cs : List Char) (i : Int) : Prop :=
  ∃ digits n, IsMagnitude digits n ∧
    ((cs = digits ∨ cs = '+' :: digits) ∧ i = n ∧ n ≤ largestInt ∨
      cs = '-' :: digits ∧ i = -n ∧ n ≤ largestInt + 1)

theorem isDigit_of_readDigits (h : readDigits limit overflow value cs = .ok n) :
    ∀ c ∈ cs, c.isDigit = true := by
  induction cs generalizing value with
  | nil => simp
  | cons c cs ih =>
    rw [readDigits] at h
    split at h
    next => cases h
    next d hd =>
      have hc : c.isDigit = true := by
        rw [digit?] at hd
        split at hd
        next hc => exact hc
        next => cases hd
      split at h
      next => exact List.forall_mem_cons.2 ⟨hc, ih h⟩
      next => cases h

/-- Numbers only grow while their digits are read, so it does not matter that each
digit is compared with the limit. -/
theorem readDigits_eq_ok_iff (hvalue : value ≤ limit) :
    readDigits limit overflow value cs = .ok n ↔
      (∀ c ∈ cs, c.isDigit = true) ∧ Nat.ofDigitChars 10 cs value = n ∧ n ≤ limit := by
  constructor
  · intro h
    have hdigits := isDigit_of_readDigits h
    refine ⟨hdigits, ?_, readDigits_le hvalue h⟩
    induction cs generalizing value with
    | nil => cases h; rfl
    | cons c cs ih =>
      obtain ⟨hc, hcs⟩ := List.forall_mem_cons.1 hdigits
      rw [readDigits, digit?_of_isDigit hc] at h
      dsimp only at h
      split at h
      next hle =>
        rw [Nat.ofDigitChars_cons, Nat.mul_comm 10 value]
        exact ih hle h hcs
      next => cases h
  · rintro ⟨hdigits, rfl, hle⟩
    exact readDigits_eq_ok hdigits hle

theorem readMagnitude_eq_ok_iff :
    readMagnitude limit overflow cs = .ok n ↔ IsMagnitude cs n ∧ n ≤ limit := by
  rw [readMagnitude]
  split
  next hempty =>
    constructor
    · intro h
      cases h
    · rintro ⟨hmagnitude, -⟩
      exact absurd (List.isEmpty_iff.1 hempty) hmagnitude.ne_nil
  next hempty =>
    rw [readDigits_eq_ok_iff (Nat.zero_le limit)]
    constructor
    · rintro ⟨hdigits, hvalue, hle⟩
      exact ⟨⟨fun hnil => hempty (by simp [hnil]), hdigits, hvalue⟩, hle⟩
    · rintro ⟨hmagnitude, hle⟩
      exact ⟨hmagnitude.digits, hmagnitude.value, hle⟩

/-- Digits do not start with a sign. -/
theorem IsMagnitude.head_ne (h : IsMagnitude (c :: cs) n) (hc : c.isDigit = false) : False := by
  have hdigit := h.digits c List.mem_cons_self
  rw [hc] at hdigit
  cases hdigit

theorem readNat_eq_ok_iff : readNat cs = .ok n ↔ IsUnsigned cs n := by
  unfold readNat IsUnsigned
  split
  next =>
    constructor
    · intro h
      cases h
    · rintro ⟨digits, h | h, hmagnitude, -⟩
      · exact absurd h.symm hmagnitude.ne_nil
      · cases h
  next cs =>
    rw [readMagnitude_eq_ok_iff]
    constructor
    · exact fun ⟨hmagnitude, hle⟩ => ⟨cs, .inr rfl, hmagnitude, hle⟩
    · rintro ⟨digits, h | h, hmagnitude, hle⟩
      · subst h
        exact (hmagnitude.head_ne (by decide)).elim
      · cases h
        exact ⟨hmagnitude, hle⟩
  next hplus =>
    rw [readMagnitude_eq_ok_iff]
    constructor
    · exact fun ⟨hmagnitude, hle⟩ => ⟨_, .inl rfl, hmagnitude, hle⟩
    · rintro ⟨digits, h | h, hmagnitude, hle⟩
      · subst h
        exact ⟨hmagnitude, hle⟩
      · exact absurd h (hplus digits)

theorem readInt_eq_ok_iff : readInt cs = .ok i ↔ IsSigned cs i := by
  unfold readInt IsSigned
  split
  next =>
    constructor
    · intro h
      cases h
    · rintro ⟨digits, n, hmagnitude, ⟨h | h, -⟩ | ⟨h, -⟩⟩
      · exact absurd h.symm hmagnitude.ne_nil
      · cases h
      · cases h
  next cs =>
    simp only [bind_eq_ok_iff, readMagnitude_eq_ok_iff]
    constructor
    · rintro ⟨n, ⟨hmagnitude, hle⟩, hi⟩
      cases hi
      exact ⟨cs, n, hmagnitude, .inl ⟨.inr rfl, rfl, hle⟩⟩
    · rintro ⟨digits, n, hmagnitude, ⟨h | h, rfl, hle⟩ | ⟨h, -⟩⟩
      · subst h
        exact (hmagnitude.head_ne (by decide)).elim
      · cases h
        exact ⟨n, ⟨hmagnitude, hle⟩, rfl⟩
      · cases h
  next cs =>
    simp only [bind_eq_ok_iff, readMagnitude_eq_ok_iff]
    constructor
    · rintro ⟨n, ⟨hmagnitude, hle⟩, hi⟩
      cases hi
      exact ⟨cs, n, hmagnitude, .inr ⟨rfl, rfl, hle⟩⟩
    · rintro ⟨digits, n, hmagnitude, ⟨h | h, -⟩ | ⟨h, rfl, hle⟩⟩
      · subst h
        exact (hmagnitude.head_ne (by decide)).elim
      · cases h
      · cases h
        exact ⟨n, ⟨hmagnitude, hle⟩, rfl⟩
  next hplus hminus =>
    simp only [bind_eq_ok_iff, readMagnitude_eq_ok_iff]
    constructor
    · rintro ⟨n, ⟨hmagnitude, hle⟩, hi⟩
      cases hi
      exact ⟨cs, n, hmagnitude, .inl ⟨.inl rfl, rfl, hle⟩⟩
    · rintro ⟨digits, n, hmagnitude, ⟨h | h, rfl, hle⟩ | ⟨h, -⟩⟩
      · subst h
        exact ⟨n, ⟨hmagnitude, hle⟩, rfl⟩
      · exact absurd h (hplus digits)
      · exact absurd h (hminus digits)

/-! ## Splitting -/

/-- The separator stands between the two parts, and it stands nowhere earlier. -/
structure SplitsAt (separator cs before after : List Char) : Prop where
  eq_append : cs = before ++ separator ++ after
  first : ∀ {before' after'}, cs = before' ++ separator ++ after' → before.length ≤ before'.length

theorem exists_cut?_append (before separator after : List Char) :
    ∃ parts, cut? separator (before ++ separator ++ after) = some parts := by
  have hstart : separator.isPrefixOf (separator ++ after) = true :=
    List.isPrefixOf_iff_prefix.2 (List.prefix_append _ _)
  induction before with
  | nil =>
    rw [List.nil_append]
    cases htext : separator ++ after with
    | nil =>
      obtain ⟨rfl, -⟩ := List.append_eq_nil_iff.1 htext
      exact ⟨_, if_pos rfl⟩
    | cons c cs =>
      rw [htext] at hstart
      rw [cut?, if_pos hstart]
      exact ⟨_, rfl⟩
  | cons d before ih =>
    obtain ⟨parts, hparts⟩ := ih
    rw [List.cons_append, List.cons_append, cut?, hparts]
    split
    · exact ⟨_, rfl⟩
    · exact ⟨_, rfl⟩

theorem length_le_of_cut? (h : cut? separator cs = some (before, after))
    {before' after' : List Char} (heq : cs = before' ++ separator ++ after') :
    before.length ≤ before'.length := by
  induction cs generalizing before before' with
  | nil =>
    rw [cut?] at h
    split at h
    next => cases h; simp
    next => cases h
  | cons c cs ih =>
    rw [cut?] at h
    split at h
    next => cases h; simp
    next hstart =>
      obtain ⟨⟨before₁, after₁⟩, hcut, hparts⟩ := Option.map_eq_some_iff.1 h
      cases hparts
      cases before' with
      | nil =>
        have hprefix : separator <+: c :: cs := ⟨after', heq.symm⟩
        exact absurd (List.isPrefixOf_iff_prefix.2 hprefix) hstart
      | cons d before' =>
        cases heq
        exact Nat.succ_le_succ (ih hcut rfl)

/-- A text is cut where the separator stands first. -/
theorem cut?_eq_some_iff_splitsAt :
    cut? separator cs = some (before, after) ↔ SplitsAt separator cs before after := by
  constructor
  · exact fun h => ⟨eq_append_of_cut? h, length_le_of_cut? h⟩
  · rintro ⟨heq, hfirst⟩
    obtain ⟨⟨before', after'⟩, hcut⟩ := heq ▸ exists_cut?_append before separator after
    have heq' := eq_append_of_cut? hcut
    -- each of the two splits comes first, so they are at the same place
    have hlength : before.length = before'.length :=
      Nat.le_antisymm (hfirst heq') (length_le_of_cut? hcut heq)
    rw [heq, List.append_assoc, List.append_assoc] at heq'
    obtain ⟨rfl, hrest⟩ := List.append_inj heq' hlength
    rw [hcut, List.append_cancel_left hrest]

/-! ## Blanks at both ends -/

theorem trim_trim (cs : List Char) : trim (trim cs) = trim cs := by
  have hstart : (trim cs).dropWhile isBlank = trim cs := by
    rw [trim]
    cases hdrop : cs.dropWhile isBlank with
    | nil => rfl
    | cons c rest =>
      have hc : isBlank c = false := by
        have hhead := List.head?_dropWhile_not isBlank cs
        rw [hdrop] at hhead
        simpa using hhead
      rw [trimEnd_cons hc, List.dropWhile_cons_of_neg (by simp [hc])]
  rw [trim, hstart, trim]
  exact List.rdropWhile_idempotent isBlank _

/-- A part of a text without blanks has none at its ends. -/
theorem trim_of_splitsAt (hcs : ∀ c ∈ cs, isBlank c = false)
    (hsplit : SplitsAt separator cs before after) : trim before = before := by
  refine trim_eq_self fun c hc => hcs c ?_
  rw [hsplit.eq_append, List.append_assoc]
  exact List.mem_append_left _ hc

end BranchingTime.Text

namespace BranchingTime.System

open Text

variable {text : String} {content : List (List Char)} {word : List Char} {i : Int} {n : Nat}

/-! ## Lines -/

/-- Nothing but blanks is on the line. -/
def IsBlankLine (line : List Char) : Prop := ∀ c ∈ line, isBlank c = true

/-- These are the lines of the text, less blank ones at the end. -/
def IsContent (text : String) (content : List (List Char)) : Prop :=
  ∃ blanks, lines text.toList = content ++ blanks ∧ (∀ line ∈ blanks, IsBlankLine line) ∧
    ∀ hne : content ≠ [], ¬IsBlankLine (content.getLast hne)

/-- The lines that count are told apart from those at the end in one way only. -/
theorem contentLines_eq_iff : contentLines text = content ↔ IsContent text content := by
  have hblank : ∀ line : List Char, line.all isBlank = true ↔ IsBlankLine line :=
    fun line => List.all_eq_true
  have hdrop : contentLines text = (lines text.toList).rdropWhile (List.all · isBlank) := rfl
  constructor
  · rintro rfl
    refine ⟨(lines text.toList).rtakeWhile (List.all · isBlank), ?_, ?_, ?_⟩
    · rw [hdrop, List.rdropWhile_append_rtakeWhile]
    · exact fun line hline =>
        (hblank line).1 (List.mem_rtakeWhile_imp (p := (List.all · isBlank)) hline)
    · intro hne
      rw [← hblank]
      exact List.rdropWhile_last_not _ _ hne
  · rintro ⟨blanks, hlines, hblanks, hlast⟩
    have hblanks' : ∀ line ∈ blanks.reverse, line.all isBlank = true :=
      fun line hline => (hblank line).2 (hblanks line (List.mem_reverse.1 hline))
    have hcontent : content.rdropWhile (List.all · isBlank) = content := by
      refine List.rdropWhile_eq_self_iff.2 fun hne => ?_
      rw [hblank]
      exact hlast hne
    rw [hdrop, hlines, List.rdropWhile, List.reverse_append,
      List.dropWhile_append_of_pos hblanks']
    exact hcontent

/-! ## Numbers in a line -/

theorem readSigned_eq_ok_iff : readSigned word = .ok i ↔ IsSigned (trim word) i := by
  rw [readSigned, mapError_eq_ok_iff, readInt_eq_ok_iff]

theorem readIndex_eq_ok_iff : readIndex word = .ok n ↔ IsUnsigned (trim word) n := by
  rw [readIndex, mapError_eq_ok_iff, readNat_eq_ok_iff]

end BranchingTime.System
