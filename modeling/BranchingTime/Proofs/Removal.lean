/-
When a run removes the files of its system. The arguments, the table of names and the
formulas are read before the system is loaded, so a run that is rejected for one of them
leaves the directory as it was. There is one exception: that two formulas have the same
name is found out after loading only, when both files are gone if they were to be
removed (`run_rejected_keeps_files_iff`).

Removing a file makes every path that led to it lead nowhere, and other paths lead where
they did or nowhere either (`fileAt_erase`).
-/
import BranchingTime.CommandLine.Run
import BranchingTime.Proofs.Text

namespace BranchingTime

/-! ## Files that are gone -/

namespace Directory

variable {dir after : Directory} {place : Place} {names : List String} {path plain : String}

theorem follow_erase (dir : Directory) (place : Place) (names : List String) (plain : String) :
    Directory.follow (dir.erase plain) place names = .error .notFound ∨
      Directory.follow (dir.erase plain) place names = dir.follow place names ∧
        dir.follow place names ≠ .ok plain := by
  induction names generalizing place with
  | nil => exact .inr ⟨rfl, by simp [follow]⟩
  | cons name names ih =>
    simp only [follow]
    split
    next => exact .inr ⟨rfl, by simp⟩
    next =>
      split
      next => exact ih _
      next =>
        by_cases hplain : plain = (place.enter name).path
        · simp [hplain]
        · have hsame : (dir.erase plain)[(place.enter name).path]? =
              dir[(place.enter name).path]? := by
            simp [Std.ExtTreeMap.getElem?_erase, hplain]
          rw [hsame]
          split
          next => exact .inl rfl
          next => exact ih _
          next =>
            split
            next =>
              refine .inr ⟨rfl, fun heq => hplain ?_⟩
              cases heq
              rfl
            next => exact .inr ⟨rfl, by simp⟩

/-- Without a file, paths that led there lead nowhere. -/
theorem fileAt_erase (dir : Directory) (path plain : String) :
    Directory.fileAt (dir.erase plain) path = .error .notFound ∨
      Directory.fileAt (dir.erase plain) path = dir.fileAt path ∧
        dir.fileAt path ≠ .ok plain := by
  unfold fileAt
  split
  next => exact .inr ⟨rfl, by simp⟩
  next =>
    split
    next => exact .inl rfl
    next =>
      split
      next => exact .inr ⟨rfl, by simp⟩
      next => exact follow_erase dir _ _ plain

theorem fileAt_of_remove (h : dir.remove path = .ok after) :
    after.fileAt path = .error .notFound := by
  obtain ⟨plain, hplain, heq⟩ := bind_eq_ok_iff.1 h
  cases heq
  exact (fileAt_erase dir path plain).resolve_right fun hkept => hkept.2 hplain

/-- What is gone stays away. -/
theorem fileAt_of_remove_of_notFound {other : String} (h : dir.remove other = .ok after)
    (hgone : dir.fileAt path = .error .notFound) : after.fileAt path = .error .notFound := by
  obtain ⟨plain, -, heq⟩ := bind_eq_ok_iff.1 h
  cases heq
  rcases fileAt_erase dir path plain with hnone | ⟨hsame, -⟩
  · exact hnone
  · rw [hsame, hgone]

theorem read_of_notFound (h : dir.fileAt path = .error .notFound) :
    dir.read path = .error .notFound := by
  rw [read, h]
  rfl

end Directory

/-! ## Loading -/

/-- The file could be read before, and it is gone. -/
def Directory.Lost (before after : Directory) (path : String) : Prop :=
  (∃ text, before.read path = .ok text) ∧ after.read path = .error .notFound

namespace System.Source

variable {source : Source} {dir : Directory} {sys : System}

theorem exists_text_of_read (h : source.read dir = .ok sys) :
    (∃ text, dir.read source.transitions = .ok text) ∧
      ∃ text, dir.read source.labels = .ok text := by
  obtain ⟨transitions, htransitions, h⟩ := bind_eq_ok_iff.1 h
  obtain ⟨labels, hlabels, -⟩ := bind_eq_ok_iff.1 h
  exact ⟨⟨transitions, mapError_eq_ok_iff.1 htransitions⟩, labels, mapError_eq_ok_iff.1 hlabels⟩

theorem notFound_of_removeFiles (h : (source.removeFiles dir).1 = .ok ()) :
    (source.removeFiles dir).2.read source.transitions = .error .notFound ∧
      (source.removeFiles dir).2.read source.labels = .error .notFound := by
  unfold removeFiles at h ⊢
  cases htransitions : dir.remove source.transitions with
  | error cause =>
    rw [htransitions] at h
    cases h
  | ok dir₁ =>
    rw [htransitions] at h
    dsimp only at h ⊢
    cases hlabels : dir₁.remove source.labels with
    | error cause =>
      rw [hlabels] at h
      cases h
    | ok dir₂ =>
      have hgone := Directory.fileAt_of_remove htransitions
      exact ⟨Directory.read_of_notFound (Directory.fileAt_of_remove_of_notFound hlabels hgone),
        Directory.read_of_notFound (Directory.fileAt_of_remove hlabels)⟩

/-- After loading with removal both files are gone. -/
theorem lost_of_load (hdelete : source.delete = true) (h : (source.load dir).outcome = .ok sys) :
    dir.Lost (source.load dir).directory source.transitions ∧
      dir.Lost (source.load dir).directory source.labels := by
  unfold load at h ⊢
  cases hread : source.read dir with
  | error error =>
    rw [hread] at h
    cases h
  | ok sys₁ =>
    rw [hread] at h
    simp only [hdelete, if_true] at h ⊢
    have hremoved : (source.removeFiles dir).1 = .ok () := by
      cases hresult : (source.removeFiles dir).1 with
      | error error =>
        rw [hresult] at h
        cases h
      | ok _ => rfl
    obtain ⟨htransitions, hlabels⟩ := exists_text_of_read hread
    obtain ⟨hfirst, hsecond⟩ := notFound_of_removeFiles hremoved
    exact ⟨⟨htransitions, hfirst⟩, hlabels, hsecond⟩

end System.Source

/-! ## Runs -/

namespace CommandLine

variable {args : Arguments} {dir : Directory} {clock : Batch.Clock} {e : RunError}
  {source : System.Source} {formulas : List (String × Formula)}

/-- The arguments, the table of names or the formula file are to blame. -/
def RunError.IsOwn : RunError → Prop
  | .noWorkers | .noTimeout | .unreadableTable _ _ | .malformedTable _
  | .unreadableFormulas _ _ | .malformedFormulas _ | .notChecked (.repeatedName _) => True
  | .notLoaded _ | .notChecked _ => False

theorem readAliases_error (h : readAliases args dir = .error e) (error : BatchError) :
    e ≠ .notChecked error := by
  unfold readAliases at h
  split at h
  next => cases h
  next =>
    rcases bind_eq_error_iff.1 h with h | ⟨text, -, h⟩
    · obtain ⟨cause, -, rfl⟩ := mapError_eq_error_iff.1 h
      simp
    · obtain ⟨cause, -, rfl⟩ := mapError_eq_error_iff.1 h
      simp

theorem readFormulas_error (h : readFormulas args dir = .error e) (error : BatchError) :
    e ≠ .notChecked error := by
  rcases bind_eq_error_iff.1 h with h | ⟨text, -, h⟩
  · obtain ⟨cause, -, rfl⟩ := mapError_eq_error_iff.1 h
    simp
  · obtain ⟨cause, -, rfl⟩ := mapError_eq_error_iff.1 h
    simp

/-- Names are not compared before the system is loaded. -/
theorem prepare_error (h : prepare args dir = .error e) (error : BatchError) :
    e ≠ .notChecked error := by
  simp only [prepare] at h
  split at h
  next =>
    cases h
    simp
  next =>
    split at h
    next =>
      cases h
      simp
    next =>
      rcases bind_eq_error_iff.1 h with h | ⟨aliases, -, h⟩
      · exact readAliases_error h error
      rcases bind_eq_error_iff.1 h with h | ⟨formulas, -, h⟩
      · exact readFormulas_error h error
      · cases h

theorem prepare_source (h : prepare args dir = .ok (source, formulas)) :
    source.transitions = args.transitions ∧ source.labels = args.labels ∧
      source.delete = args.delete := by
  simp only [prepare] at h
  split at h
  next => cases h
  next =>
    split at h
    next => cases h
    next =>
      obtain ⟨aliases, -, h⟩ := bind_eq_ok_iff.1 h
      obtain ⟨formulas, -, h⟩ := bind_eq_ok_iff.1 h
      cases h
      exact ⟨rfl, rfl, rfl⟩

theorem checkFormulas_error {session : Session}
    (h : (checkFormulas args clock formulas session).1 = .ok (.error e)) :
    ∃ error, e = .notChecked error := by
  unfold checkFormulas at h
  split at h
  next error _ =>
    cases h
    exact ⟨error, rfl⟩
  next batch _ =>
    dsimp only at h
    cases hresults : (checkBatch args clock batch session).1 with
    | error fault =>
      rw [hresults] at h
      cases h
    | ok results =>
      rw [hresults] at h
      cases results with
      | error error =>
        cases h
        exact ⟨error, rfl⟩
      | ok results => cases h

/-- **How a run can end with an error.** It is not prepared, and nothing happens; or it
is, and the system is not loaded; or it is loaded, and checking goes wrong. -/
theorem run_error_cases (h : (run args dir clock).result = .ok (.error e)) :
    (prepare args dir = .error e ∧ (run args dir clock).directory = dir) ∨
    ∃ source formulas, prepare args dir = .ok (source, formulas) ∧
      (run args dir clock).directory = (source.load dir).directory ∧
      ((∃ error, (source.load dir).outcome = .error error ∧ e = .notLoaded error) ∨
        ∃ sys error, (source.load dir).outcome = .ok sys ∧ e = .notChecked error) := by
  unfold run at h ⊢
  cases hprepare : prepare args dir with
  | error error =>
    rw [hprepare] at h
    cases h
    exact .inl ⟨rfl, rfl⟩
  | ok prepared =>
    obtain ⟨source, formulas⟩ := prepared
    rw [hprepare] at h
    refine .inr ⟨source, formulas, rfl, ?_⟩
    dsimp only at h ⊢
    cases hload : (source.load dir).outcome with
    | error error =>
      rw [hload] at h
      cases h
      exact ⟨rfl, .inl ⟨error, rfl, rfl⟩⟩
    | ok sys =>
      rw [hload] at h
      obtain ⟨error, rfl⟩ := checkFormulas_error h
      exact ⟨rfl, .inr ⟨sys, error, rfl, rfl⟩⟩

/-- **A run that is rejected for its own arguments, table or formulas keeps all files,
unless two formulas have the same name.** In that case alone the files of the system,
which could be read before, are gone. -/
theorem run_rejected_keeps_files_iff (hdelete : args.delete = true)
    (h : (run args dir clock).result = .ok (.error e)) (hown : e.IsOwn) :
    ((run args dir clock).directory = dir ↔ ∀ name, e ≠ .notChecked (.repeatedName name)) ∧
    ∀ name, e = .notChecked (.repeatedName name) →
      dir.Lost (run args dir clock).directory args.transitions ∧
      dir.Lost (run args dir clock).directory args.labels := by
  rcases run_error_cases h with ⟨hprepare, hdir⟩ | ⟨source, formulas, hprepare, hdir, hended⟩
  · have hother : ∀ name, e ≠ .notChecked (.repeatedName name) :=
      fun name => prepare_error hprepare _
    exact ⟨⟨fun _ => hother, fun _ => hdir⟩, fun name he => absurd he (hother name)⟩
  · rcases hended with ⟨error, -, rfl⟩ | ⟨sys, error, hload, rfl⟩
    · cases hown
    · obtain ⟨htransitions, hlabels, hsource⟩ := prepare_source hprepare
      have hlost := System.Source.lost_of_load (hsource.trans hdelete) hload
      rw [htransitions, hlabels, ← hdir] at hlost
      refine ⟨⟨fun hsame => ?_, fun hother => ?_⟩, fun _ _ => hlost⟩
      · obtain ⟨⟨text, hread⟩, hgone⟩ := hlost.1
        rw [hsame, hread] at hgone
        cases hgone
      · cases error with
        | repeatedName name => exact absurd rfl (hother name)
        | timedOut | brokenOff | deserted => cases hown

/-! ## A small system -/

/-- A directory with the files of a small system, and the given formulas. -/
def smallDirectory (formulas : String) : Directory :=
  .ofList [("t", Entry.file "0 -> 1\n1\n2\n".toUTF8), ("l", Entry.file "0=prop_p\n1: 0\n".toUTF8),
    ("f", Entry.file formulas.toUTF8)]

/-- The arguments that check the formulas and remove the files. -/
def checkAndRemove : Arguments :=
  { transitions := "t", labels := "l", formulas := "f", delete := true }

/-- A clock that was started just now, and stands still. -/
def stoppedClock : Batch.Clock := { start := 0, gone := fun _ => 0 }

theorem eq_error_of_decide {x : Except Fault (Except RunError Results)} {error : RunError}
    (h : (match x with | .ok (.error e) => decide (e = error) | _ => false) = true) :
    x = .ok (.error error) := by
  split at h
  next => rw [of_decide_eq_true h]
  next => cases h

/-- A formula without a name is found before anything is removed. -/
theorem run_rejected_keeps_files_iff_nameless :
    checkAndRemove.delete = true ∧
    (run checkAndRemove (smallDirectory "EX p\n") stoppedClock).result =
      .ok (.error (.malformedFormulas ⟨1, .missingName⟩)) ∧
    RunError.IsOwn (.malformedFormulas ⟨1, .missingName⟩) ∧
    (run checkAndRemove (smallDirectory "EX p\n") stoppedClock).directory =
      smallDirectory "EX p\n" := by
  have hresult : (run checkAndRemove (smallDirectory "EX p\n") stoppedClock).result =
      .ok (.error (.malformedFormulas ⟨1, .missingName⟩)) :=
    eq_error_of_decide (by decide +kernel)
  have hkept := (run_rejected_keeps_files_iff rfl hresult trivial).1
  exact ⟨rfl, hresult, trivial, hkept.2 fun name => by simp⟩

/-- Two formulas of one name are found when both files of the system are gone. -/
theorem run_repeated_name_loses_files :
    checkAndRemove.delete = true ∧
    (run checkAndRemove (smallDirectory "a: EX p\na: p\n") stoppedClock).result =
      .ok (.error (.notChecked (.repeatedName "a"))) ∧
    RunError.IsOwn (.notChecked (.repeatedName "a")) ∧
    ∀ path ∈ ["t", "l"], (∃ text, (smallDirectory "a: EX p\na: p\n").read path = .ok text) ∧
      ∀ text,
        (run checkAndRemove (smallDirectory "a: EX p\na: p\n") stoppedClock).directory.read path ≠
          .ok text := by
  have hresult : (run checkAndRemove (smallDirectory "a: EX p\na: p\n") stoppedClock).result =
      .ok (.error (.notChecked (.repeatedName "a"))) :=
    eq_error_of_decide (by decide +kernel)
  have hbefore : ∀ path ∈ ["t", "l"],
      ((smallDirectory "a: EX p\na: p\n").read path).toOption.isSome = true := by
    decide +kernel
  have hafter : ∀ path ∈ ["t", "l"],
      ((run checkAndRemove (smallDirectory "a: EX p\na: p\n") stoppedClock).directory.read
        path).toOption = none := by
    decide +kernel
  refine ⟨rfl, hresult, trivial, fun path hpath => ⟨?_, fun text htext => ?_⟩⟩
  · obtain ⟨text, htext⟩ := Option.isSome_iff_exists.1 (hbefore path hpath)
    exact ⟨text, toOption_eq_some_iff.1 htext⟩
  · have hnone := hafter path hpath
    rw [htext] at hnone
    cases hnone

end CommandLine

end BranchingTime
