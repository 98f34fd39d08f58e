import Mathlib.Data.List.Forall2
import MacroScribe.Engine.Log
import MacroScribe.Proofs.Files.Keeping
import MacroScribe.Proofs.Text.Utf8
import MacroScribe.Proofs.Text.Words

/-!
# MacroScribe.Proofs.Engine.Log

What a log that is followed shows. A line reports a failure if one of four words is in it, in any
case, with no further letter, digit or underscore at its sides (`isFailure_iff`), and it is shown
without its time stamp (`unstamped_iff`). Only what is added to the log is shown, whatever bytes
were there before: a text that is added is read as that text (`newFailures_of_added`), since it
begins where the log ended.
-/

namespace MacroScribe.EngineLog

open Text

/-! ### Failures -/

/-- The line says that something failed: it holds one of the words for that, in any case, and no
word characters at the sides of the word. -/
def ReportsFailure (line : List Char) : Prop :=
  ∃ before word after, line = before ++ (word ++ after) ∧
    (∃ w ∈ failureWords, isWordText w word) ∧ StandsAlone before after

theorem isLower_of_mem_failureWords :
    ∀ w ∈ failureWords, w ≠ [] ∧ ∀ c ∈ w, c.isLower := by
  simp [failureWords]

theorem isFailure_iff (line : List Char) : isFailure line ↔ ReportsFailure line := by
  simp only [isFailure, List.any_eq_true]
  constructor
  · rintro ⟨word, hword, hfailure⟩
    obtain ⟨before, after, hline, halone⟩ := standsAlone_of_mem_words hword
    exact ⟨before, word, after, hline, hfailure, halone⟩
  · rintro ⟨before, word, after, rfl, ⟨w, hw, hfold⟩, halone⟩
    obtain ⟨hne, hlower⟩ := isLower_of_mem_failureWords w hw
    obtain rfl : word.map foldChar = w := by simpa [isWordText] using hfold
    refine ⟨word, mem_words_of_standsAlone (by simpa using hne) (fun c hc => ?_) halone,
      _, hw, hfold⟩
    exact isWord_of_foldChar (hlower _ (List.mem_map_of_mem hc))

instance : DecidablePred ReportsFailure := fun line => decidable_of_iff _ (isFailure_iff line)

/-! ### Time stamps -/

/-- The text has the form of a time stamp with a space after it; any digit may stand for a zero. -/
def IsTimeStamp (s : List Char) : Prop :=
  List.Forall₂ (fun c form => if form = '0' then isDecimal c else c = form) s
    "0000-00-00 00:00:00 ".toList

/-- What is left of a line when the time stamp at its start is taken off, if it has one. -/
def Unstamped (line rest : List Char) : Prop :=
  (∃ s, IsTimeStamp s ∧ line = s ++ rest) ∨
    rest = line ∧ ∀ s rest, IsTimeStamp s → line ≠ s ++ rest

theorem isStamp_iff (s : List Char) : isStamp s ↔ IsTimeStamp s := by
  unfold isStamp IsTimeStamp
  rw [Bool.and_eq_true, beq_iff_eq, List.all_eq_true, List.forall₂_iff_zip, Prod.forall]
  refine and_congr_right fun _ => forall_congr' fun c => forall_congr' fun form => ?_
  refine imp_congr_right fun _ => ?_
  by_cases hform : form = '0' <;> simp [hform]

theorem IsTimeStamp.length_eq {s : List Char} (h : IsTimeStamp s) : s.length = stamp.length :=
  List.Forall₂.length_eq h

/-- There is one way to take a time stamp off, since all time stamps have the same length. -/
theorem unstamped_iff {line rest : List Char} :
    Unstamped line rest ↔ withoutStamp line = rest := by
  unfold withoutStamp
  constructor
  · rintro (⟨s, hs, rfl⟩ | ⟨rfl, hnone⟩)
    · rw [← hs.length_eq, List.take_left, List.drop_left, if_pos ((isStamp_iff s).mpr hs)]
    · refine if_neg fun h => ?_
      exact hnone _ _ ((isStamp_iff _).mp h) (List.take_append_drop _ rest).symm
  · rintro rfl
    split
    · next h => exact .inl ⟨_, (isStamp_iff _).mp h, (List.take_append_drop _ line).symm⟩
    · next h =>
      refine .inr ⟨rfl, ?_⟩
      rintro s rest hs rfl
      rw [← hs.length_eq, List.take_left, isStamp_iff] at h
      exact h hs

theorem unstamped_all_iff {ls rests : List (List Char)} :
    List.Forall₂ Unstamped ls rests ↔ ls.map withoutStamp = rests := by
  rw [← List.forall₂_eq_eq_eq, List.forall₂_map_left_iff]
  exact ⟨.imp fun _ _ => unstamped_iff.mp, .imp fun _ _ => unstamped_iff.mpr⟩

/-! ### What is added -/

/-- The lines of a text that report failures, in order. -/
def failuresIn (text : List Char) : List (List Char) :=
  (lines (plainLineEnds text)).filter fun line => ¬allBlank line ∧ ReportsFailure line

variable {files later : Files} {path : String} {text : List Char}

theorem follow_eq (h : '\x00' ∉ path.toList) :
    follow files path = .ok ⟨path, (bytes files path).length⟩ :=
  if_neg (by simpa using h)

/-- Only what is added shows, whatever was in the log before. -/
theorem newFailures_of_added (h : bytes later path = bytes files path ++ utf8 text) :
    newFailures ⟨path, (bytes files path).length⟩ later = (failuresIn text).map withoutStamp := by
  unfold newFailures newLines linesOf failuresIn
  rw [h, List.drop_left, ofUtf8Lenient_utf8, List.filter_filter]
  refine congrArg (List.map withoutStamp) (List.filter_congr fun line _ => ?_)
  rw [Bool.eq_iff_iff, Bool.and_eq_true, isFailure_iff]
  simp [and_comm]

/-- A log that can be where its path leads holds what is added to it, and what it held before. -/
theorem bytes_append {dir : Place} {name : String} (hplace : files.place path = dir ++ [name])
    (hname : name ≠ "") (hlocate : files.locate path = .ok (files.place path))
    (hfile : files.isDirectory (files.place path) = false) (more : List UInt8) :
    bytes (files.append (files.place path) more) path = bytes files path ++ more := by
  have hbytes : bytes files path = (files.bytesAt? (files.place path)).getD [] := by
    unfold bytes Files.read?
    rw [Files.find_of_locate hlocate hfile]
    cases files.bytesAt? (files.place path) <;> rfl
  have hopened := Files.opened_put files (files.place path) (bytes files path ++ more)
  have hkept : (files.put (files.place path) (bytes files path ++ more)).isDirectory
      (files.place path) = false := by
    rw [hplace] at hfile ⊢
    exact Files.isDirectory_put_self hname hfile _
  have hread : (files.put (files.place path) (bytes files path ++ more)).read? path =
      some (bytes files path ++ more) := by
    rw [Files.read?_eq_some, hopened.place_eq]
    exact ⟨hopened.locate hlocate, hkept, (Fields.get?_put _ _ _ _).trans (if_pos rfl)⟩
  rw [Files.append, ← hbytes, bytes, hread]
  rfl

end MacroScribe.EngineLog
