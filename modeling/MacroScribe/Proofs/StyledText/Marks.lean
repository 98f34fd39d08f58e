import MacroScribe.Proofs.Action.Tree
import MacroScribe.Proofs.StyledText.Restyling

/-!
# MacroScribe.Proofs.StyledText.Marks

Where documents and plain texts stand in what actions write. `Mark` is what the two searches of an
update stop at: a dictionary with a document, or a plain text outside of such a dictionary. The
marks of a property list are listed in written order. In what actions write, byte strings stand
nowhere but in the dictionaries of steps with a document, and those stand nowhere but in lists
(`Arranged`).
-/

namespace MacroScribe

open Text Plist StyledText

/-- The step writes one dictionary, and with this identifier it has these entries. -/
def Step.Writes (s : Step) (n : Int) (entries : List Entry) : Prop :=
  ∃ frame, s.frames = [frame] ∧ frame n = entries

namespace Plist

/-! ### Marks -/

/-- What the search for a document or for a plain text stops at. -/
inductive Mark where
  /-- A plain text. -/
  | plain
  /-- A dictionary with a document, and perhaps with a plain text. -/
  | styled (entries : List Entry)

/-- A text with an opening and a closing tag. -/
def isText : Plist → Bool
  | string s compact => !(s.toList.isEmpty && compact)
  | _ => false

def isData : Plist → Bool
  | data _ => true
  | _ => false

/-- The entry is found as a plain text: its key may be in any case, with white space around it. -/
def isPlainText (e : Entry) : Bool :=
  likes "text" (escape e.1.toList) && e.2.isText

theorem exists_string {k : String} {v : Plist} (h : isPlainText (k, v)) :
    ∃ text compact, v = .string text compact := by
  have htext : v.isText := (Bool.and_eq_true_iff.mp h).2
  cases v with
  | string text compact => exact ⟨text, compact, rfl⟩
  | _ => cases htext

mutual

/-- The marks of a property list, in written order. -/
def marks : Plist → List Mark
  | array items => marksItems items
  | dict entries => if entries.any (·.2.isData) then [.styled entries] else marksEntries entries
  | _ => []

/-- The marks of values. -/
def marksItems : List Plist → List Mark
  | [] => []
  | v :: rest => v.marks ++ marksItems rest

/-- The marks of entries. -/
def marksEntries : List (String × Plist) → List Mark
  | [] => []
  | (k, v) :: rest => (if isPlainText (k, v) then [.plain] else v.marks) ++ marksEntries rest

end

namespace Mark

/-- There is a document. -/
def isStyled : Mark → Bool
  | plain => false
  | styled _ => true

/-- There is a plain text. -/
def hasText : Mark → Bool
  | plain => true
  | styled entries => entries.any isPlainText

end Mark

/-! ### Where byte strings stand -/

/-- The value is a byte string, or a dictionary with one. -/
def isDocument : Plist → Bool
  | data _ => true
  | dict entries => entries.any (·.2.isData)
  | _ => false

/-- The entries of a step with a document. -/
structure Styles (s : Step) (rtf : String) (n : Int) (entries : List Entry) : Prop where
  document : s.document? = some rtf
  styled : s.Styled
  writes : s.Writes n entries

/-- Byte strings stand nowhere but in the dictionaries of steps with a document, and these stand
nowhere but in lists. -/
inductive Arranged : Plist → Prop where
  | bare {v : Plist} : v.payloads = [] → Arranged v
  | styled {s : Step} {rtf : String} {n : Int} {entries : List Entry} :
      Styles s rtf n entries → Arranged (.dict entries)
  | array {items : List Plist} : (∀ v ∈ items, Arranged v) → Arranged (.array items)
  | dict {entries : List Entry} : (∀ e ∈ entries, e.2.isDocument = false) →
      (∀ e ∈ entries, Arranged e.2) → Arranged (.dict entries)

theorem payloadEntries_eq_flatMap (entries : List Entry) :
    payloadEntries entries = entries.flatMap (·.2.payloads) := by
  induction entries with
  | nil => rfl
  | cons e entries ih => rw [payloadEntries, ih, List.flatMap_cons]

theorem payloads_of_mem {entries : List Entry} (h : payloadEntries entries = []) {e : Entry}
    (he : e ∈ entries) : e.2.payloads = [] := by
  rw [payloadEntries_eq_flatMap] at h
  exact List.flatMap_eq_nil_iff.mp h e he

theorem isData_of_payloads {v : Plist} (h : v.payloads = []) : v.isData = false := by
  cases v with
  | data bytes => cases h
  | _ => rfl

theorem isDocument_of_payloads {v : Plist} (h : v.payloads = []) : v.isDocument = false := by
  cases v with
  | data bytes => cases h
  | dict entries =>
    refine List.any_eq_false.mpr fun e he => ?_
    simp [isData_of_payloads (payloads_of_mem h he)]
  | _ => rfl

/-- Entries with nothing but lists and values without byte strings. -/
def Loose (entries : List Entry) : Prop :=
  ∀ e ∈ entries, e.2.payloads = [] ∨ ∃ items, e.2 = .array items ∧ ∀ v ∈ items, Arranged v

theorem Loose.dict {entries : List Entry} (h : Loose entries) : Arranged (.dict entries) := by
  refine .dict (fun e he => ?_) fun e he => ?_
  · rcases h e he with hbare | ⟨items, hitems, -⟩
    · exact isDocument_of_payloads hbare
    · rw [hitems]
      rfl
  · rcases h e he with hbare | ⟨items, hitems, harranged⟩
    · exact .bare hbare
    · rw [hitems]
      exact .array harranged

theorem loose_of_payloads {entries : List Entry} (h : payloadEntries entries = []) :
    Loose entries :=
  fun _ he => .inl (payloads_of_mem h he)

theorem loose_list (key : String) {items : List Plist} (h : ∀ v ∈ items, Arranged v) :
    Loose [(key, .array items)] := by
  intro e he
  rw [List.mem_singleton.mp he]
  exact .inr ⟨items, rfl, h⟩

theorem Loose.append {as bs : List Entry} (ha : Loose as) (hb : Loose bs) : Loose (as ++ bs) :=
  List.forall_mem_append.mpr ⟨ha, hb⟩

/-! ### Taking arranged property lists apart -/

theorem Arranged.of_mem_items {items : List Plist} (h : Arranged (.array items)) {v : Plist}
    (hv : v ∈ items) : Arranged v := by
  cases h with
  | bare hbare =>
    rw [payloads, payloadItems_eq_flatMap] at hbare
    exact .bare (List.flatMap_eq_nil_iff.mp hbare v hv)
  | array h => exact h v hv

theorem marks_dict {entries : List Entry} (h : (dict entries).isDocument = false) :
    (dict entries).marks = marksEntries entries := by
  rw [isDocument] at h
  rw [marks, h]
  rfl

/-- A dictionary is that of a step with a document, or no entry of it has a document. -/
theorem Arranged.styles_or {entries : List Entry} (h : Arranged (.dict entries)) :
    (∃ s rtf n, Styles s rtf n entries) ∨
      ∀ e ∈ entries, e.2.isDocument = false ∧ Arranged e.2 := by
  cases h with
  | bare hbare =>
    refine .inr fun e he => ?_
    have hnone := payloads_of_mem hbare he
    exact ⟨isDocument_of_payloads hnone, .bare hnone⟩
  | styled h => exact .inl ⟨_, _, _, h⟩
  | dict hdoc h => exact .inr fun e he => ⟨hdoc e he, h e he⟩

section Styles

variable {s : Step} {rtf : String} {n : Int} {entries : List Entry}

/-- The entries around the document, which are those of the step with another document, too. -/
theorem Styles.parts (h : Styles s rtf n entries) :
    ∃ (before between : List Entry) (text : Option Slot),
      EveryEntry FreshLeaf OtherKey before ∧ EveryEntry FreshLeaf OtherKey between ∧
      entries = StyledText.entries before between rtf text ∧
      ∀ rtf', (s.withDocument rtf').Writes n (StyledText.entries before between rtf'
        (text.map fun _ => .text (String.ofList (Rtf.toText rtf'.toList)))) := by
  obtain ⟨frame, hframes, rfl⟩ := h.writes
  obtain ⟨before, between, text, hbefore, hbetween, hstep, hother⟩ :=
    Step.frames_of_document h.document
  obtain rfl := (List.cons.inj (hframes.symm.trans hstep)).1
  exact ⟨before n, between, text, hbefore n, hbetween, rfl, fun rtf' => ⟨_, hother rtf', rfl⟩⟩

theorem Styles.any_isData (h : Styles s rtf n entries) : entries.any (·.2.isData) := by
  obtain ⟨before, between, text, -, -, rfl, -⟩ := h.parts
  simp [StyledText.entries, Frame.styled, isData]

theorem Styles.marks (h : Styles s rtf n entries) :
    (Plist.dict entries).marks = [.styled entries] := by
  rw [Plist.marks, h.any_isData]
  rfl

/-- Keys of steps have no line feeds, so that moving a step in does not change its entries. -/
theorem Styles.moved (h : Styles s rtf n entries) (depth : Nat) :
    (Plist.dict entries).moved depth = .dict entries := by
  obtain ⟨frame, hframes, rfl⟩ := h.writes
  have hnumbered : frame.Numbered := Step.numbered_of_mem_frames h.styled (by simp [hframes])
  exact moved_of_keysOnLines depth (hnumbered.every .keysOnLines)

end Styles

/-- What has a document is the dictionary of a step. -/
theorem Arranged.of_isDocument {v : Plist} (h : Arranged v) (hdoc : v.isDocument) :
    ∃ s rtf n entries, v = .dict entries ∧ Styles s rtf n entries := by
  cases h with
  | bare hbare => exact absurd hdoc (Bool.eq_false_iff.mp (isDocument_of_payloads hbare))
  | styled h => exact ⟨_, _, _, _, rfl, h⟩
  | array _ => cases hdoc
  | dict hnone _ =>
    obtain ⟨e, he, hdata⟩ := List.any_eq_true.mp hdoc
    have hnot := hnone e he
    obtain ⟨k, v⟩ := e
    cases v with
    | data bytes => exact nomatch hnot
    | _ => cases hdata

theorem isData_moved (depth : Nat) (v : Plist) : (v.moved depth).isData = v.isData := by
  cases v <;> rfl

theorem isDocument_moved (depth : Nat) (v : Plist) :
    (v.moved depth).isDocument = v.isDocument := by
  cases v with
  | dict entries =>
    rw [Plist.moved, movedEntries_eq_map, isDocument, isDocument, List.any_map]
    exact congrArg entries.any (funext fun e => isData_moved depth e.2)
  | _ => rfl

theorem Arranged.moved (depth : Nat) {v : Plist} (h : Arranged v) : Arranged (v.moved depth) := by
  induction h with
  | bare h => exact .bare ((payloads_moved depth _).trans h)
  | styled h =>
    rw [h.moved depth]
    exact .styled h
  | array _ ih =>
    rw [Plist.moved, movedItems_eq_map]
    exact .array (List.forall_mem_map.mpr ih)
  | dict hdoc _ ih =>
    rw [Plist.moved, movedEntries_eq_map]
    refine .dict (List.forall_mem_map.mpr fun e he => ?_) (List.forall_mem_map.mpr ih)
    exact (isDocument_moved depth e.2).trans (hdoc e he)

/-! ### Frames -/

/-- Dictionaries that were moved in, as the list of the actions inside an action. -/
theorem loose_moved (key : String) (depth : Nat) {dicts : List Plist}
    (h : ∀ v ∈ dicts, Arranged v) : Loose [(key, .array (dicts.map (moved depth)))] :=
  loose_list key (List.forall_mem_map.mpr fun v hv => (h v hv).moved depth)

end Plist

/-! ### Actions -/

open MacroScribe.Frame

theorem Step.arranged {s : Step} (hs : s.Styled) (n : Int) :
    ∀ v ∈ numbered n s.frames, v.Arranged := by
  cases hdoc : s.document? with
  | none =>
    have hnone := s.payloads_frames n
    rw [hdoc, payloadItems_eq_flatMap] at hnone
    exact fun v hv => .bare (List.flatMap_eq_nil_iff.mp hnone v hv)
  | some rtf =>
    obtain ⟨before, between, text, -, -, hframes, -⟩ := Step.frames_of_document hdoc
    intro v hv
    rw [hframes] at hv
    rw [List.mem_singleton.mp hv]
    exact .styled ⟨hdoc, hs, _, hframes, rfl⟩

mutual

/-- What an action writes is arranged. -/
theorem Action.arranged_expand : ∀ {a : Action} (n : Int), a.Sound →
    ∀ v ∈ a.expand moved n, v.Arranged
  | .step s, n, h => Step.arranged h n
  | .group name actions timeout, n, h => by
    have hactions := loose_moved "Actions" 2 (arranged_expandEach (n + 1) h.2)
    refine List.forall_mem_singleton.mpr (Loose.dict ?_)
    exact (((loose_of_payloads (by simp)).append hactions).append
      (loose_of_payloads (by simp))).append (loose_of_payloads (by simp [TimeoutPolicy.entries]))
  | .switch source cases, n, h => by
    have hcases := loose_list "CaseEntries" (arranged_expandCases (n + 1) h.2)
    refine List.forall_mem_singleton.mpr (Loose.dict ?_)
    exact (((loose_of_payloads (by simp)).append hcases).append
      (loose_of_payloads (by simp))).append (loose_of_payloads (by simp))
  | .ifThenElse conditions thenActions elseActions aborts, n, h => by
    have helse := loose_moved "ElseActions" 2 (arranged_expandEach (n + 1) h.2.2)
    have hthen := loose_moved "ThenActions" 2
      (arranged_expandEach (n + 1 + dictCountEach elseActions) h.2.1)
    have hconditions : Loose [("Conditions", conditions)] :=
      loose_of_payloads (by simp [payloads_of_typed h.1])
    refine List.forall_mem_singleton.mpr (Loose.dict ?_)
    exact ((((loose_of_payloads (by simp)).append (hconditions.append helse)).append
      (loose_of_payloads (by simp))).append hthen).append (loose_of_payloads (by simp))
  | .whileLoop conditions actions aborts notify, n, h => by
    have hactions := loose_moved "Actions" 2 (arranged_expandEach (n + 1) h.2)
    have hconditions : Loose [("Conditions", conditions)] :=
      loose_of_payloads (by simp [payloads_of_typed h.1])
    refine List.forall_mem_singleton.mpr (Loose.dict ?_)
    exact ((((loose_of_payloads (by simp)).append (hactions.append hconditions)).append
      (loose_of_payloads (by simp))).append (loose_of_payloads (by simp))).append
        (loose_of_payloads (by simp))

theorem arranged_expandEach : ∀ {actions : List Action} (n : Int),
    EveryAction Step.Styled Plist.Typed (fun _ => True) actions →
      ∀ v ∈ expandEach moved n actions, v.Arranged
  | [], _, _ => List.forall_mem_nil _
  | a :: _, n, h =>
    List.forall_mem_append.mpr ⟨a.arranged_expand n h.1, arranged_expandEach _ h.2⟩

theorem arranged_expandCases : ∀ {cases : List SwitchCase} (n : Int),
    EveryCase Step.Styled Plist.Typed (fun _ => True) cases →
      ∀ v ∈ expandCases moved n cases, v.Arranged
  | [], _, _ => List.forall_mem_nil _
  | .mk operator testValue actions :: _, n, h => by
    have hactions := loose_moved "Actions" 4 (arranged_expandEach n h.1.2)
    refine List.forall_mem_cons.mpr ⟨Loose.dict ?_, arranged_expandCases _ h.2⟩
    exact (hactions.append (loose_of_payloads (by simp))).append (loose_of_payloads (by simp))

end

end MacroScribe
