import MacroScribe.Proofs.Action.Textual
import MacroScribe.Proofs.Builder.Branches
import MacroScribe.Proofs.StyledText.Replacement

/-!
# MacroScribe.Proofs.StyledText.Restyling

Giving an action another document. A builder that made a step with a document makes the step with
another document if it is given that one, everything else being the same. Changing the document in
the text of the first step gives the text of the second (`update_commutes_with_render`).
-/

namespace MacroScribe

open Text Plist Outcome

/-! ### Steps -/

/-- The step with another document, and with the plain text of the document if it has one. -/
def Step.withDocument (rtf : String) : Step → Step
  | comment title _ => comment title (.text rtf)
  | insertText _ action processing _ =>
    insertText (.text (String.ofList (Rtf.toText rtf.toList))) action processing (some (.text rtf))
  | setClipboard _ processing _ destination failure =>
    setClipboard (.text (String.ofList (Rtf.toText rtf.toList))) processing (some (.text rtf))
      destination failure
  | s => s

open MacroScribe.Frame in
/-- A step with a document has one frame, and another document is in the place of the first one. -/
theorem Step.frames_of_document {s : Step} {rtf : String} (h : s.document? = some rtf) :
    ∃ (before : Int → List Entry) (between : List Entry) (text : Option Slot),
      (∀ n, EveryEntry FreshLeaf StyledText.OtherKey (before n)) ∧
      EveryEntry FreshLeaf StyledText.OtherKey between ∧
      s.frames = [fun n => StyledText.entries (before n) between rtf text] ∧
      ∀ rtf', (s.withDocument rtf').frames = [fun n => StyledText.entries (before n) between rtf'
        (text.map fun _ => .text (String.ofList (Rtf.toText rtf'.toList)))] := by
  cases s with
  | comment title doc =>
    cases doc with
    | broken => cases h
    | text doc =>
      obtain rfl := Option.some.inj h
      refine ⟨fun n => uid n ++ type "Comment", slot "Title" title, none, fun n => ?_, ?_, ?_, ?_⟩
      · simp +decide [uid, type, Every, FreshLeaf, Plist.text]
      · cases title <;> simp +decide [FreshLeaf, Slot.leaf, Plist.text]
      · simp [frames, StyledText.entries, slot?, optionalEntry]
      · simp [frames, StyledText.entries, slot?, optionalEntry, withDocument]
  | insertText text action processing doc =>
    rcases doc with _ | ⟨doc | cause⟩
    · cases h
    · obtain rfl := Option.some.inj h
      refine ⟨fun n => Frame.text "Action" action ++ (uid n ++ (type "InsertText" ++
        text? "ProcessingMode" processing)), if action = "ByTyping" then
          application "TargetApplication" .front ++ Frame.text "TargetingType" "Front" else [],
        some text, fun n => ?_, ?_, ?_, ?_⟩
      · simp +decide [uid, type, Every, FreshLeaf, Plist.text]
      · split <;> simp +decide [FreshLeaf, Plist.text, Application.entries, Application.front]
      · simp [frames, StyledText.entries, slot?, optionalEntry, slot, styled?]
      · simp [frames, StyledText.entries, slot?, optionalEntry, slot, styled?, withDocument]
    · cases h
  | setClipboard text processing doc destination failure =>
    rcases doc with _ | ⟨doc | cause⟩
    · cases h
    · obtain rfl := Option.some.inj h
      refine ⟨fun n => uid n ++ (flag "JustDisplay" false ++ (type "SetClipboardToText" ++
        (failure.notifyEntries ++ (text? "ProcessingMode" processing ++ failure.stopEntries)))),
        destination.entries "Target", some text, fun n => ?_, ?_, ?_, ?_⟩
      · simp +decide [uid, type, Every, FreshLeaf, Plist.text, StyledText.other_stop,
          StyledText.other_silent]
      · exact StyledText.other_clipboard destination
      · simp [frames, StyledText.entries, slot?, optionalEntry, slot, styled?]
      · simp [frames, StyledText.entries, slot?, optionalEntry, slot, styled?, withDocument]
    · cases h
  | _ => cases h

open Rendering in
/-- A step with one frame is rendered as the dictionary of the frame. -/
theorem Step.run_render {s : Step} {frame : Frame} (hframe : s.frames = [frame]) {n m : Int}
    {text : String} : (Action.step s).render.run n = (.ok text, m) ↔
      Plist.write 0 (.dict (frame n)) = .ok text ∧ n + 1 = m := by
  have hjoined (t : String) : joined [t] = t := String.intercalate_singleton
  rw [Action.render, hframe, Rendering.run_bind_eq_ok]
  constructor
  · rintro ⟨texts, k, htexts, htext⟩
    obtain ⟨rfl, rfl⟩ := run_pure_eq_ok.mp htext
    rw [writeFrames, run_nextUid_bind, Rendering.run_bind_eq_ok] at htexts
    obtain ⟨first, k', hfirst, hrest⟩ := htexts
    obtain ⟨hwrite, rfl⟩ := run_write_eq_ok.mp hfirst
    obtain ⟨others, k'', hothers, hrest⟩ := Rendering.run_bind_eq_ok.mp hrest
    obtain ⟨rfl, rfl⟩ := run_pure_eq_ok.mp hothers
    obtain ⟨rfl, rfl⟩ := run_pure_eq_ok.mp hrest
    exact ⟨(hjoined first).symm ▸ hwrite, rfl⟩
  · rintro ⟨hwrite, rfl⟩
    refine ⟨[text], n + 1, ?_, run_pure_eq_ok.mpr ⟨hjoined text, rfl⟩⟩
    rw [writeFrames, run_nextUid_bind, Rendering.run_bind_eq_ok]
    exact ⟨text, n + 1, run_write_eq_ok.mpr ⟨hwrite, rfl⟩, rfl⟩

open Rendering in
/-- A step with one frame is rendered exactly if its options are texts. -/
theorem Step.exists_render_iff {s : Step} {frame : Frame} (hframe : s.frames = [frame]) (n : Int) :
    (∃ text m, (Action.step s).render.run n = (.ok text, m)) ↔ s.Textual := by
  rw [← s.writable_iff n, hframe, List.forall_mem_singleton, ← writable_dict_iff,
    ← yields_write (n := n)]
  constructor
  · rintro ⟨text, m, h⟩
    exact ⟨text, n, run_write_eq_ok.mpr ⟨((run_render hframe).mp h).1, rfl⟩, trivial⟩
  · rintro ⟨text, m, h, -⟩
    exact ⟨text, n + 1, (run_render hframe).mpr ⟨(run_write_eq_ok.mp h).1, rfl⟩⟩

/-- Changing the document in a rendered step is rendering the step with the changed document, from
the same identifier. -/
theorem Step.update_render {s : Step} {rtf : String} (hdoc : s.document? = some rtf)
    (f : List Char → List Char) {n m : Int} {text : String}
    (h : (Action.step s).render.run n = (.ok text, m)) :
    ∃ text', (Action.step (s.withDocument (String.ofList (f rtf.toList)))).render.run n =
        (.ok text', m) ∧ StyledText.update f text.toList = .ok text'.toList := by
  obtain ⟨before, between, plain, hbefore, hbetween, hframes, hframes'⟩ :=
    Step.frames_of_document hdoc
  obtain ⟨hwrite, rfl⟩ := (Step.run_render hframes).mp h
  obtain ⟨text', hwrite', hupdate⟩ := StyledText.update_write (hbefore n) hbetween f hwrite
  refine ⟨text', (Step.run_render (hframes' _)).mpr ⟨?_, rfl⟩, hupdate⟩
  rw [String.toList_ofList]
  exact hwrite'

/-! ### Builders -/

namespace Builder

theorem value_map (parameters : List Parameter) (value : Parameter → Argument) (k : String) :
    Fields.value (parameters.map fun p => (p.name, value p)) k =
      ((parameters.find? (·.name == k)).map value).getD .null := by
  rw [Fields.value, Fields.get?, List.find?_map, Option.map_map]
  rfl

/-- Giving another value for one parameter. -/
theorem bind_put {b : Builder} {given : Fields Argument} {args : Arguments} {k : String}
    (hk : k ∈ b.parameters.map (·.name)) (v : Argument) (h : b.bind given = .ok args) :
    ∃ args', b.bind (given.put k v) = .ok args' ∧ args'.value k = v ∧
      ∀ q, q ≠ k → args'.value q = args.value q := by
  obtain rfl := bind_eq_args h
  simp only [bind] at h
  split at h
  · cases h
  next hgiven =>
  split at h
  · cases h
  next hknown =>
  rw [List.find?_eq_none] at hgiven
  rw [Fields.unknown?, List.find?_eq_none] at hknown
  have hgiven' : b.parameters.find? (fun p =>
      (((given.put k v).get? p.name).or p.standard).isNone) = none := by
    rw [List.find?_eq_none]
    intro p hp
    rw [Fields.get?_put]
    split
    · simp
    · exact hgiven p hp
  have hknown' : (given.put k v).unknown? (b.parameters.map (·.name)) = none := by
    rw [Fields.unknown?, List.find?_eq_none]
    intro q hq
    rcases Fields.mem_keys_put.mp hq with rfl | hq
    · simpa using hk
    · exact hknown q hq
  refine ⟨b.parameters.map fun p =>
    (p.name, (((given.put k v).get? p.name).or p.standard).getD .null),
    by simp only [bind, hgiven', hknown'], ?_, fun q hq => ?_⟩
  · rw [value_map]
    cases hfind : b.parameters.find? (·.name == k) with
    | none =>
      obtain ⟨p, hp, hname⟩ := List.mem_map.mp hk
      exact absurd (beq_iff_eq.mpr hname) (List.find?_eq_none.mp hfind p hp)
    | some p =>
      have hname : p.name = k := by simpa using List.find?_some hfind
      rw [Option.map_some, Fields.get?_put, if_pos hname.symm, Option.some_or, Option.getD_some,
        Option.getD_some]
  · rw [value_map, value_map]
    cases hfind : b.parameters.find? (·.name == q) with
    | none => rfl
    | some p =>
      have hname : p.name = q := by simpa using List.find?_some hfind
      rw [Option.map_some, Option.map_some, Fields.get?_put_of_ne (hname ▸ hq.symm)]

/-! ### Builders with a document -/

/-- The arguments are the same, but for the document. -/
structure Restyled (args args' : Arguments) (rtf : String) : Prop where
  document : args'.value "rtf_content" = .str rtf
  others : ∀ k, k ≠ "rtf_content" → args'.value k = args.value k

/-- Of each step with a document that the builder makes, it makes the one with another document. -/
def Restyles (b : Builder) : Prop :=
  ∀ {args args' : Arguments} {s : Step} {rtf rtf' : String}, rtf' ≠ "" → Restyled args args' rtf' →
    s.document? = some rtf → b.build args = .ok (.step s) →
    b.build args' = .ok (.step (s.withDocument rtf'))

theorem truthy_str {rtf : String} (h : rtf ≠ "") : (Json.str rtf : Argument).truthy = true :=
  bne_iff_ne.mpr h

/-- A document that is given is taken, and its plain text with it. -/
theorem styled_str (text : Argument) {rtf : String} (h : rtf ≠ "") :
    styled text (.str rtf) =
      .ok (.text (String.ofList (Rtf.toText rtf.toList)), some (.text rtf)) := by
  unfold styled
  exact if_pos (truthy_str h)

theorem comment_restyles : comment.Restyles := by
  intro args args' s rtf rtf' hne hargs hdoc h
  have hmade : comment.build args' =
      .ok (.step (.comment (Slot.ofJson (args.value "title")) (.text rtf'))) := by
    simp only [comment, hargs.document, hargs.others "title" (by decide), truthy_str hne, if_true]
    rfl
  rw [hmade]
  simp only [comment] at h
  split at h
  · obtain rfl := Action.step.inj (Except.ok.inj h)
    rfl
  · split at h
    · obtain rfl := Action.step.inj (Except.ok.inj h)
      rfl
    · cases h

theorem insertion_restyles {args args' : Arguments} {action : Argument} {s : Step}
    {rtf rtf' : String} (hne : rtf' ≠ "") (hargs : Restyled args args' rtf')
    (hdoc : s.document? = some rtf) (h : insertion args action = .ok (.step s)) :
    insertion args' action = .ok (.step (s.withDocument rtf')) := by
  obtain ⟨way, hway, h⟩ := bind_eq_ok.mp h
  obtain ⟨mode, hmode, h⟩ := bind_eq_ok.mp h
  obtain ⟨text, htext, h⟩ := bind_eq_ok.mp h
  rw [← hargs.others "processing_mode" (by decide)] at hmode
  rw [← hargs.others "text" (by decide), ← hargs.others "token_preset" (by decide)] at htext
  split at h
  · next hstyled =>
    rw [← hargs.others "include_styled_text" (by decide)] at hstyled
    obtain ⟨made, -, h⟩ := bind_eq_ok.mp h
    obtain rfl := Action.step.inj (Except.ok.inj h)
    refine bind_eq_ok.mpr ⟨way, hway, bind_eq_ok.mpr ⟨mode, hmode, bind_eq_ok.mpr
      ⟨text, htext, ?_⟩⟩⟩
    rw [if_pos hstyled, hargs.document, styled_str text hne]
    rfl
  · obtain rfl := Action.step.inj (Except.ok.inj h)
    cases hdoc

theorem insertText_restyles : insertText.Restyles := by
  intro args args' s rtf rtf' hne hargs hdoc h
  simp only [insertText] at h ⊢
  rw [← hargs.others "action" (by decide)] at h
  exact insertion_restyles hne hargs hdoc h

theorem displayWindow_restyles : displayWindow.Restyles :=
  insertion_restyles

theorem setClipboard_restyles : setClipboard.Restyles := by
  intro args args' s rtf rtf' hne hargs hdoc h
  obtain ⟨mode, hmode, h⟩ := bind_eq_ok.mp h
  obtain ⟨text, htext, h⟩ := bind_eq_ok.mp h
  rw [← hargs.others "processing_mode" (by decide)] at hmode
  rw [← hargs.others "text" (by decide), ← hargs.others "preset_mode" (by decide)] at htext
  refine bind_eq_ok.mpr ⟨mode, hmode, bind_eq_ok.mpr ⟨text, htext, ?_⟩⟩
  have hfailure : failure args' false = failure args false := by
    rw [failure, failure, hargs.others "stop_on_failure" (by decide),
      hargs.others "notify_on_failure" (by decide)]
  simp only [hargs.others "include_styled_text" (by decide),
    hargs.others "destination" (by decide), hargs.document, hfailure, styled_str text hne]
  split at h
  · next hstyled =>
    obtain ⟨made, -, h⟩ := bind_eq_ok.mp h
    obtain ⟨destination, hdestination, h⟩ := bind_eq_ok.mp h
    obtain rfl := Action.step.inj (Except.ok.inj h)
    rw [if_pos hstyled]
    exact bind_eq_ok.mpr ⟨_, rfl, bind_eq_ok.mpr ⟨destination, hdestination, rfl⟩⟩
  · obtain ⟨made, hmade, h⟩ := bind_eq_ok.mp h
    obtain rfl := Except.ok.inj hmade
    obtain ⟨destination, -, h⟩ := bind_eq_ok.mp h
    obtain rfl := Action.step.inj (Except.ok.inj h)
    cases hdoc

/-- The builder makes no steps with a document. -/
def MakesPlain (b : Builder) : Prop :=
  ∀ args : Arguments, Ensures (b.build args) fun a => ∀ s, a = .step s → s.document? = none

theorem displayBriefly_makesPlain : displayBriefly.MakesPlain := by
  intro args
  refine ensures_bind fun way hway => ensures_bind fun mode _ => ensures_bind fun text _ => ?_
  obtain rfl : "DisplayBriefly" = way := Except.ok.inj hway
  have hplain : styledInsertions.contains "DisplayBriefly" = false := by decide
  rw [hplain, Bool.and_false]
  refine ensures_pure ?_
  rintro _ ⟨⟩
  rfl

/-- The builders that take a document, and the others. -/
theorem restyles_or_makesPlain :
    ∀ b ∈ all, "rtf_content" ∈ b.parameters.map (·.name) ∧ b.Restyles ∨ b.MakesPlain := by
  simp only [all, List.forall_mem_cons]
  and_intros
  all_goals
    first
    | with_reducible first
      | exact List.forall_mem_nil _
      | exact .inl ⟨by decide, comment_restyles⟩
      | exact .inl ⟨by decide, insertText_restyles⟩
      | exact .inl ⟨by decide, displayWindow_restyles⟩
      | exact .inl ⟨by decide, setClipboard_restyles⟩
      | exact .inr displayBriefly_makesPlain
    -- Whatever the others check before, what they make is no step with a document.
    | refine .inr fun args => ?_
      simp only [activate, breakFromLoop, continueLoop, retryThisLoop, cancelling, cancel,
        clearTypedStringBuffer, showStatusMenu, system, clickAtFoundImage, moveAndClick, clicking,
        copy, cut, paste, editing, fileOperation, group, ifThenElse, notification, openFile,
        openUrl, pause, playSound, pressButton, quit, returnText, scrollWheelEvent, selectMenuItem,
        setVariable, calculate, showSpecificApp, switch, typeKeystroke, useVariable, whileLoop]
      with_reducible
        repeat' first
          | exact ensures_invalid _
          | exact ensures_misused _
          | apply ensures_pure
          | apply ensures_ok
          | (apply ensures_bind; intro _ _)
          | split
      all_goals rintro _ ⟨⟩ <;> rfl

/-- A step with a document comes from a builder that takes a document, and with another document the
builder makes the step with that one. -/
theorem apply_put_document {b : Builder} (hb : b ∈ all) {given : Fields Argument} {s : Step}
    {rtf rtf' : String} (hne : rtf' ≠ "") (hdoc : s.document? = some rtf)
    (h : b.apply given = .ok (.step s)) :
    b.apply (given.put "rtf_content" (.str rtf')) = .ok (.step (s.withDocument rtf')) := by
  obtain ⟨args, hargs, h⟩ := bind_eq_ok.mp h
  rcases restyles_or_makesPlain b hb with ⟨hmem, hrestyles⟩ | hplain
  · obtain ⟨args', hargs', hdocument, hothers⟩ := bind_put hmem (.str rtf') hargs
    exact bind_eq_ok.mpr ⟨args', hargs', hrestyles hne ⟨hdocument, hothers⟩ hdoc h⟩
  · exact absurd ((hplain args _ h s rfl).symm.trans hdoc) (by simp)

end Builder

/-! ### Main result -/

/-- Changing the document of a rendered action is rendering the action that is made with the changed
document. Where a builder accepts options for a step with a document, whether the document was given
or made from the text, it accepts them with the changed document instead, if that is not empty, and
makes the same step with the changed document and, if the step has a plain text, with that of the
changed document. The first step renders from any identifier if its options are texts; then the
second renders from the same one, and its text is what the update makes of the first text. -/
theorem update_commutes_with_render {b : Builder} (hb : b ∈ Builder.all) {given : Fields Argument}
    {s : Step} {rtf : String} (h : b.apply given = .ok (.step s)) (hdoc : s.document? = some rtf)
    {f : List Char → List Char} (hne : f rtf.toList ≠ []) :
    let changed := String.ofList (f rtf.toList)
    b.apply (given.put "rtf_content" (.str changed)) = .ok (.step (s.withDocument changed)) ∧
    ∀ n : Int,
      ((∃ text m, (Action.step s).render.run n = (.ok text, m)) ↔ s.Textual) ∧
      ∀ text m, (Action.step s).render.run n = (.ok text, m) →
        ∃ text', (Action.step (s.withDocument changed)).render.run n = (.ok text', m) ∧
          StyledText.update f text.toList = .ok text'.toList := by
  have hchanged : String.ofList (f rtf.toList) ≠ "" := fun he =>
    hne (String.ofList_eq_empty_iff.mp he)
  obtain ⟨before, between, plain, -, -, hframes, -⟩ := Step.frames_of_document hdoc
  refine ⟨Builder.apply_put_document hb hchanged hdoc h, fun n =>
    ⟨Step.exists_render_iff hframes n, fun text m hrender => Step.update_render hdoc f hrender⟩⟩

/-- Options with a document for a clipboard. -/
def styledOptions (rtf : String) : Fields Argument :=
  [("text", .str "plain"), ("include_styled_text", .bool true), ("rtf_content", .str rtf),
    ("destination", .obj [("name", .str "Text")])]

/-- What is made of the options. -/
def styledCopy (text rtf : String) : Step :=
  .setClipboard (.text text) none (some (.text rtf)) (.named (.text "Text") none) ⟨none, false⟩

/-- A character that is escaped in the plain text is added to a document. -/
theorem update_commutes_with_render_styledCopy :
    Builder.setClipboard.apply (styledOptions "\\b a<b") =
      .ok (.step (styledCopy "a<b" "\\b a<b")) ∧
    Builder.setClipboard.apply (styledOptions "\\b a<b>") =
      .ok (.step (styledCopy "a<b>" "\\b a<b>")) ∧
    ∃ text text', (Action.step (styledCopy "a<b" "\\b a<b")).render.run 7 = (.ok text, 8) ∧
      (Action.step (styledCopy "a<b>" "\\b a<b>")).render.run 7 = (.ok text', 8) ∧
      StyledText.update (· ++ ['>']) text.toList = .ok text'.toList := by
  have hmade : Builder.setClipboard.apply (styledOptions "\\b a<b") =
      .ok (.step (styledCopy "a<b" "\\b a<b")) := rfl
  obtain ⟨hchanged, hrenders⟩ := update_commutes_with_render (b := .setClipboard)
    (f := (· ++ ['>'])) (by simp [Builder.all]) hmade rfl (by decide)
  obtain ⟨-, hupdate⟩ := hrenders 7
  obtain ⟨text', hrender', hupdate⟩ := hupdate _ 8 rfl
  exact ⟨hmade, hchanged, _, text', rfl, hrender', hupdate⟩

end MacroScribe
