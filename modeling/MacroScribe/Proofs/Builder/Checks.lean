import MacroScribe.Builder.Registry
import MacroScribe.Proofs.Builder.Option

/-!
# MacroScribe.Proofs.Builder.Checks

Which arguments builders refuse as unacceptable values, and which they misuse. Each builder makes a
demand on its arguments (`demands`), most of them none; it fails other than by refusing a value
exactly if the demand is not met (`checked_build`). An option is only looked at when those that are
checked before it are accepted, so that demands are made under that condition.
-/

namespace MacroScribe.Builder

open Outcome

/-! ### Demands -/

/-- The text to be inserted can be made, with its styles if it is inserted with them. -/
def Insertable (args : Arguments) (action : Argument) : Prop :=
  ∀ word, choice "insert-text action" insertions action = .ok word →
    Passes (processing (args.value "processing_mode")) →
      Presettable (args.value "token_preset") ∧
        ∀ text, tokenOr (orEmpty (args.value "text")) (args.value "token_preset") = .ok text →
          ((args.value "include_styled_text").truthy && styledInsertions.contains word) →
            Stylable text (args.value "rtf_content")

/-- The text for a clipboard can be made, with its styles if they are included. -/
def Copyable (args : Arguments) : Prop :=
  Passes (processing (args.value "processing_mode")) →
    (args.value "preset_mode").isScalar ∧
      ∀ text, presetOr (orEmpty (args.value "text")) (args.value "preset_mode") = .ok text →
        (args.value "include_styled_text").truthy → Stylable text (args.value "rtf_content")

/-- The variable that is set has a text for a name, and the preset is a scalar. -/
def Settable (args : Arguments) : Prop :=
  (args.value "variable").truthy →
    Passes (processing (args.value "processing_mode")) →
      Passes (optionalChoice "where" ["Prepend", "Append"] (args.value "where")) →
        Passes (choice "variable scope" (Fields.keys scopes) (args.value "scope")) →
          (args.value "variable").isText ∧ (args.value "preset_mode").isScalar

/-- The options of a click without modifiers, at the standard fuzz. -/
def plainClick (args : Arguments) : Arguments :=
  Fields.put "click_modifiers" (.int 0) (Fields.put "fuzz" .null args)

/-- A click that is accepted without modifiers has a shortcut for them whose key is found, if any,
and a fuzz that is a number. -/
def Clickable (args : Arguments) : Prop :=
  Passes (clicking (plainClick args)) →
    ((args.value "click_modifiers").truthy → Keystroke.IsSpelled (args.value "click_modifiers")) ∧
      (Passes (modifierMask (args.value "click_modifiers")) →
        (args.value "fuzz").isNull ∨ Countable (args.value "fuzz"))

/-- The key of a shortcut that is typed is found. -/
def Typable (args : Arguments) : Prop :=
  ((args.value "press_and_repeat").truthy &&
      ((args.value "press_and_hold").truthy || !(args.value "hold_time").isNull)) = false →
    Keystroke.IsSpelled (args.value "keystroke")

/-- The cases of a switch are a list, and the named clipboard is a mapping or a list of pairs. -/
def Switchable (args : Arguments) : Prop :=
  Passes (choice "switch source" switchSources (args.value "source")) →
    Passes (processing (args.value "text_processing_mode")) →
      Listed (args.value "cases") ∧ ∀ items, (args.value "cases").itemsOrNone = .ok items →
        EachReached (fun item => caseOf item.2 item.1) (fun item => Cased item.1) items.zipIdx ∧
          ∀ cases, items.zipIdx.mapM (fun (item, i) => caseOf i item) = .ok cases → cases ≠ [] →
            Mappable (args.value "named_clipboard")

/-- What the builders demand of their arguments. The others demand nothing. -/
def demands : Fields (Arguments → Prop) :=
  [("ClickAtFoundImage", Clickable),
   ("Comment", fun args => (args.value "rtf_content").truthy ∨ (args.value "text").isText),
   ("DisplayTextBriefly", fun args => Insertable args (.str "DisplayBriefly")),
   ("DisplayTextWindow", fun args => Insertable args (.str "DisplayWindow")),
   ("Group", fun args => Listed (args.value "actions")),
   ("IfThenElse", fun args => Conditional args ∧ (Passes (conditions args) →
      Listed (args.value "then") ∧
        (Passes (children "then" (args.value "then")) → Listed (args.value "else_")))),
   ("InsertText", fun args => Insertable args (args.value "action")),
   ("MoveAndClick", fun args => Clickable (args ++ [("image_source", .str "Image"),
      ("fuzz", .int 15), ("image_selection", .str "Unique")])),
   ("Notification", fun args => Presettable (args.value "title_token_preset") ∧
      Presettable (args.value "body_token_preset") ∧
      Presettable (args.value "subtitle_token_preset")),
   ("PlaySound", fun args => Listed (args.value "path") ∧ Countable (args.value "volume")),
   ("Return", fun args => Presettable (args.value "token_preset")),
   ("SelectMenuItem", fun args => Listed (args.value "menu_path")),
   ("SetClipboardToText", Copyable),
   ("SetVariable", Settable),
   ("SwitchCase", Switchable),
   ("TypeKeystroke", Typable),
   ("While", fun args => Conditional args ∧ (Passes (conditions args) →
      Listed (args.value "actions")))]

/-- The arguments meet the demand of the builder. -/
def Fit (b : Builder) (args : Arguments) : Prop :=
  match Fields.get? demands b.name with
  | some demand => demand args
  | none => True

/-! ### Builders that make a demand -/

section Demanding

variable (args : Arguments)

/-- Each builder refuses values only, exactly if its arguments fit it. -/
theorem checked_comment : Checked (comment.build args) ↔ Fit comment args := by
  change Checked (comment.build args) ↔
    (args.value "rtf_content").truthy ∨ (args.value "text").isText
  simp only [comment, Json.isText]
  cases (args.value "rtf_content").truthy with
  | true => simp [checked_pure]
  | false =>
    cases (args.value "text").str? with
    | some s => simp [checked_pure]
    | none => simp [Misuse.kind, Kind.isValue]

/-- Besides the words, what can go wrong is making the text that is inserted. -/
theorem checked_insertion (action : Argument) :
    Checked (insertion args action) ↔ Insertable args action := by
  unfold insertion Insertable
  rw [checked_bind, and_iff_right (checked_choice _ _ _)]
  refine forall_congr' fun word => forall_congr' fun _ => ?_
  rw [checked_then fun mode _ => ?_, and_iff_right (checked_processing _)]
  rw [checked_bind, checked_tokenOr]
  refine and_congr_right fun _ => forall_congr' fun text => forall_congr' fun _ => ?_
  split
  · next hstyled =>
    rw [forall_prop_of_true hstyled, checked_bind, checked_styled]
    exact and_iff_left fun _ _ => checked_pure _
  · next hplain =>
    exact iff_of_true (checked_pure _) fun hstyled => absurd hstyled hplain

theorem checked_setClipboard : Checked (setClipboard.build args) ↔ Fit setClipboard args := by
  change Checked (setClipboard.build args) ↔ Copyable args
  simp only [setClipboard, Copyable]
  rw [checked_then fun mode _ => ?_, and_iff_right (checked_processing _)]
  rw [checked_bind, checked_presetOr]
  refine and_congr_right fun _ => forall_congr' fun text => forall_congr' fun _ => ?_
  -- Whatever is wrong with the destination is reported as an unacceptable value.
  have hdestination : ∀ text rtf mode, Checked (do
      let destination ← inParameter "clipboard destination"
        (Argument.clipboard (args.value "destination"))
      return Action.step (.setClipboard text mode rtf destination (failure args false))) := by
    intro text rtf mode
    exact checked_bind.mpr ⟨checked_inParameter _ _, fun destination _ => checked_pure _⟩
  split
  · next hstyled =>
    rw [forall_prop_of_true hstyled, checked_bind, checked_styled]
    exact and_iff_left fun texts _ => hdestination _ _ _
  · next hplain =>
    refine iff_of_true ?_ fun hstyled => absurd hstyled hplain
    exact checked_bind.mpr ⟨checked_pure _, fun texts _ => hdestination _ _ _⟩

theorem checked_setVariable : Checked (setVariable.build args) ↔ Fit setVariable args := by
  change Checked (setVariable.build args) ↔ Settable args
  simp only [setVariable, Settable]
  cases (args.value "variable").truthy with
  | false => simp [checked_invalid]
  | true =>
    simp only [Bool.not_true, Bool.false_eq_true, if_false, forall_const]
    rw [checked_then fun mode _ => ?_, and_iff_right (checked_processing _)]
    rw [checked_then fun placement _ => ?_, and_iff_right (checked_optionalChoice _ _ _)]
    rw [checked_then fun scope _ => ?_, and_iff_right (checked_choice _ _ _)]
    simp only [Json.isText]
    cases (args.value "variable").str? with
    | none => simp [Misuse.kind, Kind.isValue]
    | some name =>
      rw [checked_bind, checked_presetOr]
      simp [checked_pure]

/-- The builders of clicks share one demand. -/
theorem checked_clicking : Checked (clicking args) ↔ Clickable args := by
  have hkeep : ∀ k, k ≠ "click_modifiers" → k ≠ "fuzz" →
      (plainClick args).value k = args.value k := by
    intro k hmodifiers hfuzz
    rw [Fields.value, plainClick, Fields.get?_put_of_ne hmodifiers.symm,
      Fields.get?_put_of_ne hfuzz.symm, ← Fields.value]
  have hmodifiers : (plainClick args).value "click_modifiers" = .int 0 := by
    rw [Fields.value, plainClick, Fields.get?_put, if_pos rfl,
      Option.getD_some]
  have hfuzz : (plainClick args).value "fuzz" = .null := by
    rw [Fields.value, plainClick, Fields.get?_put_of_ne (by decide), Fields.get?_put,
      if_pos rfl, Option.getD_some]
  unfold Clickable clicking areaParameter
  simp (disch := decide) only [hkeep, hmodifiers, hfuzz]
  refine checked_bind_of_passes (checked_choice _ _ _) fun kind _ => ?_
  refine checked_bind_of_passes (checked_choice _ _ _) fun button _ => ?_
  refine checked_bind_of_passes (checked_choice _ _ _) fun reference _ => ?_
  refine checked_bind_of_passes (checked_optionalChoice _ _ _) fun corner _ => ?_
  refine checked_bind_of_passes (checked_choice _ _ _) fun source _ => ?_
  refine checked_bind_of_passes (checked_choice _ _ _) fun selection _ => ?_
  refine checked_bind_of_passes (checked_choice _ _ _) fun drag _ => ?_
  split
  · refine iff_of_true (checked_invalid _) ?_
    rintro ⟨_, ⟨⟩⟩
  · refine checked_bind_of_passes (checked_inParameter _ _) fun area _ => ?_
    refine checked_bind_of_passes (checked_inParameter _ _) fun imageArea _ => ?_
    rw [forall_prop_of_true ⟨_, rfl⟩, checked_then fun modifiers _ => ?_, checked_modifierMask]
    cases (args.value "fuzz").isNull with
    | true =>
      simp only [if_true, true_or, iff_true]
      exact checked_bind.mpr ⟨checked_pure _, fun fuzz _ => checked_pure _⟩
    | false =>
      simp only [Bool.false_eq_true, if_false, false_or]
      rw [checked_bind, checked_percent]
      exact and_iff_left fun fuzz _ => checked_pure _

theorem checked_clickAtFoundImage :
    Checked (clickAtFoundImage.build args) ↔ Fit clickAtFoundImage args :=
  checked_clicking args

theorem checked_moveAndClick : Checked (moveAndClick.build args) ↔ Fit moveAndClick args :=
  checked_clicking _

/-- Composite builders ask this of their own arguments, not of the actions inside. -/
theorem checked_group : Checked (group.build args) ↔ Fit group args := by
  change Checked (group.build args) ↔ Listed (args.value "actions")
  simp only [group]
  rw [checked_bind, checked_children]
  exact and_iff_left fun actions _ => checked_pure _

theorem checked_ifThenElse : Checked (ifThenElse.build args) ↔ Fit ifThenElse args := by
  change Checked (ifThenElse.build args) ↔ Conditional args ∧ (Passes (conditions args) →
    Listed (args.value "then") ∧
      (Passes (children "then" (args.value "then")) → Listed (args.value "else_")))
  simp only [ifThenElse]
  rw [checked_then fun plist _ => ?_, checked_conditions]
  rw [checked_then fun thenActions _ => ?_, checked_children]
  rw [checked_bind, checked_children]
  exact and_iff_left fun elseActions _ => checked_pure _

theorem checked_whileLoop : Checked (whileLoop.build args) ↔ Fit whileLoop args := by
  change Checked (whileLoop.build args) ↔ Conditional args ∧ (Passes (conditions args) →
    Listed (args.value "actions"))
  simp only [whileLoop]
  rw [checked_then fun plist _ => ?_, checked_conditions]
  rw [checked_bind, checked_children]
  exact and_iff_left fun actions _ => checked_pure _

theorem checked_switch : Checked (switch.build args) ↔ Fit switch args := by
  change Checked (switch.build args) ↔ Switchable args
  simp only [switch, Switchable]
  rw [checked_then fun source _ => ?_, and_iff_right (checked_choice _ _ _)]
  rw [checked_then fun mode _ => ?_, and_iff_right (checked_processing _)]
  rw [checked_bind, checked_itemsOrNone]
  refine and_congr_right fun _ => forall_congr' fun items => forall_congr' fun _ => ?_
  rw [checked_bind, checked_mapM]
  refine and_congr (EachReached.congr (fun _ => checked_caseOf _ _) _) ?_
  refine forall_congr' fun cases => forall_congr' fun _ => ?_
  cases cases with
  | nil => simp [checked_invalid]
  | cons c rest =>
    simp only [List.isEmpty_cons, Bool.false_eq_true, if_false, ne_eq, reduceCtorEq,
      not_false_eq_true, forall_const]
    rw [checked_bind, checked_mapping]
    exact and_iff_left fun clipboard _ => checked_pure _

theorem checked_notification : Checked (notification.build args) ↔ Fit notification args := by
  change Checked (notification.build args) ↔ Presettable (args.value "title_token_preset") ∧
    Presettable (args.value "body_token_preset") ∧ Presettable (args.value "subtitle_token_preset")
  simp only [notification]
  refine checked_and (checked_tokenOr _ _) (passes_tokenOr _ _).mpr fun title _ => ?_
  refine checked_and (checked_tokenOr _ _) (passes_tokenOr _ _).mpr fun body _ => ?_
  rw [checked_bind, checked_tokenOr]
  exact and_iff_left fun subtitle _ => checked_pure _

/-- The path of a sound is looked through, so it has to have items. -/
theorem checked_soundFile (path sound : Argument) :
    Checked (soundFile path sound) ↔ Listed path := by
  unfold soundFile Listed
  rw [← Json.isSome_holds? path "/"]
  cases path.truthy with
  | false => simp [checked_ok]
  | true =>
    rcases path.holds? "/" with _ | _ | _
    · simp [Misuse.kind, Kind.isValue]
    · simp [checked_ok]
    · simp [checked_ok]

theorem passes_soundFile {path : Argument} (h : Listed path) (sound : Argument) :
    Passes (soundFile path sound) := by
  unfold soundFile
  unfold Listed at h
  rw [← Json.isSome_holds? path "/"] at h
  split
  · next htruthy =>
    obtain ⟨found, hfound⟩ := Option.isSome_iff_exists.mp (h htruthy)
    rw [hfound]
    cases found <;> exact ⟨_, rfl⟩
  · exact ⟨_, rfl⟩

theorem checked_playSound : Checked (playSound.build args) ↔ Fit playSound args := by
  change Checked (playSound.build args) ↔
    Listed (args.value "path") ∧ Countable (args.value "volume")
  simp only [playSound]
  refine checked_and (checked_soundFile _ _) (fun h => passes_soundFile h _) fun path _ => ?_
  rw [checked_bind, checked_percent]
  exact and_iff_left fun volume _ => checked_pure _

theorem checked_returnText : Checked (returnText.build args) ↔ Fit returnText args := by
  change Checked (returnText.build args) ↔ Presettable (args.value "token_preset")
  simp only [returnText]
  rw [checked_bind, checked_tokenOr]
  exact and_iff_left fun text _ => checked_pure _

theorem checked_selectMenuItem : Checked (selectMenuItem.build args) ↔ Fit selectMenuItem args := by
  change Checked (selectMenuItem.build args) ↔ Listed (args.value "menu_path")
  simp only [selectMenuItem]
  split
  · next hmissing =>
    refine iff_of_true (checked_invalid _) fun htruthy => ?_
    have htext : (args.value "menu_path").str?.isSome := by simpa [htruthy] using hmissing
    cases hpath : args.value "menu_path" <;> simp_all [Json.str?, Json.isSequence]
  · next hgiven =>
    have htruthy : (args.value "menu_path").truthy := by
      by_contra hfalsy
      simp [hfalsy] at hgiven
    rw [checked_bind, Json.checked_items, Listed, forall_prop_of_true htruthy]
    refine and_iff_left fun items _ => ?_
    exact checked_bind.mpr ⟨checked_application args, fun app _ => checked_pure _⟩

theorem checked_typeKeystroke : Checked (typeKeystroke.build args) ↔ Fit typeKeystroke args := by
  change Checked (typeKeystroke.build args) ↔ Typable args
  simp only [typeKeystroke, Typable]
  split
  · next hrepeats => simp [checked_invalid, hrepeats]
  · next honce =>
    rw [forall_prop_of_true (Bool.not_eq_true _ ▸ honce), checked_bind, Keystroke.checked_ofJson]
    refine and_iff_left fun k _ => ?_
    split
    · exact checked_invalid _
    · exact checked_pure _

theorem checked_insertText : Checked (insertText.build args) ↔ Fit insertText args :=
  checked_insertion args _

theorem checked_displayBriefly : Checked (displayBriefly.build args) ↔ Fit displayBriefly args :=
  checked_insertion args _

theorem checked_displayWindow : Checked (displayWindow.build args) ↔ Fit displayWindow args :=
  checked_insertion args _

end Demanding

/-! ### All builders -/

/-- A builder that makes no demand fails only by refusing a value. -/
theorem checked_of_undemanding :
    ∀ b ∈ all, (Fields.get? demands b.name).isNone → ∀ args, Checked (b.build args) := by
  rw [all]
  repeat' first
    | exact List.forall_mem_nil _
    | refine List.forall_mem_cons.mpr ⟨?_, ?_⟩
  all_goals
    intro hnone args
    first
    | exact absurd hnone Bool.false_ne_true
    | simp only [activate, breakFromLoop, continueLoop, retryThisLoop, cancelling, cancel,
        clearTypedStringBuffer, showStatusMenu, system, copy, cut, paste, editing, fileOperation,
        openFile, openUrl, pause, pressButton, quit, scrollWheelEvent, calculate, showSpecificApp,
        useVariable]
      with_reducible
        repeat' first
          | exact checked_invalid _
          | exact checked_pure _
          | exact checked_ok _
          | exact checked_choice _ _ _
          | exact checked_optionalChoice _ _ _
          | exact checked_processing _
          | exact checked_application _
          | refine checked_bind.mpr ⟨?_, fun _ _ => ?_⟩
          | split

/-- A builder fails other than by refusing a value exactly if its demand is not met. -/
theorem checked_build : ∀ b ∈ all, ∀ args, Checked (b.build args) ↔ Fit b args := by
  intro b hb args
  by_cases hnone : (Fields.get? demands b.name).isNone
  · have hfit : Fit b args := by
      rw [Fit, Option.isNone_iff_eq_none.mp hnone]
      trivial
    exact iff_of_true (checked_of_undemanding b hb hnone args) hfit
  · revert b
    rw [all]
    repeat' first
      | exact List.forall_mem_nil _
      | refine List.forall_mem_cons.mpr ⟨?_, ?_⟩
    all_goals
      intro hsome
      first
      | exact absurd rfl hsome
      | exact checked_clickAtFoundImage args
      | exact checked_comment args
      | exact checked_displayBriefly args
      | exact checked_displayWindow args
      | exact checked_group args
      | exact checked_ifThenElse args
      | exact checked_insertText args
      | exact checked_moveAndClick args
      | exact checked_notification args
      | exact checked_playSound args
      | exact checked_returnText args
      | exact checked_selectMenuItem args
      | exact checked_setClipboard args
      | exact checked_setVariable args
      | exact checked_switch args
      | exact checked_typeKeystroke args
      | exact checked_whileLoop args

end MacroScribe.Builder
