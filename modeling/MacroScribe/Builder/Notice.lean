import MacroScribe.Builder.Option
/-!
# MacroScribe.Builder.Notice

Builders of the actions that make themselves heard: notifications and sounds. A sound is a file when
it contains a slash; a notification cannot play one by itself.
-/

namespace MacroScribe.Builder

open Parameter

/-- The sound of a notification. -/
def sound (v : Argument) : Sound :=
  if v.truthy then
    match v.holds? "/" with
    | some true => .file (Slot.ofJson v)
    | some false => .named (Slot.ofJson v)
    | none => .named (.broken (.notSearchable v.typeName))
  else .named (.text "")

/-- Showing a notification. -/
def notification : Builder where
  name := "Notification"
  parameters := [emptyText "title", emptyText "body", emptyText "subtitle", emptyText "sound",
    nullable "title_token_preset", nullable "subtitle_token_preset", nullable "body_token_preset"]
  build args := do
    let title ← tokenOr (args.value "title") (args.value "title_token_preset")
    let body ← tokenOr (args.value "body") (args.value "body_token_preset")
    let subtitle ← tokenOr (args.value "subtitle") (args.value "subtitle_token_preset")
    return .step (.notification (Slot.ofJson title) (Slot.ofJson body) (Slot.ofJson subtitle)
      (sound (args.value "sound")))

/-- The file that is played: a given one, or that of a sound of the system. -/
def soundFile (path sound : Argument) : Outcome Slot :=
  let named := Slot.text s!"/System/Library/Sounds/{sound.plainText}.aiff"
  if path.truthy then
    match path.holds? "/" with
    | some true => .ok (Slot.ofJson path)
    | some false => .ok named
    | none => misused (.notSearchable path.typeName)
  else .ok named

/-- Playing a sound. -/
def playSound : Builder where
  name := "PlaySound"
  parameters := [withDefault "sound" (.str "Tink"), nullable "path", flag "asynchronously" true,
    withDefault "volume" (.int 75), flag "timeout_aborts" true]
  build args := do
    let path ← soundFile (args.value "path") (args.value "sound")
    let volume ← percent (args.value "volume")
    return .step (.playSound ⟨path, (args.value "asynchronously").truthy, volume,
      (args.value "timeout_aborts").truthy⟩)

end MacroScribe.Builder
