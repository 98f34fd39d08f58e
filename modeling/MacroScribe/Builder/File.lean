import MacroScribe.Builder.Option
/-!
# MacroScribe.Builder.File

Builders of the actions on files and addresses.
-/

namespace MacroScribe.Builder

open Parameter

/-- Opening a file or a folder. -/
def openFile : Builder where
  name := "Open"
  parameters := [required "path", nullable "application"] ++ Parameter.failure
  build args := do
    let path := args.value "path"
    if !path.truthy then invalid .missingPath
    else return .step (.openFile (Slot.ofJson path) (← application args) (failure args true))

/-- Opening an address. -/
def openUrl : Builder where
  name := "OpenURL"
  parameters := [required "url", nullable "application", nullable "processing_mode",
    flag "open_in_background" false] ++ Parameter.failure ++
    [flag "timeout_aborts" true, flag "notify_on_timeout" true]
  build args := do
    let url := args.value "url"
    if !url.truthy then invalid .missingUrl
    else
      let mode ← processing (args.value "processing_mode")
      let app ← application args
      return .step (.openUrl (Slot.ofJson url) app mode (args.value "open_in_background").truthy
        (failure args true) (timeout args))

/-- What may be done with a file. -/
def fileOperations : List String :=
  ["Reveal", "CreateUnique", "OnlyMove", "OnlyRename", "Move", "Copy", "Duplicate", "Trash",
   "Delete", "RecursiveDelete"]

/-- The operations that have no destination. -/
def singlePathOperations : List String :=
  ["Reveal", "Duplicate", "Trash", "Delete", "RecursiveDelete"]

/-- Moving, copying, removing a file and the like. Only the creation of a unique file has a path to
put its result. -/
def fileOperation : Builder where
  name := "File"
  parameters := [required "operation", emptyText "source", emptyText "destination",
    nullable "output_path"] ++ Parameter.failure
  build args := do
    let operation ← choice "file operation" fileOperations (args.value "operation")
    let destination := if singlePathOperations.contains operation then .text ""
      else Slot.orEmpty (args.value "destination")
    let output := if operation = "CreateUnique" then some (Slot.orEmpty (args.value "output_path"))
      else none
    return .step (.file operation (Slot.orEmpty (args.value "source")) destination output
      (failure args false))

end MacroScribe.Builder
