import MacroScribe.Json.Basic
import MacroScribe.Plist.Basic
/-!
# MacroScribe.Action.Policy

Groups of entries that recur in actions: what happens when an action fails or takes too long, and
how a text is processed. A policy is only written where it differs from the engine's default.
-/

namespace MacroScribe

/-- An entry that is written when it has a value. -/
def optionalEntry (key : String) (value : Option Plist) : List Entry :=
  (value.map fun v => (key, v)).toList

/-- What happens when an action fails. -/
structure FailurePolicy where
  /-- Whether the macro stops; `none` is the default of the action. -/
  stop : Option Bool
  /-- The failure is not reported. -/
  silent : Bool
  deriving Repr, DecidableEq

namespace FailurePolicy

/-- The choice that a value makes: none if it is null or equals the default. -/
def choice {ω : Type} (value standard : Json ω) : Option Bool :=
  if value.isNull || value.same standard then none else some value.truthy

/-- The value is exactly false. -/
def isFalse {ω : Type} : Json ω → Bool
  | .bool false => true
  | _ => false

/-- The policy that two values describe, where stopping or going on is the default. -/
def ofValues {ω : Type} (stop notify : Json ω) (standard : Bool) : FailurePolicy where
  stop := choice stop (.bool standard)
  silent := isFalse notify

/-- The entry about stopping. -/
def stopEntries (policy : FailurePolicy) : List Entry :=
  optionalEntry "StopOnFailure" (policy.stop.map .bool)

/-- The entry about reporting. -/
def notifyEntries (policy : FailurePolicy) : List Entry :=
  if policy.silent then [("NotifyOnFailure", .bool false)] else []

end FailurePolicy

/-- What happens when an action takes too long. -/
structure TimeoutPolicy where
  /-- The macro is aborted. -/
  aborts : Bool
  /-- Whether this is reported; `none` is the default, to report it exactly if the macro is
  aborted. -/
  notify : Option Bool
  deriving Repr, DecidableEq

namespace TimeoutPolicy

/-- The policy that two values describe. -/
def ofValues {ω : Type} (aborts notify : Json ω) : TimeoutPolicy where
  aborts := aborts.truthy
  notify := if aborts.same notify then none else some notify.truthy

/-- The entry about reporting. -/
def notifyEntries (policy : TimeoutPolicy) : List Entry :=
  optionalEntry "NotifyOnTimeOut" (policy.notify.map .bool)

/-- The entry about aborting. -/
def abortEntries (policy : TimeoutPolicy) : List Entry :=
  [("TimeOutAbortsMacro", .bool policy.aborts)]

/-- Both entries. -/
def entries (policy : TimeoutPolicy) : List Entry :=
  policy.notifyEntries ++ policy.abortEntries

end TimeoutPolicy

/-- A text with the way in which it is processed, if one is given. -/
def textEntries (text : String) (mode : Option Plist) : List Entry :=
  ("Text", .compactText text) :: optionalEntry "TextProcessingMode" mode

end MacroScribe
