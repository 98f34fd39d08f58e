import MacroScribe.Proofs.Action.Shape
import MacroScribe.Proofs.Plist.Moving

/-!
# MacroScribe.Proofs.Action.Expansion

Actions as whole property lists. An action is rendered from the inside out: the actions in it are
texts already when its own dictionary is written, and are spliced in as fragments. The *expansion*
of an action has the dictionaries of the actions inside in the place of those texts, each with the
identifier that it gets.

Splicing may change what it moves: the lines inside a key with line feeds are moved in. So there are
two expansions, which differ in what becomes of dictionaries where they are put: with
`Placement.plain` they stay as they are, with `Plist.moved` they are changed as the scanner changes
them.
-/

namespace MacroScribe

open Plist

/-- What becomes of a dictionary that is put a number of levels further in. -/
abbrev Placement := Nat → Plist → Plist

/-- Dictionaries stay as they are. -/
def Placement.plain : Placement := fun _ v => v

/-- How many dictionaries a step writes. -/
def Step.dictCount : Step → Nat
  | notification _ _ _ (.file _) => 2
  | typeKey _ _ (.held _) => 3
  | _ => 1

mutual

/-- How many dictionaries with an identifier an action writes, those inside included. -/
def Action.dictCount : Action → Nat
  | .step s => s.dictCount
  | .group _ actions _ => 1 + dictCountEach actions
  | .switch _ cases => 1 + dictCountCases cases
  | .ifThenElse _ thenActions elseActions _ =>
    1 + dictCountEach elseActions + dictCountEach thenActions
  | .whileLoop _ actions _ _ => 1 + dictCountEach actions

/-- How many dictionaries with an identifier actions write. -/
def dictCountEach : List Action → Nat
  | [] => 0
  | a :: rest => a.dictCount + dictCountEach rest

/-- How many dictionaries with an identifier the actions of cases write. -/
def dictCountCases : List SwitchCase → Nat
  | [] => 0
  | .mk _ _ actions :: rest => dictCountEach actions + dictCountCases rest

end

/-- The dictionaries of frames, numbered from `n`. -/
def numbered (n : Int) : List Frame → List Plist
  | [] => []
  | frame :: rest => .dict (frame n) :: numbered (n + 1) rest

section Expand

variable (place : Placement)

mutual

/-- The dictionaries that an action writes when its first identifier is `n`. -/
def Action.expand (n : Int) : Action → List Plist
  | .step s => numbered n s.frames
  | .group name actions timeout =>
    let children := (expandEach (n + 1) actions).map (place 2)
    [.dict (Frame.group name timeout (.array children) n)]
  | .switch source cases => [.dict (Frame.switch source (.array (expandCases (n + 1) cases)) n)]
  | .ifThenElse conditions thenActions elseActions aborts =>
    let elseChildren := (expandEach (n + 1) elseActions).map (place 2)
    let thenChildren := (expandEach (n + 1 + dictCountEach elseActions) thenActions).map (place 2)
    [.dict (Frame.ifThenElse conditions aborts (.array elseChildren) (.array thenChildren) n)]
  | .whileLoop conditions actions aborts notify =>
    let children := (expandEach (n + 1) actions).map (place 2)
    [.dict (Frame.whileLoop conditions aborts notify (.array children) n)]

/-- The dictionaries that actions write, one after the other. -/
def expandEach (n : Int) : List Action → List Plist
  | [] => []
  | a :: rest => a.expand n ++ expandEach (n + a.dictCount) rest

/-- The cases of a switch. Their actions are two levels further in than those of a group. -/
def expandCases (n : Int) : List SwitchCase → List Plist
  | [] => []
  | .mk operator testValue actions :: rest =>
    .dict (Frame.switchCase operator testValue (.array ((expandEach n actions).map (place 4)))) ::
      expandCases (n + dictCountEach actions) rest

end

end Expand

end MacroScribe
