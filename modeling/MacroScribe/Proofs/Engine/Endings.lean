import MacroScribe.Proofs.Engine.Calls

/-!
# MacroScribe.Proofs.Engine.Endings

How calls end. The endings of the calls to come are given in advance, so the calls that a work makes
are told together with the way in which each one ended (`Host.Makes`).
-/

namespace MacroScribe

variable {α β : Type}

/-! ### Endings -/

namespace Ending

/-- The program came to an end by itself, with whatever status. -/
def isFinished : Ending → Bool
  | finished .. => true
  | _ => false

theorem isFinished_of_isSuccess {ending : Ending} (h : ending.isSuccess) : ending.isFinished := by
  cases ending with
  | finished status output errors => rfl
  | timedOut => cases h
  | missing => cases h

theorem isSuccess_finished (status : Int) (output errors : String) :
    (finished status output errors).isSuccess = decide (status = 0) := by
  unfold isSuccess
  split
  · next h => simp [(finished.inj h).1]
  · next h =>
    have hstatus : status ≠ 0 := fun hzero => h output errors (by rw [hzero])
    simp [hstatus]

end Ending

/-- How a call will end: the next one, or the one after as many others. -/
def Host.ending (host : Host) (i : Nat) : Ending :=
  (host.replies[i]?.getD .silent).ending

theorem Host.ending_zero (host : Host) : host.ending 0 = host.reply.ending := by
  rw [ending, reply, List.head?_eq_getElem?]

theorem Host.ending_eq_of_replies {host last : Host} {n : Nat}
    (h : last.replies = host.replies.drop n) (i : Nat) : last.ending i = host.ending (n + i) := by
  rw [ending, ending, h, List.getElem?_drop]

theorem Host.ending_called (host : Host) (call : Call) (i : Nat) :
    (host.called call).ending i = host.ending (1 + i) :=
  ending_eq_of_replies rfl i

namespace Engine

variable {c : EngineConfig}

theorem isOk_printed? (ending : Ending) : (printed? c ending).isOk = ending.isFinished := by
  cases ending <;> rfl

theorem isOk_imported? (path : String) (ending : Ending) :
    (imported? path (printed? c ending)).isOk = ending.isSuccess := by
  cases ending with
  | timedOut => rfl
  | missing => rfl
  | finished status output errors =>
    change (if status = 0 then .ok () else .error _ : Outcome Unit).isOk = _
    rw [Ending.isSuccess_finished]
    by_cases hstatus : status = 0
    · rw [if_pos hstatus, decide_eq_true hstatus]
      rfl
    · rw [if_neg hstatus, decide_eq_false hstatus]
      rfl

end Engine

/-! ### Calls that are made -/

/-- From one host to another, these calls were made, and ended like this. -/
structure Host.Makes (host last : Host) (made : List (Call × Ending)) : Prop where
  calls : last.calls = host.calls ++ made.map Prod.fst
  endings : made.map Prod.snd = (List.range made.length).map host.ending
  replies : last.replies = host.replies.drop made.length

namespace Host.Makes

variable {host between last : Host} {made more : List (Call × Ending)}

theorem nil (hcalls : last.calls = host.calls) (hreplies : last.replies = host.replies) :
    host.Makes last [] :=
  ⟨hcalls.trans (List.append_nil _).symm, rfl, hreplies⟩

theorem called (host : Host) (call : Call) :
    host.Makes (host.called call) [(call, host.reply.ending)] where
  calls := rfl
  endings := congrArg (fun ending => [ending]) host.ending_zero.symm
  replies := rfl

theorem trans (h : host.Makes between made) (h' : between.Makes last more) :
    host.Makes last (made ++ more) where
  calls := by rw [h'.calls, h.calls, List.map_append, List.append_assoc]
  endings := by
    have hshift : between.ending = fun i => host.ending (made.length + i) :=
      funext fun i => ending_eq_of_replies h.replies i
    rw [List.map_append, h.endings, h'.endings, List.length_append, List.range_add, List.map_append,
      List.map_map, hshift]
    rfl
  replies := by rw [h'.replies, h.replies, List.drop_drop, List.length_append]

end Host.Makes

namespace Work

/-- All calls that the work makes are of this kind, whatever becomes of it. -/
def MakesOnly (P : Call → Prop) (work : Work α) : Prop :=
  ∀ host : Host, ∃ made, host.Makes (work.run host).2 made ∧ ∀ m ∈ made, P m.1

variable {P : Call → Prop}

/-- Work that leaves calls alone makes none. -/
theorem makesOnly_of_quiet {work : Work α} (hcalls : ∀ host, (work.run host).2.calls = host.calls)
    (hreplies : ∀ host, (work.run host).2.replies = host.replies) : MakesOnly P work :=
  fun host => ⟨[], .nil (hcalls host) (hreplies host), List.forall_mem_nil _⟩

theorem makesOnly_pure (a : α) : MakesOnly P (pure a) :=
  makesOnly_of_quiet (fun _ => rfl) fun _ => rfl

theorem makesOnly_throw (e : Fault) : MakesOnly P (throw e : Work α) :=
  makesOnly_of_quiet (fun _ => rfl) fun _ => rfl

theorem makesOnly_ofOutcome (result : Outcome α) : MakesOnly P (ofOutcome result) :=
  makesOnly_of_quiet (fun _ => rfl) fun _ => rfl

theorem makesOnly_get : MakesOnly P (get : Work Host) :=
  makesOnly_of_quiet (fun _ => rfl) fun _ => rfl

theorem makesOnly_bind {work : Work α} {next : α → Work β} (h : MakesOnly P work)
    (hnext : ∀ a, MakesOnly P (next a)) : MakesOnly P (work >>= next) := by
  intro host
  obtain ⟨made, hmade, hP⟩ := h host
  rcases hrun : work.run host with ⟨e | a, between⟩
  · rw [Outcome.run_bind_of_error hrun]
    rw [hrun] at hmade
    exact ⟨made, hmade, hP⟩
  · rw [Outcome.run_bind_of_ok hrun]
    rw [hrun] at hmade
    obtain ⟨more, hmore, hP'⟩ := hnext a between
    exact ⟨made ++ more, hmade.trans hmore, List.forall_mem_append.mpr ⟨hP, hP'⟩⟩

end Work

namespace Engine

/-- The call runs a script in the dialect of the engine. -/
def RunsJxa (call : Call) : Prop :=
  ∃ program script, call.command = [program, "-l", "JavaScript", "-e", script]

/-- Running a script is one call, if it is any. -/
theorem makes_ranOn (c : EngineConfig) (host : Host) (command : List String) (script : String) :
    ∃ made, host.Makes (ranOn c host command script) made ∧
      ∀ m ∈ made, m.1.command = command ++ [script] := by
  unfold ranOn
  split
  · exact ⟨_, .called host _, List.forall_mem_singleton.mpr rfl⟩
  · exact ⟨[], .nil rfl rfl, List.forall_mem_nil _⟩

theorem makesOnly_runJxa (c : EngineConfig) (script : String) :
    Work.MakesOnly RunsJxa (runJxa c script) := by
  cases hname : c.osascript.str? with
  | none =>
    have hthrow : runJxa c script = throw (.misuse (.notName c.osascript.typeName)) := by
      rw [runJxa, callProgram, hname]
    rw [hthrow]
    exact Work.makesOnly_throw _
  | some program =>
    intro host
    have hrun : (runJxa c script).run host = _ :=
      run_callProgram (Json.eq_str_of_str? hname) isOptions_jxa script host
    obtain ⟨made, hmade, hcommand⟩ :=
      makes_ranOn c host [program, "-l", "JavaScript", "-e"] script
    refine ⟨made, ?_, fun m hm => ⟨program, script, hcommand m hm⟩⟩
    rw [hrun]
    exact hmade

theorem makesOnly_run (c : EngineConfig) (r : RunRequest) : Work.MakesOnly RunsJxa (run c r) := by
  have hreport (log : EngineLog) (p : Printed) (complaints : List String) :
      Work.MakesOnly RunsJxa (run.report log p complaints) :=
    Work.makesOnly_bind Work.makesOnly_get fun _ => Work.makesOnly_pure _
  unfold run
  split
  · exact Work.makesOnly_pure _
  · refine Work.makesOnly_bind Work.makesOnly_get fun host => ?_
    refine Work.makesOnly_bind (Work.makesOnly_ofOutcome _) fun xml => ?_
    refine Work.makesOnly_bind (Work.makesOnly_ofOutcome _) fun path => ?_
    refine Work.makesOnly_bind (Work.makesOnly_ofOutcome _) fun log => ?_
    refine Work.makesOnly_bind (makesOnly_runJxa c _) fun p => ?_
    cases complaint? p with
    | none => exact hreport log p []
    | some message =>
      cases r.captures with
      | true => exact Work.makesOnly_throw _
      | false => exact hreport log p [message]

end Engine
end MacroScribe
