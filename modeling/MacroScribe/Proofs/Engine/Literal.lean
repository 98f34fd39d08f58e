import MacroScribe.Proofs.Engine.Calls

/-!
# MacroScribe.Proofs.Engine.Literal

No text breaks out of a script. A script is read by the rules of its language, as code with literals
in it. Whatever the texts are that a request puts into its script, the reader finds the code of the
request, and in it one literal for each text that denotes just that text.

The reader only knows the part of the languages that scripts are made of: it gives up at a comment,
at another sort of literal and at the longer escapes, so what it does read is read as the language
has it. It goes from character to character, in code or in a literal; an escaped text followed by a
quote takes it through one literal, whatever stands behind (`readLiteral_escaped`).

The script that runs a document is not made of escaped texts: its two arguments are written as JSON,
and it has a reader of its own (`readRun?`).
-/

namespace MacroScribe

/-- The system takes the texts that the literals of a script denote. -/
def Host.TakesLiterals (host : Host) (pieces : List Script.Piece) : Prop :=
  ∀ text, .literal text ∈ pieces → host.objection? text = none

namespace Host.TakesLiterals

variable {host : Host} {text : String} {pieces : List Script.Piece}

theorem literal_cons :
    host.TakesLiterals (.literal text :: pieces) ↔
      host.objection? text = none ∧ host.TakesLiterals pieces := by
  simp only [TakesLiterals, List.mem_cons, Script.Piece.literal.injEq, or_imp, forall_and,
    forall_eq]

theorem code_cons :
    host.TakesLiterals (.code text :: pieces) ↔ host.TakesLiterals pieces := by
  simp [TakesLiterals]

end Host.TakesLiterals

namespace Script

theorem quote_javaScript : javaScript.quote = '\'' := rfl

theorem quote_appleScript : appleScript.quote = '"' := rfl

/-! ### Written scripts -/

section

variable {d : Dialect} {escape : Char → List Char}

/-- A part of a script as it is written, if `escape` says how a character of a text is. -/
def Piece.written (d : Dialect) (escape : Char → List Char) : Piece → List Char
  | code text => text.toList
  | literal text => d.quote :: (text.toList.flatMap escape ++ [d.quote])

/-- The text is code without literals, in ASCII. -/
def Dialect.isCode (d : Dialect) (text : String) : Bool :=
  text != "" && text.toList.all (fun c => c != d.quote && !d.isOpening c) &&
    decide (Text.IsPlain text.toList)

/-- Code is plain, and nothing in it opens a literal or a comment. -/
theorem isCode_iff {text : String} :
    d.isCode text ↔ text ≠ "" ∧
      text.toList.all (fun c => c != d.quote && !d.isOpening c) = true ∧
        Text.IsPlain text.toList := by
  rw [Dialect.isCode, Bool.and_eq_true, Bool.and_eq_true, bne_iff_ne, decide_eq_true_eq, and_assoc]

/-- What is code is code, and the parts are the longest that there are. -/
def Separate (d : Dialect) : List Piece → Prop
  | [] => True
  | .literal _ :: rest => Separate d rest
  | .code text :: [] => d.isCode text
  | .code text :: .literal _ :: rest => d.isCode text ∧ Separate d rest
  | .code _ :: .code _ :: _ => False

/-- What is written for a character denotes it, wherever in a literal it stands. -/
def Denotes (d : Dialect) (escape : Char → List Char) : Prop :=
  ∀ c done rest, readLiteral d done (escape c ++ rest) = readLiteral d (done ++ [c]) rest

/-- One character of a literal: it ends the literal, spoils it, or is part of it. -/
theorem readLiteral_cons {c : Char} (hc : c ≠ '\\') (done rest : List Char) :
    readLiteral d done (c :: rest) =
      if c = d.quote then (readCode d [] rest).map (.literal (String.ofList done) :: ·)
      else if d.isBarred c then none
      else readLiteral d (done ++ [c]) rest := by
  rw [readLiteral]
  · exact fun h => absurd h hc
  · exact fun _ _ h => absurd h hc

/-- An escaped text is read up to the quote behind it. -/
theorem readLiteral_escaped (he : Denotes d escape) (text done rest : List Char) :
    readLiteral d done (text.flatMap escape ++ d.quote :: rest) =
      (readCode d [] rest).map (.literal (String.ofList (done ++ text)) :: ·) := by
  induction text generalizing done with
  | nil => rw [List.flatMap_nil, List.nil_append, readLiteral_cons d.quote_ne, if_pos rfl,
      List.append_nil]
  | cons c text ih =>
    rw [List.flatMap_cons, List.append_assoc, he, ih, List.append_assoc, List.singleton_append]

/-- Code is read up to where it ends. -/
theorem readCode_append {text : List Char}
    (h : text.all (fun c => c != d.quote && !d.isOpening c) = true) (done rest : List Char) :
    readCode d done (text ++ rest) = readCode d (done ++ text) rest := by
  induction text generalizing done with
  | nil => rw [List.nil_append, List.append_nil]
  | cons c text ih =>
    rw [List.all_cons, Bool.and_eq_true, Bool.and_eq_true, bne_iff_ne, Bool.not_eq_true'] at h
    obtain ⟨⟨hquote, hopening⟩, htext⟩ := h
    rw [List.cons_append, readCode, if_neg hquote, if_neg (by simp [hopening]), ih htext,
      List.append_assoc, List.singleton_append]

/-- After code comes a literal, and reading goes on behind it. -/
theorem readCode_literal (he : Denotes d escape) (text : String) (done rest : List Char) :
    readCode d done ((Piece.literal text).written d escape ++ rest) =
      (readCode d [] rest).map (codeBefore done ++ .literal text :: ·) := by
  rw [Piece.written, List.cons_append, List.append_assoc, List.singleton_append, readCode,
    if_pos rfl, readLiteral_escaped he, Option.map_map, List.nil_append, String.ofList_toList]
  rfl

theorem codeBefore_toList {text : String} (h : text ≠ "") :
    codeBefore text.toList = [.code text] := by
  rw [codeBefore, if_neg (by simpa using h), String.ofList_toList]

/-- A script reads as the parts that it was made of. -/
theorem readCode_written (he : Denotes d escape) (pieces : List Piece) (h : Separate d pieces) :
    readCode d [] (pieces.flatMap (·.written d escape)) = some pieces := by
  induction pieces using Separate.induct with
  | case1 => rfl
  | case2 text rest ih =>
    rw [List.flatMap_cons, readCode_literal he, ih h]
    rfl
  | case3 text =>
    obtain ⟨hne, hcode, -⟩ := isCode_iff.mp h
    rw [List.flatMap_singleton, Piece.written, ← List.append_nil text.toList,
      readCode_append hcode, List.nil_append, readCode, codeBefore_toList hne]
  | case4 text literal rest ih =>
    obtain ⟨htext, hrest⟩ := h
    obtain ⟨hne, hcode, -⟩ := isCode_iff.mp htext
    rw [List.flatMap_cons, List.flatMap_cons, Piece.written, readCode_append hcode,
      readCode_literal he, ih hrest, List.nil_append, codeBefore_toList hne]
    rfl
  | case5 => exact h.elim

end

/-! ### Escaped texts -/

theorem readLiteral_plain {d : Dialect} {c : Char} (hc : c ≠ '\\') (hquote : c ≠ d.quote)
    (hbarred : d.isBarred c = false) (done rest : List Char) :
    readLiteral d done (c :: rest) = readLiteral d (done ++ [c]) rest := by
  rw [readLiteral_cons hc, if_neg hquote, if_neg (by simp [hbarred])]

/-- Each escape of a JavaScript literal stands for its character. -/
theorem denotes_single : Denotes javaScript escapeSingleChar := by
  intro c done rest
  unfold escapeSingleChar
  by_cases hquoted : c = '\\' ∨ c = '\''
  · rw [if_pos hquoted]
    rcases hquoted with rfl | rfl <;> rfl
  · rw [if_neg hquoted]
    by_cases hn : c = '\n'
    · subst hn; rfl
    · rw [if_neg hn]
      by_cases hr : c = '\r'
      · subst hr; rfl
      · rw [if_neg hr]
        obtain ⟨hback, hquote⟩ := not_or.mp hquoted
        exact readLiteral_plain hback hquote (by simp [javaScript, hn, hr]) done rest

/-- Each escape of an AppleScript literal stands for its character. -/
theorem denotes_double : Denotes appleScript escapeDoubleChar := by
  intro c done rest
  unfold escapeDoubleChar
  by_cases hquoted : c = '\\' ∨ c = '"'
  · rw [if_pos hquoted]
    rcases hquoted with rfl | rfl <;> rfl
  · rw [if_neg hquoted]
    obtain ⟨hback, hquote⟩ := not_or.mp hquoted
    exact readLiteral_plain hback hquote rfl done rest

/-! ### The scripts -/

/-- The script is written as these parts are. -/
def Consists (d : Dialect) (escape : Char → List Char) (script : String) (pieces : List Piece) :
    Prop :=
  script.toList = pieces.flatMap (·.written d escape) ∧ Separate d pieces

/-- A script is read as the pieces that it consists of. -/
theorem Consists.read {d : Dialect} {escape : Char → List Char} {script : String}
    {pieces : List Piece} (h : Consists d escape script pieces) (he : Denotes d escape) :
    read d script = some pieces := by
  unfold Script.read
  rw [h.1]
  exact readCode_written he pieces h.2

/-- What is written for a character is the character, or another writing of an ASCII character in
printable ones. -/
def StaysPlain (escape : Char → List Char) : Prop :=
  ∀ c, escape c = [c] ∨ Text.IsPlain (escape c) ∧ c ≠ '\x00' ∧ c.toNat < 0x80

/-- The escapes of a JavaScript literal are printable. -/
theorem staysPlain_single : StaysPlain escapeSingleChar := by
  intro c
  unfold escapeSingleChar
  split
  · next h => rcases h with rfl | rfl <;> exact .inr (by decide)
  · split
    · next h => subst h; exact .inr (by decide)
    · split
      · next h => subst h; exact .inr (by decide)
      · exact .inl rfl

/-- And so are those of an AppleScript literal. -/
theorem staysPlain_double : StaysPlain escapeDoubleChar := by
  intro c
  unfold escapeDoubleChar
  split
  · next h => rcases h with rfl | rfl <;> exact .inr (by decide)
  · exact .inl rfl

section

variable {d : Dialect} {escape : Char → List Char} {host : Host}

/-- Whatever else the system does not take, it takes plain characters. -/
theorem takes_of_isPlain {s : List Char} (h : Text.IsPlain s) : ∀ c ∈ s, host.Takes c := by
  have htext : Text.IsPlain (String.ofList s).toList := by rwa [String.toList_ofList]
  have htakes := Host.objection?_eq_none_iff.mp (host.objection?_of_isPlain htext)
  rwa [String.toList_ofList] at htakes

/-- Escaping does not change whether a text can be passed on. -/
theorem takes_escaped (hs : StaysPlain escape) (s : List Char) :
    (∀ c ∈ s.flatMap escape, host.Takes c) ↔ ∀ c ∈ s, host.Takes c := by
  simp only [List.mem_flatMap, forall_exists_index, and_imp]
  rw [forall_comm]
  refine forall_congr' fun c => ?_
  rw [forall_comm]
  refine forall_congr' fun hc => ?_
  rcases hs c with h | ⟨hplain, hnull, hascii⟩
  · simp [h]
  · exact iff_of_true (takes_of_isPlain hplain) (host.takes_of_ascii hnull hascii)

/-- Nor do the quotes around it. -/
theorem takes_literal (hs : StaysPlain escape) (hquote : Text.IsPlain [d.quote]) (text : String) :
    (∀ c ∈ (Piece.literal text).written d escape, host.Takes c) ↔
      host.objection? text = none := by
  have hq : host.Takes d.quote := takes_of_isPlain hquote _ (List.mem_singleton_self _)
  rw [Host.objection?_eq_none_iff, ← takes_escaped hs text.toList, Piece.written,
    List.forall_mem_cons, List.forall_mem_append, List.forall_mem_singleton, and_iff_right hq,
    and_iff_left hq]

/-- A script can be passed on if its literals can. -/
theorem takes_written (hs : StaysPlain escape) (hquote : Text.IsPlain [d.quote])
    (pieces : List Piece) (h : Separate d pieces) :
    (∀ c ∈ pieces.flatMap (·.written d escape), host.Takes c) ↔ host.TakesLiterals pieces := by
  have hcode {text : String} (htext : d.isCode text = true) :
      ∀ c ∈ (Piece.code text).written d escape, host.Takes c :=
    takes_of_isPlain (isCode_iff.mp htext).2.2
  induction pieces using Separate.induct with
  | case1 => exact iff_of_true (List.forall_mem_nil _) fun _ h => absurd h List.not_mem_nil
  | case2 text rest ih =>
    rw [List.flatMap_cons, List.forall_mem_append, takes_literal hs hquote,
      Host.TakesLiterals.literal_cons]
    exact and_congr_right fun _ => ih h
  | case3 text =>
    rw [List.flatMap_singleton, Host.TakesLiterals.code_cons]
    exact iff_of_true (hcode h) fun _ h => absurd h List.not_mem_nil
  | case4 text literal rest ih =>
    obtain ⟨htext, hrest⟩ := h
    rw [List.flatMap_cons, List.flatMap_cons, List.forall_mem_append, List.forall_mem_append,
      takes_literal hs hquote, Host.TakesLiterals.code_cons, Host.TakesLiterals.literal_cons,
      and_iff_right (hcode htext)]
    exact and_congr_right fun _ => ih hrest
  | case5 => exact h.elim

/-- A script can be passed on if its literals can. -/
theorem Consists.objection? {script : String} {pieces : List Piece}
    (h : Consists d escape script pieces) (hs : StaysPlain escape)
    (hquote : Text.IsPlain [d.quote]) :
    host.objection? script = none ↔ host.TakesLiterals pieces := by
  rw [Host.objection?_eq_none_iff, h.1]
  exact takes_written hs hquote pieces h.2

end

/-- The five scripts, piece by piece. -/
theorem runNamed_consists (app name parameter : String) :
    Consists javaScript escapeSingleChar (runNamed app name parameter)
      [.code "var kme = Application(", .literal app, .code "); kme.doScript(", .literal name,
        .code ", \x7b withParameter: ", .literal parameter, .code " \x7d);"] := by
  constructor
  · unfold runNamed
    simp only [escapeSingle, toString, String.toList_append, String.toList_ofList,
      String.reduceToList, List.flatMap_cons, List.flatMap_nil, Piece.written, quote_javaScript,
      List.append_assoc, List.cons_append, List.nil_append]
  · exact ⟨by decide, by decide, by decide, (by decide : javaScript.isCode _ = true)⟩

theorem importFile_consists (app path : String) :
    Consists appleScript escapeDoubleChar (importFile app path)
      [.code "tell application ", .literal app, .code " to importMacros (POSIX file ",
        .literal path, .code " as alias)"] := by
  constructor
  · unfold importFile tell
    simp only [escapeDouble, String.toList_append, String.toList_ofList,
      String.reduceToList, List.flatMap_cons, List.flatMap_nil, Piece.written, quote_appleScript,
      List.append_assoc, List.cons_append, List.nil_append]
  · exact ⟨by decide, by decide, (by decide : appleScript.isCode _ = true)⟩

theorem delete_consists (app name : String) :
    Consists appleScript escapeDoubleChar (delete app name)
      [.code "tell application ", .literal app, .code " to deleteMacro ", .literal name] := by
  constructor
  · unfold delete tell
    simp only [escapeDouble, String.toList_append, String.toList_ofList,
      String.reduceToList, List.flatMap_cons, List.flatMap_nil, Piece.written, quote_appleScript,
      List.append_assoc, List.cons_append, List.nil_append]
  · exact ⟨by decide, by decide, trivial⟩

/-- How a script says to which instance a variable belongs. -/
def instancePieces (id : Option String) : List Piece :=
  id.elim [] fun id => [.code " instance ", .literal id]

theorem readVariable_consists (app name : String) (id : Option String) :
    Consists appleScript escapeDoubleChar (readVariable app name id)
      ([.code "tell application ", .literal app, .code " to getvariable ", .literal name] ++
        instancePieces id) := by
  constructor
  · unfold readVariable tell inInstance instancePieces
    cases id <;> simp only [Option.elim, escapeDouble,
      String.toList_append, String.toList_ofList, String.reduceToList, List.flatMap_cons,
      List.flatMap_nil, Piece.written, quote_appleScript, List.append_assoc, List.cons_append,
      List.nil_append, List.append_nil]
  · cases id with
    | none => exact ⟨by decide, by decide, trivial⟩
    | some id => exact ⟨by decide, by decide, by decide, trivial⟩

theorem writeVariable_consists (app name value : String) (id : Option String) :
    Consists appleScript escapeDoubleChar (writeVariable app name value id)
      ([.code "tell application ", .literal app, .code " to setvariable ", .literal name,
        .code " to ", .literal value] ++ instancePieces id) := by
  constructor
  · unfold writeVariable tell inInstance instancePieces
    cases id <;> simp only [Option.elim, escapeDouble,
      String.toList_append, String.toList_ofList, String.reduceToList, List.flatMap_cons,
      List.flatMap_nil, Piece.written, quote_appleScript, List.append_assoc, List.cons_append,
      List.nil_append, List.append_nil]
  · cases id with
    | none => exact ⟨by decide, by decide, by decide, trivial⟩
    | some id => exact ⟨by decide, by decide, by decide, by decide, trivial⟩

/-! ### Scripts that run documents

The name of the application is any JSON value there, which is an argument of a call. The document is
a literal in double quotes, which is read as JSON has it.
-/

/-- What follows some code that a script begins with. -/
def after? (code : String) (s : List Char) : Option (List Char) :=
  if code.toList.isPrefixOf s then some (s.drop code.toList.length) else none

/-- The text of the literal in double quotes that a script begins with, and what follows it. -/
def quoted? : List Char → Option (String × List Char)
  | '"' :: s =>
    (Json.readText (s.length + 1) [] s).map fun (text, rest) => (String.ofList text, rest)
  | _ => none

/-- The argument that a call begins with, up to the parenthesis that closes the call, and what
follows it. `quoted` says whether a literal in double quotes has begun. -/
def argument? : Bool → List Char → List Char → Option (List Char × List Char)
  | _, _, [] => none
  | true, done, '\\' :: c :: rest => argument? true (done ++ ['\\', c]) rest
  | quoted, done, c :: rest =>
    if c = '"' then argument? (!quoted) (done ++ [c]) rest
    else if c = ')' ∧ quoted = false then some (done, c :: rest)
    else argument? quoted (done ++ [c]) rest

/-- The application and the document of a script in which the application runs the document. The
application is given as it stands there. -/
def readRun? (script : String) : Option (String × String) := do
  let s ← after? "Application(" script.toList
  let (app, s) ← argument? false [] s
  let s ← after? ").doScript(" s
  let (document, s) ← quoted? s
  if s = [')'] then some (String.ofList app, document) else none

theorem after?_append (code : String) (s : List Char) :
    after? code (code.toList ++ s) = some s := by
  rw [after?, if_pos (List.isPrefixOf_iff_prefix.mpr (List.prefix_append _ _)), List.drop_left]

/-- A text that is written as JSON is read back, and what follows is left. -/
theorem quoted?_writeText (text rest : List Char) :
    quoted? (Json.writeText text ++ rest) = some (String.ofList text, rest) := by
  have hfuel : text.length < (text.flatMap Json.writeChar ++ '"' :: rest).length + 1 := by
    have hlength := Json.length_le_flatMap_writeChar text
    rw [List.length_append]
    omega
  have hread := Json.readText_writeChars text [] rest hfuel
  have htext :
      Json.writeText text ++ rest = '"' :: (text.flatMap Json.writeChar ++ '"' :: rest) := by
    simp [Json.writeText]
  rw [htext, quoted?, hread]
  rfl

/-- A quote begins a literal or ends one. -/
theorem argument?_quote (quoted : Bool) (done rest : List Char) :
    argument? quoted done ('"' :: rest) = argument? (!quoted) (done ++ ['"']) rest := by
  rw [argument?, if_pos rfl]
  rintro _ _ rfl h
  cases h

/-- In code, a closing parenthesis ends the argument. -/
theorem argument?_close (done rest : List Char) :
    argument? false done (')' :: rest) = some (done, ')' :: rest) := by
  rw [argument?, if_neg (by decide), if_pos ⟨rfl, rfl⟩]
  rintro _ _ h
  cases h

/-- The text is part of the argument, and what follows it is read as if nothing had been before. -/
def Passed (quoted : Bool) (s : List Char) : Prop :=
  ∀ done rest, argument? quoted done (s ++ rest) = argument? quoted (done ++ s) rest

theorem Passed.nil (quoted : Bool) : Passed quoted [] := by
  intro done rest
  rw [List.nil_append, List.append_nil]

theorem Passed.append {quoted : Bool} {s t : List Char} (hs : Passed quoted s)
    (ht : Passed quoted t) : Passed quoted (s ++ t) := by
  intro done rest
  rw [List.append_assoc, hs, ht, List.append_assoc]

/-- Characters that begin and end nothing. -/
theorem passed_of_not_mem {quoted : Bool} {s : List Char} (hquote : '"' ∉ s)
    (hstop : (if quoted then '\\' else ')') ∉ s) : Passed quoted s := by
  induction s with
  | nil => exact .nil quoted
  | cons c s ih =>
    obtain ⟨hc, hquote⟩ := not_or.mp (List.mem_cons.not.mp hquote)
    obtain ⟨hc', hstop⟩ := not_or.mp (List.mem_cons.not.mp hstop)
    have hone : Passed quoted [c] := by
      intro done rest
      rw [List.singleton_append, argument?, if_neg (Ne.symm hc), if_neg]
      · rintro ⟨rfl, rfl⟩
        exact hc' rfl
      · rintro _ _ rfl rfl
        exact absurd rfl hc'
    exact hone.append (ih hquote hstop)

theorem passed_escape (c : Char) : Passed true ['\\', c] :=
  fun _ _ => rfl

theorem passed_unicode (n : Nat) : Passed true ('\\' :: 'u' :: Text.hexDigits 4 n) := by
  have hdigit : ∀ k < 16, Nat.digitChar k ≠ '"' ∧ Nat.digitChar k ≠ '\\' := by decide
  refine (passed_escape 'u').append (passed_of_not_mem (fun h => ?_) fun h => ?_)
  · obtain ⟨i, -, hi⟩ := List.mem_map.mp h
    exact (hdigit _ (Nat.mod_lt _ (by decide))).1 hi
  · obtain ⟨i, -, hi⟩ := List.mem_map.mp h
    exact (hdigit _ (Nat.mod_lt _ (by decide))).2 hi

/-- A literal is not ended by a character that is written in it. -/
theorem passed_writeChar (c : Char) : Passed true (Json.writeChar c) := by
  unfold Json.writeChar
  split
  · exact passed_escape c
  · next hquoted =>
    obtain ⟨hquote, hback⟩ := not_or.mp hquoted
    split <;> [exact passed_escape 'n'; skip]
    split <;> [exact passed_escape 'r'; skip]
    split <;> [exact passed_escape 't'; skip]
    split <;> [exact passed_escape 'b'; skip]
    split <;> [exact passed_escape 'f'; skip]
    split
    · exact passed_of_not_mem (by simpa using Ne.symm hquote) (by simpa using Ne.symm hback)
    · split
      · exact passed_unicode _
      · exact (passed_unicode _).append (passed_unicode _)

/-- Nor is an argument ended by a literal in it. -/
theorem passed_writeText (s : List Char) : Passed false (Json.writeText s) := by
  have hchars : Passed true (s.flatMap Json.writeChar) := by
    induction s with
    | nil => exact .nil true
    | cons c s ih => exact (passed_writeChar c).append ih
  intro done rest
  rw [Json.writeText, List.cons_append, List.cons_append, argument?_quote, List.append_assoc]
  exact (hchars _ _).trans ((argument?_quote true _ _).trans (by simp))

theorem passed_of_all {s : List Char} (h : s.all Decimal.isNumeralChar) : Passed false s :=
  passed_of_not_mem (Decimal.not_mem_of_all h (by decide)) (Decimal.not_mem_of_all h (by decide))

theorem passed_writeFloat (x : Float) : Passed false (Json.writeFloat x) := by
  unfold Json.writeFloat
  split
  · exact passed_of_not_mem (by decide) (by decide)
  · split <;> exact passed_of_not_mem (by decide) (by decide)
  · exact passed_of_all (Decimal.all_floatText x)

theorem passed_intercalate {parts : List (List Char)} (h : ∀ s ∈ parts, Passed false s) :
    Passed false ([',', ' '].intercalate parts) := by
  induction parts with
  | nil => exact .nil false
  | cons s parts ih =>
    obtain ⟨hs, hrest⟩ := List.forall_mem_cons.mp h
    cases parts with
    | nil => simpa using hs
    | cons t parts =>
      rw [List.intercalate_cons_cons]
      exact (hs.append (passed_of_not_mem (by decide) (by decide))).append (ih hrest)

section

variable {ω : Type}

mutual

/-- What is written of data, whatever is in it, is one argument. -/
theorem passed_write : ∀ v : Json ω, Passed false v.write
  | .null => passed_of_not_mem (s := "null".toList) (by decide) (by decide)
  | .bool b => by
    rw [Json.write]
    cases b <;> exact passed_of_not_mem (by decide) (by decide)
  | .int n => passed_of_all (Decimal.all_intText n)
  | .float x => passed_writeFloat x
  | .str s => passed_writeText s.toList
  | .embed _ => passed_of_not_mem (s := "null".toList) (by decide) (by decide)
  | .list items =>
    ((passed_of_not_mem (s := ['[']) (by decide) (by decide)).append
      (passed_intercalate (passed_writeItems items))).append
      (passed_of_not_mem (by decide) (by decide))
  | .obj fields =>
    ((passed_of_not_mem (s := ['\x7b']) (by decide) (by decide)).append
      (passed_intercalate (passed_writeFields fields))).append
      (passed_of_not_mem (by decide) (by decide))

theorem passed_writeItems : ∀ items : List (Json ω), ∀ s ∈ Json.writeItems items, Passed false s
  | [] => List.forall_mem_nil _
  | v :: rest => List.forall_mem_cons.mpr ⟨passed_write v, passed_writeItems rest⟩

theorem passed_writeFields :
    ∀ fields : List (String × Json ω), ∀ s ∈ Json.writeFields fields, Passed false s
  | [] => List.forall_mem_nil _
  | (k, v) :: rest => by
    have hcolon : Passed false [':', ' '] := passed_of_not_mem (by decide) (by decide)
    exact List.forall_mem_cons.mpr
      ⟨(passed_writeText k.toList).append (hcolon.append (passed_write v)),
        passed_writeFields rest⟩

end

/-- The application and the document in a script that runs a document are found again. -/
theorem readRun?_runDocument (app : Json ω) (document : String) :
    readRun? (runDocument app.writeString (Json.str document : Data).writeString) =
      some (app.writeString, document) := by
  have hscript : (runDocument app.writeString (Json.str document : Data).writeString).toList =
      "Application(".toList ++ (app.write ++ (").doScript(".toList ++
        (Json.writeText document.toList ++ [')']))) := by
    unfold runDocument
    simp only [toString, String.toList_append, Json.writeString, Json.write, String.toList_ofList,
      List.append_assoc, String.reduceToList]
  have happ : argument? false [] (app.write ++ (").doScript(".toList ++
      (Json.writeText document.toList ++ [')']))) =
      some (app.write, ").doScript(".toList ++ (Json.writeText document.toList ++ [')'])) :=
    (passed_write app _ _).trans (argument?_close _ _)
  unfold readRun?
  simp only [hscript, happ, after?_append, quoted?_writeText, Option.bind_eq_bind, Option.bind_some,
    if_pos, String.ofList_toList]
  rfl

end

end Script

/-! ### What requests send -/

namespace Engine

open Script

/-- The work makes one call, of a script that reads as the given parts, if the system takes the
texts that the literals denote, and none otherwise; or there is no script for it to run. -/
def Sends {α : Type} (d : Dialect) (command : List String) (work : Work α) (host : Host) :
    Option (List Piece) → Prop
  | none => (work.run host).2.calls = host.calls
  | some pieces => ∃ script, read d script = some pieces ∧
      (host.TakesLiterals pieces → ∃ timeout files,
        (work.run host).2.calls = host.calls ++ [⟨command ++ [script], timeout, files⟩]) ∧
      (¬host.TakesLiterals pieces → (work.run host).2.calls = host.calls)

/-- Work that runs a script sends the pieces of the script. -/
theorem sends_of_consists {α : Type} {d : Dialect} {escape : Char → List Char} {script : String}
    {pieces : List Piece} {c : EngineConfig} {command : List String} {work : Work α} {host : Host}
    (he : Denotes d escape) (hs : StaysPlain escape) (hquote : Text.IsPlain [d.quote])
    (h : Consists d escape script pieces)
    (hrun : (work.run host).2 = ranOn c host command script) :
    Sends d command work host (some pieces) := by
  have hpassed : host.objection? script = none ↔ host.TakesLiterals pieces :=
    h.objection? hs hquote
  refine ⟨script, h.read he, fun hall => ?_, fun hnot => ?_⟩
  · rw [hrun, ranOn_of_passed (hpassed.mpr hall)]
    exact ⟨_, _, rfl⟩
  · obtain ⟨cause, hobjection⟩ := Option.ne_none_iff_exists'.mp fun h => hnot (hpassed.mp h)
    rw [hrun, ranOn_of_objection hobjection]

section

variable {α : Type} {script : String} {pieces : List Piece} {c : EngineConfig}
  {command : List String} {work : Work α} {host : Host}

theorem sends_of_javaScript (h : Consists javaScript escapeSingleChar script pieces)
    (hrun : (work.run host).2 = ranOn c host command script) :
    Sends javaScript command work host (some pieces) :=
  sends_of_consists denotes_single staysPlain_single (by decide) h hrun

theorem sends_of_appleScript (h : Consists appleScript escapeDoubleChar script pieces)
    (hrun : (work.run host).2 = ranOn c host command script) :
    Sends appleScript command work host (some pieces) :=
  sends_of_consists denotes_double staysPlain_double (by decide) h hrun

end

theorem parameterText_str (s : String) : parameterText (.str s) = pure s := by
  by_cases hs : s = ""
  · subst hs; rfl
  · exact if_pos (bne_iff_ne.mpr hs)

/-- A variable of an instance that is not known is not asked for; any other is asked for with its
instance, if it needs one. -/
theorem sends_of_reach {α : Type} {c : EngineConfig} {program : String} {work : Work α}
    {host : Host} {reach : Option (Option String)} {script : Option String → String}
    {pieces : List Piece}
    (h : ∀ id, Consists appleScript escapeDoubleChar (script id) (pieces ++ instancePieces id))
    (hrun : (work.run host).2 =
      reach.elim host fun id => ranOn c host [program, "-e"] (script id)) :
    Sends appleScript [program, "-e"] work host
      (reach.map fun id => pieces ++ instancePieces id) := by
  cases reach with
  | none => exact congrArg Host.calls hrun
  | some id => exact sends_of_appleScript (h id) hrun

/-- Whatever texts the applications, macros, parameters, files, variables, values and instances are,
the script of a request reads as the code of the request with one literal for each text, which
denotes that text. The program is called with it once, unless the system does not take one of the
texts. A mapping as a parameter is passed on as its JSON text, and a variable of an instance that is
not known is not asked for. -/
theorem scripts_read_as_texts (settings : EngineConfig) (program engineApp editorApp : String)
    (host : Host) :
    let c : EngineConfig := { settings with
      osascript := .str program, engineApp := .str engineApp, editorApp := .str editorApp }
    (∀ name parameter, Sends javaScript [program, "-l", "JavaScript", "-e"]
      (runNamed c (.str name) (.str parameter)) host
      (some [.code "var kme = Application(", .literal engineApp, .code "); kme.doScript(",
        .literal name, .code ", \x7b withParameter: ", .literal parameter, .code " \x7d);"])) ∧
    (∀ name fields, Sends javaScript [program, "-l", "JavaScript", "-e"]
      (runNamed c (.str name) (.obj fields)) host
      (some [.code "var kme = Application(", .literal engineApp, .code "); kme.doScript(",
        .literal name, .code ", \x7b withParameter: ", .literal (Json.obj fields).writeString,
        .code " \x7d);"])) ∧
    (∀ path, Sends appleScript [program, "-e"] (importFile c (.str path)) host
      (some [.code "tell application ", .literal editorApp,
        .code " to importMacros (POSIX file ", .literal path, .code " as alias)"])) ∧
    (∀ name, Sends appleScript [program, "-e"] (delete c (.str name)) host
      (some [.code "tell application ", .literal editorApp, .code " to deleteMacro ",
        .literal name])) ∧
    (∀ name given, Sends appleScript [program, "-e"]
      (readVariable c (.str name) (instanceData given)) host
      ((reach? name given host.instanceId).map fun id =>
        [.code "tell application ", .literal engineApp, .code " to getvariable ", .literal name] ++
          instancePieces id)) ∧
    (∀ name value given, Sends appleScript [program, "-e"]
      (writeVariable c (.str name) (.str value) (instanceData given)) host
      ((reach? name given host.instanceId).map fun id =>
        [.code "tell application ", .literal engineApp, .code " to setvariable ", .literal name,
          .code " to ", .literal value] ++ instancePieces id)) := by
  intro c
  have hc : c.osascript = .str program := rfl
  refine ⟨fun name parameter => ?_, fun name fields => ?_, fun path => ?_, fun name => ?_,
    fun name given => ?_, fun name value given => ?_⟩
  · exact sends_of_javaScript (runNamed_consists engineApp name parameter)
      (after_runNamed hc rfl name (parameterText_str parameter) host)
  · exact sends_of_javaScript (runNamed_consists engineApp name _)
      (after_runNamed hc rfl name rfl host)
  · exact sends_of_appleScript (importFile_consists editorApp path)
      (after_importFile hc rfl path host)
  · exact sends_of_appleScript (delete_consists editorApp name)
      (after_delete hc rfl name host)
  · exact sends_of_reach (readVariable_consists engineApp name)
      (after_readVariable hc rfl name given host)
  · exact sends_of_reach (writeVariable_consists engineApp name value)
      (after_writeVariable hc rfl name (.str value) given host)

end Engine
end MacroScribe
