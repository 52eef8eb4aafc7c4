import DngPreflight.Shell.Commands

set_option relaxedAutoImplicit false
set_option autoImplicit false

/-!
# Files of assignments

Files that a shell sources for the variables that they assign, as `os-release(5)` describes them:
blank lines, comments, and assignments of values that are quoted where they have to be. The
variables that bash sets or uses itself are left out.

## Main definitions

* `Shell.isName` — the names of variables that have no meaning for bash.
* `Shell.assignment?`, `Shell.sourced` — the assignments of a script that has nothing else.
* `Shell.Quotes`, `Shell.Quotes.write` — how a value is written.
* `Shell.Line`, `Shell.Line.write` — the lines of such a file.

## Main results

* `Shell.run_write` — the shell reads a value back, however it is written.
* `Shell.sourced_writeLines` — the assignments of a file.
-/

namespace Shell

open Text

/-! ## Assignments -/

/-- The characters of the name of a variable. -/
def isNameChar (c : Char) : Bool := c.isAlphanum || decide (c = '_')

/-- The variables that bash sets or uses itself, those apart that begin with `BASH`, `COMP_` or
`LC_`. An assignment of one may fail, have no effect, or change more than its value. -/
def shellVariables : List String := [
  "_", "CHILD_MAX", "COLUMNS", "COMPREPLY", "COPROC", "DIRSTACK", "EMACS", "ENV", "EPOCHREALTIME",
  "EPOCHSECONDS", "EUID", "EXECIGNORE", "FCEDIT", "FIGNORE", "FUNCNAME", "FUNCNEST", "GLOBIGNORE",
  "GLOBSORT", "GROUPS", "HISTCMD", "HISTCONTROL", "HISTFILE", "HISTFILESIZE", "HISTIGNORE",
  "HISTSIZE", "HISTTIMEFORMAT", "HOME", "HOSTFILE", "HOSTNAME", "HOSTTYPE", "IFS", "IGNOREEOF",
  "INPUTRC", "INSIDE_EMACS", "LANG", "LANGUAGE", "LINENO", "LINES", "MACHTYPE", "MAIL", "MAILCHECK",
  "MAILPATH", "MAPFILE", "OLDPWD", "OPTARG", "OPTERR", "OPTIND", "OSTYPE", "PATH", "PIPESTATUS",
  "POSIXLY_CORRECT", "PPID", "PROMPT_COMMAND", "PROMPT_DIRTRIM", "PS0", "PS1", "PS2", "PS3", "PS4",
  "PWD", "RANDOM", "READLINE_ARGUMENT", "READLINE_LINE", "READLINE_MARK", "READLINE_POINT", "REPLY",
  "SECONDS", "SHELL", "SHELLOPTS", "SHLVL", "SRANDOM", "TERM", "TEXTDOMAIN", "TEXTDOMAINDIR",
  "TIMEFORMAT", "TMOUT", "TMPDIR", "TZ", "UID", "auto_resume", "histchars"]

/-- The variable has a meaning for bash. -/
def isShellVariable (s : Str) : Bool :=
  ["BASH", "COMP_", "LC_"].any (fun p => p.toList.isPrefixOf s) ||
    shellVariables.any fun v => decide (v.toList = s)

/-- The name of a variable that has no meaning for bash. -/
def isName (s : Str) : Bool :=
  s.head?.any (fun c => ! c.isDigit) && s.all isNameChar && ! isShellVariable s

example : isName "ID" = true ∧ isName "UID" = false ∧ isName "BASHPID" = false := by decide

/-- The character begins an expansion. -/
def expands (e : Char × Quoting) : Bool :=
  match e.2 with
  | .bare => decide (e.1 ∈ ['$', '`', '~'])
  | .double => decide (e.1 ∈ ['$', '`'])
  | .literal => false

/-- The equals sign of an assignment is not quoted. -/
def isAssign (e : Char × Quoting) : Bool := decide (e = ('=', .bare))

/-- The variable and its value, if the word assigns one without expansions. -/
def assignment? (w : Word) : Option (Str × Str) :=
  let name := (w.takeWhile (! isAssign ·)).map Prod.fst
  match w.dropWhile (! isAssign ·) with
  | [] => none
  | _ :: value =>
    if w.takeWhile (! isAssign ·) = bareWord name ∧ isName name ∧ value.any expands = false then
      some (name, value.map Prod.fst)
    else none

/-- The assignments of a script, if it has nothing else. -/
def sourced (s : Str) : Option (List (Str × Str)) := do
  let ts ← tokens s
  let cs ← commands ts
  cs.flatten.mapM assignment?

/-- The characters of a name. -/
lemma isNameChar_of_isName {name : Str} (h : isName name = true) :
    ∀ c ∈ name, isNameChar c = true := by
  rw [isName, Bool.and_eq_true, Bool.and_eq_true, List.all_eq_true] at h
  exact h.1.2

/-- A name is not empty. -/
lemma ne_nil_of_isName {name : Str} (h : isName name = true) : name ≠ [] := by
  rintro rfl
  cases h

/-- A word that begins with a name and an equals sign. -/
lemma assignment?_append {name : Str} (hname : isName name = true) {value : Word}
    (hvalue : value.any expands = false) :
    assignment? (bareWord name ++ ('=', .bare) :: value) = some (name, value.map Prod.fst) := by
  have hchars : ∀ e ∈ bareWord name, (! isAssign e) = true := by
    intro e he
    obtain ⟨c, hc, rfl⟩ := List.mem_map.mp he
    have hchar : isNameChar c = true := by
      exact isNameChar_of_isName hname c hc
    have hne : c ≠ '=' := by
      rintro rfl
      exact absurd hchar (by decide)
    simp [isAssign, hne]
  have hsign : (! isAssign ('=', .bare)) = false := by decide
  have htake : (bareWord name ++ ('=', Quoting.bare) :: value).takeWhile (! isAssign ·) =
      bareWord name := by
    rw [List.takeWhile_append_of_pos hchars, List.takeWhile_cons_of_neg (by simp [hsign]),
      List.append_nil]
  have hdrop : (bareWord name ++ ('=', Quoting.bare) :: value).dropWhile (! isAssign ·) =
      ('=', .bare) :: value := by
    rw [List.dropWhile_append_of_pos hchars, List.dropWhile_cons_of_neg (by simp [hsign])]
  have hfst : (bareWord name).map Prod.fst = name := by
    simp [bareWord, Function.comp_def]
  unfold assignment?
  simp only [htake, hdrop, hfst, hname, hvalue, and_self, if_true]

/-! ## Values -/

/-- How a value is written. -/
inductive Quotes where
  | none
  | single
  | double
  deriving DecidableEq

/-- The characters that a backslash escapes in double quotes. -/
def isSpecial (c : Char) : Bool := decide (c ∈ ['$', '"', '\\', '`'])

/-- The text of a character in double quotes. -/
def escape (c : Char) : Str := if isSpecial c then ['\\', c] else [c]

/-- The text of a value. -/
def Quotes.write : Quotes → Str → Str
  | .none, v => v
  | .single, v => '\'' :: (v ++ ['\''])
  | .double, v => '"' :: (v.flatMap escape ++ ['"'])

/-- The value can be written so. -/
def Quotes.CanWrite : Quotes → Str → Prop
  | .none, v => ∀ c ∈ v, isPlainChar c = true
  | .single, v => '\'' ∉ v
  | .double, _ => True

/-- The word of a value in double quotes. -/
def doubleWord (s : Str) : Word := s.map fun c => (c, if isSpecial c then .literal else .double)

/-- **Double quotes**: escaped text is data, whatever its characters. -/
lemma run_double (s : Str) (w : Word) :
    run ⟨.double, w⟩ (s.flatMap escape) = (⟨.double, w ++ doubleWord s⟩, []) := by
  induction s generalizing w with
  | nil => simp [run, doubleWord]
  | cons c s ih =>
    have hstep : run ⟨.double, w⟩ (escape c) =
        (⟨.double, w ++ [(c, if isSpecial c then .literal else .double)]⟩, []) := by
      unfold escape
      split_ifs with hspecial
      · have hmem : c ∈ ['$', '"', '\\', '`'] := of_decide_eq_true hspecial
        have hfeed : c ≠ '\n' := by
          rintro rfl
          exact absurd hmem (by decide)
        simp only [run, step, if_neg hfeed, if_pos hmem]
        rfl
      · have hmem : c ∉ ['$', '"', '\\', '`'] := fun h => hspecial (decide_eq_true h)
        have hquote : c ≠ '"' := fun h => hmem (by simp [h])
        have hbackslash : c ≠ '\\' := fun h => hmem (by simp [h])
        simp only [run, step, if_neg hquote, if_neg hbackslash]
        rfl
    rw [List.flatMap_cons, run_append_of hstep, ih]
    simp [doubleWord]

/-- **A value is read back**, however it is written. -/
lemma run_write {q : Quotes} {v : Str} (h : q.CanWrite v) (w : Word) :
    ∃ u, run ⟨.bare, w⟩ (q.write v) = (⟨.bare, w ++ u⟩, []) ∧ u.map Prod.fst = v ∧
      u.any expands = false := by
  cases q with
  | none =>
    refine ⟨bareWord v, run_bare (fun c hc => isWordChar_of_isPlainChar (h c hc)) w,
      by simp [bareWord, Function.comp_def], ?_⟩
    rw [List.any_eq_false]
    intro e he
    obtain ⟨c, hc, rfl⟩ := List.mem_map.mp he
    intro hexpands
    have hmem : c ∈ ['$', '`', '~'] := of_decide_eq_true hexpands
    have hplain : isPlainChar c = true := h c hc
    simp only [List.mem_cons, List.not_mem_nil, or_false] at hmem
    rcases hmem with rfl | rfl | rfl <;> exact absurd hplain (by decide)
  | single =>
    refine ⟨literalWord v, ?_, by simp [literalWord, Function.comp_def], ?_⟩
    · have hopen : run ⟨.bare, w⟩ ['\''] = (⟨.single, w⟩, []) := rfl
      have hclose : run ⟨.single, w ++ literalWord v⟩ ['\''] =
          (⟨.bare, w ++ literalWord v⟩, []) := rfl
      rw [Quotes.write, ← List.singleton_append, run_append_of hopen,
        run_append_of (run_single h w), hclose]
      rfl
    · rw [List.any_eq_false]
      intro e he
      obtain ⟨c, hc, rfl⟩ := List.mem_map.mp he
      simp [expands]
  | double =>
    refine ⟨doubleWord v, ?_, by simp [doubleWord, Function.comp_def], ?_⟩
    · have hopen : run ⟨.bare, w⟩ ['"'] = (⟨.double, w⟩, []) := rfl
      have hclose : run ⟨.double, w ++ doubleWord v⟩ ['"'] = (⟨.bare, w ++ doubleWord v⟩, []) :=
        rfl
      rw [Quotes.write, ← List.singleton_append, run_append_of hopen,
        run_append_of (run_double v w), hclose]
      rfl
    · rw [List.any_eq_false]
      intro e he
      obtain ⟨c, hc, rfl⟩ := List.mem_map.mp he
      by_cases hspecial : isSpecial c = true
      · simp [expands, hspecial]
      · have hmem : c ∉ ['$', '"', '\\', '`'] := fun h => hspecial (decide_eq_true h)
        simp only [List.mem_cons, List.not_mem_nil, or_false, not_or] at hmem
        simp [expands, hspecial, hmem]

/-! ## Files -/

/-- A line of a file of assignments. -/
inductive Line where
  | blank
  | comment (text : Str)
  | assign (name value : Str) (quotes : Quotes)

/-- The text of a line. -/
def Line.write : Line → Str
  | .blank => []
  | .comment text => '#' :: text
  | .assign name value quotes => name ++ '=' :: quotes.write value

/-- The character can stand in a line of a text file. -/
def isTextChar (c : Char) : Bool := ! isLineBreak c && c != '\x00'

/-- The line can be written, and assigns no variable that has a meaning for bash. -/
def Line.Valid : Line → Prop
  | .blank => True
  | .comment text => ∀ c ∈ text, isTextChar c = true
  | .assign name value quotes =>
    isName name = true ∧ quotes.CanWrite value ∧ ∀ c ∈ value, isTextChar c = true

/-- A character of a line is no line break. -/
lemma isLineBreak_of_isTextChar {c : Char} (h : isTextChar c = true) : isLineBreak c = false := by
  rw [isTextChar, Bool.and_eq_true, Bool.not_eq_true'] at h
  exact h.1

/-- The text of a file. -/
def writeLines (ls : List Line) : Str := ls.flatMap fun l => l.write ++ ['\n']

/-- The variable that a line assigns, and its value. -/
def Line.assigned : Line → Option (Str × Str)
  | .assign name value _ => some (name, value)
  | _ => none

/-- A name is a word of its own characters. -/
lemma isPlainChar_of_isNameChar {c : Char} (h : isNameChar c = true) : isPlainChar c = true := by
  rw [isNameChar, Bool.or_eq_true, decide_eq_true_eq] at h
  rcases h with h | rfl
  · rw [isPlainChar, h, Bool.true_or]
  · rfl

/-- **A line is read** as an assignment, or as nothing. -/
lemma run_writeLine {l : Line} (h : l.Valid) : ∃ ws : List Word,
    run .init (l.write ++ ['\n']) = (.init, ws.map Token.word ++ [.newline]) ∧
      ws.mapM assignment? = some l.assigned.toList := by
  cases l with
  | blank => exact ⟨[], rfl, rfl⟩
  | comment text =>
    refine ⟨[], ?_, rfl⟩
    have hmark : run .init ['#'] = (⟨.comment, []⟩, []) := rfl
    have hfeed : '\n' ∉ text := fun hmem =>
      absurd (isLineBreak_of_isTextChar (h _ hmem)) (by decide)
    rw [Line.write, ← List.singleton_append, List.append_assoc, run_append_of hmark,
      run_append_of (run_comment hfeed [])]
    rfl
  | assign name value quotes =>
    obtain ⟨hname, hcan, -⟩ := h
    obtain ⟨u, hrun, hfst, hexpands⟩ := run_write hcan (bareWord name ++ [('=', .bare)])
    refine ⟨[bareWord name ++ ('=', .bare) :: u], ?_, ?_⟩
    · have hchars : ∀ c ∈ name ++ ['='], isWordChar c = true := by
        intro c hc
        rcases List.mem_append.mp hc with hc | hc
        · exact isWordChar_of_isPlainChar
            (isPlainChar_of_isNameChar (isNameChar_of_isName hname c hc))
        · rw [List.mem_singleton.mp hc]
          rfl
      have hhead : run .init (name ++ ['=']) = (⟨.bare, bareWord name ++ [('=', .bare)]⟩, []) := by
        rw [run_blank (by simp) hchars]
        simp [bareWord]
      have htext : Line.write (.assign name value quotes) ++ ['\n'] =
          (name ++ ['=']) ++ (quotes.write value ++ ['\n']) := by
        simp [Line.write]
      rw [htext, run_append_of hhead, run_append_of hrun, List.append_assoc]
      rfl
    · rw [List.mapM_cons, assignment?_append hname hexpands, hfst]
      rfl

/-- The commands of lines. -/
lemma commandsFrom_lines (ls : List (List Word)) :
    commandsFrom [] (ls.flatMap fun ws => ws.map Token.word ++ [.newline]) = some (ls ++ [[]]) := by
  induction ls with
  | nil => rfl
  | cons ws ls ih =>
    rw [List.flatMap_cons, List.append_assoc, commandsFrom_words, List.nil_append,
      List.singleton_append, commandsFrom, ih]
    rfl

/-- The words of a file. -/
lemma run_writeLines {ls : List Line} (h : ∀ l ∈ ls, l.Valid) : ∃ wss : List (List Word),
    run .init (writeLines ls) = (.init, wss.flatMap fun ws => ws.map Token.word ++ [.newline]) ∧
      wss.flatten.mapM assignment? = some (ls.filterMap Line.assigned) := by
  induction ls with
  | nil => exact ⟨[], rfl, rfl⟩
  | cons l ls ih =>
    obtain ⟨hl, hls⟩ := List.forall_mem_cons.mp h
    obtain ⟨ws, hws, hassigned⟩ := run_writeLine hl
    obtain ⟨wss, hrun, hrest⟩ := ih hls
    rw [writeLines] at hrun
    refine ⟨ws :: wss, ?_, ?_⟩
    · rw [writeLines, List.flatMap_cons, run_append_of hws, hrun, List.flatMap_cons]
    · rw [List.flatten_cons, List.mapM_append, hassigned, hrest]
      cases hline : l.assigned with
      | none =>
        rw [List.filterMap_cons_none hline]
        rfl
      | some e =>
        rw [List.filterMap_cons_some hline]
        rfl

/-- **The assignments of a file** are those of its lines. -/
lemma sourced_writeLines {ls : List Line} (h : ∀ l ∈ ls, l.Valid) :
    sourced (writeLines ls) = some (ls.filterMap Line.assigned) := by
  obtain ⟨wss, hrun, hassigned⟩ := run_writeLines h
  have hflatten : ((wss ++ [[]]).filter (· ≠ [])).flatten = wss.flatten := by
    rw [List.flatten_filter_ne_nil, List.flatten_append]
    exact List.append_nil _
  rw [sourced, tokens, hrun]
  show ((commands _).bind fun cs => cs.flatten.mapM assignment?) = _
  rw [commands, commandsFrom_lines, Option.map_some, Option.bind_some, hflatten, hassigned]

end Shell
