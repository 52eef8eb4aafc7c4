import DngPreflight.Shell.Lexer

set_option relaxedAutoImplicit false
set_option autoImplicit false

/-!
# Simple commands

Scripts that are a sequence of simple commands: words without expansions, one command a line
(or separated by semicolons), and no other operators.

## Main definitions

* `Shell.plain?` — the text of a word that no expansion changes.
* `Shell.commands` — the commands of a token list.
* `Shell.simpleCommands` — the commands of a script, as texts.
* `Shell.lineTokens` — the tokens of commands written one a line.

## Main results

* `Shell.simpleCommands_of_reads` — the commands of a script whose lines are known.
* `Shell.reads_valueLine`, `Shell.tokens_valueLine` — lines with a value that is not quoted.
* `Shell.exists_mem_simpleCommands` — a command whose first words are known is among the
  commands, whatever follows.
-/

namespace Shell

open Text

/-! ## Words -/

/-- The characters that no expansion touches in an unquoted word. -/
def isPlainChar (c : Char) : Bool :=
  c.isAlphanum || decide (c ∈ ['-', '_', '.', '/', ':', ',', '=', '+', '@', '%', '^'])

/-- The text of a word that is unquoted and that no expansion changes. -/
def plain? (w : Word) : Option Str :=
  w.mapM fun e => if e.2 = .bare ∧ isPlainChar e.1 then some e.1 else none

/-- A word of plain characters is its text. -/
lemma plain?_bareWord {s : Str} (h : ∀ c ∈ s, isPlainChar c) : plain? (bareWord s) = some s :=
  mapM_map_eq_some fun c hc => by simp [h c hc]

/-- The text of a word has its characters. -/
lemma map_fst_of_plain? {w : Word} {s : Str} (h : plain? w = some s) : w.map Prod.fst = s := by
  induction w generalizing s with
  | nil => simpa [plain?] using h
  | cons e w ih =>
    obtain ⟨c, cs, hc, hcs, rfl⟩ := exists_of_mapM_cons h
    split_ifs at hc
    cases hc
    rw [List.map_cons, ih hcs]

/-- A plain character is itself in an unquoted word. -/
lemma isWordChar_of_isPlainChar {c : Char} (h : isPlainChar c) : isWordChar c := by
  rw [isWordChar, Bool.and_eq_true, Bool.and_eq_true]
  refine ⟨⟨?_, ?_⟩, ?_⟩
  · rw [Bool.not_eq_true', ← Bool.not_eq_true]
    intro hb
    simp only [isBlank, decide_eq_true_eq, List.mem_cons, List.not_mem_nil, or_false] at hb
    rcases hb with rfl | rfl <;> exact absurd h (by decide)
  · rw [Bool.not_eq_true', ← Bool.not_eq_true]
    intro hb
    simp only [isOperator, decide_eq_true_eq, List.mem_cons, List.not_mem_nil, or_false] at hb
    rcases hb with rfl | rfl | rfl | rfl | rfl | rfl | rfl <;> exact absurd h (by decide)
  · rw [decide_eq_true_eq]
    intro hb
    simp only [List.mem_cons, List.not_mem_nil, or_false] at hb
    rcases hb with rfl | rfl | rfl | rfl | rfl <;> exact absurd h (by decide)

/-! ## Commands -/

/-- The commands of a token list, `cur` being the words of the current one. Any operator but the
semicolon makes the script something else than a sequence of simple commands. -/
def commandsFrom (cur : List Word) : List Token → Option (List (List Word))
  | [] => some [cur]
  | .word w :: ts => commandsFrom (cur ++ [w]) ts
  | .newline :: ts => (commandsFrom [] ts).map (cur :: ·)
  | .op c :: ts => if c = ';' then (commandsFrom [] ts).map (cur :: ·) else none

/-- The commands of a token list, empty ones left out. -/
def commands (ts : List Token) : Option (List (List Word)) :=
  (commandsFrom [] ts).map fun cs => cs.filter (· ≠ [])

/-- The commands of a script, as the texts of their words. -/
def simpleCommands (s : Str) : Option (List (List Str)) := do
  let ts ← tokens s
  let cs ← commands ts
  cs.mapM fun c => c.mapM plain?

/-- The tokens of commands written one a line; an empty command is a blank line or a comment. -/
def lineTokens (cs : List (List Str)) : List Token :=
  cs.flatMap fun c => c.map (fun s => .word (bareWord s)) ++ [.newline]

/-- The tokens of lines are those of their parts. -/
lemma lineTokens_append (cs ds : List (List Str)) :
    lineTokens (cs ++ ds) = lineTokens cs ++ lineTokens ds := List.flatMap_append

/-- The words of lines are those of their commands. -/
lemma exists_of_word_mem_lineTokens {cs : List (List Str)} {w : Word}
    (h : .word w ∈ lineTokens cs) : ∃ c ∈ cs, ∃ s ∈ c, w = bareWord s := by
  obtain ⟨c, hc, hw⟩ := List.mem_flatMap.mp h
  simp only [List.mem_append, List.mem_map, List.mem_singleton, reduceCtorEq, or_false] at hw
  obtain ⟨s, hs, hword⟩ := hw
  cases hword
  exact ⟨c, hc, s, hs, rfl⟩

/-- The words of a command are collected. -/
lemma commandsFrom_words (cur ws : List Word) (ts : List Token) :
    commandsFrom cur (ws.map Token.word ++ ts) = commandsFrom (cur ++ ws) ts := by
  induction ws generalizing cur with
  | nil => simp
  | cons w ws ih => simp [commandsFrom, ih]

/-- The commands of lines. -/
lemma commands_lineTokens (cs : List (List Str)) :
    commands (lineTokens cs) = some ((cs.filter (· ≠ [])).map fun c => c.map bareWord) := by
  have key : commandsFrom [] (lineTokens cs) = some (cs.map (fun c => c.map bareWord) ++ [[]]) := by
    induction cs with
    | nil => rfl
    | cons c cs ih =>
      have hline : lineTokens (c :: cs) =
          (c.map bareWord).map Token.word ++ .newline :: lineTokens cs := by
        simp [lineTokens]
      rw [hline, commandsFrom_words]
      simp [commandsFrom, ih]
  rw [commands, key]
  simp [List.filter_map, Function.comp_def]

/-- **The commands of a script whose lines are known**, if their words are plain. -/
lemma simpleCommands_of_reads {t : Template} {cs : List (List Str)} (h : Reads t (lineTokens cs))
    (hplain : ∀ c ∈ cs, ∀ s ∈ c, ∀ d ∈ s, isPlainChar d) :
    simpleCommands (render t) = some (cs.filter (· ≠ [])) := by
  have hwords : ((cs.filter (· ≠ [])).map fun c => c.map bareWord).mapM
      (fun c => c.mapM plain?) = some (cs.filter (· ≠ [])) :=
    mapM_map_eq_some fun c hc => mapM_map_eq_some fun s hs =>
      plain?_bareWord (hplain c (List.mem_of_mem_filter hc) s hs)
  simp only [simpleCommands, h.tokens, Option.bind_eq_bind, Option.bind_some,
    commands_lineTokens, hwords]

/-! ## Lines with a value that is not quoted -/

section ValueLine

variable {head : Str} {m : Mode} {p : Str} {ts : List Token}
  (hhead : run .init head = (⟨m, bareWord p⟩, ts)) (hm : m = .bare ∨ m = .blank ∧ p = [])

include hm in
/-- Ordinary characters continue a word, or begin one. -/
lemma run_word {s : Str} (hne : s ≠ []) (hs : ∀ c ∈ s, isWordChar c) :
    run ⟨m, bareWord p⟩ s = (⟨.bare, bareWord (p ++ s)⟩, []) := by
  have happend : bareWord (p ++ s) = bareWord p ++ bareWord s := List.map_append
  rcases hm with rfl | ⟨rfl, rfl⟩
  · rw [happend, run_bare hs]
  · rw [List.nil_append]
    exact run_blank hne hs

include hhead hm

/-- A line whose value is made of ordinary characters reads as if the value were fixed text. -/
lemma reads_valueLine {tail : Str} {us : List Token}
    (htail : ∀ w, run ⟨.bare, w⟩ (tail ++ ['\n']) = (.init, .word w :: us)) {s : Str}
    (hne : s ≠ []) (hs : ∀ c ∈ s, isWordChar c) :
    Reads (line [.fixed head, .value s, .fixed tail])
      (ts ++ .word (bareWord (p ++ s)) :: us) := by
  simp only [Reads, line, render_cons, render_nil, Piece.text, List.append_nil, List.cons_append,
    List.nil_append]
  rw [run_append_of hhead, run_append_of (run_word hm hne hs), htail, List.nil_append]

/-- A line whose value begins with ordinary characters has a word that begins with them, whatever
follows. -/
lemma tokens_valueLine {s rest : Str} (hne : s ≠ []) (hs : ∀ c ∈ s, isWordChar c)
    {us : List Token} (h : tokens (head ++ (s ++ rest)) = some us) :
    ∃ w us', us = ts ++ .word (bareWord (p ++ s) ++ w) :: us' := by
  have hrun : run .init (head ++ s) = (⟨.bare, bareWord (p ++ s)⟩, ts) := by
    rw [run_append_of hhead, run_word hm hne hs, List.append_nil]
  rw [← List.append_assoc] at h
  exact tokens_of_begun hrun rfl h

end ValueLine

/-! ## A command whose first words are known -/

/-- The current command is among the commands, extended by further words. -/
lemma exists_mem_commandsFrom {cur : List Word} {ts : List Token} {cs : List (List Word)}
    (h : commandsFrom cur ts = some cs) : ∃ ws, cur ++ ws ∈ cs := by
  induction ts generalizing cur cs with
  | nil =>
    cases h
    exact ⟨[], by simp⟩
  | cons tok ts ih =>
    cases tok with
    | word w =>
      obtain ⟨ws, hws⟩ := ih h
      exact ⟨w :: ws, by simpa using hws⟩
    | newline =>
      obtain ⟨rest, -, rfl⟩ := Option.map_eq_some_iff.mp h
      exact ⟨[], by simp⟩
    | op c =>
      unfold commandsFrom at h
      split at h
      · obtain ⟨rest, -, rfl⟩ := Option.map_eq_some_iff.mp h
        exact ⟨[], by simp⟩
      · cases h

/-- A command whose first words are known is among the commands of a token list, whatever
follows and whatever lines are before it. -/
lemma exists_mem_commands {ls : List (List Str)} {ws : List Word} {ts : List Token}
    {cs : List (List Word)} (hne : ws ≠ [])
    (h : commands (lineTokens ls ++ (ws.map Token.word ++ ts)) = some cs) :
    ∃ us, ws ++ us ∈ cs := by
  obtain ⟨cs', hcs', rfl⟩ := Option.map_eq_some_iff.mp h
  have key : ∃ us, ws ++ us ∈ cs' := by
    clear h
    induction ls generalizing cs' with
    | nil =>
      rw [lineTokens, List.flatMap_nil, List.nil_append, commandsFrom_words] at hcs'
      exact exists_mem_commandsFrom hcs'
    | cons l ls ih =>
      have hline : lineTokens (l :: ls) ++ (ws.map Token.word ++ ts) =
          (l.map bareWord).map Token.word ++
            .newline :: (lineTokens ls ++ (ws.map Token.word ++ ts)) := by
        simp [lineTokens]
      rw [hline, commandsFrom_words] at hcs'
      obtain ⟨rest, hrest, rfl⟩ := Option.map_eq_some_iff.mp hcs'
      obtain ⟨us, hus⟩ := ih rest hrest
      exact ⟨us, List.mem_cons_of_mem _ hus⟩
  obtain ⟨us, hus⟩ := key
  exact ⟨us, List.mem_filter.mpr ⟨hus, by simp [hne]⟩⟩

/-- The text of a word that begins with plain text. -/
lemma plain?_bareWord_append {s t : Str} {w : Word} (h : plain? (bareWord s ++ w) = some t) :
    ∃ u, t = s ++ u := by
  refine ⟨w.map Prod.fst, ?_⟩
  rw [← map_fst_of_plain? h, List.map_append, bareWord, List.map_map]
  simp [Function.comp_def]

/-- The texts of words that begin with plain texts. -/
lemma mapM_plain?_bareWord_append {ws : List Str} {us : List Word} {cmd : List Str}
    (h : (ws.map bareWord ++ us).mapM plain? = some cmd) :
    ∃ vs, us.mapM plain? = some vs ∧ cmd = ws ++ vs := by
  induction ws generalizing cmd with
  | nil => exact ⟨cmd, by simpa using h, rfl⟩
  | cons s ws ih =>
    obtain ⟨t, cmd', ht, hcmd', rfl⟩ := exists_of_mapM_cons h
    obtain ⟨vs, hvs, rfl⟩ := ih hcmd'
    have hts := map_fst_of_plain? ht
    rw [bareWord, List.map_map] at hts
    refine ⟨vs, hvs, ?_⟩
    rw [← hts]
    simp [Function.comp_def]

/-- **A command whose first words are known** is among the commands of a script, if these can be
read at all: its first words `ws`, and the beginning `p` of the next one. -/
lemma exists_mem_simpleCommands {text p : Str} {ls cmds : List (List Str)} {ws : List Str}
    (htokens : ∀ ts, tokens text = some ts → ∃ w us,
      ts = lineTokens ls ++ (ws.map (fun s => .word (bareWord s)) ++
        .word (bareWord p ++ w) :: us))
    (h : simpleCommands text = some cmds) : ∃ u vs, ws ++ (p ++ u) :: vs ∈ cmds := by
  simp only [simpleCommands, Option.bind_eq_bind, Option.bind_eq_some_iff] at h
  obtain ⟨ts, hts, cs, hcs, hcmds⟩ := h
  obtain ⟨w, us, rfl⟩ := htokens ts hts
  have hwords : ws.map (fun s => Token.word (bareWord s)) ++ .word (bareWord p ++ w) :: us =
      (ws.map bareWord ++ [bareWord p ++ w]).map Token.word ++ us := by
    simp [Function.comp_def]
  rw [hwords] at hcs
  obtain ⟨more, hmem⟩ := exists_mem_commands (by simp) hcs
  obtain ⟨cmd, hcmd, hread⟩ := exists_of_mapM hcmds hmem
  rw [List.append_assoc] at hread
  obtain ⟨vs, hvs, rfl⟩ := mapM_plain?_bareWord_append hread
  obtain ⟨v, vs', hv, -, rfl⟩ := exists_of_mapM_cons hvs
  obtain ⟨u, rfl⟩ := plain?_bareWord_append hv
  exact ⟨u, vs', hcmd⟩

end Shell
