import DngPreflight.Shell.Commands

set_option relaxedAutoImplicit false
set_option autoImplicit false

/-!
# Commands up to the first that fails

Under `set -e` a script stops at the first command that fails, so that nothing of what follows it
matters. The commands of a script one after the other, with a mark where something stands that is no
simple command, and those of them that take effect.

## Main definitions

* `Shell.commandList` — the commands of a script, and the mark.
* `Shell.effective` — the commands before the first one that is rejected.

## Main results

* `Shell.commandList_append` — a script that begins with known lines.
* `Shell.exists_commandList_cons` — a script that begins with known words.
* `Shell.effective_append_rejected` — what follows a rejected command does not matter.
-/

namespace Shell

open Text

/-! ## The commands of a script -/

/-- The commands of a token list, `cur` being the words of the current one, up to what is no simple
command: an operator other than the semicolon, or a quotation that is not closed at the end. -/
def segments (closed : Bool) (cur : List Word) : List Token → List (Option (List Word))
  | [] => [if closed then some cur else none]
  | .word w :: ts => segments closed (cur ++ [w]) ts
  | .newline :: ts => some cur :: segments closed [] ts
  | .op c :: ts => if c = ';' then some cur :: segments closed [] ts else [none]

/-- The texts of the words of commands, empty commands left out; none for a command with an
expansion, too. -/
def readSegments (cs : List (Option (List Word))) : List (Option (List Str)) :=
  (cs.filter (· ≠ some [])).map fun c => c.bind fun ws => ws.mapM plain?

/-- The commands of a script in their order. What is no simple command is none. -/
def commandList (s : Str) : List (Option (List Str)) :=
  readSegments <|
    match tokens s with
    | some ts => segments true [] ts
    | none => segments false [] (run .init s).2

/-- Commands are read part by part. -/
lemma readSegments_append (cs ds : List (Option (List Word))) :
    readSegments (cs ++ ds) = readSegments cs ++ readSegments ds := by
  rw [readSegments, List.filter_append, List.map_append]
  rfl

/-- A command that has words is read. -/
lemma readSegments_cons {c : Option (List Word)} (hc : c ≠ some [])
    (cs : List (Option (List Word))) :
    readSegments (c :: cs) = (c.bind fun ws => ws.mapM plain?) :: readSegments cs := by
  rw [readSegments, List.filter_cons_of_pos (by simpa using hc), List.map_cons]
  rfl

/-- Commands of plain words are their texts. -/
lemma readSegments_bareWord {ls : List (List Str)}
    (hplain : ∀ c ∈ ls, ∀ s ∈ c, ∀ d ∈ s, isPlainChar d) :
    readSegments (ls.map fun c => some (c.map bareWord)) = (ls.filter (· ≠ [])).map some := by
  have hfilter : ((fun c : Option (List Word) => decide (c ≠ some [])) ∘
      fun c : List Str => some (c.map bareWord)) = fun c => decide (c ≠ []) := by
    funext c
    simp
  rw [readSegments, List.filter_map, List.map_map, hfilter]
  refine List.map_congr_left fun c hc => ?_
  exact mapM_map_eq_some fun s hs =>
    plain?_bareWord (hplain c (List.mem_of_mem_filter hc) s hs)

/-- The words of a command are collected. -/
lemma segments_words (closed : Bool) (cur : List Word) (ws : List Str) (ts : List Token) :
    segments closed cur (ws.map (fun s => .word (bareWord s)) ++ ts) =
      segments closed (cur ++ ws.map bareWord) ts := by
  induction ws generalizing cur with
  | nil => simp
  | cons w ws ih => simp [segments, ih]

/-- The commands of lines are their words. -/
lemma segments_lineTokens (closed : Bool) (ls : List (List Str)) (ts : List Token) :
    segments closed [] (lineTokens ls ++ ts) =
      ls.map (fun c => some (c.map bareWord)) ++ segments closed [] ts := by
  induction ls with
  | nil => rfl
  | cons c ls ih =>
    have hline : lineTokens (c :: ls) ++ ts =
        c.map (fun s => .word (bareWord s)) ++ .newline :: (lineTokens ls ++ ts) := by
      simp [lineTokens]
    rw [hline, segments_words, List.nil_append, segments, ih]
    rfl

/-- The current command is extended by further words, or is no simple one. -/
lemma exists_segments_cons (closed : Bool) (cur : List Word) (ts : List Token) :
    ∃ c rest, segments closed cur ts = c :: rest ∧ (c = none ∨ ∃ ws, c = some (cur ++ ws)) := by
  induction ts generalizing cur with
  | nil =>
    refine ⟨_, [], rfl, ?_⟩
    cases closed with
    | true => exact .inr ⟨[], by simp⟩
    | false => exact .inl rfl
  | cons tok ts ih =>
    cases tok with
    | word w =>
      obtain ⟨c, rest, hsegments, hc⟩ := ih (cur ++ [w])
      refine ⟨c, rest, hsegments, hc.imp_right ?_⟩
      rintro ⟨ws, hws⟩
      exact ⟨w :: ws, by rw [hws, List.append_assoc, List.singleton_append]⟩
    | newline => exact ⟨_, _, rfl, .inr ⟨[], by simp⟩⟩
    | op c =>
      unfold segments
      split_ifs
      · exact ⟨_, _, rfl, .inr ⟨[], by simp⟩⟩
      · exact ⟨_, _, rfl, .inl rfl⟩

/-- **A script that begins with known lines** has their commands first, if their words are plain. -/
lemma commandList_append {a : Str} {ls : List (List Str)}
    (h : run .init a = (.init, lineTokens ls))
    (hplain : ∀ c ∈ ls, ∀ s ∈ c, ∀ d ∈ s, isPlainChar d) (b : Str) :
    commandList (a ++ b) = (ls.filter (· ≠ [])).map some ++ commandList b := by
  have hsegments : ∀ closed ts, readSegments (segments closed [] (lineTokens ls ++ ts)) =
      (ls.filter (· ≠ [])).map some ++ readSegments (segments closed [] ts) := by
    intro closed ts
    rw [segments_lineTokens, readSegments_append, readSegments_bareWord hplain]
  unfold commandList
  rw [tokens_append_of_init h]
  cases tokens b with
  | none =>
    simp only [Option.map_none, run_append_of h]
    exact hsegments false _
  | some ts =>
    simp only [Option.map_some]
    exact hsegments true ts

/-- The commands of a script whose lines are known. -/
lemma commandList_of_reads {t : Template} {ls : List (List Str)} (h : Reads t (lineTokens ls))
    (hplain : ∀ c ∈ ls, ∀ s ∈ c, ∀ d ∈ s, isPlainChar d) :
    commandList (render t) = (ls.filter (· ≠ [])).map some := by
  have hnil : commandList [] = [] := by decide
  have happend := commandList_append h hplain []
  rwa [List.append_nil, hnil, List.append_nil] at happend

section ValueLine

variable {head : Str} {m : Mode} {p : Str} {ws : List Str}
  (hhead : run .init head = (⟨m, bareWord p⟩, ws.map fun s => .word (bareWord s)))
  (hm : m = .bare ∨ m = .blank ∧ p = [])

include hhead hm

/-- The commands of a script that begins with known words and characters of a further one: the words
are followed by one that begins with these characters, or the script ends in a quotation in it. -/
lemma exists_segments_of_begun {s : Str} (hne : s ≠ []) (hs : ∀ c ∈ s, isWordChar c)
    (rest : Str) : ∃ closed ts, commandList (head ++ (s ++ rest)) =
      readSegments (segments closed (ws.map bareWord) ts) ∧
        ((∃ w us, ts = .word (bareWord (p ++ s) ++ w) :: us) ∨ closed = false ∧ ts = []) := by
  have hrun : run .init (head ++ (s ++ rest)) = ((run ⟨.bare, bareWord (p ++ s)⟩ rest).1,
      ws.map (fun s => .word (bareWord s)) ++ (run ⟨.bare, bareWord (p ++ s)⟩ rest).2) := by
    rw [run_append_of hhead, run_append_of (run_word hm hne hs), List.nil_append]
  have hwords : ∀ closed ts, segments closed (ws.map bareWord) ts =
      segments closed [] (ws.map (fun s => .word (bareWord s)) ++ ts) := fun closed ts => by
    rw [segments_words, List.nil_append]
  simp only [hwords]
  have hbegun : (⟨.bare, bareWord (p ++ s)⟩ : State).mode.begun := rfl
  have hopen := open_word_emitted hbegun rest
  generalize run ⟨.bare, bareWord (p ++ s)⟩ rest = r at hrun hopen
  obtain ⟨⟨mode, word⟩, us⟩ := r
  rw [commandList, tokens, hrun]
  rcases hopen with ⟨hnil, hmode, w, hw⟩ | ⟨w, us', hus⟩
  · cases hnil
    cases hw
    cases mode with
    | blank | comment => cases hmode
    | bare => exact ⟨true, [_], by simp, .inl ⟨w, [], rfl⟩⟩
    | _ => exact ⟨false, [], rfl, .inr ⟨rfl, rfl⟩⟩
  · cases hus
    cases mode with
    | blank | comment => exact ⟨true, _, rfl, .inl ⟨w, us', rfl⟩⟩
    | bare => exact ⟨true, _, by simp, .inl ⟨w, us' ++ [.word word], rfl⟩⟩
    | _ => exact ⟨false, _, rfl, .inl ⟨w, us', rfl⟩⟩

/-- **A script that begins with known words** has them, and a word that begins with what follows, in
its first command, or else this is no simple one.

**Proof sketch.** The word is emitted with more characters, or the script ends in the middle of it:
outside quotes, where it is the last one, or in a quotation. -/
lemma exists_commandList_cons {s : Str} (hne : s ≠ []) (hs : ∀ c ∈ s, isWordChar c)
    (rest : Str) : ∃ c cs, commandList (head ++ (s ++ rest)) = c :: cs ∧
      (c = none ∨ ∃ u vs, c = some (ws ++ (p ++ s ++ u) :: vs)) := by
  obtain ⟨closed, ts, heq, hts⟩ := exists_segments_of_begun hhead hm hne hs rest
  rw [heq]
  rcases hts with ⟨w, us, rfl⟩ | ⟨rfl, rfl⟩
  · rw [segments]
    obtain ⟨c, cs, hcs, hc⟩ := exists_segments_cons closed
      (ws.map bareWord ++ [bareWord (p ++ s) ++ w]) us
    rw [hcs]
    rcases hc with rfl | ⟨more, rfl⟩
    · exact ⟨none, _, rfl, .inl rfl⟩
    refine ⟨_, _, readSegments_cons (by simp) cs, ?_⟩
    rw [Option.bind_some, List.append_assoc]
    cases hplain : (ws.map bareWord ++ ([bareWord (p ++ s) ++ w] ++ more)).mapM plain? with
    | none => exact .inl rfl
    | some cmd =>
      obtain ⟨vs, hvs, rfl⟩ := mapM_plain?_bareWord_append hplain
      obtain ⟨v, vs', hv, -, rfl⟩ := exists_of_mapM_cons hvs
      obtain ⟨u, rfl⟩ := plain?_bareWord_append hv
      exact .inr ⟨u, vs', rfl⟩
  · exact ⟨none, [], rfl, .inl rfl⟩

end ValueLine

/-! ## The commands that take effect -/

variable {κ : Type} (parse : List Str → Option κ)

/-- The commands before the first one that is rejected, all of them if there is none. None if what
is no simple command comes before that: it may do anything. -/
def effective : List (Option (List Str)) → Option (List κ)
  | [] => some []
  | none :: _ => none
  | some cmd :: cmds =>
    match parse cmd with
    | none => some []
    | some c => (effective cmds).map (c :: ·)

variable {parse}

/-- Commands that are accepted take effect. -/
lemma effective_append {cmds : List (List Str)} {cs : List κ} (h : cmds.mapM parse = some cs)
    (rest : List (Option (List Str))) :
    effective parse (cmds.map some ++ rest) = (effective parse rest).map (cs ++ ·) := by
  induction cmds generalizing cs with
  | nil =>
    cases h
    simp
  | cons cmd cmds ih =>
    obtain ⟨c, cs, hc, hcs, rfl⟩ := exists_of_mapM_cons h
    rw [List.map_cons, List.cons_append, effective]
    simp only [hc, ih hcs, Option.map_map]
    rfl

/-- All commands of a script take effect if all are accepted. -/
lemma effective_map_some {cmds : List (List Str)} {cs : List κ} (h : cmds.mapM parse = some cs) :
    effective parse (cmds.map some) = some cs := by
  have happend := effective_append h []
  rw [List.append_nil] at happend
  rw [happend, effective, Option.map_some, List.append_nil]

/-- A script of simple commands has commands that take effect. -/
lemma effective_map_some_ne_none (cmds : List (List Str)) :
    effective parse (cmds.map some) ≠ none := by
  induction cmds with
  | nil => exact Option.some_ne_none _
  | cons cmd cmds ih =>
    rw [List.map_cons, effective]
    cases parse cmd with
    | none => exact Option.some_ne_none _
    | some c => exact fun h => ih (Option.map_eq_none_iff.mp h)

/-- **What follows a rejected command** does not matter: those before it take effect, if it is known
to be a simple one. -/
lemma effective_append_rejected {cmds : List (List Str)} {cs : List κ}
    (h : cmds.mapM parse = some cs) {c : Option (List Str)}
    (hc : ∀ cmd, c = some cmd → parse cmd = none)
    {rest : List (Option (List Str))}
    (hread : effective parse (cmds.map some ++ c :: rest) ≠ none) :
    effective parse (cmds.map some ++ c :: rest) = some cs := by
  rw [effective_append h] at hread ⊢
  cases c with
  | none => exact absurd rfl hread
  | some cmd =>
    rw [effective]
    simp only [hc cmd rfl, Option.map_some, List.append_nil]

end Shell
