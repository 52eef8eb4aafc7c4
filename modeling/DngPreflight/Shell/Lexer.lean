import DngPreflight.Text.Template

set_option relaxedAutoImplicit false
set_option autoImplicit false

/-!
# Shell tokens

The part of the tokenisation of POSIX shells that decides which characters of a script are
data: blanks, newlines and operators outside quotes, single and double quotes, backslashes, and
comments. Expansions are not performed: a word keeps, with each character, how it was quoted.

The lexer is a state machine that reads one character at a time and emits tokens, so that a
script made of parts is read part by part.

## Main definitions

* `Shell.State`, `Shell.step`, `Shell.run` — the state machine.
* `Shell.Token`, `Shell.Word` — what it emits.
* `Shell.Inert` — every substituted value of a template stays inside a comment or inside single
  quotes.

## Main results

* `Shell.run_append` — a script is read part by part.
* `Shell.run_single`, `Shell.run_comment`, `Shell.run_bare` — text inside single quotes, in a
  comment, and in an unquoted word.
* `Shell.open_word_emitted`, `Shell.tokens_of_begun` — a word that has been begun is emitted with
  all its characters.
* `Shell.reads_commentLine`, `Shell.reads_quotedLine` — comment lines and quoted words with
  substituted values.
-/

namespace Shell

open Text

/-! ## The state machine -/

/-- How a character of a word was quoted: not at all, inside double quotes, or literally (inside
single quotes or after a backslash). -/
inductive Quoting where
  | bare
  | double
  | literal
  deriving DecidableEq

/-- A word: its characters, quotes removed. -/
abbrev Word := List (Char × Quoting)

/-- A token. -/
inductive Token where
  | word (w : Word)
  | op (c : Char)
  | newline
  deriving DecidableEq

/-- What the lexer is in the middle of: nothing, a comment, or a word, with the kind of quotes
that are open. A backslash remembers whether a word had been begun before it. -/
inductive Mode where
  | blank
  | comment
  | bare
  | single
  | double
  | escape (begun : Bool)
  | escapeDouble
  deriving DecidableEq

/-- A state: the mode, and the current word. -/
structure State where
  mode : Mode
  word : Word
  deriving DecidableEq

/-- The state before a script. -/
def State.init : State := ⟨.blank, []⟩

/-- The characters that separate tokens. -/
def isBlank (c : Char) : Bool := decide (c ∈ [' ', '\t'])

/-- The characters that operators are made of. -/
def isOperator (c : Char) : Bool := decide (c ∈ [';', '&', '|', '(', ')', '<', '>'])

/-- A character that begins or continues a word outside quotes. -/
def wordStep (w : Word) (c : Char) : State :=
  if c = '\'' then ⟨.single, w⟩
  else if c = '"' then ⟨.double, w⟩
  else if c = '\\' then ⟨.escape true, w⟩
  else ⟨.bare, w ++ [(c, .bare)]⟩

/-- Read one character and emit the tokens that it ends. -/
def step (st : State) (c : Char) : State × List Token :=
  match st.mode with
  | .blank =>
    if c = '\n' then (.init, [.newline])
    else if isBlank c then (.init, [])
    else if isOperator c then (.init, [.op c])
    else if c = '#' then (⟨.comment, []⟩, [])
    else if c = '\\' then (⟨.escape false, []⟩, [])
    else (wordStep [] c, [])
  | .comment => if c = '\n' then (.init, [.newline]) else (st, [])
  | .bare =>
    if c = '\n' then (.init, [.word st.word, .newline])
    else if isBlank c then (.init, [.word st.word])
    else if isOperator c then (.init, [.word st.word, .op c])
    else (wordStep st.word c, [])
  | .single =>
    if c = '\'' then (⟨.bare, st.word⟩, []) else (⟨.single, st.word ++ [(c, .literal)]⟩, [])
  | .double =>
    if c = '"' then (⟨.bare, st.word⟩, [])
    else if c = '\\' then (⟨.escapeDouble, st.word⟩, [])
    else (⟨.double, st.word ++ [(c, .double)]⟩, [])
  | .escape begun =>
    if c = '\n' then (⟨if begun then .bare else .blank, st.word⟩, [])
    else (⟨.bare, st.word ++ [(c, .literal)]⟩, [])
  | .escapeDouble =>
    if c = '\n' then (⟨.double, st.word⟩, [])
    else if c ∈ ['$', '"', '\\', '`'] then (⟨.double, st.word ++ [(c, .literal)]⟩, [])
    else (⟨.double, st.word ++ [('\\', .literal), (c, .double)]⟩, [])

/-- Read a text. -/
def run (st : State) : Str → State × List Token
  | [] => (st, [])
  | c :: s => ((run (step st c).1 s).1, (step st c).2 ++ (run (step st c).1 s).2)

/-- The tokens of a whole script; a quotation that is not closed is an error. -/
def tokens (s : Str) : Option (List Token) :=
  match run .init s with
  | (⟨.blank, _⟩, ts) => some ts
  | (⟨.comment, _⟩, ts) => some ts
  | (⟨.bare, w⟩, ts) => some (ts ++ [.word w])
  | _ => none

/-- The word of plain characters. -/
def bareWord (s : Str) : Word := s.map fun c => (c, .bare)

/-- The word of quoted characters. -/
def literalWord (s : Str) : Word := s.map fun c => (c, .literal)

/-- A script is read part by part. -/
lemma run_append (st : State) (a b : Str) :
    run st (a ++ b) = ((run (run st a).1 b).1, (run st a).2 ++ (run (run st a).1 b).2) := by
  induction a generalizing st with
  | nil => rfl
  | cons c a ih => simp only [List.cons_append, run, ih, List.append_assoc]

/-- A text whose reading is known, in front of another one. -/
lemma run_append_of {st st' : State} {a : Str} {ts : List Token} (h : run st a = (st', ts))
    (b : Str) : run st (a ++ b) = ((run st' b).1, ts ++ (run st' b).2) := by
  rw [run_append, h]

/-- **Single quotes**: text without a quote is data, whatever its characters. -/
lemma run_single {s : Str} (h : '\'' ∉ s) (w : Word) :
    run ⟨.single, w⟩ s = (⟨.single, w ++ literalWord s⟩, []) := by
  induction s generalizing w with
  | nil => simp [run, literalWord]
  | cons c s ih =>
    simp only [List.mem_cons, not_or] at h
    have hc : ¬ c = '\'' := fun he => h.1 he.symm
    simp only [run, step, if_neg hc, ih h.2, literalWord, List.map_cons, List.append_assoc,
      List.singleton_append, List.nil_append]

/-- **Comments**: text without a newline is skipped. -/
lemma run_comment {s : Str} (h : '\n' ∉ s) (w : Word) :
    run ⟨.comment, w⟩ s = (⟨.comment, w⟩, []) := by
  induction s with
  | nil => rfl
  | cons c s ih =>
    simp only [List.mem_cons, not_or] at h
    have hc : ¬ c = '\n' := fun he => h.1 he.symm
    simp only [run, step, if_neg hc, ih h.2, List.nil_append]

/-- The characters that are themselves in an unquoted word, wherever they stand in it. -/
def isWordChar (c : Char) : Bool :=
  ! isBlank c && ! isOperator c && decide (c ∉ ['\n', '\'', '"', '\\', '#'])

/-- An ordinary character continues a word. -/
lemma step_bare {c : Char} (h : isWordChar c) (w : Word) :
    step ⟨.bare, w⟩ c = (⟨.bare, w ++ [(c, .bare)]⟩, []) := by
  simp only [isWordChar, Bool.and_eq_true, Bool.not_eq_true', decide_eq_true_eq, List.mem_cons,
    List.not_mem_nil, or_false, not_or] at h
  obtain ⟨⟨h1, h2⟩, h3, h4, h5, h6, -⟩ := h
  simp [step, wordStep, h1, h2, h3, h4, h5, h6]

/-- An ordinary character begins a word. -/
lemma step_blank {c : Char} (h : isWordChar c) :
    step .init c = (⟨.bare, [(c, .bare)]⟩, []) := by
  simp only [isWordChar, Bool.and_eq_true, Bool.not_eq_true', decide_eq_true_eq, List.mem_cons,
    List.not_mem_nil, or_false, not_or] at h
  obtain ⟨⟨h1, h2⟩, h3, h4, h5, h6, h7⟩ := h
  simp [step, State.init, wordStep, h1, h2, h3, h4, h5, h6, h7]

/-- **Unquoted words**: ordinary characters are themselves. -/
lemma run_bare {s : Str} (h : ∀ c ∈ s, isWordChar c) (w : Word) :
    run ⟨.bare, w⟩ s = (⟨.bare, w ++ bareWord s⟩, []) := by
  induction s generalizing w with
  | nil => simp [run, bareWord]
  | cons c s ih =>
    simp only [run, step_bare (h c (by simp)), ih fun d hd => h d (List.mem_cons_of_mem c hd),
      bareWord, List.map_cons, List.append_assoc, List.singleton_append, List.nil_append]

/-- An unquoted word after a blank. -/
lemma run_blank {s : Str} (hne : s ≠ []) (h : ∀ c ∈ s, isWordChar c) :
    run .init s = (⟨.bare, bareWord s⟩, []) := by
  obtain ⟨c, s, rfl⟩ := List.exists_cons_of_ne_nil hne
  simp only [run, step_blank (h c (by simp)), List.nil_append,
    run_bare (fun d hd => h d (List.mem_cons_of_mem c hd)), bareWord, List.map_cons,
    List.singleton_append]

/-! ## Words are kept -/

/-- The modes in which a word has been begun. -/
def Mode.begun : Mode → Bool
  | .blank => false
  | .comment => false
  | .escape b => b
  | _ => true

/-- A word is begun, or continued, outside quotes. -/
lemma wordStep_begun (w : Word) (c : Char) :
    ∃ u, wordStep w c = ⟨(wordStep w c).mode, w ++ u⟩ ∧ (wordStep w c).mode.begun := by
  unfold wordStep
  split_ifs
  · exact ⟨[], by simp, rfl⟩
  · exact ⟨[], by simp, rfl⟩
  · exact ⟨[], by simp, rfl⟩
  · exact ⟨_, rfl, rfl⟩

/-- A word that has been begun: either a character continues it, or it is emitted first. -/
lemma step_begun {st : State} (h : st.mode.begun) (c : Char) :
    (∃ w, step st c = (⟨(step st c).1.mode, st.word ++ w⟩, []) ∧ (step st c).1.mode.begun) ∨
      ∃ ts, (step st c).2 = .word st.word :: ts := by
  obtain ⟨mode, word⟩ := st
  cases mode with
  | blank => cases h
  | comment => cases h
  | bare =>
    simp only [step]
    split_ifs
    · exact Or.inr ⟨_, rfl⟩
    · exact Or.inr ⟨_, rfl⟩
    · exact Or.inr ⟨_, rfl⟩
    · obtain ⟨u, hu, hb⟩ := wordStep_begun word c
      exact Or.inl ⟨u, Prod.ext hu rfl, hb⟩
  | single =>
    simp only [step]
    split_ifs
    · exact Or.inl ⟨[], by simp, rfl⟩
    · exact Or.inl ⟨_, rfl, rfl⟩
  | double =>
    simp only [step]
    split_ifs
    · exact Or.inl ⟨[], by simp, rfl⟩
    · exact Or.inl ⟨[], by simp, rfl⟩
    · exact Or.inl ⟨_, rfl, rfl⟩
  | escape begun =>
    simp only [Mode.begun] at h
    subst h
    simp only [step]
    split_ifs
    · exact Or.inl ⟨[], by simp, rfl⟩
    · exact Or.inl ⟨_, rfl, rfl⟩
  | escapeDouble =>
    simp only [step]
    split_ifs
    · exact Or.inl ⟨[], by simp, rfl⟩
    · exact Or.inl ⟨_, rfl, rfl⟩
    · exact Or.inl ⟨_, rfl, rfl⟩

/-- **A begun word is emitted with all its characters**: the first token of the rest of a
script is a word that begins with them, or the script ends before the word does.

**Proof sketch.** Induction on the rest of the script, by `step_begun`. -/
lemma open_word_emitted {st : State} (h : st.mode.begun) (s : Str) :
    ((run st s).2 = [] ∧ (run st s).1.mode.begun ∧ ∃ w, (run st s).1.word = st.word ++ w) ∨
      ∃ w ts, (run st s).2 = .word (st.word ++ w) :: ts := by
  induction s generalizing st with
  | nil => exact Or.inl ⟨rfl, h, [], by rw [run, List.append_nil]⟩
  | cons c s ih =>
    rcases step_begun h c with ⟨w, hstep, hbegun⟩ | ⟨ts, hts⟩
    · have hword : (step st c).1.word = st.word ++ w := by rw [hstep]
      have hnil : (step st c).2 = [] := by rw [hstep]
      rcases ih hbegun with ⟨h1, h2, w', h3⟩ | ⟨w', ts, hw'⟩
      · refine Or.inl ⟨by rw [run, hnil, h1, List.nil_append], h2, w ++ w', ?_⟩
        rw [run, h3, hword, List.append_assoc]
      · refine Or.inr ⟨w ++ w', ts, ?_⟩
        rw [run, hnil, hw', hword, List.append_assoc, List.nil_append]
    · exact Or.inr ⟨[], ts ++ (run (step st c).1 s).2, by
        rw [run, hts, List.append_nil, List.cons_append]⟩

/-- The tokens of a script that begins with whole commands. -/
lemma tokens_append_of_init {a : Str} {ts : List Token} (h : run .init a = (.init, ts)) (b : Str) :
    tokens (a ++ b) = (tokens b).map (ts ++ ·) := by
  unfold tokens
  rw [run_append_of h]
  obtain ⟨⟨mode, w⟩, us⟩ := run .init b
  cases mode <;> simp

/-- A script that has begun a word has a word that begins with its characters, if it has tokens
at all. -/
lemma tokens_of_begun {a b : Str} {st : State} {ts us : List Token} (h : run .init a = (st, ts))
    (hbegun : st.mode.begun) (htokens : tokens (a ++ b) = some us) :
    ∃ w us', us = ts ++ .word (st.word ++ w) :: us' := by
  unfold tokens at htokens
  rw [run_append_of h] at htokens
  have hrest := open_word_emitted hbegun b
  generalize run st b = r at hrest htokens
  obtain ⟨⟨mode, word⟩, rest⟩ := r
  rcases hrest with ⟨hnil, hmode, w, hw⟩ | ⟨w, us', hw⟩
  · cases hnil
    cases hw
    cases mode with
    | blank => cases hmode
    | comment => cases hmode
    | bare => exact ⟨w, [], by simpa using htokens.symm⟩
    | _ => cases htokens
  · cases hw
    cases mode with
    | blank | comment => exact ⟨w, us', by simpa using htokens.symm⟩
    | bare => exact ⟨w, us' ++ [.word word], by simpa using htokens.symm⟩
    | _ => cases htokens

/-! ## Values of templates -/

/-- The character is data in this state: it is skipped in a comment, or inside single quotes. -/
def quiet (st : State) (c : Char) : Bool :=
  match st.mode with
  | .comment => decide (c ≠ '\n')
  | .single => decide (c ≠ '\'')
  | _ => false

/-- Every character of a text is data. -/
def allQuiet (st : State) : Str → Bool
  | [] => true
  | c :: s => quiet st c && allQuiet (step st c).1 s

/-- Every value of a template is data where it stands. -/
def Inert (st : State) : Template → Bool
  | [] => true
  | .fixed s :: t => Inert (run st s).1 t
  | .value v :: t => allQuiet st v && Inert (run st v).1 t

/-- Inside single quotes, a text is data exactly when it has no quote. -/
lemma allQuiet_single {s : Str} (w : Word) : allQuiet ⟨.single, w⟩ s ↔ '\'' ∉ s := by
  induction s generalizing w with
  | nil => simp [allQuiet]
  | cons c s ih =>
    by_cases hc : c = '\''
    · simp [allQuiet, quiet, hc]
    · have hc' : ¬ '\'' = c := fun he => hc he.symm
      simp [allQuiet, quiet, hc, hc', step, ih]

/-- In a comment, a text is data exactly when it has no newline. -/
lemma allQuiet_comment {s : Str} (w : Word) : allQuiet ⟨.comment, w⟩ s ↔ '\n' ∉ s := by
  induction s with
  | nil => simp [allQuiet]
  | cons c s ih =>
    by_cases hc : c = '\n'
    · simp [allQuiet, quiet, hc]
    · have hc' : ¬ '\n' = c := fun he => hc he.symm
      simp [allQuiet, quiet, hc, hc', step, ih]

/-- The values of a template made of two parts. -/
lemma inert_append (st : State) (t u : Template) :
    Inert st (t ++ u) = (Inert st t && Inert (run st (render t)).1 u) := by
  induction t generalizing st with
  | nil => rfl
  | cons p t ih =>
    cases p with
    | fixed s => simp only [List.cons_append, Inert, ih, render_cons, Piece.text, run_append]
    | value v =>
      simp only [List.cons_append, Inert, ih, render_cons, Piece.text, run_append, Bool.and_assoc]

/-- Lines of fixed text have no values. -/
lemma inert_lines (st : State) (l : List String) : Inert st (lines l) = true := by
  induction l generalizing st with
  | nil => rfl
  | cons s l ih => exact ih _

/-! ## Lines -/

/-- The template is a sequence of whole commands, and emits these tokens. -/
def Reads (t : Template) (ts : List Token) : Prop := run .init (render t) = (.init, ts)

/-- Whether a template is read as given tokens is decided by reading it. -/
instance (t : Template) (ts : List Token) : Decidable (Reads t ts) :=
  inferInstanceAs (Decidable (_ = _))

/-- Templates of whole commands are read one after the other. -/
lemma Reads.append {t u : Template} {ts us : List Token} (ht : Reads t ts) (hu : Reads u us) :
    Reads (t ++ u) (ts ++ us) := by
  rw [Reads, render_append, run_append_of ht, hu]

/-- The template is a sequence of whole commands. -/
def Whole (t : Template) : Prop := (run .init (render t)).1 = .init

/-- Whether a template is whole is decided by reading it. -/
instance (t : Template) : Decidable (Whole t) := inferInstanceAs (Decidable (_ = _))

/-- A sequence of whole commands emits its tokens. -/
lemma Whole.reads {t : Template} (h : Whole t) : Reads t (run .init (render t)).2 := Prod.ext h rfl

/-- What emits tokens is a sequence of whole commands. -/
lemma Reads.whole {t : Template} {ts : List Token} (h : Reads t ts) : Whole t :=
  congrArg Prod.fst h

/-- Sequences of whole commands make up one. -/
lemma Whole.append {t u : Template} (ht : Whole t) (hu : Whole u) : Whole (t ++ u) :=
  (ht.reads.append hu.reads).whole

/-- The tokens of a template of whole commands. -/
lemma Reads.tokens {t : Template} {ts : List Token} (h : Reads t ts) :
    Shell.tokens (render t) = some ts := by
  rw [Shell.tokens, h]
  rfl

/-- The values of a template of whole commands followed by another one. -/
lemma Reads.inert_append {t : Template} {ts : List Token} (ht : Reads t ts) (u : Template) :
    Inert .init (t ++ u) = (Inert .init t && Inert .init u) := by
  rw [Shell.inert_append, ht]

section CommentLine

variable {label : String} (hlabel : run .init label.toList = (⟨.comment, []⟩, [])) {v : Str}

include hlabel

/-- A comment line reads as nothing, if its value has no newline. -/
lemma reads_commentLine (hv : '\n' ∉ v) : Reads (line [label, .value v]) [.newline] := by
  simp only [Reads, line, render_cons, render_nil, Piece.text, List.append_nil, List.cons_append,
    List.nil_append]
  rw [run_append_of hlabel, run_append_of (run_comment hv [])]
  rfl

/-- The value of a comment line is data exactly when it has no newline. -/
lemma inert_commentLine : Inert .init (line [label, .value v]) = true ↔ '\n' ∉ v := by
  simp only [line, Inert, List.cons_append, List.nil_append, hlabel, Bool.and_true]
  exact allQuiet_comment []

end CommentLine

section QuotedLine

variable {label : String} {w : Word} (hlabel : run .init label.toList = (⟨.single, w⟩, []))
  {v : Str}

include hlabel

/-- A line that ends in a quoted value is one word, if the value has no quote. -/
lemma reads_quotedLine (hv : '\'' ∉ v) :
    Reads (line [label, .value v, "'"]) [.word (w ++ literalWord v), .newline] := by
  simp only [Reads, line, render_cons, render_nil, Piece.text, List.append_nil, List.cons_append,
    List.nil_append]
  rw [run_append_of hlabel, run_append_of (run_single hv _)]
  rfl

/-- The value of a quoted line is data exactly when it has no quote. -/
lemma inert_quotedLine :
    Inert .init (line [label, .value v, "'"]) = true ↔ '\'' ∉ v := by
  simp only [line, Inert, List.cons_append, List.nil_append, hlabel, Bool.and_true]
  exact allQuiet_single _

end QuotedLine

end Shell
