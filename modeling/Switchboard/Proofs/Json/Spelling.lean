import Switchboard.Json.Tree
import Switchboard.Proofs.Json.Lexing

/-!
# What texts spell

A text spells a value when its tokens are read as that value wherever a value may stand, also in the
middle of other lists and objects. Every document without blanks around it spells its value, and the
value keeps the whole text.
-/

namespace Switchboard.Json

namespace Tree

/-! ## The machine on top of open frames -/

/-- The state with more frames below. A document that has ended is then a part of the innermost of
them. -/
def onto (base : List Frame) : State → Option State
  | (.done t, []) => finish t base
  | (e, fs) => some (e, fs ++ base)

def Open (s : State) : Prop := s.2 ≠ [] ∧ ∀ t, s.1 ≠ .done t

theorem onto_open {s : State} (h : Open s) (base : List Frame) :
    onto base s = some (s.1, s.2 ++ base) := by
  obtain ⟨e, fs⟩ := s
  cases fs with
  | nil => exact absurd rfl h.1
  | cons f fs => cases e <;> rfl

theorem open_cons {e : Expect} (he : ∀ t, e ≠ .done t) (f : Frame) (fs : List Frame) :
    Open (e, f :: fs) := ⟨List.cons_ne_nil f fs, he⟩

theorem finish_onto (t : Tree) (fs base : List Frame) :
    (finish t fs).bind (onto base) = finish t (fs ++ base) := by
  fun_cases finish t fs with
  | case1 => rfl
  | case2 read items fs => rfl
  | case3 read ms k fs => rfl
  | case4 => rfl

theorem close_onto (c : Char) {fs : List Frame} (h : fs ≠ []) (base : List Frame) :
    (close c fs).bind (onto base) = close c (fs ++ base) := by
  fun_cases close c fs with
  | case1 read items fs hc =>
    rw [finish_onto, List.cons_append, close, if_pos hc]
  | case2 read items fs hc =>
    rw [List.cons_append, close, if_neg hc]
    rfl
  | case3 read ms fs hc =>
    rw [finish_onto, List.cons_append, close, if_pos hc]
  | case4 read ms fs hc =>
    rw [List.cons_append, close, if_neg hc]
    rfl
  | case5 fs hlist hobject =>
    cases fs with
    | nil => exact absurd rfl h
    | cons f fs =>
      cases f with
      | list read items => exact absurd rfl (hlist read items fs)
      | object read ms key =>
        cases key with
        | none => exact absurd rfl (hobject read ms fs)
        | some k => rfl

theorem start_onto (tok : Token) (fs base : List Frame) :
    (start tok fs).bind (onto base) = start tok (fs ++ base) := by
  fun_cases start tok fs with
  | case1 | case2 | case3 => exact finish_onto _ fs base
  | case4 c hc =>
    rw [start, if_pos hc]
    rfl
  | case5 c hlist hc =>
    rw [start, if_neg hlist, if_pos hc]
    rfl
  | case6 c hlist hobject =>
    rw [start, if_neg hlist, if_neg hobject]
    rfl
  | case7 => rfl

theorem startKey_onto (tok : Token) {fs : List Frame} (h : fs ≠ []) (base : List Frame) :
    (startKey tok fs).bind (onto base) = startKey tok (fs ++ base) := by
  cases fs with
  | nil => exact absurd rfl h
  | cons f fs =>
    cases tok with
    | quoted b =>
      cases f with
      | list => rfl
      | object read ms key => cases key <;> rfl
    | _ => cases f <;> rfl

theorem separate_onto (c : Char) {fs : List Frame} (h : fs ≠ []) (base : List Frame) :
    (separate c fs).bind (onto base) = separate c (fs ++ base) := by
  unfold separate
  split
  · cases fs with
    | nil => exact absurd rfl h
    | cons f fs =>
      cases f with
      | list => rfl
      | object read ms key => cases key <;> rfl
  · exact close_onto c h base

section step

variable {tok : Token} (h : ∀ t, tok ≠ .blank t) (fs : List Frame)
include h

theorem step_value : step (.value, fs) tok = start tok fs := by
  cases tok with
  | blank t => exact absurd rfl (h t)
  | _ => rfl

theorem step_valueOrEnd : step (.valueOrEnd, fs) tok =
    if tok = .mark ']' then close ']' fs else start tok fs := by
  cases tok with
  | blank t => exact absurd rfl (h t)
  | _ => rfl

theorem step_key : step (.key, fs) tok = startKey tok fs := by
  cases tok with
  | blank t => exact absurd rfl (h t)
  | _ => rfl

theorem step_keyOrEnd : step (.keyOrEnd, fs) tok =
    if tok = .mark '}' then close '}' fs else startKey tok fs := by
  cases tok with
  | blank t => exact absurd rfl (h t)
  | _ => rfl

end step

def noteTop (t : List Char) : List Frame → List Frame
  | [] => []
  | f :: fs => f.note t :: fs

inductive Moves (e : Expect) (fs : List Frame) : Token → State → Prop
  | blank (t : List Char) : Moves e fs (.blank t) (e, noteTop t fs)
  | start {tok : Token} {s : State} (h : start tok fs = some s) : Moves e fs tok s
  | close {c : Char} {s : State} (h : close c fs = some s) : Moves e fs (.mark c) s
  | key {tok : Token} {s : State} (h : startKey tok fs = some s) : Moves e fs tok s
  | colon : Moves e fs (.mark ':') (.value, noteTop [':'] fs)
  | separate {c : Char} {s : State} (h : separate c fs = some s) : Moves e fs (.mark c) s

theorem moves_of_step {e : Expect} {fs : List Frame} {tok : Token} {s : State}
    (h : step (e, fs) tok = some s) : Moves e fs tok s := by
  by_cases hblank : ∃ t, tok = .blank t
  · obtain ⟨t, rfl⟩ := hblank
    cases fs <;>
    · cases h
      exact .blank t
  · rw [not_exists] at hblank
    cases e with
    | value => exact .start (step_value hblank fs ▸ h)
    | valueOrEnd =>
      rw [step_valueOrEnd hblank] at h
      split at h
      · rename_i htok
        subst htok
        exact .close h
      · exact .start h
    | key => exact .key (step_key hblank fs ▸ h)
    | keyOrEnd =>
      rw [step_keyOrEnd hblank] at h
      split at h
      · rename_i htok
        subst htok
        exact .close h
      · exact .key h
    | colon =>
      cases tok with
      | mark c =>
        cases fs with
        | nil => cases h
        | cons f fs =>
          have hc : (if c == ':' then some (Expect.value, f.note [':'] :: fs) else none) = some s := h
          split at hc
          · rename_i hcolon
            obtain rfl : c = ':' := by simpa using hcolon
            cases hc
            exact .colon
          · cases hc
      | blank t => exact absurd rfl (hblank t)
      | _ => cases fs <;> cases h
    | comma =>
      cases tok with
      | mark c => exact .separate h
      | blank t => exact absurd rfl (hblank t)
      | _ => cases fs <;> cases h
    | done t =>
      cases tok with
      | blank b => exact absurd rfl (hblank b)
      | _ => cases fs <;> cases h

theorem step_onto {s : State} (h : Open s) (tok : Token) (base : List Frame) :
    (step s tok).bind (onto base) = step (s.1, s.2 ++ base) tok := by
  obtain ⟨e, fs⟩ := s
  obtain ⟨hfs, hdone⟩ := h
  cases fs with
  | nil => exact absurd rfl hfs
  | cons f fs =>
    by_cases hblank : ∃ t, tok = .blank t
    · obtain ⟨t, rfl⟩ := hblank
      exact onto_open (open_cons hdone (f.note t) fs) base
    · rw [not_exists] at hblank
      cases e with
      | value => rw [step_value hblank, step_value hblank, start_onto]
      | valueOrEnd =>
        rw [step_valueOrEnd hblank, step_valueOrEnd hblank]
        split
        · exact close_onto ']' hfs base
        · exact start_onto tok _ base
      | key => rw [step_key hblank, step_key hblank, startKey_onto tok hfs]
      | keyOrEnd =>
        rw [step_keyOrEnd hblank, step_keyOrEnd hblank]
        split
        · exact close_onto '}' hfs base
        · exact startKey_onto tok hfs base
      | colon =>
        cases tok with
        | mark c =>
          show (if c == ':' then _ else none).bind (onto base) = if c == ':' then _ else none
          split <;> rfl
        | _ => rfl
      | comma =>
        cases tok with
        | mark c => exact separate_onto c hfs base
        | _ => rfl
      | done t => exact absurd rfl (hdone t)

/-! ## What has been read -/

end Tree

namespace Source

mutual
theorem before_eq : ∀ (s : Source) (rest : List Char), s.before rest = s.text ++ rest
  | .piece t, rest => by simp [text, before]
  | .join ps, rest => by
    rw [text, before, before]
    exact beforeAll_eq ps rest
theorem beforeAll_eq : ∀ (ps : List Source) (rest : List Char),
    beforeAll ps rest = beforeAll ps [] ++ rest
  | [], rest => rfl
  | p :: ps, rest => by
    rw [beforeAll, beforeAll, before_eq p, before_eq p (beforeAll ps []), beforeAll_eq ps rest,
      List.append_assoc]
end

@[simp] theorem text_piece (t : List Char) : (piece t).text = t := by simp [text, before]

theorem text_join (ps : List Source) : (join ps).text = ps.flatMap text := by
  rw [text, before]
  induction ps with
  | nil => rfl
  | cons p ps ih => rw [beforeAll, before_eq, ih, List.flatMap_cons]

end Source

namespace Tree

def Frame.text : Frame → List Char
  | list read _ | object read _ _ => read.reverse.flatMap Source.text

def framesText : List Frame → List Char
  | [] => []
  | f :: fs => framesText fs ++ f.text

def stateText : State → List Char
  | (.done t, []) => t.text
  | (_, fs) => framesText fs

/-- The state is within a list or an object, or at the end of the document, and has read the text. -/
structure Reads (s : State) (text : List Char) : Prop where
  goes : Open s ∨ ∃ t, s = (.done t, [])
  text : stateText s = text

theorem reads_open {e : Expect} (he : ∀ t, e ≠ .done t) (f : Frame) (fs : List Frame) :
    Reads (e, f :: fs) (framesText fs ++ f.text) :=
  ⟨.inl (open_cons he f fs), by cases e <;> rfl⟩

theorem text_note (t : List Char) (f : Frame) : (f.note t).text = f.text ++ t := by
  cases f <;> simp [Frame.note, Frame.text]

section reads

variable {s : State} {fs : List Frame}

theorem finish_reads {t : Tree} (h : finish t fs = some s) : Reads s (framesText fs ++ t.text) := by
  revert h
  fun_cases finish t fs <;> intro h
  · cases h
    exact ⟨.inr ⟨t, rfl⟩, rfl⟩
  · cases h
    refine ⟨(reads_open (by simp) _ _).goes, ?_⟩
    simp [stateText, framesText, Frame.text, text]
  · cases h
    refine ⟨(reads_open (by simp) _ _).goes, ?_⟩
    simp [stateText, framesText, Frame.text, text]
  · cases h

theorem close_reads {c : Char} (h : close c fs = some s) : Reads s (framesText fs ++ [c]) := by
  have hclosed (read : List Source) : (closed read c).text = read.reverse.flatMap Source.text ++ [c] := by
    simp [closed, Source.text_join]
  revert h
  fun_cases close c fs <;> intro h
  · have := finish_reads h
    simpa [framesText, Frame.text, text, source, hclosed] using this
  · cases h
  · have := finish_reads h
    simpa [framesText, Frame.text, text, source, hclosed] using this
  · cases h
  · cases h

theorem start_reads {tok : Token} (h : start tok fs = some s) :
    Reads s (framesText fs ++ tok.text) := by
  revert h
  fun_cases start tok fs <;> intro h
  · simpa [text, source] using finish_reads h
  · simpa [text, source] using finish_reads h
  · simpa [text, source] using finish_reads h
  · rename_i c hc
    obtain rfl : c = '[' := by simpa using hc
    cases h
    simpa [Frame.text, Token.text] using reads_open (by simp) (.list [.piece ['[']] []) fs
  · rename_i c _ hc
    obtain rfl : c = '{' := by simpa using hc
    cases h
    simpa [Frame.text, Token.text] using reads_open (by simp) (.object [.piece ['{']] [] none) fs
  · cases h
  · cases h

theorem startKey_reads {tok : Token} (h : startKey tok fs = some s) :
    Reads s (framesText fs ++ tok.text) := by
  revert h
  fun_cases startKey tok fs <;> intro h
  · rename_i b read ms fs
    cases h
    simpa [framesText, Frame.text] using
      reads_open (by simp) (.object (.piece (Token.quoted b).text :: read) ms (some b)) fs
  · cases h

theorem separate_reads {c : Char} (h : separate c fs = some s) : Reads s (framesText fs ++ [c]) := by
  revert h
  fun_cases separate c fs <;> intro h
  · rename_i hc read items fs
    obtain rfl : c = ',' := by simpa using hc
    cases h
    simpa [framesText, Frame.text] using reads_open (by simp) (.list (.piece [','] :: read) items) fs
  · rename_i hc read ms fs
    obtain rfl : c = ',' := by simpa using hc
    cases h
    simpa [framesText, Frame.text] using
      reads_open (by simp) (.object (.piece [','] :: read) ms none) fs
  · cases h
  · exact close_reads h

theorem step_reads {s' : State} {tok : Token} (hs : Open s) (h : step s tok = some s') :
    Reads s' (stateText s ++ tok.text) := by
  obtain ⟨e, fs⟩ := s
  obtain ⟨hfs, hdone⟩ := hs
  cases fs with
  | nil => exact absurd rfl hfs
  | cons f fs =>
    have htext : stateText (e, f :: fs) = framesText (f :: fs) := by cases e <;> rfl
    rw [htext]
    cases moves_of_step h with
    | blank b =>
      simpa [framesText, text_note, Token.text, noteTop] using reads_open hdone (f.note b) fs
    | start h => exact start_reads h
    | close h => exact close_reads h
    | key h => exact startKey_reads h
    | colon =>
      simpa [framesText, text_note, Token.text, noteTop] using reads_open (by simp) (f.note [':']) fs
    | separate h => exact separate_reads h

end reads

/-! ## Documents -/

theorem run_done {t : Tree} {ts : List Token} {s : State} (h : run (.done t, []) ts = some s) :
    ∀ tok ∈ ts, ∃ b, tok = .blank b := by
  induction ts with
  | nil => simp
  | cons tok ts ih =>
    cases tok with
    | blank b => exact List.forall_mem_cons.mpr ⟨⟨b, rfl⟩, ih h⟩
    | _ => cases h

theorem run_done_eq {t : Tree} {ts : List Token} {s : State} (h : run (.done t, []) ts = some s) :
    s = (.done t, []) := by
  induction ts with
  | nil => exact (Option.some.inj h).symm
  | cons tok ts ih =>
    cases tok with
    | blank b => exact ih h
    | _ => cases h

theorem last_tail {tok : Token} {ts : List Token}
    (h : ∀ b, (tok :: ts).getLast? ≠ some (.blank b)) : ∀ b, ts.getLast? ≠ some (.blank b) := by
  intro b hb
  cases ts with
  | nil => cases hb
  | cons tok' ts => exact h b hb

theorem run_onto {s : State} {text : List Char} (hs : Reads s text) {ts : List Token} {t : Tree}
    {fs : List Frame} (h : run s ts = some (.done t, fs))
    (hlast : ∀ b, ts.getLast? ≠ some (.blank b)) :
    text ++ ts.flatMap Token.text = t.text ∧
      ∀ base, ((onto base s).bind fun s => run s ts) = finish t base := by
  induction ts generalizing s text with
  | nil =>
    cases h
    rcases hs.goes with hopen | ⟨t', heq⟩
    · exact absurd rfl (hopen.2 t)
    · cases heq
      refine ⟨by simpa [stateText] using hs.text.symm, fun base => ?_⟩
      exact Option.bind_fun_some _
  | cons tok ts ih =>
    rcases hs.goes with hopen | ⟨t', rfl⟩
    · obtain ⟨s', hstep, hrun⟩ := Option.bind_eq_some_iff.mp h
      obtain ⟨htext, hbase⟩ := ih (step_reads hopen hstep) hrun (last_tail hlast)
      refine ⟨by simpa [hs.text] using htext, fun base => ?_⟩
      rw [onto_open hopen, Option.bind_some, run, ← step_onto hopen tok base, hstep]
      exact hbase base
    · -- the document has ended before, so this token and all behind it are blanks
      have hne := List.cons_ne_nil tok ts
      obtain ⟨b, hb⟩ := run_done h _ (List.getLast_mem hne)
      refine absurd ?_ (hlast b)
      rw [List.getLast?_eq_some_getLast hne, hb]

theorem run_reads {s : State} {text : List Char} (hs : Reads s text) {ts : List Token} {t : Tree}
    {fs : List Frame} (h : run s ts = some (.done t, fs)) :
    ∃ post : List Token, (∀ tok ∈ post, tok ∈ ts ∧ ∃ b, tok = .blank b) ∧
      text ++ ts.flatMap Token.text = t.text ++ post.flatMap Token.text := by
  induction ts generalizing s text with
  | nil =>
    cases h
    rcases hs.goes with hopen | ⟨t', heq⟩
    · exact absurd rfl (hopen.2 t)
    · cases heq
      exact ⟨[], fun _ htok => absurd htok List.not_mem_nil, by simpa [stateText] using hs.text.symm⟩
  | cons tok ts ih =>
    rcases hs.goes with hopen | ⟨t', rfl⟩
    · obtain ⟨s', hstep, hrun⟩ := Option.bind_eq_some_iff.mp h
      obtain ⟨post, hpost, htext⟩ := ih (step_reads hopen hstep) hrun
      refine ⟨post, fun tok htok => ?_, by simpa [hs.text] using htext⟩
      obtain ⟨hmem, hblank⟩ := hpost tok htok
      exact ⟨List.mem_cons_of_mem _ hmem, hblank⟩
    · -- the document has ended before, so this token and all behind it are blanks
      have hblank := run_done h
      cases run_done_eq h
      refine ⟨tok :: ts, fun tok htok => ⟨htok, hblank tok htok⟩, ?_⟩
      rw [← hs.text]
      rfl

/-- The tokens of a document are those of its value, with blanks around them. -/
theorem run_document {ts : List Token} {t : Tree} {fs : List Frame}
    (h : run (.value, []) ts = some (.done t, fs)) :
    ∃ pre post : List Token, (∀ tok ∈ pre ++ post, tok ∈ ts ∧ ∃ b, tok = .blank b) ∧
      ts.flatMap Token.text = pre.flatMap Token.text ++ t.text ++ post.flatMap Token.text := by
  induction ts with
  | nil => cases h
  | cons tok ts ih =>
    by_cases hblank : ∃ b, tok = .blank b
    · obtain ⟨b, rfl⟩ := hblank
      obtain ⟨pre, post, hblanks, htext⟩ := ih h
      refine ⟨.blank b :: pre, post, ?_, by simp [htext]⟩
      rw [List.cons_append]
      refine List.forall_mem_cons.mpr ⟨⟨List.mem_cons_self, b, rfl⟩, fun tok htok => ?_⟩
      obtain ⟨hmem, hb⟩ := hblanks tok htok
      exact ⟨List.mem_cons_of_mem _ hmem, hb⟩
    · obtain ⟨s', hstart, hrun⟩ := Option.bind_eq_some_iff.mp h
      rw [step_value (not_exists.mp hblank)] at hstart
      obtain ⟨post, hblanks, htext⟩ := run_reads (start_reads hstart) hrun
      refine ⟨[], post, fun tok htok => ?_, by simpa [framesText] using htext⟩
      obtain ⟨hmem, hb⟩ := hblanks tok htok
      exact ⟨List.mem_cons_of_mem _ hmem, hb⟩

theorem exists_run_of_ofText? {s : List Char} {t : Tree} (h : Tree.ofText? s = some t) :
    ∃ ts fs, lex s = some ts ∧ run (.value, []) ts = some (.done t, fs) := by
  obtain ⟨ts, hlex, htokens⟩ := Option.bind_eq_some_iff.mp h
  unfold ofTokens? at htokens
  split at htokens
  · rename_i fs hrun
    cases htokens
    exact ⟨ts, fs, hlex, hrun⟩
  · cases htokens

def Blank (s : List Char) : Prop := ∀ c ∈ s, isSpace c = true

theorem blank_tokens {s : List Char} {ts us : List Token} (hlex : lex s = some ts)
    (h : ∀ tok ∈ us, tok ∈ ts ∧ ∃ b, tok = .blank b) : Blank (us.flatMap Token.text) := by
  intro c hc
  obtain ⟨tok, htok, hc⟩ := List.mem_flatMap.mp hc
  obtain ⟨hmem, b, rfl⟩ := h tok htok
  exact (lex_blank hlex hmem).2 c hc

/-- A document is the text of its value with blanks around it. -/
theorem text_of_ofText? {s : List Char} {t : Tree} (h : Tree.ofText? s = some t) :
    ∃ pre post, Blank pre ∧ Blank post ∧ s = pre ++ t.text ++ post := by
  obtain ⟨ts, fs, hlex, hrun⟩ := exists_run_of_ofText? h
  obtain ⟨pre, post, hblanks, htext⟩ := run_document hrun
  rw [List.forall_mem_append] at hblanks
  refine ⟨_, _, blank_tokens hlex hblanks.1, blank_tokens hlex hblanks.2, ?_⟩
  rw [← htext, lex_text hlex]

/-- The text is read as the value at every place where a value must stand. -/
def Spells (s : List Char) (t : Tree) : Prop :=
  ∃ ts, lex s = some ts ∧ ∀ fs, run (.value, fs) ts = finish t fs

theorem Spells.ofText? {s : List Char} {t : Tree} (h : Spells s t) : Tree.ofText? s = some t := by
  obtain ⟨ts, hlex, hrun⟩ := h
  rw [Tree.ofText?, hlex, Option.bind_some, ofTokens?, hrun]
  rfl

/-- A document without blanks around it is the whole text of its value, and is read as that value
also within other documents. -/
theorem spells_of_ofText? {s : List Char} {t : Tree} (h : Tree.ofText? s = some t)
    (hs : Trimmed s) : Spells s t ∧ t.text = s := by
  obtain ⟨ts, fs, hlex, hrun⟩ := exists_run_of_ofText? h
  have hlast : ∀ b, ts.getLast? ≠ some (.blank b) := by
    intro b hb
    obtain ⟨ts', rfl⟩ := List.getLast?_eq_some_iff.mp hb
    obtain ⟨hne, hspace⟩ := lex_blank hlex (b := b) (by simp)
    have hend : s.getLast? = some (b.getLast hne) := by
      rw [← lex_text hlex]
      simp [Token.text, List.getLast?_append, List.getLast?_eq_some_getLast hne]
    have := hs.last _ hend
    simp [hspace _ (List.getLast_mem hne)] at this
  cases ts with
  | nil => cases hrun
  | cons tok ts =>
    have hblank : ∀ b, tok ≠ .blank b := by
      rintro b rfl
      obtain ⟨hne, hspace⟩ := lex_blank hlex (b := b) (by simp)
      have hhead : s.head? = some (b.head hne) := by
        rw [← lex_text hlex]
        simp [Token.text, List.head?_eq_some_head hne]
      have := hs.head _ hhead
      simp [hspace _ (List.head_mem hne)] at this
    obtain ⟨s', hstart, hrest⟩ := Option.bind_eq_some_iff.mp hrun
    rw [step_value hblank] at hstart
    obtain ⟨htext, hbase⟩ := run_onto (start_reads hstart) hrest (last_tail hlast)
    refine ⟨⟨tok :: ts, hlex, fun fs => ?_⟩, ?_⟩
    · have honto := start_onto tok [] fs
      rw [hstart, Option.bind_some] at honto
      rw [run, step_value hblank, ← List.nil_append fs, ← honto]
      exact hbase fs
    · rw [← htext, ← lex_text hlex]
      rfl

end Tree

end Switchboard.Json
