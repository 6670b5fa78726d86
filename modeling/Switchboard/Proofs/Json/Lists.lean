import Switchboard.Proofs.Json.Shortening
import Switchboard.Proofs.Json.Writing
import Switchboard.Proofs.Text.Trimming

/-!
# Documents that are lists

A list stands between its brackets, and is read from there too when the blanks around it are taken away.
A list of texts is read as it was written.
-/

namespace Switchboard.Json

namespace Tree

/-! ## Brackets -/

def Frame.bracket : Frame → Char
  | .list _ _ => '['
  | .object _ _ _ => '{'

/-- The bracket that a document has begun with, if it is a list or an object. -/
def outer : State → Option Char
  | (.done (.list _ _), []) => some '['
  | (.done (.object _ _), []) => some '{'
  | (_, fs) => fs.getLast?.map Frame.bracket

theorem outer_open {e : Expect} (he : ∀ t, e ≠ .done t) (fs : List Frame) :
    outer (e, fs) = fs.getLast?.map Frame.bracket := by
  cases e with
  | done t => exact absurd rfl (he t)
  | _ => rfl

theorem bracket_top {f f' : Frame} (h : f'.bracket = f.bracket) (fs : List Frame) :
    (f' :: fs).getLast?.map Frame.bracket = (f :: fs).getLast?.map Frame.bracket := by
  cases fs with
  | nil => simp [h]
  | cons g fs => rfl

theorem bracket_note (t : List Char) (f : Frame) : (f.note t).bracket = f.bracket := by
  cases f <;> rfl

section outer

variable {s : State} {fs : List Frame}

theorem finish_outer {t : Tree} (hfs : fs ≠ []) (h : finish t fs = some s) :
    outer s = fs.getLast?.map Frame.bracket := by
  revert h
  fun_cases finish t fs <;> intro h
  · exact absurd rfl hfs
  · cases h
    exact bracket_top (by rfl) _
  · cases h
    exact bracket_top (by rfl) _
  · cases h

theorem pop_outer {t : Tree} {f : Frame} (ht : outer (.done t, []) = some f.bracket)
    (h : finish t fs = some s) : outer s = (f :: fs).getLast?.map Frame.bracket := by
  cases fs with
  | nil =>
    cases h
    exact ht
  | cons g fs =>
    have hrest := finish_outer (List.cons_ne_nil g fs) h
    exact hrest

theorem close_outer {c : Char} (h : close c fs = some s) :
    outer s = fs.getLast?.map Frame.bracket := by
  revert h
  fun_cases close c fs <;> intro h
  · exact pop_outer rfl h
  · cases h
  · exact pop_outer rfl h
  · cases h
  · cases h

theorem start_outer {tok : Token} (hfs : fs ≠ []) (h : start tok fs = some s) :
    outer s = fs.getLast?.map Frame.bracket := by
  have hpush (f : Frame) : (f :: fs).getLast?.map Frame.bracket = fs.getLast?.map Frame.bracket := by
    cases fs with
    | nil => exact absurd rfl hfs
    | cons g fs => rfl
  revert h
  fun_cases start tok fs <;> intro h
  · exact finish_outer hfs h
  · exact finish_outer hfs h
  · exact finish_outer hfs h
  · cases h
    exact hpush _
  · cases h
    exact hpush _
  · cases h
  · cases h

theorem startKey_outer {tok : Token} (h : startKey tok fs = some s) :
    outer s = fs.getLast?.map Frame.bracket := by
  revert h
  fun_cases startKey tok fs <;> intro h
  · cases h
    exact bracket_top (by rfl) _
  · cases h

theorem separate_outer {c : Char} (h : separate c fs = some s) :
    outer s = fs.getLast?.map Frame.bracket := by
  revert h
  fun_cases separate c fs <;> intro h
  · cases h
    exact bracket_top (by rfl) _
  · cases h
    exact bracket_top (by rfl) _
  · cases h
  · exact close_outer h

theorem noteTop_outer (t : List Char) (fs : List Frame) :
    (noteTop t fs).getLast?.map Frame.bracket = fs.getLast?.map Frame.bracket := by
  cases fs with
  | nil => rfl
  | cons f fs => exact bracket_top (bracket_note t f) fs

theorem step_outer {s' : State} {tok : Token} (hs : Open s) (h : step s tok = some s') :
    outer s' = outer s := by
  obtain ⟨e, fs⟩ := s
  obtain ⟨hfs, hdone⟩ := hs
  rw [outer_open hdone]
  cases moves_of_step h with
  | blank t =>
    rw [outer_open hdone]
    exact noteTop_outer t fs
  | start h => exact start_outer hfs h
  | close h => exact close_outer h
  | key h => exact startKey_outer h
  | colon => exact noteTop_outer [':'] fs
  | separate h => exact separate_outer h

end outer

theorem run_outer {s s' : State} {text : List Char} (hs : Reads s text) {ts : List Token}
    (h : run s ts = some s') : outer s' = outer s := by
  induction ts generalizing s text with
  | nil =>
    cases h
    rfl
  | cons tok ts ih =>
    rcases hs.goes with hopen | ⟨t, rfl⟩
    · obtain ⟨s₁, hstep, hrun⟩ := Option.bind_eq_some_iff.mp h
      rw [ih (step_reads hopen hstep) hrun, step_outer hopen hstep]
    · rw [run_done_eq h]

/-! ## Ends -/

theorem finish_done {t t' : Tree} {fs fs' : List Frame} (h : finish t fs = some (.done t', fs')) :
    fs' = [] ∧ t' = t := by
  revert h
  fun_cases finish t fs <;> intro h <;> cases h
  exact ⟨rfl, rfl⟩

theorem close_done {c : Char} {t : Tree} {fs fs' : List Frame} (h : close c fs = some (.done t, fs')) :
    fs' = [] ∧ ∀ items source, t = .list items source → c = ']' := by
  revert h
  fun_cases close c fs <;> intro h
  · rename_i hc
    exact ⟨(finish_done h).1, fun _ _ _ => by simpa using hc⟩
  · cases h
  · refine ⟨(finish_done h).1, fun items source ht => ?_⟩
    rw [(finish_done h).2] at ht
    cases ht
  · cases h
  · cases h

theorem start_done {tok : Token} {t : Tree} {fs fs' : List Frame}
    (h : start tok fs = some (.done t, fs')) : fs' = [] ∧ ∀ items source, t ≠ .list items source := by
  revert h
  fun_cases start tok fs <;> intro h
  case case1 | case2 | case3 =>
    refine ⟨(finish_done h).1, fun items source ht => ?_⟩
    rw [(finish_done h).2] at ht
    cases ht
  all_goals cases h

theorem separate_done {c : Char} {t : Tree} {fs fs' : List Frame}
    (h : separate c fs = some (.done t, fs')) :
    fs' = [] ∧ ∀ items source, t = .list items source → c = ']' := by
  revert h
  fun_cases separate c fs <;> intro h
  case case4 => exact close_done h
  all_goals cases h

theorem step_done {s : State} {tok : Token} {t : Tree} {fs : List Frame} (hs : ∀ t, s.1 ≠ .done t)
    (h : step s tok = some (.done t, fs)) :
    fs = [] ∧ ∀ items source, t = .list items source → tok = .mark ']' := by
  obtain ⟨e, gs⟩ := s
  have hmark {c : Char} (h : fs = [] ∧ ∀ items source, t = .list items source → c = ']') :
      fs = [] ∧ ∀ items source, t = .list items source → Token.mark c = .mark ']' := by
    refine ⟨h.1, fun items source ht => ?_⟩
    rw [h.2 items source ht]
  cases moves_of_step h with
  | blank b => exact absurd rfl (hs t)
  | start h =>
    exact ⟨(start_done h).1, fun items source ht => absurd ht ((start_done h).2 items source)⟩
  | close h => exact hmark (close_done h)
  | key h =>
    revert h
    fun_cases startKey tok gs <;> intro h <;> cases h
  | separate h => exact hmark (separate_done h)

/-- Where a document ends: behind its last token there are blanks. -/
theorem exists_last {s : State} {ts : List Token} {t : Tree} {fs : List Frame}
    (hs : ∀ t, s.1 ≠ .done t) (h : run s ts = some (.done t, fs)) :
    ∃ mid tok post, ts = mid ++ tok :: post ∧ (∀ tok ∈ post, ∃ b, tok = .blank b) ∧
      run s (mid ++ [tok]) = some (.done t, []) ∧
      ∀ items source, t = .list items source → tok = .mark ']' := by
  induction ts generalizing s with
  | nil =>
    cases h
    exact absurd rfl (hs t)
  | cons tok ts ih =>
    obtain ⟨⟨e, gs⟩, hstep, hrun⟩ := Option.bind_eq_some_iff.mp h
    by_cases hdone : ∃ t', e = .done t'
    · obtain ⟨t', rfl⟩ := hdone
      obtain ⟨rfl, hlist⟩ := step_done hs hstep
      have hend := run_done_eq hrun
      cases hend
      refine ⟨[], tok, ts, rfl, run_done hrun, ?_, hlist⟩
      rw [List.nil_append, run, hstep]
      rfl
    · obtain ⟨mid, last, post, rfl, hpost, hmid, hlist⟩ := ih (not_exists.mp hdone) hrun
      refine ⟨tok :: mid, last, post, rfl, hpost, ?_, hlist⟩
      rw [List.cons_append, run, hstep]
      exact hmid

theorem exists_brackets {ts : List Token} {items : List Tree} {source : Source} {fs : List Frame}
    (h : run (.value, []) ts = some (.done (.list items source), fs)) :
    ∃ pre mid post, ts = pre ++ (.mark '[' :: mid ++ [.mark ']']) ++ post ∧
      (∀ tok ∈ pre ++ post, ∃ b, tok = .blank b) ∧
      run (.value, []) (.mark '[' :: mid ++ [.mark ']']) = some (.done (.list items source), []) := by
  induction ts with
  | nil => cases h
  | cons tok ts ih =>
    by_cases hblank : ∃ b, tok = .blank b
    · obtain ⟨b, rfl⟩ := hblank
      obtain ⟨pre, mid, post, rfl, hblanks, hrun⟩ := ih h
      exact ⟨.blank b :: pre, mid, post, rfl, List.forall_mem_cons.mpr ⟨⟨b, rfl⟩, hblanks⟩, hrun⟩
    · obtain ⟨s, hstart, hrun⟩ := Option.bind_eq_some_iff.mp h
      rw [step_value (not_exists.mp hblank)] at hstart
      -- a document that ends with its first token is no list
      have hopen : ∀ t, s.1 ≠ .done t := by
        obtain ⟨e, gs⟩ := s
        rintro t rfl
        obtain ⟨rfl, hlist⟩ := start_done hstart
        cases run_done_eq hrun
        exact hlist items source rfl
      obtain ⟨mid, last, post, rfl, hpost, hmid, hlist⟩ := exists_last hopen hrun
      obtain rfl := hlist items source rfl
      -- the first bracket has settled that the document is no object
      have houter : some '[' = outer s := run_outer (start_reads hstart) hmid
      have hbracket : tok = .mark '[' := by
        revert hstart
        fun_cases start tok [] <;> intro hstart
        case case4 c hc => rw [eq_of_beq hc]
        case case6 | case7 => cases hstart
        all_goals
          cases hstart
          cases houter
      subst hbracket
      refine ⟨[], mid, post, by simp, hpost, ?_⟩
      rw [List.cons_append, run, step_value (by simp), hstart]
      exact hmid

theorem exists_list_text {s : List Char} {items : List Tree} {source : Source}
    (h : Tree.ofText? s = some (.list items source)) :
    ∃ pre body post, Blank pre ∧ Blank post ∧ s = pre ++ ('[' :: body ++ [']']) ++ post ∧
      Tree.ofText? ('[' :: body ++ [']']) = some (.list items source) := by
  obtain ⟨ts, fs, hlex, hrun⟩ := exists_run_of_ofText? h
  obtain ⟨pre, mid, post, rfl, hblanks, hmid⟩ := exists_brackets hrun
  rw [List.forall_mem_append] at hblanks
  have hcore := lex_back (lex_front hlex)
  have htext : (Token.mark '[' :: mid ++ [Token.mark ']']).flatMap Token.text =
      '[' :: mid.flatMap Token.text ++ [']'] := by simp [Token.text]
  rw [htext] at hcore
  have hpre : Blank (pre.flatMap Token.text) :=
    blank_tokens hlex fun tok htok => ⟨by simp [htok], hblanks.1 tok htok⟩
  have hpost : Blank (post.flatMap Token.text) :=
    blank_tokens hlex fun tok htok => ⟨by simp [htok], hblanks.2 tok htok⟩
  refine ⟨_, mid.flatMap Token.text, _, hpre, hpost, ?_, ?_⟩
  · rw [← lex_text hlex, List.flatMap_append, List.flatMap_append, htext]
  · rw [Tree.ofText?, hcore, Option.bind_some, ofTokens?, hmid]

/-! ## Lists of texts -/

/-- A text as the machine reads it: its escapes are not resolved. -/
def ofString (s : String) : Tree := .quoted (s.toList.flatMap escape)

theorem lex_moreTexts (items : List String) : ∃ ts,
    lex (printItems (items.map .str)) = some ts ∧ ∀ parts done, ∃ source, ∀ fs,
      run (.comma, .list parts done :: fs) ts =
        finish (.list (done.reverse ++ items.map ofString) source) fs := by
  induction items with
  | nil =>
    refine ⟨[.mark ']'], ?_, fun parts done => ⟨closed parts ']', fun fs => ?_⟩⟩
    · rw [List.map_nil, printItems, lex_of_cut (.mark rfl _), lex_nil]
      rfl
    · rw [List.map_nil, List.append_nil]
      exact Option.bind_fun_some _
  | cons i items ih =>
    obtain ⟨ts, hlex, hrun⟩ := ih
    refine ⟨.mark ',' :: .quoted (i.toList.flatMap escape) :: ts, ?_, fun parts done => ?_⟩
    · rw [List.map_cons, printItems, print, List.cons_append, lex_of_cut (.mark rfl _), lex_quoted,
        hlex]
      rfl
    · obtain ⟨source, hsource⟩ :=
        hrun ((ofString i).source :: .piece [','] :: parts) (ofString i :: done)
      refine ⟨source, fun fs => ?_⟩
      rw [List.map_cons, List.append_cons, ← List.reverse_cons]
      exact hsource fs

/-- A list of texts as it is written is the list of these texts. -/
theorem spells_texts (items : List String) : ∃ source,
    Spells (print (.arr (items.map .str))) (.list (items.map ofString) source) := by
  cases items with
  | nil =>
    refine ⟨_, [.mark '[', .mark ']'], ?_, fun fs => Option.bind_fun_some _⟩
    rw [List.map_nil, print, lex_of_cut (.mark rfl _), lex_of_cut (.mark rfl _), lex_nil]
    rfl
  | cons i items =>
    obtain ⟨ts, hlex, hrun⟩ := lex_moreTexts items
    obtain ⟨source, hsource⟩ := hrun [(ofString i).source, .piece ['[']] [ofString i]
    refine ⟨source, .mark '[' :: .quoted (i.toList.flatMap escape) :: ts, ?_, hsource⟩
    rw [List.map_cons, print, print, List.cons_append, lex_of_cut (.mark rfl _), lex_quoted, hlex]
    rfl

theorem values?_texts (items : List String) :
    values? (items.map ofString) = some (items.map .str) := by
  induction items with
  | nil => rfl
  | cons i items ih =>
    have hi : value? (ofString i) = some (.str i) := by
      rw [ofString, value?, unquote_quoted]
      simp [Json.text]
    rw [List.map_cons, values?, hi, ih]
    rfl

theorem depth_texts (items : List String) (source : Source) :
    (list (items.map ofString) source).depth = 1 := by
  have hitems : depthList (items.map ofString) = 0 := by
    induction items with
    | nil => rfl
    | cons i items ih =>
      rw [List.map_cons, depthList, ih]
      rfl
  rw [depth, hitems]

end Tree

theorem ofText?_print_texts (items : List String) :
    ofText? (print (.arr (items.map .str))) = some (.arr (items.map .str)) := by
  obtain ⟨source, hspells⟩ := Tree.spells_texts items
  have hdepth : (Tree.list (items.map Tree.ofString) source).depth ≤ maxDepth := by
    rw [Tree.depth_texts]
    decide
  rw [ofText?, hspells.ofText?, Option.bind_some, ofTree?, if_pos hdepth, Tree.value?,
    Tree.values?_texts]
  rfl

theorem isBlank_of_isSpace {c : Char} (h : isSpace c = true) : Text.isBlank c = true := by
  simp only [isSpace, Bool.or_eq_true, beq_iff_eq] at h
  rcases h with ((rfl | rfl) | rfl) | rfl <;> decide

theorem tight_bracketed (body : List Char) : Text.Tight ('[' :: body ++ [']']) := by
  constructor
  · intro c hc
    obtain rfl : '[' = c := by simpa using hc
    decide
  · intro c hc
    rw [List.getLast?_concat] at hc
    obtain rfl : ']' = c := by simpa using hc
    decide

theorem exists_list_of_ofTree? {t : Tree} {items : List Json} (h : ofTree? t = some (.arr items)) :
    ∃ trees source, t = .list trees source := by
  unfold ofTree? at h
  split at h
  · cases t with
    | list trees source => exact ⟨trees, source, rfl⟩
    | word w => cases w <;> cases h
    | numeral n | quoted n | object n source =>
      obtain ⟨v, -, hv⟩ := Option.map_eq_some_iff.mp h
      cases hv
  · cases h

/-- The blanks around a list can be taken away. What is left of it begins with its bracket. -/
theorem ofText?_trim {s : List Char} {items : List Json} (h : ofText? s = some (.arr items)) :
    (Text.trim s).head? = some '[' ∧ ofText? (Text.trim s) = some (.arr items) := by
  obtain ⟨t, ht, hvalue⟩ := Option.bind_eq_some_iff.mp h
  obtain ⟨trees, source, rfl⟩ := exists_list_of_ofTree? hvalue
  obtain ⟨pre, body, post, hpre, hpost, rfl, hcore⟩ := Tree.exists_list_text ht
  have htrim : Text.trim (pre ++ ('[' :: body ++ [']']) ++ post) = '[' :: body ++ [']'] := by
    apply Text.trim_around
    · exact fun c hc => isBlank_of_isSpace (hpre c hc)
    · exact fun c hc => isBlank_of_isSpace (hpost c hc)
    · exact tight_bracketed body
    · simp
  rw [htrim]
  refine ⟨rfl, ?_⟩
  rw [ofText?, hcore]
  exact hvalue

end Switchboard.Json
