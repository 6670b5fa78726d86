import Switchboard.Proofs.Web.Refusals
import Switchboard.Proofs.Web.Sending

/-!
# Names of files in dispositions

A file that is to be stored or shown is sent with a name between quotes. Quotes in the name are escaped by
backslashes, but backslashes are not, so the name reads back exactly when it has none. One in front of a
quote ends the string early, and what follows in the name stands as parameters of its own.
-/

namespace Switchboard

/-! ## Quoted strings -/

/-- Reads a quoted string behind its opening quote: a backslash escapes the next character, and a quote
ends it. What has been read, and what is left behind the closing quote. -/
def readQuoted : List Char → Option (List Char × List Char)
  | [] => none
  | '"' :: rest => some ([], rest)
  | '\\' :: c :: rest => (readQuoted rest).map fun (text, left) => (c :: text, left)
  | c :: rest => (readQuoted rest).map fun (text, left) => (c :: text, left)

/-- The characters that do not stand for themselves in a quoted string. -/
def isQuoteSpecial (c : Char) : Bool := c == '"' || c == '\\'

def escapeQuotes (cs : List Char) : List Char :=
  cs.flatMap fun c => if c = '"' then ['\\', '"'] else [c]

theorem escapeQuotes_quote (cs : List Char) :
    escapeQuotes ('"' :: cs) = '\\' :: '"' :: escapeQuotes cs := rfl

theorem escapeQuotes_cons {c : Char} (hc : c ≠ '"') (cs : List Char) :
    escapeQuotes (c :: cs) = c :: escapeQuotes cs := by
  rw [escapeQuotes, List.flatMap_cons, if_neg hc]
  rfl

theorem readQuoted_cons {c : Char} (hc : isQuoteSpecial c = false) (rest : List Char) :
    readQuoted (c :: rest) = (readQuoted rest).map fun (text, left) => (c :: text, left) := by
  simp only [isQuoteSpecial, Bool.or_eq_false_iff, beq_eq_false_iff_ne] at hc
  rw [readQuoted]
  · exact hc.1
  · exact fun d rest' h => absurd h hc.2

theorem readQuoted_escapeQuotes {name : List Char} (h : '\\' ∉ name) (rest : List Char) :
    readQuoted (escapeQuotes name ++ '"' :: rest) = some (name, rest) := by
  induction name with
  | nil => rfl
  | cons c name ih =>
    rw [List.mem_cons, not_or] at h
    by_cases hc : c = '"'
    · subst hc
      rw [escapeQuotes_quote, List.cons_append, List.cons_append, readQuoted, ih h.2]
      rfl
    · have hspecial : isQuoteSpecial c = false := by simp [isQuoteSpecial, hc, Ne.symm h.1]
      rw [escapeQuotes_cons hc, List.cons_append, readQuoted_cons hspecial, ih h.2]
      rfl

/-- A special character takes two characters in a quoted string, whatever has been written. -/
theorem length_of_readQuoted {cs text left : List Char} (h : readQuoted cs = some (text, left)) :
    text.length + text.countP isQuoteSpecial + left.length < cs.length := by
  fun_induction readQuoted cs generalizing text with
  | case1 => cases h
  | case2 rest =>
    cases h
    simp
  | case3 c rest ih =>
    obtain ⟨⟨text', left'⟩, hrest, heq⟩ := Option.map_eq_some_iff.mp h
    cases heq
    have hread := ih hrest
    have hone : (c :: text').countP isQuoteSpecial ≤ text'.countP isQuoteSpecial + 1 := by
      rw [List.countP_cons]
      split <;> omega
    simp only [List.length_cons]
    omega
  | case4 c rest hquote hescape ih =>
    obtain ⟨⟨text', left'⟩, hrest, heq⟩ := Option.map_eq_some_iff.mp h
    cases heq
    have hread := ih hrest
    have hspecial : isQuoteSpecial c = false := by
      have hbackslash : c ≠ '\\' := by
        rintro rfl
        cases rest with
        | nil => cases hrest
        | cons d rest => exact hescape d rest rfl rfl
      simpa [isQuoteSpecial] using ⟨hquote, hbackslash⟩
    rw [List.countP_cons_of_neg (by simp [hspecial])]
    simp only [List.length_cons]
    omega

theorem length_escapeQuotes (cs : List Char) :
    (escapeQuotes cs).length + cs.count '\\' = cs.length + cs.countP isQuoteSpecial := by
  induction cs with
  | nil => rfl
  | cons c cs ih =>
    rw [List.count_cons, List.countP_cons, List.length_cons]
    by_cases hc : c = '"'
    · subst hc
      rw [escapeQuotes_quote, List.length_cons, List.length_cons, if_neg (by decide),
        if_pos (by decide)]
      omega
    · rw [escapeQuotes_cons hc, List.length_cons]
      have hspecial : isQuoteSpecial c = (c == '\\') := by simp [isQuoteSpecial, hc]
      rw [hspecial]
      omega

/-- A text whose quotes are escaped reads back exactly when there is no backslash in it: with one, too
little has been written. -/
theorem readQuoted_escapeQuotes_iff {name : List Char} :
    readQuoted (escapeQuotes name ++ ['"']) = some (name, []) ↔ '\\' ∉ name := by
  refine ⟨fun h => ?_, fun h => readQuoted_escapeQuotes h []⟩
  have hread := length_of_readQuoted h
  have hwritten := length_escapeQuotes name
  simp only [List.length_append, List.length_cons, List.length_nil] at hread
  rw [← List.count_eq_zero]
  omega

/-! ## Dispositions -/

/-- The value is the kind and one parameter, a file name in a quoted string that ends where the value
ends and reads as the name. -/
def Names (kind name value : String) : Prop :=
  ∃ quoted, value.toList = kind.toList ++ "; filename=\"".toList ++ quoted ∧
    readQuoted quoted = some (name.toList, [])

theorem toList_disposition (kind name : String) : (State.disposition kind name).toList =
    kind.toList ++ "; filename=\"".toList ++ (escapeQuotes name.toList ++ ['"']) := by
  simp [State.disposition, escapeQuotes]

theorem names_disposition_iff (kind name : String) :
    Names kind name (State.disposition kind name) ↔ '\\' ∉ name.toList := by
  rw [← readQuoted_escapeQuotes_iff]
  constructor
  · rintro ⟨quoted, hvalue, hread⟩
    rw [toList_disposition] at hvalue
    rwa [List.append_cancel_left hvalue]
  · exact fun hread => ⟨_, toList_disposition kind name, hread⟩

theorem isValue_disposition {kind name : String} (hkind : Header.isValue kind = true)
    (hname : Header.isValue name = true) : Header.isValue (State.disposition kind name) = true := by
  have hescaped : ∀ c ∈ escapeQuotes name.toList, c = '\\' ∨ c ∈ name.toList := by
    intro c hc
    obtain ⟨d, hd, hcd⟩ := List.mem_flatMap.mp hc
    split at hcd
    · simp only [List.mem_cons, List.not_mem_nil, or_false] at hcd
      rename_i hquote
      exact hcd.imp_right fun h => by rwa [h, ← hquote]
    · exact .inr (List.mem_singleton.mp hcd ▸ hd)
  unfold Header.isValue at hkind hname ⊢
  rw [List.all_eq_true] at hkind hname
  rw [toList_disposition, List.all_append, List.all_append, List.all_append, Bool.and_eq_true,
    Bool.and_eq_true, Bool.and_eq_true]
  refine ⟨⟨List.all_eq_true.mpr hkind, by decide⟩, List.all_eq_true.mpr fun c hc => ?_, by decide⟩
  rcases hescaped c hc with rfl | hc
  · decide
  · exact hname c hc

variable {ε : Type}

namespace Reply

/-- The kind of the disposition that the reply sets, the path of its file, and the name. -/
def named? : Reply → Option (String × String × String)
  | attachment path name => some ("attachment", path, name)
  | inline path name => some ("inline", path, name)
  | _ => none

theorem send_of_named? {y : Reply} {kind path name : String}
    (hy : y.named? = some (kind, path, name)) (s : State ε) :
    y.send s = s.sendDisposed kind path name ∧
      y.disposition? = some (State.disposition kind name) ∧ Header.isValue kind = true := by
  cases y <;> cases hy
  · exact ⟨rfl, rfl, by decide⟩
  · exact ⟨rfl, rfl, by decide⟩

/-- A file that can be read is sent under a name of printable characters with its disposition as the only
one, unless a hook that waits for the commit touches it. The name reads back from it exactly when it has
no backslash. -/
theorem name_reads_back_iff {y : Reply} {kind path name : String} {s : State ε}
    {found : String × FileEntry} {content : Bytes} (hy : y.named? = some (kind, path, name))
    (hname : Header.isValue name = true)
    (hfound : State.fileFor? s.world.files s.indexFile path = some found)
    (hread : found.2.read = .ok content) :
    ∃ s' value, y.send s = (.ok (), s') ∧
      (y.dispose s.response.header).values "content-disposition" = [value] ∧
      ((∀ hook ∈ s.response.before, ¬ WriterStep.SomeTouches "content-disposition" hook) →
        s'.response.header.values "content-disposition" = [value]) ∧
      (Names kind name value ↔ '\\' ∉ name.toList) := by
  obtain ⟨hsend, hdisposition, hkind⟩ := send_of_named? hy s
  let value := State.disposition kind name
  let disposed := s.setHeader "content-disposition" value
  have hset : (s.response.header.set "content-disposition" value).values "content-disposition" =
      [value] :=
    Header.values_set_self _ (by decide) (isValue_disposition hkind hname)
  have hresponse := State.response_setHeader s "content-disposition" value
  have hfiles : disposed.world.files = s.world.files :=
    State.files_step s (.setHeader "content-disposition" value)
  have hfile : State.fileFor? disposed.world.files disposed.indexFile path = some found := by
    rw [hfiles]
    exact hfound
  refine ⟨(disposed.sendFile path).2, value, ?_, ?_, fun hhooks => ?_, names_disposition_iff kind name⟩
  · rw [hsend]
    exact Prod.ext (State.sendFile_of_read hfile hread) rfl
  · rw [dispose, hdisposition]
    exact hset
  · have hshows : disposed.response.Shows "content-disposition" [value] := by
      rw [hresponse]
      exact ⟨hset, hhooks⟩
    exact (State.sendFile_shows hshows (by decide) path).header

def stocked : State Unit :=
  (⟨{}, { files := { entries := [(["f.txt"], .file [0x68, 0x69])] } }⟩ : State Unit).step
    (.before [.setHeader "x-a" "1"])

theorem stocked_reads_back : ∃ s' value,
    (inline "f.txt" "a \"b\".txt").send stocked = (.ok (), s') ∧
      s'.response.header.values "content-disposition" = [value] ∧
      Names "inline" "a \"b\".txt" value := by
  have hfound : State.fileFor? stocked.world.files stocked.indexFile "f.txt" =
      some ("f.txt", .file [0x68, 0x69]) := by decide +kernel
  have hbefore : stocked.response.before = [[.setHeader "x-a" "1"]] := by
    rw [stocked, State.response_step]
    simp only [Response.step, Response.run, Response.turn, List.append_nil]
    rfl
  obtain ⟨s', value, hsend, _, hvalues, hnames⟩ := name_reads_back_iff
    (y := .inline "f.txt" "a \"b\".txt") rfl (by decide) hfound rfl
  refine ⟨s', value, hsend, hvalues ?_, hnames.mpr (by decide)⟩
  rw [hbefore]
  have hapart : Header.name? "x-a" ≠ Header.name? "content-disposition" := by decide
  simp [WriterStep.SomeTouches, WriterStep.Touches, hapart]

/-- A backslash at the end of the name takes the closing quote with it, and one in front of a quote ends
the string there. -/
theorem stocked_breaks_out :
    ((attachment "f.txt" "a\\").send stocked).1 = .ok () ∧
      ((attachment "f.txt" "a\\").send stocked).2.response.header.values "content-disposition" =
        ["attachment; filename=\"a\\\""] ∧
      ¬ Names "attachment" "a\\" "attachment; filename=\"a\\\"" ∧
      readQuoted (escapeQuotes "a\\\"; x=b".toList ++ ['"']) =
        some ("a\\".toList, "; x=b\"".toList) := by
  let disposed := stocked.setHeader "content-disposition" (State.disposition "attachment" "a\\")
  have hfound : State.fileFor? disposed.world.files disposed.indexFile "f.txt" =
      some ("f.txt", .file [0x68, 0x69]) := by decide +kernel
  refine ⟨State.sendFile_of_read hfound rfl, by decide +kernel, fun hnames => ?_, by decide +kernel⟩
  have hvalue : "attachment; filename=\"a\\\"" = State.disposition "attachment" "a\\" := by decide +kernel
  rw [hvalue, names_disposition_iff] at hnames
  exact hnames (by decide)

end Reply

end Switchboard
