import Switchboard.Proofs.Web.Refusals

/-!
# Headers after a commit

A writer that is committed keeps its status, and no hook runs any more, but it takes header fields as it
did before. So what is answered later edits the header of what has been answered already, and the header
is final exactly when all that follows finds its fields as it would leave them.
-/

namespace Switchboard

variable {ε : Type}

/-! ## Edits of headers -/

namespace Header

inductive Edit where
  | set (name value : String)
  | add (name value : String)
  | erase (name : String)
  /-- Sets the field where none of its name stands. -/
  | offer (name value : String)

namespace Edit

def name : Edit → String
  | set n _ | add n _ | erase n | offer n _ => n

def apply (h : Header) : Edit → Header
  | set n v => h.set n v
  | add n v => h.add n v
  | erase n => h.erase n
  | offer n v => if h.values n = [] then h.set n v else h

/-- The fields stand already as the edit leaves them, or it is refused. -/
def Idle (h : Header) : Edit → Prop
  | set n v => isName n = true → isValue v = true → h.values n = [v]
  | add n v => ¬ (isName n = true ∧ isValue v = true)
  | erase n => h.values n = []
  | offer n v => isName n = true → isValue v = true → h.values n ≠ []

variable {h h' : Header} {e : Edit}

theorem values_apply {field : String} (hn : name? e.name ≠ name? field) :
    (e.apply h).values field = h.values field := by
  cases e with
  | set n v => exact values_set h hn v
  | add n v => exact values_add h hn v
  | erase n => exact values_erase h hn
  | offer n v =>
    rw [apply]
    split
    · exact values_set h hn v
    · rfl

theorem values_set_iff {n v : String} : (h.set n v).values n = h.values n ↔ (Edit.set n v).Idle h := by
  by_cases hlegal : isName n = true ∧ isValue v = true
  · obtain ⟨hn, hv⟩ := hlegal
    simp [Idle, values_set_self h hn hv, hn, hv, eq_comm]
  · have hset : h.set n v = h := by simp [set_eq, hlegal]
    simp only [hset, Idle, true_iff]
    intro hn hv
    exact absurd ⟨hn, hv⟩ hlegal

/-- An edit leaves the fields of its name alone exactly when it is idle. -/
theorem values_apply_self_iff : (e.apply h).values e.name = h.values e.name ↔ e.Idle h := by
  cases e with
  | set n v => exact values_set_iff
  | add n v =>
    have hunder : goesUnder n (n, v) = (isName n && isValue v) := by
      simp [goesUnder, Text.sameAscii]
    cases hlegal : isName n && isValue v with
    | true =>
      have hadd := values_add_of_goesUnder h (hunder.trans hlegal)
      simp only [Bool.and_eq_true] at hlegal
      simp [apply, name, Idle, hadd, hlegal]
    | false =>
      have hadd := values_add_of_not_goesUnder h (hunder.trans hlegal)
      simp only [Bool.and_eq_false_iff] at hlegal
      simp only [apply, name, Idle, hadd, true_iff]
      rintro ⟨hn, hv⟩
      simp [hn, hv] at hlegal
  | erase n =>
    rw [apply, name, Idle, values_erase_self h rfl]
    exact eq_comm
  | offer n v =>
    rw [apply, name]
    by_cases hnone : h.values n = []
    · rw [if_pos hnone, values_set_iff]
      simp [Idle, hnone]
    · simp [Idle, hnone]

theorem same_apply_iff : (e.apply h).Same h ↔ e.Idle h := by
  constructor
  · intro hsame
    exact values_apply_self_iff.mp (hsame e.name)
  · intro hidle field
    by_cases hn : name? e.name = name? field
    · have hvalues (k : Header) : k.values field = k.values e.name := by simp [values, hn]
      rw [hvalues, hvalues, values_apply_self_iff.mpr hidle]
    · exact values_apply hn

theorem idle_congr (hs : h.Same h') : e.Idle h ↔ e.Idle h' := by
  cases e <;> simp [Idle, hs _]

theorem apply_congr (hs : h.Same h') : (e.apply h).Same (e.apply h') := by
  cases e with
  | set n v => exact hs.set n v
  | add n v => exact hs.add n v
  | erase n => exact hs.erase n
  | offer n v =>
    rw [apply, apply, hs n]
    split
    · exact hs.set n v
    · exact hs

end Edit

open Edit

variable {h h' : Header}

theorem Same.symm (hs : h.Same h') : h'.Same h := fun name => (hs name).symm

theorem Same.trans {h'' : Header} (hs : h.Same h') (hs' : h'.Same h'') : h.Same h'' := fun name =>
  (hs name).trans (hs' name)

theorem Same.edits (hs : h.Same h') (es : List Edit) : (es.foldl apply h).Same (es.foldl apply h') := by
  induction es generalizing h h' with
  | nil => exact hs
  | cons e es ih => exact ih (apply_congr hs)

theorem values_edits {es : List Edit} {field : String} (hes : ∀ e ∈ es, name? e.name ≠ name? field) :
    (es.foldl apply h).values field = h.values field := by
  induction es generalizing h with
  | nil => rfl
  | cons e es ih =>
    rw [List.forall_mem_cons] at hes
    rw [List.foldl_cons, ih hes.2, values_apply hes.1]

/-- Edits of fields with different names cannot make up for each other. -/
theorem same_edits_iff {es : List Edit} (hes : es.Pairwise fun e e' => name? e'.name ≠ name? e.name) :
    (es.foldl apply h).Same h ↔ ∀ e ∈ es, e.Idle h := by
  induction es generalizing h with
  | nil => simp [Same]
  | cons e es ih =>
    obtain ⟨he, hes⟩ := List.pairwise_cons.mp hes
    rw [List.foldl_cons, List.forall_mem_cons]
    have hrest (hidle : e.Idle h) : (es.foldl apply (e.apply h)).Same h ↔ ∀ e ∈ es, e.Idle h := by
      have hsame : (e.apply h).Same h := same_apply_iff.mpr hidle
      have hedits : (es.foldl apply (e.apply h)).Same h ↔
          (es.foldl apply (e.apply h)).Same (e.apply h) :=
        ⟨fun hs => hs.trans hsame.symm, fun hs => hs.trans hsame⟩
      rw [hedits, ih hes]
      exact forall₂_congr fun _ _ => idle_congr hsame
    constructor
    · intro hs
      have hidle : e.Idle h := by
        rw [← values_apply_self_iff, ← hs e.name, values_edits he]
      exact ⟨hidle, (hrest hidle).mp hs⟩
    · rintro ⟨hidle, hall⟩
      exact (hrest hidle).mpr hall

/-- A header stays the same all along when nothing ever edits it. -/
theorem same_throughout_iff {ess : List (List Edit)}
    (hess : ∀ es ∈ ess, es.Pairwise fun e e' => name? e'.name ≠ name? e.name) :
    (∀ k, ((ess.take k).flatten.foldl apply h).Same h) ↔ ∀ es ∈ ess, ∀ e ∈ es, e.Idle h := by
  induction ess generalizing h with
  | nil => simp [Same]
  | cons es ess ih =>
    rw [List.forall_mem_cons] at hess ⊢
    have hfirst : (es.foldl apply h).Same h ↔ ∀ e ∈ es, e.Idle h := same_edits_iff hess.1
    have hnext (k : Nat) : ((es :: ess).take (k + 1)).flatten.foldl apply h =
        (ess.take k).flatten.foldl apply (es.foldl apply h) := by simp
    have hrest (hsame : (es.foldl apply h).Same h) :
        (∀ k, ((ess.take k).flatten.foldl apply (es.foldl apply h)).Same h) ↔
          ∀ es ∈ ess, ∀ e ∈ es, e.Idle h := by
      have hedits (es' : List Edit) : (es'.foldl apply (es.foldl apply h)).Same h ↔
          (es'.foldl apply h).Same h :=
        ⟨fun hs => (hsame.symm.edits es').trans hs, fun hs => (hsame.edits es').trans hs⟩
      rw [← ih hess.2]
      exact forall_congr' fun k => hedits _
    constructor
    · intro hall
      have hsame : (es.foldl apply h).Same h := by simpa using hall 1
      refine ⟨hfirst.mp hsame, (hrest hsame).mp fun k => ?_⟩
      rw [← hnext]
      exact hall (k + 1)
    · rintro ⟨hidle, hall⟩ k
      have hsame := hfirst.mpr hidle
      cases k with
      | zero => exact fun _ => rfl
      | succ k =>
        rw [hnext]
        exact (hrest hsame).mpr hall k

end Header

/-! ## Steps of a committed writer -/

open Header (Edit)

def WriterStep.edits : WriterStep → List Edit
  | .setHeader n v => [.set n v]
  | .appendHeader n v => [.add n v]
  | .removeHeader n => [.erase n]
  | _ => []

theorem Response.step_of_committed {r : Response} (hr : r.committed = true) (w : WriterStep) :
    (r.step w).header = w.edits.foldl Edit.apply r.header ∧ (r.step w).committed = true ∧
      (r.step w).status = r.status := by
  cases w <;>
    simp [step, run, turn, hr, WriterStep.edits, Edit.apply, setHeader, appendHeader, removeHeader,
      addBefore, addAfter, note, append]

/-! ## What can follow a commit -/

/-- What a handler does with a writer: a step, or an answer in one of the usual ways. Texts, pages and
values are bodies with a content type. -/
inductive Sequel where
  | step (w : WriterStep)
  | blob (code : Nat) (contentType : String) (body : Bytes)
  | stream (code : Nat) (contentType : String) (chunks : List Bytes) (failing : Option String)
  | noContent (code : Nat)
  | reply (y : Reply)
  | error (debug : Bool) (e : Error)

namespace Sequel

def run (s : State ε) : Sequel → State ε
  | step w => s.step w
  | blob code contentType body => s.blob code contentType body
  | stream code contentType chunks failing => (s.stream code contentType chunks failing).2
  | noContent code => s.noContent code
  | reply y => (y.send s).2
  | error debug e => s.renderError debug e

/-- A file that can be read offers the content type of its extension. -/
def fileEdits (files : FileTree) (index path : String) : List Edit :=
  match State.fileFor? files index path with
  | some (name, entry) =>
    match entry.read with
    | .ok _ => [.offer "content-type" (ContentType.ofExtension (FileTree.extension name)).value]
    | .error _ => []
  | none => []

def disposedEdits (files : FileTree) (index kind path name : String) : List Edit :=
  .set "content-disposition" (State.disposition kind name) :: fileEdits files index path

def edits (files : FileTree) (index : String) : Sequel → List Edit
  | step w => w.edits
  | blob _ contentType _ | stream _ contentType _ _ => [.set "content-type" contentType]
  | noContent _ | error _ _ => []
  | reply (.redirect code url) => if 300 ≤ code ∧ code ≤ 308 then [.set "location" url] else []
  | reply (.document _ (.ok _)) => [.set "content-type" ContentType.json.value]
  | reply (.document _ (.error _)) => []
  | reply (.file path) => fileEdits files index path
  | reply (.attachment path name) => disposedEdits files index "attachment" path name
  | reply (.inline path name) => disposedEdits files index "inline" path name

end Sequel

namespace State

/-- From a committed state nothing but edits of the header leads to the other one, as far as headers
and their edits are concerned. -/
structure Edited (s s' : State ε) (es : List Edit) : Prop where
  header : s'.response.header = es.foldl Edit.apply s.response.header
  committed : s'.response.committed = true
  status : s'.response.status = s.response.status
  files : s'.world.files = s.world.files
  index : s'.indexFile = s.indexFile

namespace Edited

variable {s s' s'' : State ε} {es es' : List Edit}

theorem refl (hs : s.response.committed = true) : Edited s s [] := ⟨rfl, hs, rfl, rfl, rfl⟩

theorem trans (h : Edited s s' es) (h' : Edited s' s'' es') : Edited s s'' (es ++ es') := by
  refine ⟨?_, h'.committed, h'.status.trans h.status, h'.files.trans h.files, h'.index.trans h.index⟩
  rw [h'.header, h.header, List.foldl_append]

theorem step (h : Edited s s' es) (w : WriterStep) : Edited s (s'.step w) (es ++ w.edits) := by
  obtain ⟨hheader, hcommitted, hstatus⟩ := Response.step_of_committed h.committed w
  refine h.trans ⟨hheader, hcommitted, hstatus, ?_, rfl⟩
  have hnoted (notes : List WriterNote) (world : World ε) (capturing : Bool) :
      (notes.foldl (State.noted · capturing) world).files = world.files := by
    induction notes generalizing world with
    | nil => rfl
    | cons n notes ih =>
      rw [List.foldl_cons, ih]
      cases n <;> rfl
  exact hnoted _ _ _

theorem setHeader (h : Edited s s' es) (n v : String) :
    Edited s (s'.setHeader n v) (es ++ [.set n v]) := h.step (.setHeader n v)

theorem writeHeader (h : Edited s s' es) (code : Nat) : Edited s (s'.writeHeader code) es := by
  have hstep := h.step (.writeHeader code)
  simp only [WriterStep.edits, List.append_nil] at hstep
  exact hstep

theorem write (h : Edited s s' es) (body : Bytes) : Edited s (s'.write body) es := by
  have hstep := h.step (.write body)
  simp only [WriterStep.edits, List.append_nil] at hstep
  exact hstep

theorem blob (h : Edited s s' es) (code : Nat) (contentType : String) (body : Bytes) :
    Edited s (s'.blob code contentType body) (es ++ [.set "content-type" contentType]) :=
  ((h.setHeader "content-type" contentType).writeHeader code).write body

theorem copyChunks (h : Edited s s' es) (failing : Option String) (chunks : List Bytes) :
    Edited s (s'.copyChunks failing chunks).2 es := by
  induction chunks generalizing s' with
  | nil => cases failing <;> exact h
  | cons chunk chunks ih =>
    have hpieces : ∀ pieces : List Bytes, Edited s (pieces.foldl State.write s') es := by
      intro pieces
      induction pieces generalizing s' with
      | nil => exact h
      | cons piece pieces ih => exact ih (h.write piece)
    exact ih (hpieces _)

theorem offerType (h : Edited s s' es) (v : String) :
    Edited s (if (s'.response.header.first? "content-type").isNone then s'.setContentType v else s')
      (es ++ [.offer "content-type" v]) := by
  split
  · rename_i hnone
    have hvalues : s'.response.header.values "content-type" = [] := by
      simpa [Header.first?] using hnone
    have hset : Edited s (s'.setContentType v) _ := h.setHeader "content-type" v
    refine { hset with header := ?_ }
    rw [hset.header, List.foldl_append, List.foldl_append, ← h.header]
    simp [Edit.apply, hvalues]
  · rename_i hsome
    have hvalues : s'.response.header.values "content-type" ≠ [] := by
      simpa [Header.first?] using hsome
    refine { h with header := ?_ }
    rw [List.foldl_append, ← h.header]
    simp [Edit.apply, hvalues]

theorem sendFile (h : Edited s s' es) (path : String) :
    Edited s (s'.sendFile path).2 (es ++ Sequel.fileEdits s.world.files s.indexFile path) := by
  rw [← h.files, ← h.index]
  unfold State.sendFile Sequel.fileEdits
  cases fileFor? s'.world.files s'.indexFile path with
  | none => simpa using h
  | some found =>
    obtain ⟨name, entry⟩ := found
    cases hread : entry.read with
    | error detail => simpa [hread] using h
    | ok content =>
      have hsent {t : State ε} {es : List Edit} (ht : Edited s t es) :
          Edited s (if (t.writeHeader 200).request.method = "HEAD" then t.writeHeader 200
            else (t.writeHeader 200).write content) es := by
        split
        · exact ht.writeHeader 200
        · exact (ht.writeHeader 200).write content
      simp only [hread]
      exact hsent (h.offerType _)

theorem sendDisposed (h : Edited s s' es) (kind path name : String) :
    Edited s (s'.sendDisposed kind path name).2
      (es ++ Sequel.disposedEdits s.world.files s.indexFile kind path name) := by
  have hsent := (h.setHeader "content-disposition" (disposition kind name)).sendFile path
  rwa [List.append_assoc] at hsent

/-- Whatever is done with a committed writer edits its header, and no more. -/
theorem sequel (h : Edited s s' es) (u : Sequel) :
    Edited s (u.run s') (es ++ u.edits s.world.files s.indexFile) := by
  have hnone {t : State ε} (ht : Edited s t es) : Edited s t (es ++ []) := by simpa using ht
  cases u with
  | step w => exact h.step w
  | blob code contentType body => exact h.blob code contentType body
  | stream code contentType chunks failing =>
    exact ((h.setHeader "content-type" contentType).writeHeader code).copyChunks failing chunks
  | noContent code => exact hnone (h.writeHeader code)
  | error debug e =>
    have hrendered : s'.renderError debug e = s' := by
      simp [State.renderError, h.committed]
    rw [Sequel.run, hrendered]
    exact hnone h
  | reply y =>
    cases y with
    | redirect code url =>
      simp only [Sequel.run, Reply.send, State.redirect, Sequel.edits]
      split
      · exact (h.setHeader "location" url).writeHeader code
      · exact hnone h
    | document code written =>
      cases written with
      | ok text => exact h.blob code ContentType.json.value (Utf8.ofText text)
      | error detail => exact hnone h
    | file path => exact h.sendFile path
    | attachment path name => exact h.sendDisposed "attachment" path name
    | inline path name => exact h.sendDisposed "inline" path name

theorem sequels (h : Edited s s' es) (us : List Sequel) :
    Edited s (us.foldl Sequel.run s') (es ++ us.flatMap (·.edits s.world.files s.indexFile)) := by
  induction us generalizing s' es with
  | nil => simpa using h
  | cons u us ih =>
    have hrest := ih (h.sequel u)
    rwa [List.append_assoc] at hrest

end Edited

end State

namespace Sequel

open Header (name?)

/-- One thing that is done edits the fields of a name once at most. -/
theorem edits_pairwise (files : FileTree) (index : String) (u : Sequel) :
    (u.edits files index).Pairwise fun e e' => name? e'.name ≠ name? e.name := by
  have hfile (path : String) : fileEdits files index path = [] ∨
      ∃ v, fileEdits files index path = [.offer "content-type" v] := by
    unfold fileEdits
    split
    · split
      · exact .inr ⟨_, rfl⟩
      · exact .inl rfl
    · exact .inl rfl
  have hdisposed (kind path name : String) :
      (disposedEdits files index kind path name).Pairwise fun e e' => name? e'.name ≠ name? e.name := by
    have hnames : name? "content-type" ≠ name? "content-disposition" := by decide
    rcases hfile path with h | ⟨v, h⟩ <;> simp [disposedEdits, h, Edit.name, hnames]
  cases u with
  | step w => cases w <;> simp [edits, WriterStep.edits]
  | blob | stream | noContent | error => simp [edits]
  | reply y =>
    cases y with
    | redirect code url =>
      rw [edits]
      split <;> simp
    | document code written => cases written <;> simp [edits]
    | file path =>
      rw [edits]
      rcases hfile path with h | ⟨v, h⟩ <;> simp [h]
    | attachment path name => exact hdisposed "attachment" path name
    | inline path name => exact hdisposed "inline" path name

/-- What follows a commit edits its header as each edit says, and leaves the status. So the header of the
finished response is that of the commit all along exactly when no edit finds anything to do. -/
theorem header_final_iff {s : State ε} (hs : s.response.committed = true) (us : List Sequel) :
    (us.foldl run s).response.committed = true ∧
      (us.foldl run s).response.status = s.response.status ∧
      (us.foldl run s).response.toAnswer.header =
        (us.flatMap (·.edits s.world.files s.indexFile)).foldl Edit.apply s.response.header ∧
      ((∀ k, ((us.take k).foldl run s).response.toAnswer.header.Same s.response.header) ↔
        ∀ u ∈ us, ∀ e ∈ u.edits s.world.files s.indexFile, e.Idle s.response.header) := by
  have hedited (us : List Sequel) := (State.Edited.refl hs).sequels us
  refine ⟨(hedited us).committed, (hedited us).status, (hedited us).header, ?_⟩
  have hheader (k : Nat) : ((us.take k).foldl run s).response.toAnswer.header =
      ((us.map (·.edits s.world.files s.indexFile)).take k).flatten.foldl Edit.apply
        s.response.header := by
    rw [← List.map_take, ← List.flatMap_def]
    exact (hedited (us.take k)).header
  simp only [hheader]
  rw [Header.same_throughout_iff]
  · simp
  · simp [edits_pairwise]

def answered : State Unit := (⟨{}, {}⟩ : State Unit).sendText 200 "a"

theorem answered_final :
    answered.response.committed = true ∧ ∀ k,
      (([.step (.write [0x62]), .step (.before [.setHeader "x-late" "1"]), .error true .closed,
        .reply (.redirect 200 "/b"), .reply (.file "missing.txt"), .noContent 204,
        .blob 500 ContentType.text.value [0x63]].take k).foldl run answered).response.toAnswer.header.Same
          answered.response.header := by
  have hs : answered.response.committed = true := by decide +kernel
  have htype : answered.response.header.values "content-type" = [ContentType.text.value] := by decide +kernel
  have hfiles : answered.world.files = {} := by decide +kernel
  have hmissing : fileEdits {} answered.indexFile "missing.txt" = [] := rfl
  refine ⟨hs, (header_final_iff hs _).2.2.2.mpr ?_⟩
  simp [edits, WriterStep.edits, hfiles, hmissing, Edit.Idle, htype]

/-- A field that is set after the answer, and the content type of a second one, are those of the
response that leaves. -/
theorem answered_edited :
    answered.response.committed = true ∧
      answered.response.header = [("content-type", "text/plain; charset=utf-8")] ∧
      ([.step (.setHeader "x-late" "1"), .blob 200 ContentType.html.value [0x62]].foldl run
          answered).response.toAnswer =
        ⟨200, [("x-late", "1"), ("content-type", "text/html; charset=utf-8")], [0x61, 0x62]⟩ ∧
      ¬ Header.Same [("x-late", "1"), ("content-type", "text/html; charset=utf-8")]
        answered.response.header := by
  refine ⟨by decide +kernel, by decide +kernel, by decide +kernel, fun hsame => ?_⟩
  have hlate : answered.response.header.values "x-late" = [] := by decide +kernel
  have hset : Header.values [("x-late", "1"), ("content-type", "text/html; charset=utf-8")] "x-late" =
      ["1"] := by decide +kernel
  rw [hsame "x-late", hlate] at hset
  cases hset

end Sequel

end Switchboard
