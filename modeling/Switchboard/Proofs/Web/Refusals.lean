import Switchboard.Proofs.Http.Fields
import Switchboard.Proofs.Web.Recovery

/-!
# Replies that are refused

A reply can be refused: a code that does not redirect, a value that cannot be written, a file that is not
there or cannot be read. The writer is then as it was before, and what is rendered next shows nothing of
the attempt, with one exception: a file that is to be stored or shown under a name has its disposition set
before it is looked for.
-/

namespace Switchboard

variable {ε : Type}

/-! ## Writers that are alike -/

/-- Writers in which the same has been written and the same hooks wait. -/
structure Response.Alike (r r' : Response) : Prop where
  status : r.status = r'.status
  header : r.header.Same r'.header
  body : r.body = r'.body
  size : r.size = r'.size
  committed : r.committed = r'.committed
  before : r.before = r'.before
  after : r.after = r'.after

namespace Response.Alike

variable {r r' : Response}

theorem turn (h : r.Alike r') (w : Work) :
    (r.turn w).1 = (r'.turn w).1 ∧ (r.turn w).2.Alike (r'.turn w).2 := by
  cases w with
  | step s =>
    cases s with
    | setHeader n v => exact ⟨rfl, { h with header := h.header.set n v }⟩
    | appendHeader n v => exact ⟨rfl, { h with header := h.header.add n v }⟩
    | removeHeader n => exact ⟨rfl, { h with header := h.header.erase n }⟩
    | before hook => exact ⟨rfl, { h with before := congrArg (· ++ [hook]) h.before }⟩
    | after o => exact ⟨rfl, { h with after := congrArg (· ++ [o]) h.after }⟩
    | look => exact ⟨rfl, h⟩
    | writeHeader code =>
      simp only [Response.turn, h.committed, h.before]
      split
      · exact ⟨rfl, { h with }⟩
      · exact ⟨rfl, { h with before := rfl, committed := rfl }⟩
    | write body =>
      simp only [Response.turn, h.committed]
      split
      · exact ⟨rfl, h⟩
      · exact ⟨rfl, h⟩
  | hookStarted hook | hookStepped s => exact ⟨rfl, { h with }⟩
  | commit code => exact ⟨rfl, { h with status := rfl, committed := rfl }⟩
  | append body =>
    exact ⟨rfl, { h with
      body := congrArg (· ++ body) h.body
      size := congrArg (· + body.length) h.size }⟩

theorem run (h : r.Alike r') (ws : List Work) : (r.run ws).Alike (r'.run ws) := by
  fun_induction Response.run r ws generalizing r' with
  | case1 r =>
    rw [Response.run]
    exact h
  | case2 r w ws ih =>
    obtain ⟨hwork, hturn⟩ := h.turn w
    rw [Response.run, ← hwork]
    exact ih hturn

end Response.Alike

/-- After alike writers the rendering of an error leaves alike ones. -/
theorem State.alike_renderError {s s' : State ε} (h : s.response.Alike s'.response)
    (hmethod : s.request.method = s'.request.method) (debug : Bool) (e : Error) :
    (s.renderError debug e).response.Alike (s'.renderError debug e).response :=
  renderError_rel (fun _ _ w hr => { hr.run [.step w] with }) h h.committed hmethod debug e

/-! ## Replies that can be refused -/

inductive Reply where
  | redirect (code : Nat) (url : String)
  /-- A value, given by the text that it is written as, compact or indented. -/
  | document (code : Nat) (written : Except String String)
  | file (path : String)
  | attachment (path name : String)
  | inline (path name : String)

namespace Reply

def send (s : State ε) : Reply → Except Error Unit × State ε
  | redirect code url => s.redirect code url
  | document code written => s.sendDocument code written
  | file path => s.sendFile path
  | attachment path name => s.sendAttachment path name
  | inline path name => s.sendInline path name

def disposition? : Reply → Option String
  | attachment _ name => some (State.disposition "attachment" name)
  | inline _ name => some (State.disposition "inline" name)
  | _ => none

/-- The header as it is when the file of the reply is looked for. -/
def dispose (y : Reply) (h : Header) : Header :=
  match y.disposition? with
  | some v => h.set "content-disposition" v
  | none => h

end Reply

namespace State

variable {s s' : State ε} {e : Error}

theorem redirect_refused {code : Nat} {url : String} (h : s.redirect code url = (.error e, s')) :
    s' = s := by
  unfold redirect at h
  split at h
  · cases h
  · cases h
    rfl

theorem sendDocument_refused {code : Nat} {written : Except String String}
    (h : s.sendDocument code written = (.error e, s')) : s' = s := by
  cases written with
  | ok text => cases h
  | error detail =>
    cases h
    rfl

theorem sendFile_missing {path : String} (h : fileFor? s.world.files s.indexFile path = none) :
    s.sendFile path = (.error (.http HttpError.notFound), s) := by
  unfold sendFile
  rw [h]

theorem sendFile_refused {path : String} (h : s.sendFile path = (.error e, s')) : s' = s := by
  unfold sendFile at h
  split at h
  · cases h
    rfl
  · split at h
    · cases h
      rfl
    · cases h

theorem sendDisposed_refused {kind path name : String}
    (h : s.sendDisposed kind path name = (.error e, s')) :
    s' = s.setHeader "content-disposition" (disposition kind name) := sendFile_refused h

end State

namespace Reply

variable {y : Reply} {s s' : State ε} {e : Error}

theorem send_refused (h : y.send s = (.error e, s')) :
    s' = match y.disposition? with
      | some v => s.setHeader "content-disposition" v
      | none => s := by
  cases y with
  | redirect code url => exact State.redirect_refused h
  | document code written => exact State.sendDocument_refused h
  | file path => exact State.sendFile_refused h
  | attachment path name | inline path name => exact State.sendDisposed_refused h

/-- What a refused reply leaves of the writer: all but the header as it was, and in the header the
disposition at most. -/
theorem response_send_refused (h : y.send s = (.error e, s')) :
    ∃ journal, s'.response =
      { s.response with header := y.dispose s.response.header, journal } := by
  rw [send_refused h]
  unfold dispose
  cases y.disposition? with
  | some v => exact ⟨[], State.response_setHeader s "content-disposition" v⟩
  | none => exact ⟨s.response.journal, rfl⟩

theorem request_send_refused (h : y.send s = (.error e, s')) : s'.request = s.request := by
  rw [send_refused h]
  cases y.disposition? <;> rfl

/-- The disposition of the reply stands in the header already, or is none that a header takes. -/
def Disposed (y : Reply) (h : Header) : Prop :=
  ∀ v, y.disposition? = some v → Header.isValue v = true → h.values "content-disposition" = [v]

theorem same_dispose_iff (h : Header) : h.Same (y.dispose h) ↔ y.Disposed h := by
  unfold dispose Disposed
  cases y.disposition? with
  | some v =>
    have hname : Header.isName "content-disposition" = true := by decide
    simp [Header.same_set_iff, hname]
  | none => exact ⟨fun _ v hv => absurd hv (by simp), fun _ _ => rfl⟩

/-- A refused reply leaves status, body, size, commit and hooks as they were, and all of the header but
for its disposition. So the writer is as it was exactly when the disposition, if there is one that a header
takes, has stood there before; then any error that is rendered next shows nothing of the attempt. -/
theorem refused_leaves_iff (h : y.send s = (.error e, s')) :
    s'.response.status = s.response.status ∧ s'.response.body = s.response.body ∧
      s'.response.size = s.response.size ∧ s'.response.committed = s.response.committed ∧
      s'.response.before = s.response.before ∧ s'.response.after = s.response.after ∧
      s'.response.header = y.dispose s.response.header ∧
      (s.response.Alike s'.response ↔ y.Disposed s.response.header) ∧
      (y.Disposed s.response.header → ∀ debug e',
        (s.renderError debug e').response.Alike (s'.renderError debug e').response) := by
  obtain ⟨journal, hresponse⟩ := response_send_refused h
  have halike : s.response.Alike s'.response ↔ y.Disposed s.response.header := by
    rw [hresponse, ← same_dispose_iff]
    exact ⟨fun halike => halike.header, fun hsame => ⟨rfl, hsame, rfl, rfl, rfl, rfl, rfl⟩⟩
  have hmethod : s.request.method = s'.request.method := by rw [request_send_refused h]
  refine ⟨?_, ?_, ?_, ?_, ?_, ?_, ?_, halike, fun hdisposed debug e' =>
    State.alike_renderError (halike.mpr hdisposed) hmethod debug e'⟩ <;> rw [hresponse]

/-- A file to be stored under a name, where there are no files. -/
def absent : Reply := attachment "a.txt" "a.txt"

/-- A state in which the disposition of that file has been set and a hook waits. -/
def announced : State Unit :=
  ((⟨{}, {}⟩ : State Unit).setHeader "content-disposition" "attachment; filename=\"a.txt\"").step
    (.before [.appendHeader "x-a" "1"])

theorem announced_refused : ∃ s', absent.send announced = (.error (.http HttpError.notFound), s') ∧
    announced.response.Alike s'.response ∧
    (announced.renderError true (.http HttpError.notFound)).response.Alike
      (s'.renderError true (.http HttpError.notFound)).response := by
  have hsend : absent.send announced =
      (.error (.http HttpError.notFound), announced.setHeader _ (State.disposition "attachment" "a.txt")) :=
    State.sendFile_missing (by decide +kernel)
  have hdisposed : absent.Disposed announced.response.header := by
    rintro v ⟨⟩ -
    decide +kernel
  obtain ⟨-, -, -, -, -, -, -, halike, hrendered⟩ := refused_leaves_iff hsend
  exact ⟨_, hsend, halike.mpr hdisposed, hrendered hdisposed true _⟩

/-- The refusal of the file tells its name, where nothing else has been written. -/
theorem absent_leaves_disposition : ∃ s', absent.send (⟨{}, {}⟩ : State Unit) =
      (.error (.http HttpError.notFound), s') ∧
    s'.response.header = [("content-disposition", "attachment; filename=\"a.txt\"")] ∧
    (s'.renderError false (.http HttpError.notFound)).response.header.values "content-disposition" =
      ["attachment; filename=\"a.txt\""] := by
  exact ⟨_, State.sendFile_missing (by decide +kernel), by decide +kernel, by decide +kernel⟩

end Reply

end Switchboard
