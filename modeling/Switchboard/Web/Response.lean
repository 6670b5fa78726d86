import Switchboard.Error
import Switchboard.Http.Header
import Switchboard.Http.MediaType
import Switchboard.Text.Utf8

/-!
# The response writer

A handler writes into a buffer that records status, header and body and whether the header has been
committed. A hook that runs before the commit is a script of writer steps and may register and
commit in its turn; a hook that runs after each write only observes. What hooks did and what was
refused goes to the journal of the writer, oldest first.

Scripts are finite, so every step ends: the work that is left and the hooks that wait weigh less
after each turn.
-/

namespace Switchboard

inductive WriterStep where
  | setHeader (name value : String)
  | appendHeader (name value : String)
  | removeHeader (name : String)
  | write (body : Bytes)
  | writeHeader (code : Nat)
  | before (hook : List WriterStep)
  | after (observer : String)
  /-- Looks at the writer. -/
  | look
deriving Inhabited

inductive StepResult where
  | nothing
  /-- The number of octets written. -/
  | written (count : Nat)
  | seen (status size : Nat) (committed : Bool) (header : Header) (body : Bytes)
deriving DecidableEq, Repr

inductive WriterNote where
  /-- A hook starts; the flag says whether the header was committed by then. -/
  | hookStarted (committed : Bool)
  /-- A hook has made a step. -/
  | hookStepped (result : StepResult)
  /-- An observer has seen the writer after a write. -/
  | observed (observer : String) (status size bodyLength : Nat)
  /-- The header was to be written a second time. -/
  | alreadyCommitted
deriving DecidableEq, Repr

structure Response where
  status : Nat := 200
  header : Header := []
  body : Bytes := []
  size : Nat := 0
  committed : Bool := false
  before : List (List WriterStep) := []
  after : List String := []
  journal : List WriterNote := []

structure Answer where
  status : Nat
  header : Header
  body : Bytes
deriving DecidableEq, Repr, Inhabited

namespace Response

/-! ## Simple steps -/

def setHeader (r : Response) (name value : String) : Response :=
  { r with header := r.header.set name value }

def appendHeader (r : Response) (name value : String) : Response :=
  { r with header := r.header.add name value }

def removeHeader (r : Response) (name : String) : Response :=
  { r with header := r.header.erase name }

def setContentType (r : Response) (value : String) : Response := r.setHeader "content-type" value

def addBefore (r : Response) (hook : List WriterStep) : Response :=
  { r with before := r.before ++ [hook] }

def addAfter (r : Response) (observer : String) : Response :=
  { r with after := r.after ++ [observer] }

def note (r : Response) (n : WriterNote) : Response := { r with journal := r.journal ++ [n] }

def append (r : Response) (body : Bytes) : Response :=
  let r := { r with body := r.body ++ body, size := r.size + body.length }
  { r with journal := r.journal ++ r.after.map fun o => .observed o r.status r.size r.body.length }

def commit (r : Response) (code : Nat) : Response := { r with status := code, committed := true }

/-! ## Work -/

inductive Work where
  | step (s : WriterStep)
  | hookStarted (hook : List WriterStep)
  | hookStepped (s : WriterStep)
  | commit (code : Nat)
  | append (body : Bytes)

def resultOf (r : Response) : WriterStep → StepResult
  | .write body => .written body.length
  | .look => .seen r.status r.size r.committed r.header r.body
  | _ => .nothing

def hookWork (hook : List WriterStep) : List Work :=
  .hookStarted hook :: hook.flatMap fun s => [.step s, .hookStepped s]

mutual
/-- The weight of a step: more than that of the work it turns into. -/
def stepWeight : WriterStep → Nat
  | .before hook => hookWeight hook + 1
  | .writeHeader _ => 2
  | .write _ => 4
  | _ => 1
def hookWeight : List WriterStep → Nat
  | [] => 1
  | s :: hook => stepWeight s + 1 + hookWeight hook
end

def Work.weight : Work → Nat
  | step s => stepWeight s
  | _ => 1

def workWeight : List Work → Nat
  | [] => 0
  | w :: ws => w.weight + workWeight ws

def hooksWeight : List (List WriterStep) → Nat
  | [] => 0
  | h :: hs => hookWeight h + hooksWeight hs

theorem workWeight_append (ws us : List Work) :
    workWeight (ws ++ us) = workWeight ws + workWeight us := by
  induction ws with
  | nil => simp [workWeight]
  | cons w ws ih =>
    rw [List.cons_append, workWeight, workWeight, ih]
    omega

theorem hooksWeight_append (hs ks : List (List WriterStep)) :
    hooksWeight (hs ++ ks) = hooksWeight hs + hooksWeight ks := by
  induction hs with
  | nil => simp [hooksWeight]
  | cons h hs ih =>
    rw [List.cons_append, hooksWeight, hooksWeight, ih]
    omega

theorem workWeight_hookWork (hook : List WriterStep) :
    workWeight (hookWork hook) = hookWeight hook := by
  induction hook with
  | nil => rfl
  | cons s hook ih =>
    simp only [hookWork, workWeight, Work.weight, hookWeight, List.flatMap_cons,
      List.cons_append, List.nil_append] at ih ⊢
    omega

theorem workWeight_hooks (hooks : List (List WriterStep)) :
    workWeight (hooks.flatMap hookWork) = hooksWeight hooks := by
  induction hooks with
  | nil => rfl
  | cons h hs ih =>
    rw [List.flatMap_cons, workWeight_append, workWeight_hookWork, ih, hooksWeight]

def turn (r : Response) : Work → List Work × Response
  | .step (.setHeader n v) => ([], r.setHeader n v)
  | .step (.appendHeader n v) => ([], r.appendHeader n v)
  | .step (.removeHeader n) => ([], r.removeHeader n)
  | .step (.before hook) => ([], r.addBefore hook)
  | .step (.after o) => ([], r.addAfter o)
  | .step .look => ([], r)
  | .step (.writeHeader code) =>
    if r.committed then ([], r.note .alreadyCommitted)
    else (r.before.flatMap hookWork ++ [.commit code], { r with before := [] })
  | .step (.write body) =>
    if r.committed then ([.append body], r) else ([.step (.writeHeader 200), .append body], r)
  | .hookStarted _ => ([], r.note (.hookStarted r.committed))
  | .hookStepped s => ([], r.note (.hookStepped (r.resultOf s)))
  | .commit code => ([], r.commit code)
  | .append body => ([], r.append body)

theorem turn_weight (r : Response) (w : Work) :
    workWeight (turn r w).1 + hooksWeight (turn r w).2.before <
      w.weight + hooksWeight r.before := by
  fun_cases turn r w with
  | case4 hook =>
    simp only [addBefore, hooksWeight_append, workWeight, hooksWeight, Work.weight, stepWeight]
    omega
  | case8 code h =>
    simp only [workWeight_append, workWeight_hooks, workWeight, hooksWeight, Work.weight,
      stepWeight]
    omega
  | _ =>
    simp [workWeight, Work.weight, stepWeight, setHeader, appendHeader, removeHeader, addAfter,
      note, commit, append]

def run (r : Response) : List Work → Response
  | [] => r
  | w :: ws => run (turn r w).2 ((turn r w).1 ++ ws)
termination_by ws => workWeight ws + hooksWeight r.before
decreasing_by
  have := turn_weight r w
  rw [workWeight_append, workWeight]
  omega

/-! ## The writer as handlers use it -/

def step (r : Response) (s : WriterStep) : Response := r.run [.step s]

/-- Commits the status; hooks run before. A second commit is only reported. -/
def writeHeader (r : Response) (code : Nat) : Response := r.step (.writeHeader code)

/-- Adds to the body, after committing status 200 where nothing has been committed. -/
def write (r : Response) (body : Bytes) : Response := r.step (.write body)

def clear (_ : Response) : Response := {}

/-- The finished response; a code that cannot be sent becomes 500. -/
def toAnswer (r : Response) : Answer :=
  ⟨if isStatus r.status then r.status else 500, r.header, r.body⟩

def taken (r : Response) : Response := { r with header := [], body := [] }

end Response

end Switchboard
