import Switchboard.Proofs.Web.Recovery

/-!
# What errors tell

Outside debug mode the client learns the code, the number and the message of an error, and nothing of what
caused it. Only an HTTP error that directly wraps another one shows that one in its place; what lies deeper,
and the wording of every other error, leaves no mark on the context.
-/

namespace Switchboard

variable {ε : Type}

/-! ## The visible part -/

structure Visible where
  code : Nat
  errno : Int
  message : String
deriving DecidableEq, Repr

def Visible.standard : Visible := ⟨500, 0, "Internal Server Error"⟩

def Visible.failure (p : Visible) : HttpError := ⟨p.code, p.errno, p.message, none⟩

def HttpError.visible (e : HttpError) : Visible := ⟨e.code, e.errno, e.message⟩

/-- An HTTP error is seen as the HTTP error that is its cause, where there is one, but never as a cause of
that one. -/
def Error.visible : Error → Visible
  | .http ⟨_, _, _, some (.http inner)⟩ => HttpError.visible inner
  | .http e => HttpError.visible e
  | _ => .standard

@[simp] theorem Error.visible_failure (p : Visible) : (Error.http p.failure).visible = p := rfl

namespace State

theorem visiblePart_fst (e : Error) : (visiblePart e).1 = e.visible.failure := by
  cases e with
  | http e =>
    obtain ⟨code, errno, message, cause⟩ := e
    cases cause with
    | none => rfl
    | some cause => cases cause <;> rfl
  | _ => rfl

/-! ## Rendering without debug mode -/

theorem renderError_visible (s : State ε) (e : Error) :
    s.renderError false e = s.renderError false (.http e.visible.failure) := by
  have hpart : (visiblePart e).1 = (visiblePart (.http e.visible.failure)).1 := by
    rw [visiblePart_fst, visiblePart_fst, Error.visible_failure]
  unfold renderError
  simp only [hpart, Bool.false_eq_true, if_false]

theorem renderError_of_visible (s : State ε) {e e' : Error} (h : e.visible = e'.visible) :
    s.renderError false e = s.renderError false e' := by
  rw [renderError_visible, h, ← renderError_visible]

/-- What the rendering makes of a context does not depend on the world around it. -/
theorem context_renderError {s s' : State ε} (h : s.context = s'.context) (debug : Bool) (e : Error) :
    (s.renderError debug e).context = (s'.renderError debug e).context := by
  have hcommitted : s.response.committed = s'.response.committed :=
    congrArg (·.response.committed) h
  have hmethod : s.request.method = s'.request.method := congrArg (·.request.method) h
  have hstep {t t' : State ε} (h : t.context = t'.context) (w : WriterStep) :
      (t.step w).context = (t'.step w).context := by
    simp only [step, withResponse, response, h]
  unfold renderError
  simp only [hcommitted, hmethod]
  split
  · exact h
  · split
    · exact hstep h _
    · exact hstep (hstep (hstep h _) _) _

/-- Two errors of which the same is seen leave equal contexts equal, committed or not and whatever hooks
wait, and in equal worlds they report the same. -/
theorem renderError_hides_causes {s s' : State ε} (hcontext : s.context = s'.context) {e e' : Error}
    (hvisible : e.visible = e'.visible) :
    (s.renderError false e).context = (s'.renderError false e').context ∧
      (s.world = s'.world → s.renderError false e = s'.renderError false e') := by
  rw [renderError_of_visible s hvisible]
  refine ⟨context_renderError hcontext false e', fun hworld => ?_⟩
  obtain rfl : s = s' := by
    cases s
    cases hcontext
    cases hworld
    rfl
  rfl

/-- Something wrapped twice, with a broadcast that failed at the bottom. -/
def wrapped : Error :=
  .http ⟨500, 1, "cannot load", some (.http ⟨404, 7, "no such page",
    some (.broadcast [("a", .http (HttpError.forbidden.withInternal .closed))])⟩)⟩

def opaqueCause : Error := .http ⟨404, 7, "no such page", some (.io "disk full")⟩

def expectant : Context :=
  { response := { before := [[.writeHeader 202, .setHeader "x-a" "1"], [.look]], after := ["late"] } }

theorem expectant_hides_causes :
    wrapped.visible = opaqueCause.visible ∧
      ((⟨expectant, {}⟩ : State Unit).renderError false wrapped).context =
        ((⟨expectant, { nextId := 3 }⟩ : State Unit).renderError false opaqueCause).context :=
  ⟨rfl, (renderError_hides_causes rfl rfl).1⟩

end State

/-! ## Services outside debug mode -/

namespace Service

section
variable {v : Service ε} (hdefault : v.onError = none) (hdebug : v.config.debug = false)
include hdefault hdebug

theorem desk_onError_of_visible {e e' : Error} (h : e.visible = e'.visible) (s : State ε) :
    v.desk.onError e s = v.desk.onError e' s := by
  rw [desk_onError hdefault, hdebug]
  exact s.renderError_of_visible h

/-- A request that is refused without routing is answered by what is seen of the reason. -/
theorem reject_of_visible {e e' : Error} (h : e.visible = e'.visible) (r : Request) (pool : Pool)
    (world : World ε) : v.reject e r pool world = v.reject e' r pool world := by
  unfold reject
  simp only [desk_onError_of_visible hdefault hdebug h]

/-- An error that leaves the chain is rendered by what is seen of it. -/
theorem settle_of_visible {e e' : Error} (h : e.visible = e'.visible) (s : State ε) :
    v.settle (.error e) s = v.settle (.error e') s :=
  desk_onError_of_visible hdefault hdebug h s

theorem context_settle_panic (text text' : Option String) (s : State ε) :
    (v.settle (.panic text) s).context = (v.settle (.panic text') s).context := by
  have hvisible : (Error.http (HttpError.internalServerError.withInternal
      (.other (panicText text)))).visible = (Error.http (HttpError.internalServerError.withInternal
      (.other (panicText text')))).visible := rfl
  simp only [settle]
  rw [desk_onError_of_visible hdefault hdebug hvisible, desk_onError hdefault]
  refine State.context_renderError ?_ v.config.debug _
  rfl

end

end Service

end Switchboard
