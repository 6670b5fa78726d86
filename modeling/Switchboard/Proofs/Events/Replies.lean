import Switchboard.Events.Serving
import Switchboard.Proofs.Events.EnvelopeText
import Switchboard.Proofs.Events.Identity
import Switchboard.Proofs.Text.Utf8
import Switchboard.Proofs.Web.Passing

/-!
# Replies to envelopes

What a reply carries of the response to the request that an envelope stands for. A body that is a JSON
document goes through as that document, so a text arrives as that text only when it is none. A reply has
one text under a name, so of several values of one name the last arrives.
-/

namespace Switchboard

open Json (Tree)

variable {ε : Type}

namespace Envelope

/-! ## Bodies -/

def text? (e : Envelope) : Option String := e.value?.bind Json.string?

theorem text?_of_quote {e : Envelope} {s : String} (h : e.body = some (Json.quote s.toList)) :
    e.text? = some s := by
  unfold text? value?
  rw [h, Option.getD_some, Json.ofText?, (Tree.spells_quote s.toList).ofText?, Option.bind_some,
    Tree.value_quoted]
  rfl

theorem text?_of_none {e : Envelope} (h : e.body = none) : e.text? = none := by
  have hnull : Tree.ofText? ['n', 'u', 'l', 'l'] = _ := (Tree.spells_word .null).ofText?
  unfold text? value?
  rw [h, Option.getD_none, Json.ofText?, hnull]
  rfl

theorem text?_ne_of_document {e : Envelope} {s : String} {t : Tree}
    (ht : Tree.ofText? s.toList = some t) (h : e.body = some t.text) : e.text? ≠ some s := by
  intro hs
  obtain ⟨j, hj, hstring⟩ := Option.bind_eq_some_iff.mp hs
  obtain rfl : j = .str s := by
    cases j <;> cases hstring
    rfl
  obtain ⟨pre, post, -, -, hsource⟩ := Tree.text_of_ofText? ht
  unfold value? at hj
  rw [h, Option.getD_some] at hj
  have hlength := Json.length_of_ofText?_str hj
  rw [hsource] at hlength
  simp only [List.length_append] at hlength
  omega

theorem rawBody_ofText (s : String) : rawBody (Utf8.ofText s) =
    if s = "" then none
    else match Tree.ofText? s.toList with
      | some t => some t.text
      | none => some (Json.quote s.toList) := by
  have hdecoded : Utf8.decode? (Utf8.ofText s) = some s.toList := Utf8.decode?_encode s.toList
  have hempty : (Utf8.ofText s).isEmpty = true ↔ s = "" := by
    rw [List.isEmpty_iff, ← String.toList_eq_nil_iff]
    refine ⟨fun h => ?_, fun h => by rw [Utf8.ofText, h]; rfl⟩
    rw [h, Utf8.decode?] at hdecoded
    exact (Option.some.inj hdecoded).symm
  unfold rawBody
  simp only [hempty]
  congr 1
  split
  · rename_i u hu
    obtain rfl := Option.some.inj (hdecoded.symm.trans hu)
    rfl
  · rename_i hu
    exact absurd (hdecoded.symm.trans hu) (by simp)

theorem text?_rawBody_iff {e : Envelope} {s : String} (h : e.body = rawBody (Utf8.ofText s)) :
    e.text? = some s ↔ s ≠ "" ∧ Tree.ofText? s.toList = none := by
  rw [rawBody_ofText] at h
  by_cases hempty : s = ""
  · rw [if_pos hempty] at h
    simp [text?_of_none h, hempty]
  · rw [if_neg hempty] at h
    cases ht : Tree.ofText? s.toList with
    | none =>
      rw [ht] at h
      simp [text?_of_quote h, hempty]
    | some t =>
      rw [ht] at h
      simp [text?_ne_of_document ht h]

/-! ## Headers -/

theorem mem_lastFields {fs : List (String × String)} {f : String × String} :
    f ∈ lastFields fs ↔ (fs.filter (·.1 == f.1)).getLast? = some f := by
  induction fs using List.reverseRecOn with
  | nil => simp [lastFields]
  | append_singleton fs g ih =>
    rw [lastFields_concat, List.filter_append, List.mem_append, List.mem_filter, List.mem_singleton, ih]
    by_cases hname : g.1 = f.1
    · simp [hname, eq_comm]
    · have hne : f ≠ g := fun h => hname (h ▸ rfl)
      simp [hname, hne, Ne.symm hname]

theorem nodup_lastFields (fs : List (String × String)) : ((lastFields fs).map Prod.fst).Nodup := by
  induction fs using List.reverseRecOn with
  | nil => exact List.nodup_nil
  | append_singleton fs g ih =>
    rw [lastFields_concat, List.map_append, List.nodup_append]
    refine ⟨ih.sublist ((List.filter_sublist).map _), by simp, ?_⟩
    simp

theorem forall_mem_lastFields {fs : List (String × String)} :
    (∀ f ∈ fs, f ∈ lastFields fs) ↔ ∀ f ∈ fs, ∀ g ∈ fs, f.1 = g.1 → f = g := by
  constructor
  · intro hall f hf g hg hname
    have hlast := mem_lastFields.mp (hall f hf)
    rw [hname, mem_lastFields.mp (hall g hg)] at hlast
    exact (Option.some.inj hlast).symm
  · intro hsame f hf
    have hne : fs.filter (·.1 == f.1) ≠ [] := List.ne_nil_of_mem (List.mem_filter.mpr ⟨hf, by simp⟩)
    obtain ⟨hlast, hname⟩ := List.mem_filter.mp (List.getLast_mem hne)
    rw [mem_lastFields, List.getLast?_eq_some_getLast hne]
    exact congrArg some (hsame _ hlast f hf (beq_iff_eq.mp hname))

theorem header_reply {a : Answer} (ha : ∀ f ∈ a.header, Header.isVisible f.2 = true) (rid : Nat)
    (uri : String) : (reply rid uri a).header = lastFields a.header := by
  have hkept : a.header.filter (fun f => Header.isVisible f.2) = a.header :=
    List.filter_eq_self.mpr ha
  unfold reply lastFields
  dsimp only
  rw [hkept]

end Envelope

namespace Running

variable {v : Service ε} {l : Link} {e : Envelope}

theorem answer_of_serve {u u' : Running ε} {depth : Nat} {a : Answer} {r : Request}
    (hr : e.toRequest l.method l.id = .ok r) (hserve : u.serve v depth r = some (a, u')) :
    u.answer v depth l e = some (.reply e.rid e.uri a, u') := by
  unfold answer
  rw [hr]
  dsimp only
  rw [hserve]
  rfl

/-! ## Answers with a text -/

theorem answer_body (u : Running ε) {target : Uri} (htarget : Uri.ofString? e.uri = some target)
    {x : Exchange ε Unit} (hx : x.Prepares) {text : String}
    (hroute : v.RoutesTo l.method target.path (x.thenText text))
    (hmws : ∀ mw ∈ v.before ++ v.around, mw.HandsOn) (depth : Nat) :
    ∃ reply u', u.answer v (depth + 1) l e = some (reply, u') ∧ reply.rid = e.rid ∧
      reply.uri = e.uri ∧ reply.body = Envelope.rawBody (Utf8.ofText text) := by
  have hr := e.toRequest_eq l.id l.method (by rw [htarget]; rfl)
  have huri : (Request.new l.method.name e.uri).uri = target := by
    unfold Request.new
    rw [htarget]
    rfl
  rw [← huri] at hroute
  let r : Request := { Request.new l.method.name e.uri with
    header := e.requestHeader l.id
    body := Utf8.encode (e.body.getD []) }
  obtain ⟨a, ⟨pool, world⟩, hserve, hbody⟩ := Service.serve_body (r := r)
    (Exchange.thenText_leaves hx text) rfl hroute hmws depth u.pool u.world
  have hserved : u.serve v (depth + 1) r = some (a, ⟨pool, world⟩) := by
    unfold Running.serve
    rw [hserve]
    rfl
  exact ⟨_, _, answer_of_serve hr hserved, rfl, rfl, congrArg Envelope.rawBody hbody⟩

/-- Behind middlewares that hand on, the reply to an envelope that is answered with a text carries that
text, unless it is empty or a JSON document. An empty text leaves the reply without a body, and a document
goes through as it is, without the blanks around it. -/
theorem answer_text (u : Running ε) {target : Uri} (htarget : Uri.ofString? e.uri = some target)
    {x : Exchange ε Unit} (hx : x.Prepares) {text : String}
    (hroute : v.RoutesTo l.method target.path (x.thenText text))
    (hmws : ∀ mw ∈ v.before ++ v.around, mw.HandsOn) (depth : Nat) :
    ∃ reply u', u.answer v (depth + 1) l e = some (reply, u') ∧ reply.rid = e.rid ∧
      reply.uri = e.uri ∧
      (reply.text? = some text ↔ text ≠ "" ∧ Tree.ofText? text.toList = none) ∧
      (text = "" → reply.body = none) ∧
      ∀ t, Tree.ofText? text.toList = some t → ∃ pre post, Tree.Blank pre ∧ Tree.Blank post ∧
        text.toList = pre ++ t.text ++ post ∧ reply.body = some t.text := by
  obtain ⟨reply, u', hanswer, hrid, huri, hbody⟩ := answer_body u htarget hx hroute hmws depth
  refine ⟨reply, u', hanswer, hrid, huri, Envelope.text?_rawBody_iff hbody, fun hempty => ?_,
    fun t ht => ?_⟩
  · rw [hbody, Envelope.rawBody_ofText, if_pos hempty]
  · obtain ⟨pre, post, hpre, hpost, htext⟩ := Tree.text_of_ofText? ht
    have hne : text ≠ "" := by
      rintro rfl
      have hnothing : Tree.ofText? [] = none := by
        rw [Tree.ofText?, Json.lex_nil]
        rfl
      exact absurd (hnothing.symm.trans ht) (by simp)
    refine ⟨pre, post, hpre, hpost, htext, ?_⟩
    rw [hbody, Envelope.rawBody_ofText, if_neg hne, ht]

def oneLink : Link := { method := .call, path := "/room", id := "x" }

def oneCall : Envelope := { rid := 7, uri := "/t" }

theorem oneCall_target : Uri.ofString? oneCall.uri = some ⟨none, none, "/t", none⟩ := by
  cbv

/-- A service that answers calls of one path with a text, behind both middlewares that come with it. -/
def remarking (text : String) : Service Unit :=
  (({ before := [Middleware.requestId], around := [Middleware.trace] } : Service Unit).add .call
    "/t" ((Exchange.modify (·.setHeader "x-kind" "remark")).thenText text) []).1

theorem remarking_routesTo (text : String) : (remarking text).RoutesTo .call "/t"
    ((Exchange.modify (·.setHeader "x-kind" "remark")).thenText text) := by
  intro slots hslots
  have hmax : (remarking text).routes.maxParam = 0 := by cbv
  obtain rfl := List.length_eq_zero_iff.mp (hslots.trans hmax)
  exact ⟨[], by cbv, by simp⟩

theorem remarking_handsOn (text : String) :
    ∀ mw ∈ (remarking text).before ++ (remarking text).around, mw.HandsOn := by
  intro mw hmw
  have hmem : mw ∈ [Middleware.requestId, Middleware.trace] := hmw
  simp only [List.mem_cons, List.not_mem_nil, or_false] at hmem
  rcases hmem with rfl | rfl
  · exact Middleware.requestId_handsOn
  · exact Middleware.trace_handsOn

theorem remarking_answers_pong :
    ∃ reply u', ({} : Running Unit).answer (remarking "pong") 1 oneLink oneCall =
      some (reply, u') ∧ reply.rid = 7 ∧ reply.uri = "/t" ∧ reply.text? = some "pong" := by
  have hnone : Tree.ofText? "pong".toList = none := by decide +kernel
  obtain ⟨reply, u', hanswer, hrid, huri, htext, -, -⟩ :=
    answer_text (l := oneLink) {} oneCall_target
      (Exchange.prepares_setHeader "x-kind" "remark") (remarking_routesTo "pong")
      (remarking_handsOn "pong") 0
  exact ⟨reply, u', hanswer, hrid, huri, htext.mpr ⟨by decide, hnone⟩⟩

/-- A text that is a JSON document arrives as the document: here as a number, which is no text. -/
theorem remarking_answers_digits :
    ∃ reply u', ({} : Running Unit).answer (remarking "123") 1 oneLink oneCall =
      some (reply, u') ∧ reply.body = some "123".toList ∧ reply.text? = none := by
  obtain ⟨reply, u', hanswer, -, -, hbody⟩ :=
    answer_body (l := oneLink) {} oneCall_target
      (Exchange.prepares_setHeader "x-kind" "remark") (remarking_routesTo "123")
      (remarking_handsOn "123") 0
  have hdigits : Envelope.rawBody (Utf8.ofText "123") = some "123".toList := by decide +kernel
  have hnumber : Json.ofText? "123".toList = some (.int 123) := by decide +kernel
  refine ⟨reply, u', hanswer, hbody.trans hdigits, ?_⟩
  rw [Envelope.text?, Envelope.value?, hbody.trans hdigits, Option.getD_some, hnumber]
  rfl

/-! ## Answers with several fields -/

/-- When all values of a response are visible, the reply has each name of the response once, with the last
value under it. So all fields arrive exactly when no name has two different values. -/
theorem answer_header {u u' : Running ε} {depth : Nat} {r : Request} {a : Answer}
    (hr : e.toRequest l.method l.id = .ok r) (hserve : u.serve v depth r = some (a, u'))
    (ha : ∀ f ∈ a.header, Header.isVisible f.2 = true) :
    ∃ reply, u.answer v depth l e = some (reply, u') ∧
      (∀ f, f ∈ reply.header ↔ (a.header.filter (·.1 == f.1)).getLast? = some f) ∧
      (reply.header.map Prod.fst).Nodup ∧
      ((∀ f ∈ a.header, f ∈ reply.header) ↔
        ∀ f ∈ a.header, ∀ g ∈ a.header, f.1 = g.1 → f = g) := by
  refine ⟨_, answer_of_serve hr hserve, fun f => ?_, ?_, ?_⟩
  · rw [Envelope.header_reply ha, Envelope.mem_lastFields]
  · rw [Envelope.header_reply ha]
    exact Envelope.nodup_lastFields a.header
  · rw [Envelope.header_reply ha]
    exact Envelope.forall_mem_lastFields

def bake : Exchange Unit Unit := Exchange.modify fun s =>
  ((s.appendHeader "set-cookie" "a=1").appendHeader "set-cookie" "b=2").setHeader "x-kind" "bake"

def baking : Service Unit := (({} : Service Unit).add .call "/t" bake []).1

theorem baking_serves : ∃ r a u', oneCall.toRequest .call "x" = .ok r ∧
    ({} : Running Unit).serve baking 1 r = some (a, u') ∧
    a.header = [("set-cookie", "a=1"), ("set-cookie", "b=2"), ("x-kind", "bake")] := by
  have hr := oneCall.toRequest_eq "x" .call (by rw [oneCall_target]; rfl)
  have hserve : (({} : Running Unit).serve baking 1 { Request.new "CALL" "/t" with
      header := oneCall.requestHeader "x"
      body := Utf8.encode (oneCall.body.getD []) }).map (·.1.header) =
      some [("set-cookie", "a=1"), ("set-cookie", "b=2"), ("x-kind", "bake")] := by decide +kernel
  obtain ⟨⟨a, u'⟩, hserve, hheader⟩ := Option.map_eq_some_iff.mp hserve
  exact ⟨_, a, u', hr, hserve, hheader⟩

theorem baking_keeps_last : ∃ r a u' reply, oneCall.toRequest .call "x" = .ok r ∧
    ({} : Running Unit).serve baking 1 r = some (a, u') ∧
    (∀ f ∈ a.header, Header.isVisible f.2 = true) ∧
    ({} : Running Unit).answer baking 1 oneLink oneCall = some (reply, u') ∧
    ("set-cookie", "b=2") ∈ reply.header ∧ ("x-kind", "bake") ∈ reply.header := by
  obtain ⟨r, a, u', hr, hserve, hheader⟩ := baking_serves
  have hvisible : ∀ f ∈ a.header, Header.isVisible f.2 = true := by
    rw [hheader]
    decide
  obtain ⟨reply, hanswer, hlast, -, -⟩ := answer_header (l := oneLink) hr hserve hvisible
  refine ⟨r, a, u', reply, hr, hserve, hvisible, hanswer, (hlast _).mpr ?_, (hlast _).mpr ?_⟩ <;>
    rw [hheader] <;> decide

/-- The first of two cookies does not arrive. -/
theorem baking_loses_first : ∃ r a u' reply, oneCall.toRequest .call "x" = .ok r ∧
    ({} : Running Unit).serve baking 1 r = some (a, u') ∧
    (∀ f ∈ a.header, Header.isVisible f.2 = true) ∧
    ({} : Running Unit).answer baking 1 oneLink oneCall = some (reply, u') ∧
    ("set-cookie", "a=1") ∈ a.header ∧ ("set-cookie", "a=1") ∉ reply.header := by
  obtain ⟨r, a, u', hr, hserve, hheader⟩ := baking_serves
  have hvisible : ∀ f ∈ a.header, Header.isVisible f.2 = true := by
    rw [hheader]
    decide
  refine ⟨r, a, u', _, hr, hserve, hvisible, answer_of_serve (l := oneLink) hr hserve, ?_, ?_⟩
  · rw [hheader]
    decide
  · rw [Envelope.header_reply hvisible, hheader]
    decide

end Running

end Switchboard
