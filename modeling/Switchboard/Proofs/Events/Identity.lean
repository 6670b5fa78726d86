import Switchboard.Events.Envelope
import Switchboard.Proofs.Http.Fields

/-!
# The identity of a request

The request that is served for an envelope carries the number of the envelope, the type of its body and
the id of its connection, whatever the header of the envelope says under these names in any spelling.
The rest of that header reaches the request as it is.
-/

namespace Switchboard

open Text (sameAscii)
open Header (goesUnder isName isValue name?)

theorem isValue_toString (n : Nat) : isValue (toString n) = true := by
  unfold Header.isValue
  rw [List.all_eq_true]
  intro c hc
  have hdigits : c ∈ Nat.toDigits 10 n := by simpa [toString, Nat.repr] using hc
  have hrange : 48 ≤ c.toNat ∧ c.toNat ≤ 57 := by
    simpa [Char.isDigit, UInt32.le_iff_toNat_le] using
      Nat.isDigit_of_mem_toDigits (b := 10) (by omega) (by omega) hdigits
  rw [Bool.or_eq_true, Bool.and_eq_true]
  exact .inr ⟨decide_eq_true (by omega), by rw [bne_iff_ne]; omega⟩

namespace Envelope

def decidedNames : List String := [requestId, "content-type", connectionId]

theorem isName_decided : ∀ n ∈ decidedNames, isName n = true := by decide

variable (e : Envelope) (connection : String)

def identity : List (String × String) :=
  [(requestId, toString e.rid), ("content-type", "application/json"), (connectionId, connection)]

/-- The header of the request: the fields of the envelope but for the decided names, and behind them
the fields that the connection decides. -/
def requestHeader : Header :=
  (e.identity connection).foldl (fun h p => h.add p.1 p.2)
    (decidedNames.foldl Header.erase (e.header.foldl (fun h p => h.add p.1 p.2) []))

theorem toRequest_eq (m : Method) (huri : (Uri.ofString? e.uri).isSome) :
    e.toRequest m connection = .ok { Request.new m.name e.uri with
      header := e.requestHeader connection
      body := Utf8.encode (e.body.getD []) } := by
  rw [toRequest, if_neg (by simpa using Option.isSome_iff_ne_none.mp huri)]
  rfl

theorem values_requestHeader (name : String) : (e.requestHeader connection).values name =
    (if decidedNames.any (name? · = name? name) then []
      else (e.header.filter (goesUnder name)).map Prod.snd) ++
    ((e.identity connection).filter (goesUnder name)).map Prod.snd := by
  have hempty : Header.values [] name = [] := by
    unfold Header.values
    split <;> rfl
  rw [requestHeader, Header.values_addAll, Header.values_eraseAll, Header.values_addAll, hempty,
    List.nil_append]

theorem goesUnder_identity (hconnection : isValue connection = true) {n : String}
    (hn : n ∈ decidedNames) : ∀ p ∈ e.identity connection, goesUnder n p = (p.1 == n) := by
  have hsame : ∀ a ∈ decidedNames, ∀ b ∈ decidedNames, sameAscii a b = (a == b) := by decide
  intro p hp
  have hdecided : p.1 ∈ decidedNames := List.mem_map_of_mem (f := Prod.fst) hp
  have hvalue : isValue p.2 = true := by
    simp only [identity, List.mem_cons, List.not_mem_nil, or_false] at hp
    rcases hp with rfl | rfl | rfl
    · exact isValue_toString e.rid
    · decide
    · exact hconnection
  rw [goesUnder, isName_decided _ hdecided, hvalue, hsame _ hdecided _ hn]
  rfl

theorem values_decided (hconnection : isValue connection = true) {n name : String}
    (hn : n ∈ decidedNames) (hname : sameAscii name n = true) :
    (e.requestHeader connection).values name =
      ((e.identity connection).filter (·.1 == n)).map Prod.snd := by
  have hany : decidedNames.any (name? · = name? n) = true :=
    List.any_eq_true.mpr ⟨n, hn, decide_eq_true rfl⟩
  rw [Header.values_congr _ hname, values_requestHeader, if_pos hany, List.nil_append,
    List.filter_congr (e.goesUnder_identity connection hconnection hn)]

theorem values_apart {name : String} (h : ∀ n ∈ decidedNames, sameAscii n name = false) :
    (e.requestHeader connection).values name = (e.header.filter (goesUnder name)).map Prod.snd := by
  have hany : decidedNames.any (name? · = name? name) = false := by
    rw [List.any_eq_false]
    intro n hn
    rw [decide_eq_true_eq, Header.name?_eq_iff (isName_decided n hn), h n hn]
    simp
  have hidentity : (e.identity connection).filter (goesUnder name) = [] := by
    rw [List.filter_eq_nil_iff]
    intro p hp
    have hdecided : p.1 ∈ decidedNames := List.mem_map_of_mem (f := Prod.fst) hp
    rw [goesUnder, h _ hdecided, Bool.and_false]
    simp
  rw [values_requestHeader, hany, hidentity]
  simp

/-- The request for an envelope says who asks, for what and in which format exactly as the connection
knows it, in whatever spelling the names are looked up, and under all other names what the envelope
says. -/
theorem toRequest_identity (m : Method) (huri : (Uri.ofString? e.uri).isSome)
    (hconnection : isValue connection = true) :
    ∃ r, e.toRequest m connection = .ok r ∧
      r.method = m.name ∧ some r.uri = Uri.ofString? e.uri ∧
      (∀ name, sameAscii name "x-request-id" = true → r.header.values name = [toString e.rid]) ∧
      (∀ name, sameAscii name "content-type" = true →
        r.header.values name = ["application/json"]) ∧
      (∀ name, sameAscii name "x-connection-id" = true → r.header.values name = [connection]) ∧
      (∀ name, sameAscii "x-request-id" name = false → sameAscii "content-type" name = false →
        sameAscii "x-connection-id" name = false →
        r.header.values name =
          (e.header.filter fun p => isName p.1 && isValue p.2 && sameAscii p.1 name).map Prod.snd) ∧
      r.body = Utf8.encode (e.body.getD []) := by
  refine ⟨_, e.toRequest_eq connection m huri, rfl, ?_, fun name hname => ?_, fun name hname => ?_,
    fun name hname => ?_, fun name hid htype hconn => ?_, rfl⟩
  · obtain ⟨u, hu⟩ := Option.isSome_iff_exists.mp huri
    simp [Request.new, hu]
  · exact e.values_decided connection hconnection (by decide) hname
  · exact e.values_decided connection hconnection (by decide) hname
  · exact e.values_decided connection hconnection (by decide) hname
  · refine e.values_apart connection fun n hn => ?_
    simp only [decidedNames, List.mem_cons, List.not_mem_nil, or_false] at hn
    rcases hn with rfl | rfl | rfl
    · exact hid
    · exact htype
    · exact hconn

/-- Spoofed in three spellings, a name twice but for its case, and fields that no header takes. -/
def spoofing : Envelope where
  rid := 9
  uri := "/api/echo?x=1"
  header := [("X-REQUEST-ID", "1"), ("x-request-id", "2"), ("Content-Type", "text/html"),
    ("X-Connection-ID", "admin"), ("Authorization", "t"), ("no name", "v"), ("AUTHORIZATION", "u"),
    ("authorization", "a\nb")]
  body := some "\x7b\x7d".toList

theorem spoofing_identity :
    (Uri.ofString? spoofing.uri).isSome = true ∧ isValue "conn-1" = true ∧
    ∃ r, spoofing.toRequest .websocket "conn-1" = .ok r ∧ r.header.values "X-Request-Id" = ["9"] ∧
      r.header.values "content-type" = ["application/json"] ∧
      r.header.values "X-CONNECTION-ID" = ["conn-1"] ∧
      r.header.values "Authorization" = ["t", "u"] := by
  have huri : (Uri.ofString? spoofing.uri).isSome = true := by decide +kernel
  have hconnection : isValue "conn-1" = true := by decide
  obtain ⟨r, hr, -, -, hid, htype, hconn, hrest, -⟩ :=
    toRequest_identity spoofing "conn-1" .websocket huri hconnection
  refine ⟨huri, hconnection, r, hr, hid _ (by decide), htype _ (by decide), hconn _ (by decide), ?_⟩
  rw [hrest _ (by decide) (by decide) (by decide)]
  decide +kernel

end Envelope

end Switchboard
