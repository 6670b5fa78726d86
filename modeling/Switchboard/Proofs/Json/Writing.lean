import Mathlib.Data.List.TakeWhile
import Switchboard.Json.Printer
import Switchboard.Json.Record
import Switchboard.Proofs.Json.Spelling

/-!
# What is written is read

Quoted texts, numbers and objects as they are written spell the values that they were written for.
-/

namespace Switchboard.Json

open Numerics

/-! ## Quoted texts -/

/-- How a character stands inside quotes: behind a backslash, by its number, or as itself. -/
inductive Escaped (c : Char) : List Char → Prop
  | short (e : Char) (he : isEscape e = true) (hvalue : escapeValue e = c) : Escaped c ['\\', e]
  | numbered (h1 h2 h3 h4 : Char) (hhex : (isHex h1 && isHex h2 && isHex h3 && isHex h4) = true)
      (hvalue : hex4 h1 h2 h3 h4 = c.toNat) (hsmall : c.toNat < 0x20) :
      Escaped c ['\\', 'u', h1, h2, h3, h4]
  | plain (hquote : c ≠ '"') (hc : (c == '\\' || c.toNat < 0x20) = false) : Escaped c [c]

theorem hexDigit_pair : ∀ n < 0x20, (isHex (hexDigit (n / 16)) && isHex (hexDigit (n % 16))) = true ∧
    hex4 '0' '0' (hexDigit (n / 16)) (hexDigit (n % 16)) = n := by decide

theorem escape_escaped (c : Char) : Escaped c (escape c) := by
  fun_cases escape c with
  | case1 hc | case2 _ hc | case3 _ _ _ hc | case4 _ _ _ _ hc | case5 _ _ _ _ _ hc =>
    obtain rfl := eq_of_beq hc
    exact .short _ rfl rfl
  | case6 _ _ _ _ _ _ hc => exact .short 'b' rfl (by rw [← Char.ofNat_toNat c, hc]; rfl)
  | case7 _ _ _ _ _ _ _ hc => exact .short 'f' rfl (by rw [← Char.ofNat_toNat c, hc]; rfl)
  | case8 _ _ hsmall =>
    obtain ⟨hhex, hvalue⟩ := hexDigit_pair _ hsmall
    exact .numbered _ _ _ _ hhex hvalue hsmall
  | case9 hquote hslash hsmall =>
    exact .plain (by simpa using hquote) (by simp_all)

theorem Escaped.piece {c : Char} {w : List Char} (h : Escaped c w) : Piece w := by
  cases h with
  | short e he => exact .escape he
  | numbered h1 h2 h3 h4 hhex => exact .unicode hhex
  | plain hquote hc => exact .plain hquote hc

theorem unquote_escaped {c : Char} {w : List Char} (h : Escaped c w) (r : List Char) :
    unquote (w ++ r) = (unquote r).map (c :: ·) := by
  cases h with
  | short e he hvalue =>
    have hu : e ≠ 'u' := by
      rintro rfl
      exact absurd he (by decide)
    rw [List.cons_append, List.cons_append, List.nil_append, unquote, hvalue]
    intro a b c' d r' h
    exact absurd h hu
  | numbered h1 h2 h3 h4 _ hvalue hsmall =>
    simp only [List.cons_append, List.nil_append]
    rw [unquote.eq_def]
    simp only [hvalue, Char.ofNat_toNat]
    rw [if_neg (by omega), if_neg (by omega)]
  | plain hquote hc =>
    have hslash : c ≠ '\\' := by
      rintro rfl
      exact absurd hc (by decide)
    rw [List.cons_append, List.nil_append, unquote]
    · intro a b c' d r' h
      exact absurd h hslash
    · intro c' r' h
      exact absurd h hslash

theorem body_quoted (s : List Char) : Body (s.flatMap escape) := by
  induction s with
  | nil => exact .nil
  | cons c s ih => exact .piece (escape_escaped c).piece ih

theorem unquote_quoted (s : List Char) : unquote (s.flatMap escape) = some s := by
  induction s with
  | nil => rfl
  | cons c s ih =>
    rw [List.flatMap_cons, unquote_escaped (escape_escaped c), ih]
    rfl

theorem unquote_length_le {b s : List Char} (h : unquote b = some s) : s.length ≤ b.length := by
  fun_induction unquote b generalizing s
  case case1 =>
    cases h
    rfl
  case case2 | case4 | case5 => cases h
  case case3 ih | case6 ih | case7 ih | case8 ih =>
    obtain ⟨u, hu, rfl⟩ := Option.map_eq_some_iff.mp h
    have := ih hu
    simp only [List.length_cons]
    omega

theorem lex_quoted (s u : List Char) :
    lex (quote s ++ u) = (lex u).map (.quoted (s.flatMap escape) :: ·) := by
  have hquote : quote s ++ u = '"' :: s.flatMap escape ++ '"' :: u := by simp [quote]
  rw [hquote, lex_of_cut (.quoted (body_quoted s) u)]

theorem length_of_ofText?_str {u : List Char} {x : String} (h : ofText? u = some (.str x)) :
    x.toList.length + 2 ≤ u.length := by
  obtain ⟨t, ht, hvalue⟩ := Option.bind_eq_some_iff.mp h
  obtain ⟨pre, post, -, -, rfl⟩ := Tree.text_of_ofText? ht
  unfold ofTree? at hvalue
  split at hvalue
  · cases t with
    | quoted b =>
      obtain ⟨v, hv, hx⟩ := Option.map_eq_some_iff.mp hvalue
      obtain rfl : x = String.ofList v := (Json.str.inj hx).symm
      have hlength := unquote_length_le hv
      have htext : (Tree.quoted b).text = '"' :: b ++ ['"'] := Source.text_piece _
      rw [htext, String.toList_ofList]
      simp only [List.length_append, List.length_cons, List.length_nil]
      omega
    | word w => cases w <;> cases hvalue
    | numeral n | list items source | object ms source =>
      obtain ⟨v, -, hv⟩ := Option.map_eq_some_iff.mp hvalue
      cases hv
  · cases hvalue

/-! ## Numbers -/

theorem natOfDigits_digitsOf (n : Nat) : natOfDigits (digitsOf n) = n := by
  have h := Nat.ofDigitChars_toDigits (b := 10) (n := n) (by omega) (by omega)
  rw [Nat.ofDigitChars_eq_foldl] at h
  simpa [natOfDigits, digitsOf, digitValue, Nat.mul_comm] using h

theorem digitsOf_isDigit (n : Nat) : ∀ c ∈ digitsOf n, isDigit c = true := fun _ hc =>
  Nat.isDigit_of_mem_toDigits (by omega) (by omega) hc

theorem digitsOf_head {n : Nat} (h : 0 < n) : (digitsOf n).head? ≠ some '0' := by
  induction n using Nat.strong_induction_on with
  | _ n ih =>
    by_cases hn : n < 10
    · have hdigit : ∀ n < 10, 0 < n → [n.digitChar].head? ≠ some '0' := by decide
      rw [digitsOf, Nat.toDigits_of_lt_base hn]
      exact hdigit n hn h
    · have hhead := ih (n / 10) (by omega) (by omega)
      rw [digitsOf, Nat.toDigits_of_base_le (by omega) (by omega), List.head?_append]
      cases hds : (digitsOf (n / 10)).head? with
      | none => exact absurd (List.head?_eq_none_iff.mp hds) Nat.toDigits_ne_nil
      | some c =>
        rw [hds] at hhead
        rw [digitsOf] at hds
        rw [hds]
        exact hhead

theorem scanWhole_digitsOf (n : Nat) : scanWhole (digitsOf n) = some (digitsOf n, []) := by
  have htake : (digitsOf n).takeWhile isDigit = digitsOf n :=
    List.takeWhile_eq_self_iff.mpr (digitsOf_isDigit n)
  have hdrop : (digitsOf n).dropWhile isDigit = [] :=
    List.dropWhile_eq_nil_iff.mpr (digitsOf_isDigit n)
  unfold scanWhole
  rw [htake, hdrop]
  split
  · rename_i heq
    exact absurd heq Nat.toDigits_ne_nil
  · rename_i heq
    rw [heq]
  · rename_i ds hne heq
    rcases Nat.eq_zero_or_pos n with rfl | hn
    · cases heq
      exact absurd rfl hne
    · exact absurd (congrArg List.head? heq) (digitsOf_head hn)
  · rfl

theorem lex_digitsOf (n : Nat) :
    lex (digitsOf n) = some [.numeral ⟨false, digitsOf n, [], none⟩] := by
  have hscan : scanNumeral (digitsOf n) = some (⟨false, digitsOf n, [], none⟩, []) :=
    scanNumeral_iff.mpr ⟨digitsOf n, [], [], rfl, scanWhole_digitsOf n, rfl, rfl⟩
  rw [lex_of_cut (.numeral hscan), lex_nil]
  rfl

theorem significand_eq {m : Nat} {ds : List Char}
    (h : ds.foldl (fun n c => n * 10 + digitValue c) m ≤ uint64Max.toNat) :
    significand m ds = (ds.foldl (fun n c => n * 10 + digitValue c) m, 0) := by
  induction ds generalizing m with
  | nil => rfl
  | cons c ds ih =>
    have hle (k : Nat) (ds : List Char) : k ≤ ds.foldl (fun n c => n * 10 + digitValue c) k := by
      induction ds generalizing k with
      | nil => exact Nat.le_refl k
      | cons c ds ih => exact Nat.le_trans (by omega) (ih (k * 10 + digitValue c))
    rw [significand, if_pos (Nat.le_trans (hle _ ds) h), ih h]
    rfl

theorem value?_digitsOf {n : Nat} (h : n < UInt64.size) :
    Numeral.value? ⟨false, digitsOf n, [], none⟩ = some (.int n) := by
  have hn : (digitsOf n).foldl (fun n c => n * 10 + digitValue c) 0 = n := natOfDigits_digitsOf n
  have hsig : significand 0 (digitsOf n) = (n, 0) := by
    rw [significand_eq, hn]
    rw [hn]
    exact Nat.le_of_lt_succ h
  simp [Numeral.value?, hsig]

/-! ## Objects -/

namespace Tree

theorem run_append (s : State) (ts us : List Token) :
    run s (ts ++ us) = (run s ts).bind fun s => run s us := by
  induction ts generalizing s with
  | nil => rfl
  | cons tok ts ih =>
    rw [List.cons_append, run, run, Option.bind_assoc]
    congr 1
    exact funext ih

theorem spells_quote (s : List Char) : Spells (quote s) (.quoted (s.flatMap escape)) := by
  refine ⟨[.quoted (s.flatMap escape)], ?_, fun fs => ?_⟩
  · have h := lex_quoted s []
    rwa [List.append_nil, lex_nil] at h
  · exact Option.bind_fun_some _

theorem value_quoted (v : String) :
    ofTree? (.quoted (v.toList.flatMap escape)) = some (.str v) := by
  simp [ofTree?, depth, value?, unquote_quoted, Json.text]

theorem spells_digitsOf (n : Nat) :
    Spells (digitsOf n) (.numeral ⟨false, digitsOf n, [], none⟩) :=
  ⟨_, lex_digitsOf n, fun _ => Option.bind_fun_some _⟩

theorem value_digitsOf {n : Nat} (h : n < UInt64.size) :
    ofTree? (.numeral ⟨false, digitsOf n, [], none⟩) = some (Json.nat n) := by
  simp [ofTree?, depth, value?, value?_digitsOf h, Json.nat]

theorem spells_word (w : Word) : Spells w.text (.word w) := by
  refine ⟨[.word w], ?_, fun fs => Option.bind_fun_some _⟩
  have h := lex_of_cut (.word w [])
  rwa [List.append_nil, lex_nil] at h

/-- A member of an object to be written: its key, and its value both as text and as tree. -/
structure Member where
  key : String
  text : List Char
  tree : Tree
  spells : Spells text tree

namespace Member

def written (m : Member) : List Char := quote m.key.toList ++ ':' :: m.text

/-- The member as the machine reads it: the escapes of its key are not resolved. -/
def read (m : Member) : List Char × Tree := (m.key.toList.flatMap escape, m.tree)

theorem lex_written (m : Member) : ∃ ts,
    (∀ u, Marked u → lex (m.written ++ u) = (lex u).map (ts ++ ·)) ∧
    ∀ e, e = .key ∨ e = .keyOrEnd → ∀ parts done, ∃ parts', ∀ fs,
      run (e, .object parts done none :: fs) ts =
        some (.comma, .object parts' (m.read :: done) none :: fs) := by
  obtain ⟨key, text, tree, ts, hlex, hrun⟩ := m
  refine ⟨.quoted (key.toList.flatMap escape) :: .mark ':' :: ts, ?_, ?_⟩
  · intro u hu
    rw [written, List.append_assoc, lex_quoted, List.cons_append, lex_of_cut (.mark rfl _),
      lex_append hlex hu, Option.map_map, Option.map_map]
    rfl
  · intro e he parts done
    have hvalue (parts : List Source) (fs : List Frame) :
        run (.value, .object parts done (some (key.toList.flatMap escape)) :: fs) ts = _ := hrun _
    refine ⟨tree.source :: .piece [':'] ::
      .piece (Token.quoted (key.toList.flatMap escape)).text :: parts, fun fs => ?_⟩
    rcases he with rfl | rfl <;> exact hvalue _ fs

end Member

theorem named?_read (ms : List Member) :
    named? (ms.map Member.read) = some (ms.map fun m => (m.key, m.tree)) := by
  induction ms with
  | nil => rfl
  | cons m ms ih =>
    simp [named?, Member.read, unquote_quoted, ih]

def moreText : List Member → List Char
  | [] => ['}']
  | m :: ms => ',' :: m.written ++ moreText ms

def objectText : List Member → List Char
  | [] => ['{', '}']
  | m :: ms => '{' :: m.written ++ moreText ms

theorem marked_moreText (ms : List Member) : Marked (moreText ms) := by
  cases ms <;> exact marked_cons rfl _

theorem lex_moreText (ms : List Member) : ∃ ts, lex (moreText ms) = some ts ∧
    ∀ parts done, ∃ source, ∀ fs,
      run (.comma, .object parts done none :: fs) ts =
        finish (.object (done.reverse ++ ms.map Member.read) source) fs := by
  induction ms with
  | nil =>
    refine ⟨[.mark '}'], ?_, fun parts done => ⟨closed parts '}', fun fs => ?_⟩⟩
    · rw [moreText, lex_of_cut (.mark rfl _), lex_nil]
      rfl
    · rw [List.map_nil, List.append_nil]
      exact Option.bind_fun_some _
  | cons m ms ih =>
    obtain ⟨ts, hlex, hrun⟩ := ih
    obtain ⟨tm, hlexm, hrunm⟩ := m.lex_written
    refine ⟨.mark ',' :: tm ++ ts, ?_, fun parts done => ?_⟩
    · rw [moreText, List.cons_append, lex_of_cut (.mark rfl _), hlexm _ (marked_moreText ms), hlex]
      rfl
    · obtain ⟨parts', hparts'⟩ := hrunm .key (.inl rfl) (.piece [','] :: parts) done
      obtain ⟨source, hsource⟩ := hrun parts' (m.read :: done)
      refine ⟨source, fun fs => ?_⟩
      have hcomma : run (.comma, .object parts done none :: fs) (.mark ',' :: tm) =
          run (.key, .object (.piece [','] :: parts) done none :: fs) tm := rfl
      rw [run_append, hcomma, hparts', Option.bind_some, hsource]
      simp

/-- An object spells the values of its members under their keys. -/
theorem spells_objectText (ms : List Member) :
    ∃ source, Spells (objectText ms) (.object (ms.map Member.read) source) := by
  cases ms with
  | nil =>
    refine ⟨_, [.mark '{', .mark '}'], ?_, fun fs => Option.bind_fun_some _⟩
    rw [objectText, lex_of_cut (.mark rfl _), lex_of_cut (.mark rfl _), lex_nil]
    rfl
  | cons m ms =>
    obtain ⟨ts, hlex, hrun⟩ := lex_moreText ms
    obtain ⟨tm, hlexm, hrunm⟩ := m.lex_written
    obtain ⟨parts, hparts⟩ := hrunm .keyOrEnd (.inr rfl) [.piece ['{']] []
    obtain ⟨source, hsource⟩ := hrun parts [m.read]
    refine ⟨source, .mark '{' :: tm ++ ts, ?_, fun fs => ?_⟩
    · rw [objectText, List.cons_append, lex_of_cut (.mark rfl _), hlexm _ (marked_moreText ms), hlex]
      rfl
    · have hbrace : run (.value, fs) (.mark '{' :: tm) =
          run (.keyOrEnd, .object [.piece ['{']] [] none :: fs) tm := rfl
      rw [run_append, hbrace, hparts, Option.bind_some, hsource]
      rfl

end Tree

end Switchboard.Json
